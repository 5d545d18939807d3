import ShardingOnCloud.Operator.Credentials

namespace ShardingOnCloud.Operator.RdsRequests

open ShardingOnCloud.Lib.Program ShardingOnCloud.Lib.Pool ShardingOnCloud.Lib.Footprint
open ShardingOnCloud.Lib.Strconv
open ShardingOnCloud.Operator.Rds ShardingOnCloud.Operator.StorageNodeTypes
open ShardingOnCloud.Operator.Calls ShardingOnCloud.Operator.StorageNodeSpec
open ShardingOnCloud.Operator.StorageNodeRuns ShardingOnCloud.Operator.StorageNodeWrites
open ShardingOnCloud.Operator.Provisioning
open ShardingOnCloud.Operator.Credentials

def FitsInt32 (n : Int) : Prop := -2 ^ 31 ≤ n ∧ n < 2 ^ 31

theorem int32_eq_self_iff (n : Int) : int32 n = n ↔ FitsInt32 n := by
  unfold int32 FitsInt32
  constructor
  · intro h
    have hlo := Int.le_bmod (x := n) (m := 2 ^ 32) (by decide)
    have hhi := Int.bmod_lt (x := n) (m := 2 ^ 32) (by decide)
    rw [h] at hlo hhi
    omega
  · rintro ⟨hlo, hhi⟩
    exact Int.bmod_eq_of_le (by omega) (by omega)

theorem about_op {c : Op} {tr : List Ev} {r : OpR c} {e : Ev} (h : Run alone (op c) tr r)
    (he : e ∈ tr) : about e = c := by
  have hwhole : Only (· = c) (op c) := only_op rfl (fun _ => trivial)
  exact hwhole.events h.cut e he

section Instance

theorem requireParams_get {ks : List String} {params params' : Dict} {tr : List Ev} {k : String}
    (hks : ks.Nodup) (hu : k ≠ "masterUsername") (hp : k ≠ "masterUserPassword")
    (h : Run alone (requireParams ks params) tr (.ok params')) : params'.get k = params.get k := by
  rw [Dict.get, (requireParams_run hks h).others k hu hp]
  rfl

theorem checkInstanceParams_get {annotations params annotations' params' : Dict} {k : String}
    (hu : k ≠ "masterUsername")
    (h : checkInstanceParams annotations params = .ok (annotations', params')) :
    params'.get k = params.get k := by
  unfold checkInstanceParams at h
  split at h
  · cases h
  dsimp only at h
  split at h
  · cases h
  split at h
  · cases h
  cases h
  exact Dict.get_set_of_ne hu

theorem validCreateInstanceParams_get {annotations params annotations' params' : Dict}
    {tr : List Ev} {k : String} (hu : k ≠ "masterUsername") (hp : k ≠ "masterUserPassword")
    (h : Run alone (validCreateInstanceParams annotations params) tr
      (.ok (annotations', params'))) : params'.get k = params.get k := by
  obtain ⟨tr₁, order, tr₂, -, h₂, rfl⟩ := run_bind.mp h
  obtain ⟨tr₃, r, tr₄, h₃, h₄, rfl⟩ := run_bind.mp h₂
  cases r with
  | error err => cases (run_ret.mp h₄).2
  | ok filled =>
    have hcheck := (run_ret.mp h₄).2.symm
    have hks : order.1.Nodup := (order.2.nodup_iff).mpr (by decide)
    exact (checkInstanceParams_get hu hcheck).trans (requireParams_get hks hu hp h₃)

/-- A call either ends in an error without a request, or it sends the number that the parameter
stands for, cut to 32 bits. -/
theorem createInstance_cases {annotations params : Dict} {tr : List Ev}
    {r : Except Err (Dict × Dict)} (h : Run alone (createInstance annotations params) tr r) :
    ((∃ err, r = .error err) ∧ ∀ e ∈ tr, ∀ i, about e ≠ .createInstance i) ∨
    ∃ n i, numeral (params.get "allocatedStorage") = some n ∧ i.allocatedStorage = int32 n ∧
      (∃ e ∈ tr, about e = .createInstance i) ∧
      ∀ e ∈ tr, ∀ j, about e = .createInstance j → j = i := by
  obtain ⟨tr₁, r₁, tr₂, h₁, h₂, rfl⟩ := run_bind.mp h
  have hrandom := (validCreateInstanceParams_only annotations params).events h₁.cut
  have hquiet : ∀ e ∈ tr₁, ∀ i, about e ≠ .createInstance i := by
    intro e he i hi
    have hk := hrandom e he
    simp [hi, Of, kind] at hk
  cases r₁ with
  | error err =>
    obtain ⟨rfl, rfl⟩ := run_ret.mp h₂
    rw [List.append_nil]
    exact Or.inl ⟨⟨err, rfl⟩, hquiet⟩
  | ok made =>
    have hget := validCreateInstanceParams_get (k := "allocatedStorage") (by decide) (by decide) h₁
    dsimp only at h₂
    split at h₂
    · obtain ⟨rfl, rfl⟩ := run_ret.mp h₂
      rw [List.append_nil]
      exact Or.inl ⟨⟨_, rfl⟩, hquiet⟩
    · rename_i storage hparse
      obtain ⟨tr₃, err, tr₄, h₃, h₄, rfl⟩ := run_bind.mp h₂
      have hnil : tr₄ = [] := by
        cases err with
        | some err => exact (run_ret.mp h₄).1
        | none => exact (run_ret.mp h₄).1
      rw [hnil, List.append_nil]
      rw [hget] at hparse
      obtain ⟨hn, -⟩ := (parseInt_eq_none (by decide) _ _).mp hparse
      refine Or.inr ⟨storage, _, hn, rfl, ⟨_, List.mem_append_right _ (run_op_reply h₃), rfl⟩, ?_⟩
      intro e he j hj
      rcases List.mem_append.mp he with he | he
      · exact absurd hj (hquiet e he j)
      · have hcall := about_op h₃ he
        rw [hj] at hcall
        cases hcall
        rfl

/-- The storage of an instance as it should be: what is sent is what the parameter stands for,
and a number that does not fit is an error. -/
structure StorageUnchanged (params : Dict) (tr : List Ev) (r : Except Err (Dict × Dict)) :
    Prop where
  sent : ∀ e ∈ tr, ∀ i, about e = .createInstance i →
    numeral (params.get "allocatedStorage") = some i.allocatedStorage
  refused : ∀ n, numeral (params.get "allocatedStorage") = some n → ¬FitsInt32 n →
    (∃ err, r = .error err) ∧ ∀ e ∈ tr, ∀ i, about e ≠ .createInstance i

/-- Without a request nothing is wrong, and with one the storage is unchanged exactly when the
number fits in 32 bits. -/
theorem createInstance_storage_iff {annotations params : Dict} {tr : List Ev}
    {r : Except Err (Dict × Dict)} (h : Run alone (createInstance annotations params) tr r) :
    ((∀ e ∈ tr, ∀ i, about e ≠ .createInstance i) → StorageUnchanged params tr r) ∧
    ((∃ e ∈ tr, ∃ i, about e = .createInstance i) →
      (StorageUnchanged params tr r ↔
        ∀ n, numeral (params.get "allocatedStorage") = some n → FitsInt32 n)) := by
  obtain ⟨herr, hquiet⟩ | ⟨n, i, hn, hi, ⟨e, he, hsent⟩, hall⟩ := createInstance_cases h
  · refine ⟨fun _ => ⟨fun e he i hi => absurd hi (hquiet e he i), fun _ _ _ => ⟨herr, hquiet⟩⟩, ?_⟩
    rintro ⟨e, he, i, hi⟩
    exact absurd hi (hquiet e he i)
  · refine ⟨fun hquiet => absurd hsent (hquiet e he i), fun _ => ?_⟩
    constructor
    · intro hu m hm
      by_contra hx
      exact (hu.refused m hm hx).2 e he i hsent
    · intro hfits
      refine ⟨?_, ?_⟩
      · intro e' he' j hj
        rw [hall e' he' j hj, hi, (int32_eq_self_iff n).mpr (hfits n hn), hn]
      · intro m hm hx
        exact absurd (hfits m hm) hx

def created (params : Dict) : List Ev :=
  (drive (serve emptyCloud.answer) none (createInstance sampleAnnotations params)).1

theorem created_run (params : Dict)
    (h : (outcome (serve emptyCloud.answer) none
      (createInstance sampleAnnotations params)).isSome = true) :
    ∃ r, Run alone (createInstance sampleAnnotations params) (created params) r := by
  obtain ⟨r, hr⟩ := Option.isSome_iff_exists.mp h
  exact ⟨r, drive_run hr⟩

theorem created_requests (params : Dict) {f : CreateInstanceIn → Bool}
    (h : ((created params).findSome? (fun e => requested (about e))).any f = true) :
    ∃ e ∈ created params, ∃ i, about e = .createInstance i ∧ f i = true := by
  obtain ⟨i, hi, hf⟩ := (Option.any_eq_true _ _).mp h
  obtain ⟨e, he, hi⟩ := List.exists_of_findSome?_eq_some hi
  exact ⟨e, he, i, requested_eq_some hi, hf⟩

/-- Twenty gibibytes are sent as such. -/
theorem sampleParameters_unchanged :
    ∃ r, (∃ e ∈ created sampleParameters, ∃ i, about e = .createInstance i) ∧
      StorageUnchanged sampleParameters (created sampleParameters) r := by
  obtain ⟨r, hrun⟩ := created_run sampleParameters (by decide +kernel)
  obtain ⟨e, he, i, hi, -⟩ := created_requests sampleParameters
    (f := fun _ => true) (by decide +kernel)
  refine ⟨r, ⟨e, he, i, hi⟩, ((createInstance_storage_iff hrun).2 ⟨e, he, i, hi⟩).mpr ?_⟩
  intro n hn
  have hnum : numeral (sampleParameters.get "allocatedStorage") = some 20 := by decide +kernel
  rw [hnum] at hn
  cases hn
  exact ⟨by decide, by decide⟩

def hugeParameters : Dict := sampleParameters.set "allocatedStorage" "4294967396"

/-- A number just above 32 bits is sent as one hundred. -/
theorem not_all_storage_unchanged :
    ¬∀ (annotations params : Dict) (tr : List Ev) (r : Except Err (Dict × Dict)),
      Run alone (createInstance annotations params) tr r → StorageUnchanged params tr r := by
  intro h
  obtain ⟨r, hrun⟩ := created_run hugeParameters (by decide +kernel)
  obtain ⟨e, he, i, hi, hsent⟩ := created_requests hugeParameters
    (f := fun i => i.allocatedStorage = 100) (by decide +kernel)
  have hnum : numeral (hugeParameters.get "allocatedStorage") = some 4294967396 := by
    decide +kernel
  have heq := (h _ _ _ _ hrun).sent e he i hi
  rw [hnum, of_decide_eq_true hsent] at heq
  exact absurd heq (by decide)

end Instance

section Cluster

/-- The storage and the operations per second that a cluster may have. -/
structure Envelope (storage iops : Int) : Prop where
  size : 100 ≤ storage ∧ storage ≤ 65536
  rate : 1000 ≤ iops ∧ iops ≤ 256000
  ratio : storage ≤ 2 * iops ∧ iops ≤ 50 * storage

theorem getNumber_ok_iff (what s : String) {lo hi n : Int} (hlo : -2 ^ 63 ≤ lo)
    (hhi : hi < 2 ^ 63) :
    getNumber what lo hi s = .ok n ↔ numeral s = some n ∧ lo ≤ n ∧ n ≤ hi := by
  have hparse := parseInt_eq_none (by decide : 1 < 64) s
  unfold getNumber atoi
  constructor
  · intro h
    split at h
    · cases h
    · rename_i m hm
      obtain ⟨hnum, -⟩ := (hparse m).mp hm
      split at h
      · cases h
      · cases h
        exact ⟨hnum, by omega, by omega⟩
  · rintro ⟨hnum, hle, hge⟩
    have hm := (hparse n).mpr ⟨hnum, by omega, by omega⟩
    rw [hm]
    dsimp only
    rw [if_neg (by omega)]

theorem clusterNumbers_ok_iff {params : Dict} {storage iops : Int} :
    clusterNumbers params = .ok (storage, iops) ↔
      numeral (params.get "allocatedStorage") = some storage ∧
        numeral (params.get "iops") = some iops ∧ Envelope storage iops := by
  have hstorage {n} := getNumber_ok_iff (n := n) "allocated storage"
    (params.get "allocatedStorage") (by decide : -2 ^ 63 ≤ (100 : Int))
    (by decide : (65536 : Int) < 2 ^ 63)
  have hiops {n} := getNumber_ok_iff (n := n) "iops" (params.get "iops")
    (by decide : -2 ^ 63 ≤ (1000 : Int)) (by decide : (256000 : Int) < 2 ^ 63)
  unfold clusterNumbers getAllocatedStorage getIOPS
  constructor
  · intro h
    split at h
    · cases h
    rename_i S hS
    split at h
    · cases h
    rename_i I hI
    split at h
    · cases h
    rename_i hratio
    cases h
    obtain ⟨hS, hs⟩ := hstorage.mp hS
    obtain ⟨hI, hi⟩ := hiops.mp hI
    exact ⟨hS, hI, hs, hi, by omega, by omega⟩
  · rintro ⟨hS, hI, hs, hi, hratio⟩
    rw [hstorage.mpr ⟨hS, hs⟩]
    dsimp only
    rw [hiops.mpr ⟨hI, hi⟩]
    dsimp only
    rw [if_neg (by omega)]

/-- What a call needs in order to send a request for a cluster. -/
structure Admissible (annotations params : Dict) : Prop where
  storageType : params.get "storageType" = "io1"
  identifier : annotations.get annotationsClusterIdentifier ≠ ""
  short : (annotations.get annotationsClusterIdentifier).utf8ByteSize ≤ 50
  numbers : ∃ storage iops, numeral (params.get "allocatedStorage") = some storage ∧
    numeral (params.get "iops") = some iops ∧ Envelope storage iops
  filled : ∀ k ∈ ["instanceClass", "engine", "engineVersion", "masterUsername",
    "masterUserPassword"], params.get k ≠ ""
  engine : params.get "engine" = "mysql" → before '.' (params.get "engineVersion") = "8"

def identified (annotations params : Dict) : Dict :=
  params.set "clusterIdentifier" (annotations.get annotationsClusterIdentifier)

theorem identified_get {annotations params : Dict} {k : String} (h : k ≠ "clusterIdentifier") :
    (identified annotations params).get k = params.get k := Dict.get_set_of_ne h

theorem identified_identifier (annotations params : Dict) :
    (identified annotations params).get "clusterIdentifier" =
      annotations.get annotationsClusterIdentifier := by
  simp [identified, Dict.get, Dict.set]

structure Complete (table : List (String × String)) (annotations params : Dict) : Prop where
  identifier : annotations.get annotationsClusterIdentifier ≠ ""
  short : (annotations.get annotationsClusterIdentifier).utf8ByteSize ≤ 50
  filled : ∀ k ∈ table.map Prod.fst, (identified annotations params).get k ≠ ""

/-- The checks come out the same whatever the order of the map. -/
theorem validateClusterParams_run {table : List (String × String)} {annotations params : Dict}
    {tr : List Ev} {r : Except Err Dict}
    (h : Run alone (validateClusterParams table annotations params) tr r) :
    ((∃ err, r = .error err) ∧ ¬Complete table annotations params) ∨
      (r = .ok (identified annotations params) ∧ Complete table annotations params) := by
  unfold validateClusterParams at h
  split at h
  · rename_i hempty
    exact Or.inl ⟨⟨_, (run_ret.mp h).2⟩, fun hx => hx.identifier hempty⟩
  rename_i hne
  rw [← identified] at h
  dsimp only at h
  rw [identified_identifier] at h
  split at h
  · rename_i hlong
    exact Or.inl ⟨⟨_, (run_ret.mp h).2⟩, fun hx => absurd hx.short (by omega)⟩
  rename_i hshort
  obtain ⟨tr₁, order, tr₂, -, h₂, rfl⟩ := run_bind.mp h
  split at h₂
  · rename_i k hk
    have hmem : k ∈ table.map Prod.fst := order.2.mem_iff.mp (List.mem_of_find?_eq_some hk)
    have hempty := List.find?_some hk
    exact Or.inl ⟨⟨_, (run_ret.mp h₂).2⟩, fun hx => hx.filled k hmem (of_decide_eq_true hempty)⟩
  · rename_i hnone
    refine Or.inr ⟨(run_ret.mp h₂).2, hne, by omega, ?_⟩
    intro k hk hempty
    have hx := List.find?_eq_none.mp hnone k (order.2.mem_iff.mpr hk)
    exact hx (decide_eq_true hempty)

/-- What the checks of an RDS cluster ask for before they look at the numbers. -/
structure Valid (annotations params : Dict) : Prop where
  complete : Complete requiredClusterParams annotations params
  engine : params.get "engine" = "mysql" → before '.' (params.get "engineVersion") = "8"
  storageType : params.get "storageType" = "io1"

theorem validateCreateRDSClusterParams_run {annotations params : Dict} {tr : List Ev}
    {r : Except Err Dict}
    (h : Run alone (validateCreateRDSClusterParams annotations params) tr r) :
    ((∃ err, r = .error err) ∧ ¬Valid annotations params) ∨
      (r = .ok (identified annotations params) ∧ Valid annotations params) := by
  obtain ⟨tr₁, r₁, tr₂, h₁, h₂, rfl⟩ := run_bind.mp h
  obtain ⟨⟨err, rfl⟩, hbad⟩ | ⟨rfl, hcomplete⟩ := validateClusterParams_run h₁
  · exact Or.inl ⟨⟨_, (run_ret.mp h₂).2⟩, fun hx => hbad hx.complete⟩
  dsimp only at h₂
  rw [identified_get (by decide), identified_get (by decide), identified_get (by decide)] at h₂
  split at h₂
  · rename_i hengine
    exact Or.inl ⟨⟨_, (run_ret.mp h₂).2⟩, fun hx => hengine.2 (hx.engine hengine.1)⟩
  rename_i hengine
  split at h₂
  · rename_i htype
    exact Or.inl ⟨⟨_, (run_ret.mp h₂).2⟩, fun hx => htype hx.storageType⟩
  rename_i htype
  refine Or.inr ⟨(run_ret.mp h₂).2, hcomplete, ?_, not_not.mp htype⟩
  intro hmysql
  by_contra hx
  exact hengine ⟨hmysql, hx⟩

theorem numeral_empty : numeral "" = none := by decide +kernel

theorem admissible_iff {annotations params : Dict} :
    Admissible annotations params ↔
      Valid annotations params ∧
        ∃ n, clusterNumbers (identified annotations params) = .ok n := by
  constructor
  · intro h
    obtain ⟨storage, iops, hS, hI, henv⟩ := h.numbers
    refine ⟨⟨⟨h.identifier, h.short, ?_⟩, h.engine, h.storageType⟩, (storage, iops), ?_⟩
    · have hstorage : params.get "allocatedStorage" ≠ "" := by
        intro hx
        rw [hx, numeral_empty] at hS
        cases hS
      have hiops : params.get "iops" ≠ "" := by
        intro hx
        rw [hx, numeral_empty] at hI
        cases hI
      have htype : params.get "storageType" ≠ "" := by
        rw [h.storageType]
        decide
      intro k hk
      by_cases hid : k = "clusterIdentifier"
      · rw [hid, identified_identifier]
        exact h.identifier
      rw [identified_get hid]
      have hfilled := h.filled k
      simp only [requiredClusterParams, requiredAuroraParams, List.map_append, List.map_cons,
        List.map_nil, List.mem_append, List.mem_cons, List.not_mem_nil, or_false] at hk hfilled
      grind
    · refine clusterNumbers_ok_iff.mpr ?_
      rw [identified_get (by decide), identified_get (by decide)]
      exact ⟨hS, hI, henv⟩
  · rintro ⟨hv, ⟨storage, iops⟩, hn⟩
    have hn := clusterNumbers_ok_iff.mp hn
    rw [identified_get (by decide), identified_get (by decide)] at hn
    refine ⟨hv.storageType, hv.complete.identifier, hv.complete.short, ⟨_, _, hn⟩, ?_, hv.engine⟩
    intro k hk
    have hfilled := hv.complete.filled k
    rw [identified_get (by grind)] at hfilled
    refine hfilled ?_
    simp only [requiredClusterParams, requiredAuroraParams, List.map_append, List.map_cons,
      List.map_nil, List.mem_append, List.mem_cons, List.not_mem_nil, or_false] at hk ⊢
    grind

theorem validateCreateRDSClusterParams_quiet {annotations params : Dict} {tr : List Ev}
    {r : Except Err Dict}
    (h : Run alone (validateCreateRDSClusterParams annotations params) tr r) :
    ∀ e ∈ tr, ∀ i, about e ≠ .createCluster i := by
  intro e he i hi
  have hk := (validateCreateRDSClusterParams_only annotations params).events h.cut e he
  simp [hi, Of, kind] at hk

/-- The request of a cluster, as far as its envelope goes. -/
structure Carries (annotations params : Dict) (i : CreateClusterIn) : Prop where
  identifier : i.dbClusterIdentifier = annotations.get annotationsClusterIdentifier
  storageType : i.storageType = "io1"
  numbers : ∃ storage iops, numeral (params.get "allocatedStorage") = some storage ∧
    numeral (params.get "iops") = some iops ∧ Envelope storage iops ∧
    i.allocatedStorage = storage ∧ i.iops = iops

/-- A call either ends in an error without a request, or it sends one that is in the envelope. -/
theorem createRDSCluster_cases {annotations params : Dict} {tr : List Ev} {r : Except Err Dict}
    (h : Run alone (createRDSCluster annotations params) tr r) :
    (¬Admissible annotations params ∧ ∀ e ∈ tr, ∀ i, about e ≠ .createCluster i) ∨
    (Admissible annotations params ∧ (∃ e ∈ tr, ∃ i, about e = .createCluster i) ∧
      ∀ e ∈ tr, ∀ i, about e = .createCluster i → Carries annotations params i) := by
  rw [admissible_iff]
  obtain ⟨tr₁, r₁, tr₂, h₁, h₂, rfl⟩ := run_bind.mp h
  have hquiet := validateCreateRDSClusterParams_quiet h₁
  obtain ⟨⟨err, rfl⟩, hbad⟩ | ⟨rfl, hvalid⟩ := validateCreateRDSClusterParams_run h₁
  · rw [(run_ret.mp h₂).1, List.append_nil]
    exact Or.inl ⟨fun hx => hbad hx.1, hquiet⟩
  dsimp only at h₂
  split at h₂
  · rename_i err herr
    rw [(run_ret.mp h₂).1, List.append_nil]
    refine Or.inl ⟨?_, hquiet⟩
    rintro ⟨-, n, hn⟩
    rw [herr] at hn
    cases hn
  · rename_i storage iops hnumbers
    obtain ⟨tr₃, err, tr₄, h₃, h₄, rfl⟩ := run_bind.mp h₂
    have hnil : tr₄ = [] := by
      cases err with
      | some err => exact (run_ret.mp h₄).1
      | none => exact (run_ret.mp h₄).1
    rw [hnil, List.append_nil]
    refine Or.inr ⟨⟨hvalid, _, hnumbers⟩,
      ⟨_, List.mem_append_right _ (run_op_reply h₃), _, rfl⟩, ?_⟩
    have hnum := clusterNumbers_ok_iff.mp hnumbers
    rw [identified_get (by decide), identified_get (by decide)] at hnum
    obtain ⟨hS, hI, henv⟩ := hnum
    have hsize := henv.size
    have hrate := henv.rate
    intro e he i hi
    rcases List.mem_append.mp he with he | he
    · exact absurd hi (hquiet e he i)
    · have hcall := about_op h₃ he
      rw [hi] at hcall
      cases hcall
      refine ⟨identified_identifier _ params, ?_, storage, iops, hS, hI, henv, ?_, ?_⟩
      · exact (identified_get (by decide)).trans hvalid.storageType
      · exact (int32_eq_self_iff storage).mpr ⟨by omega, by omega⟩
      · exact (int32_eq_self_iff iops).mpr ⟨by omega, by omega⟩

/-- A request for a cluster is sent exactly when everything is in order, and carries the numbers of
the parameters. -/
theorem createRDSCluster_issues_iff {annotations params : Dict} {tr : List Ev}
    {r : Except Err Dict} (h : Run alone (createRDSCluster annotations params) tr r) :
    ((∃ e ∈ tr, ∃ i, about e = .createCluster i) ↔ Admissible annotations params) ∧
      ∀ e ∈ tr, ∀ i, about e = .createCluster i → Carries annotations params i := by
  obtain ⟨hbad, hquiet⟩ | ⟨hgood, hsent, hcarries⟩ := createRDSCluster_cases h
  · refine ⟨⟨?_, fun hx => absurd hx hbad⟩, fun e he i hi => absurd hi (hquiet e he i)⟩
    rintro ⟨e, he, i, hi⟩
    exact absurd hi (hquiet e he i)
  · exact ⟨⟨fun _ => hgood, fun _ => hsent⟩, hcarries⟩

def clusterAnnotations : Dict := dict [(annotationsClusterIdentifier, "cluster-1")]

def clusterParameters : Dict :=
  ((sampleParameters.set "allocatedStorage" "100").set "iops" "1000").set "storageType" "io1"

theorem clusterParameters_admissible : Admissible clusterAnnotations clusterParameters where
  storageType := by decide +kernel
  identifier := by decide +kernel
  short := by decide +kernel
  numbers := ⟨100, 1000, by decide +kernel, by decide +kernel, by decide, by decide, by decide⟩
  filled := by decide +kernel
  engine := by decide +kernel

/-- The smallest cluster that there is. -/
theorem clusterParameters_issued :
    ∃ tr r, Run alone (createRDSCluster clusterAnnotations clusterParameters) tr r ∧
      ∃ e ∈ tr, ∃ i, about e = .createCluster i := by
  have hends : (outcome (serve emptyCloud.answer) none
      (createRDSCluster clusterAnnotations clusterParameters)).isSome = true := by decide +kernel
  obtain ⟨r, hr⟩ := Option.isSome_iff_exists.mp hends
  have hrun := drive_run hr
  exact ⟨_, r, hrun, (createRDSCluster_issues_iff hrun).1.mpr clusterParameters_admissible⟩

end Cluster

end ShardingOnCloud.Operator.RdsRequests
