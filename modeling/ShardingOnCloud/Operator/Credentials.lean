import ShardingOnCloud.Operator.Registration

namespace ShardingOnCloud.Operator.Credentials

open ShardingOnCloud.Lib.Program ShardingOnCloud.Lib.Pool ShardingOnCloud.Lib.Footprint
open ShardingOnCloud.Lib.Strconv ShardingOnCloud.Operator.Rds
open ShardingOnCloud.Operator.StorageNodeTypes ShardingOnCloud.Operator.Calls
open ShardingOnCloud.Operator.StorageNodeController ShardingOnCloud.Operator.StorageNodeSpec
open ShardingOnCloud.Operator.StorageNodeRuns ShardingOnCloud.Operator.Provisioning
open ShardingOnCloud.Operator.StorageNodeWrites ShardingOnCloud.Operator.Registration

section Made

/-- What is made up in a pass for a missing name and a missing password. -/
def toldName : Ev → Option String
  | .main (.reply (.stringN _) s) => some s
  | _ => none

def toldPassword : Ev → Option String
  | .main (.reply (.stringCustom _ _) s) => some s
  | _ => none

def madeName (tr : List Ev) : String := (latest toldName tr).getD ""

def madePassword (tr : List Ev) : String := (latest toldPassword tr).getD ""

theorem toldName_random {e : Ev} (h : kind (about e) ≠ .random) : toldName e = none := by
  unfold toldName
  split
  · exact absurd rfl h
  · rfl

theorem toldPassword_random {e : Ev} (h : kind (about e) ≠ .random) : toldPassword e = none := by
  unfold toldPassword
  split
  · exact absurd rfl h
  · rfl

theorem generate_name {tr : List Ev} {g : String} (h : Run alone (generate "masterUsername") tr g) :
    g = madeName tr ∧ latest toldPassword tr = none := by
  unfold generate at h
  rw [if_pos rfl] at h
  obtain ⟨tr₁, r, tr₂, h₁, h₂, rfl⟩ := run_bind.mp h
  rw [run_op h₁]
  cases r with
  | error err =>
    obtain ⟨rfl, rfl⟩ := run_ret.mp h₂
    exact ⟨rfl, rfl⟩
  | ok nBig =>
    rw [run_op h₂]
    exact ⟨rfl, rfl⟩

theorem generate_password {tr : List Ev} {g : String}
    (h : Run alone (generate "masterUserPassword") tr g) :
    g = madePassword tr ∧ latest toldName tr = none := by
  unfold generate at h
  rw [if_neg (by decide), if_pos rfl] at h
  obtain ⟨tr₁, r, tr₂, h₁, h₂, rfl⟩ := run_bind.mp h
  rw [run_op h₁]
  cases r with
  | error err =>
    obtain ⟨rfl, rfl⟩ := run_ret.mp h₂
    exact ⟨rfl, rfl⟩
  | ok nBig =>
    rw [run_op h₂]
    exact ⟨rfl, rfl⟩

/-- The parameters after the loop over the required ones. -/
structure Filled (ks : List String) (params params' : Dict) (tr : List Ev) : Prop where
  others : ∀ k, k ≠ "masterUsername" → k ≠ "masterUserPassword" → params' k = params k
  username : params' "masterUsername" =
    if "masterUsername" ∈ ks ∧ params.get "masterUsername" = "" then some (madeName tr)
    else params "masterUsername"
  password : params' "masterUserPassword" =
    if "masterUserPassword" ∈ ks ∧ params.get "masterUserPassword" = "" then
      some (madePassword tr)
    else params "masterUserPassword"
  noName : "masterUsername" ∉ ks → latest toldName tr = none
  noPassword : "masterUserPassword" ∉ ks → latest toldPassword tr = none

theorem Dict.get_set_of_ne {d : Dict} {k k' v : String} (h : k' ≠ k) :
    (d.set k v).get k' = d.get k' := by
  rw [Dict.get, Dict.set, Function.update_of_ne h]
  rfl

theorem Filled.cons_full {k : String} {ks : List String} {params params' : Dict} {tr : List Ev}
    (hk : k ∉ ks) (hfull : params.get k ≠ "") (hf : Filled ks params params' tr) :
    Filled (k :: ks) params params' tr := by
  refine ⟨hf.others, ?_, ?_, fun hx => hf.noName (fun hm => hx (by simp [hm])),
    fun hx => hf.noPassword (fun hm => hx (by simp [hm]))⟩
  · rw [hf.username]
    by_cases hu : "masterUsername" = k
    · subst hu
      simp [hfull, hk]
    · simp [hu]
  · rw [hf.password]
    by_cases hu : "masterUserPassword" = k
    · subst hu
      simp [hfull, hk]
    · simp [hu]

theorem Filled.cons_password {ks : List String} {params params' : Dict} {tr tr' : List Ev}
    (hk : "masterUserPassword" ∉ ks) (hempty : params.get "masterUserPassword" = "")
    (hname : latest toldName tr = none)
    (hf : Filled ks (params.set "masterUserPassword" (madePassword tr)) params' tr') :
    Filled ("masterUserPassword" :: ks) params params' (tr ++ tr') := by
  refine ⟨fun k' hu hp => ?_, ?_, ?_, fun hx => ?_, fun hx => absurd (by simp) hx⟩
  · rw [hf.others k' hu hp]
    exact Function.update_of_ne hp _ _
  · rw [hf.username, Dict.get_set_of_ne (by decide)]
    simp [madeName, hname, Dict.set]
  · rw [hf.password, if_neg (fun hx => hk hx.1), if_pos ⟨by simp, hempty⟩]
    simp [Dict.set, madePassword, hf.noPassword hk]
  · rw [latest_append, hf.noName (fun hm => hx (by simp [hm])), hname]
    rfl

theorem Filled.cons_username {ks : List String} {params params' : Dict} {tr tr' : List Ev}
    (hk : "masterUsername" ∉ ks) (hempty : params.get "masterUsername" = "")
    (hpass : latest toldPassword tr = none)
    (hf : Filled ks (params.set "masterUsername" (madeName tr)) params' tr') :
    Filled ("masterUsername" :: ks) params params' (tr ++ tr') := by
  refine ⟨fun k' hu hp => ?_, ?_, ?_, fun hx => absurd (by simp) hx, fun hx => ?_⟩
  · rw [hf.others k' hu hp]
    exact Function.update_of_ne hu _ _
  · rw [hf.username, if_neg (fun hx => hk hx.1), if_pos ⟨by simp, hempty⟩]
    simp [Dict.set, madeName, hf.noName hk]
  · rw [hf.password, Dict.get_set_of_ne (by decide)]
    simp [madePassword, hpass, Dict.set]
  · rw [latest_append, hf.noPassword (fun hm => hx (by simp [hm])), hpass]
    rfl

theorem requireParams_run {ks : List String} {params params' : Dict} {tr : List Ev}
    (hks : ks.Nodup) (h : Run alone (requireParams ks params) tr (.ok params')) :
    Filled ks params params' tr := by
  induction ks generalizing params tr with
  | nil =>
    obtain ⟨rfl, hp⟩ := run_ret.mp h
    cases hp
    exact ⟨fun _ _ _ => rfl, by simp, by simp, fun _ => rfl, fun _ => rfl⟩
  | cons k ks ih =>
    obtain ⟨hk, hks⟩ := List.nodup_cons.mp hks
    unfold requireParams at h
    split at h
    · rename_i hempty
      split at h
      · rename_i hcase
        obtain ⟨tr₁, g, tr₂, h₁, h₂, rfl⟩ := run_bind.mp h
        have hf := ih hks h₂
        obtain rfl | rfl := hcase
        · obtain ⟨rfl, hname⟩ := generate_password h₁
          exact hf.cons_password hk hempty hname
        · obtain ⟨rfl, hpass⟩ := generate_name h₁
          exact hf.cons_username hk hempty hpass
      · cases (run_ret.mp h).2
    · rename_i hfull
      exact (ih hks h).cons_full hk hfull

theorem filled_some {ks : List String} {params params' : Dict} {k made : String} (hk : k ∈ ks)
    (h : params' k = if k ∈ ks ∧ params.get k = "" then some made else params k) :
    params' k = some (if params.get k = "" then made else params.get k) := by
  rw [h]
  by_cases hx : params.get k = ""
  · simp [hk, hx]
  · cases hv : params k with
    | none => simp [Dict.get, hv] at hx
    | some v =>
      have hv' : v ≠ "" := by simpa [Dict.get, hv] using hx
      simp [Dict.get, hv, hv']

end Made

section Sent

/-- The credentials of the request, from the parameters as they are stored and from what is
made up when they are missing. -/
def sentUsername (params : Dict) (made : String) : String :=
  normalize (if params.get "masterUsername" = "" then made else params.get "masterUsername")

def sentPassword (params : Dict) (made : String) : String :=
  if params.get "masterUserPassword" = "" then made else params.get "masterUserPassword"

def sentDBName (annotations params : Dict) (tr : List Ev) : Option String :=
  let key := annotations.get annotationsInstanceDBName
  if key = "masterUsername" then some (sentUsername params (madeName tr))
  else if key = "masterUserPassword" then some (sentPassword params (madePassword tr))
  else params key

structure Sent (annotations params : Dict) (tr : List Ev) (i : CreateInstanceIn) : Prop where
  username : i.masterUsername = sentUsername params (madeName tr)
  password : i.masterUserPassword = sentPassword params (madePassword tr)
  dbName : i.dbName = sentDBName annotations params tr
  username_ne : sentUsername params (madeName tr) ≠ ""
  password_ne : sentPassword params (madePassword tr) ≠ ""

theorem Sent.congr {annotations params : Dict} {tr tr' : List Ev} {i : CreateInstanceIn}
    (h : Sent annotations params tr i) (hname : madeName tr' = madeName tr)
    (hpass : madePassword tr' = madePassword tr) : Sent annotations params tr' i := by
  refine ⟨?_, ?_, ?_, ?_, ?_⟩
  · rw [hname]
    exact h.username
  · rw [hpass]
    exact h.password
  · rw [h.dbName, sentDBName, sentDBName, hname, hpass]
  · rw [hname]
    exact h.username_ne
  · rw [hpass]
    exact h.password_ne

abbrev Untold (tr : List Ev) : Prop := latest toldName tr = none ∧ latest toldPassword tr = none

theorem untold_of {tr : List Ev} (h : ∀ e ∈ tr, kind (about e) ≠ .random) : Untold tr :=
  ⟨latest_none (fun e he => toldName_random (h e he)),
    latest_none (fun e he => toldPassword_random (h e he))⟩

theorem Sent.around {annotations params : Dict} {as tr bs : List Ev} {i : CreateInstanceIn}
    (h : Sent annotations params tr i) (ha : Untold as) (hb : Untold bs) :
    Sent annotations params (as ++ (tr ++ bs)) i := by
  refine h.congr ?_ ?_
  · simp [madeName, ha.1, hb.1]
  · simp [madePassword, ha.2, hb.2]

theorem squeeze_ne_nil {c : Char} {cs : List Char} (h : cs ≠ []) : squeeze c cs ≠ [] := by
  fun_induction squeeze c cs with
  | case1 => exact absurd rfl h
  | case2 a => simp
  | case3 a b cs hx ih => exact ih (by simp)
  | case4 a b cs hx ih => simp

theorem normalize_ne {str : String} (h : str.toList ≠ []) : normalize str ≠ "" := by
  intro hx
  have hnil := congrArg String.toList hx
  rw [Rds.normalize, String.toList_ofList] at hnil
  exact squeeze_ne_nil (squeeze_ne_nil h) hnil

theorem validateusername_ok {str str' : String} (h : validateusername str = .ok str') :
    str' = normalize str ∧ str.toList ≠ [] := by
  unfold validateusername at h
  split at h
  · cases h
  split at h
  · rename_i hchars
    cases h
    exact ⟨rfl, hchars.1⟩
  · cases h

theorem checkInstanceParams_sent {annotations params params' annotations' params'' : Dict}
    {tr : List Ev} (storage : Int) {ks : List String} (hf : Filled ks params params' tr)
    (hu : "masterUsername" ∈ ks) (hp : "masterUserPassword" ∈ ks)
    (h : checkInstanceParams annotations params' = .ok (annotations', params'')) :
    Sent annotations params tr (createInstanceIn annotations' params'' storage) := by
  have husername := filled_some hu hf.username
  have hpassword : params' "masterUserPassword" = some (sentPassword params (madePassword tr)) :=
    filled_some hp hf.password
  unfold checkInstanceParams at h
  split at h
  · cases h
  rename_i validated hvalid
  obtain ⟨rfl, hne⟩ := validateusername_ok hvalid
  dsimp only at h
  split at h
  · cases h
  split at h
  · cases h
  rename_i hlen
  cases h
  have hsent : normalize (params'.get "masterUsername") = sentUsername params (madeName tr) := by
    rw [Dict.get, husername, sentUsername]
    rfl
  have hpass : (params'.set "masterUsername" (normalize (params'.get "masterUsername"))).get
      "masterUserPassword" = sentPassword params (madePassword tr) := by
    rw [Dict.get_set_of_ne (by decide), Dict.get, hpassword]
    rfl
  refine ⟨?_, hpass, ?_, hsent ▸ normalize_ne hne, ?_⟩
  · rw [← hsent]
    simp [createInstanceIn, Dict.get, Dict.set]
  · have hkey : (annotations.set annotationsMasterUserPassword ((params'.set "masterUsername"
        (normalize (params'.get "masterUsername"))).get "masterUserPassword")).get
        annotationsInstanceDBName = annotations.get annotationsInstanceDBName :=
      Dict.get_set_of_ne (by decide)
    simp only [createInstanceIn, sentDBName, hkey]
    split
    · rename_i hk
      rw [hk, ← hsent]
      simp [Dict.set]
    split
    · rename_i hk
      rw [hk, Dict.set, Function.update_of_ne (by decide), hpassword]
    · rename_i hk₁ hk₂
      rw [Dict.set, Function.update_of_ne hk₁]
      exact hf.others _ hk₁ hk₂
  · intro hx
    rw [hpass, hx] at hlen
    exact hlen (Or.inl (by decide))

theorem validCreateInstanceParams_sent {annotations params annotations' params' : Dict}
    {tr : List Ev} (storage : Int)
    (h : Run alone (validCreateInstanceParams annotations params) tr (.ok (annotations', params'))) :
    Sent annotations params tr (createInstanceIn annotations' params' storage) := by
  obtain ⟨tr₁, order, tr₂, h₁, h₂, rfl⟩ := run_bind.mp h
  obtain ⟨tr₃, r, tr₄, h₃, h₄, rfl⟩ := run_bind.mp h₂
  cases r with
  | error err => cases (run_ret.mp h₄).2
  | ok filled =>
    obtain ⟨rfl, hcheck⟩ := run_ret.mp h₄
    have hf := requireParams_run ((order.2.nodup_iff).mpr (by decide)) h₃
    have hmem : ∀ k ∈ requiredInstanceParams.map Prod.fst, k ∈ order.1 :=
      fun k hk => order.2.mem_iff.mpr hk
    have hsent := checkInstanceParams_sent storage hf (hmem _ (by decide)) (hmem _ (by decide))
      hcheck.symm
    have horder : Untold tr₁ := by
      rw [run_op h₁]
      exact ⟨rfl, rfl⟩
    exact hsent.around horder ⟨rfl, rfl⟩

theorem createInstance_sent {annotations params : Dict} {tr : List Ev} {e : Ev}
    {i : CreateInstanceIn} (h : Cut alone (createInstance annotations params) tr) (he : e ∈ tr)
    (hi : about e = .createInstance i) : Sent annotations params tr i := by
  obtain ⟨tr₁, r, tr₂, h₁, h₂, rfl, he₂⟩ :=
    cut_past h (validCreateInstanceParams_only _ _) he (by simp [hi, Of, kind])
  cases r with
  | error err =>
    cases h₂
    cases he₂
  | ok r =>
    dsimp only at h₂
    split at h₂
    · cases h₂
      cases he₂
    · rename_i storage hparse
      have honly : ∀ e ∈ tr₂, about e = .createInstance (createInstanceIn r.1 r.2 storage) := by
        refine Only.events (P := (· = .createInstance (createInstanceIn r.1 r.2 storage))) ?_ h₂
        refine only_op rfl (fun err => ?_)
        cases err <;> trivial
      have hrest : Untold tr₂ := untold_of (fun e he => by simp [honly e he, kind])
      have hcall := honly e he₂
      rw [hi] at hcall
      cases hcall
      have hnil : Untold [] := ⟨rfl, rfl⟩
      exact (validCreateInstanceParams_sent storage h₁).around hnil hrest

end Sent

section Pass

/-- The calls that create no instance, and those that make nothing up either. -/
abbrev Spares (c : Op) : Prop := ∀ i, c ≠ .createInstance i

abbrev Plain (c : Op) : Prop := kind c ≠ .random ∧ kind c ≠ .create

theorem spares_of {ks : List Kind} {α : Type} {p : Rec α} (h : Only (Of ks) p)
    (hks : .create ∉ ks) : Only Spares p := by
  refine (only_avoids h hks).mono (fun c hc i hx => ?_)
  rw [hx] at hc
  exact hc rfl

theorem plain_of {ks : List Kind} {α : Type} {p : Rec α} (h : Only (Of ks) p)
    (hr : .random ∉ ks) (hc : .create ∉ ks) : Only Plain p := by
  refine h.mono (fun c hx => ⟨fun hk => hr ?_, fun hk => hc ?_⟩) <;>
  · rw [Of, hk, List.contains_iff_mem] at hx
    exact hx

theorem not_plain {e : Ev} {i : CreateInstanceIn} (hi : about e = .createInstance i) :
    ¬Plain (about e) := by
  rw [hi]
  exact fun h => h.2 rfl

theorem createAuroraCluster_spares (annotations : Dict) (replicas : Int) (params : Dict) :
    Only Spares (createAuroraCluster annotations replicas params) := by
  refine only_bind (spares_of (validateClusterParams_only _ _ _) (by decide)) (fun r => ?_)
  cases r with
  | error err => trivial
  | ok params =>
    refine only_op (fun i hx => by cases hx) (fun err => ?_)
    cases err <;> trivial

theorem createRDSCluster_spares (annotations params : Dict) :
    Only Spares (createRDSCluster annotations params) := by
  refine only_bind (spares_of (validateCreateRDSClusterParams_only _ _) (by decide)) (fun r => ?_)
  cases r with
  | error err => trivial
  | ok params =>
    dsimp only
    split
    · trivial
    · refine only_op (fun i hx => by cases hx) (fun err => ?_)
      cases err <;> trivial

theorem reconcileAwsRdsInstance_sent {n : StorageNode} {sp : StorageProvider} {tr : List Ev}
    {e : Ev} {i : CreateInstanceIn} (h : Cut alone (reconcileAwsRdsInstance n sp) tr)
    (he : e ∈ tr) (hi : about e = .createInstance i) : Sent n.annotations sp.parameters tr i := by
  have hget := plain_of (getInstance_only n.annotations) (by decide) (by decide)
  obtain ⟨tr₁, r, tr₂, h₁, h₂, rfl, he₂⟩ := cut_past h hget he (not_plain hi)
  have hquiet : Untold tr₁ := untold_of (fun e he => (hget.events h₁.cut e he).1)
  cases r with
  | error err =>
    cases h₂
    cases he₂
  | ok ins =>
    dsimp only at h₂
    split at h₂
    · obtain ⟨tr₃, tr₄, h₃, rfl, he₃, hrest⟩ := cut_prior h₂ (P := Plain) (fun r => by
        cases r with
        | error err => trivial
        | ok created =>
          refine only_bind (plain_of (getInstance_only _) (by decide) (by decide)) (fun r => ?_)
          cases r <;> trivial) he₂ (not_plain hi)
      exact (createInstance_sent h₃ he₃ hi).around hquiet (untold_of fun e he => (hrest e he).1)
    · cases h₂
      cases he₂

theorem reconcileProvisioner_sent {n : StorageNode} {sp : StorageProvider}
    {p : Rec (Except Err Held)} {tr : List Ev} {e : Ev} {i : CreateInstanceIn}
    (hp : reconcileProvisioner n sp = some p) (h : Cut alone p tr) (he : e ∈ tr)
    (hi : about e = .createInstance i) : Sent n.annotations sp.parameters tr i := by
  have hdescribe : ∀ c, Of [.describe] c → Spares c := by
    rintro c hc i rfl
    cases hc
  have hother : ¬Only Spares p := fun hx => hx.events h e he i hi
  unfold reconcileProvisioner at hp
  split at hp
  · cases hp
    exact reconcileAwsRdsInstance_sent h he hi
  · cases hp
    exact absurd (reconcileCluster_only hdescribe getRDSCluster_only
      (fun _ => createRDSCluster_spares _) _ _) hother
  · cases hp
    exact absurd (reconcileCluster_only hdescribe getAuroraCluster_only
      (fun _ => createAuroraCluster_spares _ _) _ _) hother
  · cases hp
    exact absurd (spares_of (reconcileCloudNativePG_only _ _) (by decide)) hother
  · cases hp

theorem reconcile_sent {n : StorageNode} {sp : StorageProvider} {tr : List Ev} {e : Ev}
    {i : CreateInstanceIn} (h : Cut alone (reconcile sp n) tr) (he : e ∈ tr)
    (hi : about e = .createInstance i) : Sent n.annotations sp.parameters tr i := by
  unfold reconcile at h
  cases hp : reconcileProvisioner n sp with
  | none =>
    rw [hp] at h
    cases h
    cases he
  | some p =>
    rw [hp] at h
    obtain ⟨tr₁, tr₂, h₁, rfl, he₁, hrest⟩ := cut_prior h (P := Plain) (fun r => by
      cases r with
      | error err => trivial
      | ok held =>
        refine only_bind (plain_of (registerStorageUnit_only _ _) (by decide) (by decide))
          (fun r => ?_)
        cases r with
        | error err => trivial
        | ok m => exact plain_of (storeStatus_only m) (by decide) (by decide)) he (not_plain hi)
    have hsent := reconcileProvisioner_sent hp h₁ he₁ hi
    have hnil : Untold [] := ⟨rfl, rfl⟩
    exact hsent.around hnil (untold_of fun e he => (hrest e he).1)

/-- What a pass sends, from what it has read and what it has made up. -/
theorem pass_sent {n : StorageNode} {sp : StorageProvider} {tr : List Ev} {e : Ev}
    {i : CreateInstanceIn} (h : Cut alone (handle n sp) tr) (he : e ∈ tr)
    (hi : about e = .createInstance i) :
    Sent n.annotations sp.parameters (readEvents n sp ++ tr) i := by
  have hread : Untold (readEvents n sp) := untold_of (fun e he => readEvents_kind he (by decide))
  have hnil : Untold [] := ⟨rfl, rfl⟩
  obtain ⟨-, -, hfin⟩ | ⟨-, hrec⟩ | ⟨-, -, had⟩ := handle_cases h
  · exact absurd hi ((spares_of (finalize_only n sp) (by decide)).events hfin e he i)
  · simpa using (reconcile_sent hrec he hi).around hread hnil
  · obtain ⟨err, tr', hcut, rfl, he'⟩ := cut_past_call had he (by simp [hi])
    cases err with
    | some err =>
      cases hcut
      cases he'
    | none =>
      have hfirst : Untold (whole (Op.update (addFinalizer n)) none []) := ⟨rfl, rfl⟩
      have hsent : Sent n.annotations sp.parameters tr' i :=
        reconcile_sent (n := addFinalizer n) hcut he' hi
      simpa using (hsent.around hfirst hnil).around hread hnil

end Pass

section Agreement

structure Agrees (i : CreateInstanceIn) (dsDBName dsUser dsPassword : String) : Prop where
  username : dsUser = i.masterUsername
  password : dsPassword = i.masterUserPassword
  dbName : some dsDBName = i.dbName

/-- What is stored for a credential, in the annotation or else in the parameter, is `sent`. -/
def Stored (annotations params : Dict) (anno param sent : String) : Prop :=
  (annotations.get anno ≠ "" ∧ annotations.get anno = sent) ∨
    (annotations.get anno = "" ∧ params.get param = sent)

/-- The annotations and the parameters `annotations'` and `params'` hold what was sent from
`annotations` and `params`. -/
structure Holds (annotations params annotations' params' : Dict) (tr : List Ev) : Prop where
  username : Stored annotations' params' annotationsMasterUsername "masterUsername"
    (sentUsername params (madeName tr))
  password : Stored annotations' params' annotationsMasterUserPassword "masterUserPassword"
    (sentPassword params (madePassword tr))
  dbName : sentDBName annotations params tr = some (annotations'.get annotationsInstanceDBName)

/-- The same when nobody has edited the two objects: nothing was made up or rewritten for
a credential without an annotation, and each annotation agrees with the parameter. -/
structure Faithful (annotations params : Dict) (tr : List Ev) : Prop where
  plainUsername : annotations.get annotationsMasterUsername = "" →
    params.get "masterUsername" ≠ "" ∧
      normalize (params.get "masterUsername") = params.get "masterUsername"
  annotatedUsername : annotations.get annotationsMasterUsername ≠ "" →
    annotations.get annotationsMasterUsername = sentUsername params (madeName tr)
  plainPassword : annotations.get annotationsMasterUserPassword = "" →
    params.get "masterUserPassword" ≠ ""
  annotatedPassword : annotations.get annotationsMasterUserPassword ≠ "" →
    annotations.get annotationsMasterUserPassword = sentPassword params (madePassword tr)
  dbName : sentDBName annotations params tr = some (annotations.get annotationsInstanceDBName)

theorem credential_eq_iff {n : StorageNode} {sp : StorageProvider} {anno param sent : String} :
    credential n sp anno param = sent ↔ Stored n.annotations sp.parameters anno param sent := by
  unfold credential Stored
  split
  · rename_i ha
    simp [ha]
  · rename_i ha
    simp [ha]

theorem holds_self_iff {annotations params : Dict} {tr : List Ev} {i : CreateInstanceIn}
    (hs : Sent annotations params tr i) :
    Holds annotations params annotations params tr ↔ Faithful annotations params tr := by
  constructor
  · intro h
    refine ⟨fun ha => ?_, fun ha => ?_, fun ha => ?_, fun ha => ?_, h.dbName⟩
    · obtain ⟨hx, -⟩ | ⟨-, hp⟩ := h.username
      · exact absurd ha hx
      · have hne : params.get "masterUsername" ≠ "" := by
          rw [hp]
          exact hs.username_ne
        rw [sentUsername, if_neg hne] at hp
        exact ⟨hne, hp.symm⟩
    · obtain ⟨-, hp⟩ | ⟨hx, -⟩ := h.username
      · exact hp
      · exact absurd hx ha
    · obtain ⟨hx, -⟩ | ⟨-, hp⟩ := h.password
      · exact absurd ha hx
      · rw [hp]
        exact hs.password_ne
    · obtain ⟨-, hp⟩ | ⟨hx, -⟩ := h.password
      · exact hp
      · exact absurd hx ha
  · intro h
    refine ⟨?_, ?_, h.dbName⟩
    · by_cases ha : annotations.get annotationsMasterUsername = ""
      · obtain ⟨hne, hnorm⟩ := h.plainUsername ha
        exact Or.inr ⟨ha, by rw [sentUsername, if_neg hne, hnorm]⟩
      · exact Or.inl ⟨ha, h.annotatedUsername ha⟩
    · by_cases ha : annotations.get annotationsMasterUserPassword = ""
      · exact Or.inr ⟨ha, by rw [sentPassword, if_neg (h.plainPassword ha)]⟩
      · exact Or.inl ⟨ha, h.annotatedPassword ha⟩

theorem pass_registers_stored {n : StorageNode} {sp : StorageProvider} {tr : List Ev} {e : Ev}
    {dsName dsHost : String} {dsPort : ℕ} {dsDBName dsUser dsPassword : String}
    (h : Cut alone (handle n sp) tr) (he : e ∈ tr)
    (hreg : about e =
      .dbExec (.registerStorageUnit dsName dsHost dsPort dsDBName dsUser dsPassword))
    (hnew : ¬Creates (readEvents n sp ++ tr)) :
    dsDBName = n.annotations.get annotationsInstanceDBName ∧ dsUser = getUsername n sp ∧
      dsPassword = getPassword n sp := by
  obtain ⟨m, sp', hm⟩ := pass_registers h he (Or.inl (by rw [hreg]; rfl))
  obtain ⟨hann, hsp⟩ := hm.held.resolve_left hnew
  have hissued := hm.issued
  rw [hreg] at hissued
  obtain ⟨hx, -⟩ | ⟨endpoint, -, hx⟩ := hissued
  · cases hx
  · cases hx
    dsimp only at hann hsp
    rw [getUsername, getUsername, getPassword, getPassword, credential, credential, credential,
      credential, hann, hsp]
    exact ⟨rfl, rfl, rfl⟩

end Agreement

/-- The credentials of an instance survive until it is registered as long as they are
stored somewhere. -/
theorem credentials_agree_iff {aws : AwsConfig} {pre mid post : List (List Ev)}
    {first second : List Ev} {s : Option StorageNode} {n n' : StorageNode}
    {sp sp' : StorageProvider} {e e' : Ev} {i : CreateInstanceIn}
    {dsName dsHost : String} {dsPort : ℕ} {dsDBName dsUser dsPassword : String}
    (h : Runs aws (pre ++ first :: (mid ++ second :: post)) s)
    (hn : Reads first n sp) (he : e ∈ first) (hi : about e = .createInstance i)
    (hn' : Reads second n' sp') (hnew : ¬Creates second) (he' : e' ∈ second)
    (hreg : about e' =
      .dbExec (.registerStorageUnit dsName dsHost dsPort dsDBName dsUser dsPassword)) :
    (Agrees i dsDBName dsUser dsPassword ↔
      Holds n.annotations sp.parameters n'.annotations sp'.parameters first) ∧
    (n'.annotations = n.annotations → sp'.parameters = sp.parameters →
      (Agrees i dsDBName dsUser dsPassword ↔ Faithful n.annotations sp.parameters first)) := by
  have hsent : Sent n.annotations sp.parameters first i := by
    obtain ⟨-, -, -, hc, -⟩ := runs_split h
    obtain ⟨tr, rfl, hcut, he⟩ := hn.handle hc he (by simp [hi, kind])
    exact pass_sent hcut he hi
  have hstored : dsDBName = n'.annotations.get annotationsInstanceDBName ∧
      dsUser = getUsername n' sp' ∧ dsPassword = getPassword n' sp' := by
    rw [← List.cons_append, ← List.append_assoc] at h
    obtain ⟨-, -, -, hc, -⟩ := runs_split h
    obtain ⟨tr, rfl, hcut, he⟩ := hn'.handle hc he' (by simp [hreg, kind])
    exact pass_registers_stored hcut he hreg hnew
  obtain ⟨rfl, rfl, rfl⟩ := hstored
  have hiff : Agrees i (n'.annotations.get annotationsInstanceDBName) (getUsername n' sp')
        (getPassword n' sp') ↔
      Holds n.annotations sp.parameters n'.annotations sp'.parameters first := by
    constructor
    · intro ha
      refine ⟨credential_eq_iff.mp ?_, credential_eq_iff.mp ?_, ?_⟩
      · exact ha.username.trans hsent.username
      · exact ha.password.trans hsent.password
      · exact (ha.dbName.trans hsent.dbName).symm
    · intro hh
      refine ⟨?_, ?_, ?_⟩
      · exact (credential_eq_iff.mpr hh.username).trans hsent.username.symm
      · exact (credential_eq_iff.mpr hh.password).trans hsent.password.symm
      · exact (hsent.dbName.trans hh.dbName).symm
  refine ⟨hiff, fun hann hpar => ?_⟩
  rw [hiff, hann, hpar]
  exact holds_self_iff hsent

def requested : Op → Option CreateInstanceIn
  | .createInstance i => some i
  | _ => none

def announced : Op → Option (String × String × String)
  | .dbExec (.registerStorageUnit _ _ _ dsDBName dsUser dsPassword) =>
    some (dsDBName, dsUser, dsPassword)
  | _ => none

theorem requested_eq_some {c : Op} {i : CreateInstanceIn} (h : requested c = some i) :
    c = .createInstance i := by
  unfold requested at h
  split at h
  · cases h
    rfl
  · cases h

theorem announced_eq_some {c : Op} {x : String × String × String} (h : announced c = some x) :
    ∃ dsName dsHost dsPort,
      c = .dbExec (.registerStorageUnit dsName dsHost dsPort x.1 x.2.1 x.2.2) := by
  unfold announced at h
  split at h
  · cases h
    exact ⟨_, _, _, rfl⟩
  · cases h

def cloudWith (params : Dict) (ins : Option DescInstance) : Cloud :=
  { emptyCloud with provider := { sampleProvider with parameters := params }, instance_ := ins }

def found (params : Dict) : Option StorageNode :=
  (passes sampleAws (some sampleNode)
    [cloudWith params none, cloudWith params (some sampleInstance)]).2

def creating (params : Dict) : List Ev :=
  (pass sampleAws (cloudWith params none).answer (some sampleNode)).1

def registering (params : Dict) : List Ev :=
  (pass sampleAws (cloudWith params (some sampleInstance)).answer (found params)).1

theorem runs_created (params : Dict) :
    ∃ s mid, Runs sampleAws ([] ++ creating params :: ([mid] ++ [registering params])) s :=
  ⟨_, _, runs_passes (.created sampleNode_created) [cloudWith params none,
    cloudWith params (some sampleInstance), cloudWith params (some sampleInstance)]⟩

theorem registering_silent {params : Dict}
    (h : (registering params).all (fun e => kind (about e) ≠ .create) = true) :
    ¬Creates (registering params) := by
  rintro ⟨e, he, hk⟩
  exact of_decide_eq_true (List.all_eq_true.mp h e he) hk

/-- The database goes by the name of the parameter that holds its name. -/
def namedParameters : Dict := sampleParameters.set "app" "app"

/-- A node whose credentials are all stored. -/
theorem sampleNode_agrees :
    ∃ e ∈ creating namedParameters, ∃ i, about e = .createInstance i ∧
      ∃ e' ∈ registering namedParameters, ∃ x, announced (about e') = some x ∧
        Agrees i x.1 x.2.1 x.2.2 := by
  have hsent : ((creating namedParameters).findSome? (fun e => requested (about e))).isSome =
      true := by decide +kernel
  have hreg : ((registering namedParameters).findSome? (fun e => announced (about e))).isSome =
      true := by decide +kernel
  have hnew : (registering namedParameters).all (fun e => kind (about e) ≠ .create) = true := by
    decide +kernel
  have hkeys : (found namedParameters).all (fun n =>
      n.annotations.get annotationsMasterUsername = "" ∧
      n.annotations.get annotationsMasterUserPassword = "" ∧
      n.annotations.get annotationsInstanceDBName = "app") = true := by decide +kernel
  obtain ⟨i, hi⟩ := Option.isSome_iff_exists.mp hsent
  obtain ⟨e, he, hi⟩ := List.exists_of_findSome?_eq_some hi
  obtain ⟨x, hx⟩ := Option.isSome_iff_exists.mp hreg
  obtain ⟨e', he', hx⟩ := List.exists_of_findSome?_eq_some hx
  have hi' := requested_eq_some hi
  obtain ⟨dsName, dsHost, dsPort, hx'⟩ := announced_eq_some hx
  obtain ⟨n, hn, hread⟩ := pass_reads_some he (by simp [hi', kind])
  cases hn
  obtain ⟨n', hn', hread'⟩ := pass_reads_some he' (by simp [hx', kind])
  rw [hn'] at hkeys
  obtain ⟨hu, hp, hdb⟩ := of_decide_eq_true hkeys
  obtain ⟨s, mid, hruns⟩ := runs_created namedParameters
  refine ⟨e, he, i, hi', e', he', x, hx, ?_⟩
  refine (credentials_agree_iff hruns hread he hi' hread' (registering_silent hnew) he' hx').1.mpr
    ⟨Or.inr ⟨hu, by decide +kernel⟩, Or.inr ⟨hp, by decide +kernel⟩, ?_⟩
  rw [hdb]
  decide +kernel

def generatedParameters : Dict :=
  fun k => if k = "masterUserPassword" then none else namedParameters k

/-- The instance gets a password that is made up, and the proxy an empty one. -/
theorem not_all_agree :
    ¬∀ (aws : AwsConfig) (pre mid post : List (List Ev)) (first second : List Ev)
      (s : Option StorageNode) (n n' : StorageNode) (sp sp' : StorageProvider) (e e' : Ev)
      (i : CreateInstanceIn) (dsName dsHost : String) (dsPort : ℕ)
      (dsDBName dsUser dsPassword : String),
      Runs aws (pre ++ first :: (mid ++ second :: post)) s →
      Reads first n sp → e ∈ first → about e = .createInstance i →
      Reads second n' sp' → ¬Creates second → e' ∈ second →
      about e' = .dbExec (.registerStorageUnit dsName dsHost dsPort dsDBName dsUser dsPassword) →
      Agrees i dsDBName dsUser dsPassword := by
  intro h
  have hsent : ((creating generatedParameters).findSome? (fun e => requested (about e))).any
      (fun i => i.masterUserPassword ≠ "") = true := by decide +kernel
  have hreg : ((registering generatedParameters).findSome? (fun e => announced (about e))).any
      (fun x => x.2.2 = "") = true := by decide +kernel
  have hnew : (registering generatedParameters).all (fun e => kind (about e) ≠ .create) = true := by
    decide +kernel
  obtain ⟨i, hi, hpass⟩ := (Option.any_eq_true _ _).mp hsent
  obtain ⟨e, he, hi⟩ := List.exists_of_findSome?_eq_some hi
  obtain ⟨x, hx, hempty⟩ := (Option.any_eq_true _ _).mp hreg
  obtain ⟨e', he', hx⟩ := List.exists_of_findSome?_eq_some hx
  have hi' := requested_eq_some hi
  obtain ⟨dsName, dsHost, dsPort, hx'⟩ := announced_eq_some hx
  obtain ⟨n, -, hread⟩ := pass_reads_some he (by simp [hi', kind])
  obtain ⟨n', -, hread'⟩ := pass_reads_some he' (by simp [hx', kind])
  obtain ⟨s, mid, hruns⟩ := runs_created generatedParameters
  have hagree := h _ _ _ _ _ _ _ _ _ _ _ _ _ _ _ _ _ _ _ _ hruns hread he hi' hread'
    (registering_silent hnew) he' hx'
  exact of_decide_eq_true hpass (hagree.password.symm.trans (of_decide_eq_true hempty))

end ShardingOnCloud.Operator.Credentials
