import ShardingOnCloud.Operator.Finalizer

namespace ShardingOnCloud.Operator.StorageUnits

open ShardingOnCloud.Lib.Program ShardingOnCloud.Lib.Pool ShardingOnCloud.Lib.Footprint
open ShardingOnCloud.Operator.StorageNodeTypes ShardingOnCloud.Operator.Calls
open ShardingOnCloud.Operator.StorageNodeController ShardingOnCloud.Operator.StorageNodeSpec
open ShardingOnCloud.Operator.StorageNodeRuns ShardingOnCloud.Operator.Provisioning
open ShardingOnCloud.Operator.StorageNodeWrites ShardingOnCloud.Operator.Finalizer

/-- A storage unit, by the proxy and the logic database that it is registered in. -/
structure StorageUnit where
  computeNode : String
  logicDB : String
  dsName : String
  deriving DecidableEq

def unitOf (n : StorageNode) : StorageUnit where
  computeNode := n.annotations.get annotationKeyComputeNodeName
  logicDB := n.annotations.get annotationKeyLogicDatabaseName
  dsName := getDSName n

/-- Where the connection of a pass leads to, and what the proxies have registered as far
as they have confirmed it. -/
structure Proxies where
  computeNode : String := ""
  database : String := ""
  units : List StorageUnit := []

def Proxies.note (p : Proxies) : Ev → Proxies
  | .main (.reply (.getComputeNode name _) _) => { p with computeNode := name }
  | .main (.reply (.dbExec (.useDatabase dbName)) none) => { p with database := dbName }
  | .main (.reply (.dbExec (.registerStorageUnit dsName _ _ _ _ _)) none) =>
    { p with units := ⟨p.computeNode, p.database, dsName⟩ :: p.units }
  | .main (.reply (.dbExec (.unRegisterStorageUnit dsName)) none) =>
    { p with units := p.units.filter (· ≠ ⟨p.computeNode, p.database, dsName⟩) }
  | _ => p

def Proxies.after (p : Proxies) (tr : List Ev) : Proxies := tr.foldl Proxies.note p

def unitsAfter (tr : List Ev) : List StorageUnit := (Proxies.after {} tr).units

def registers : Ev → Bool
  | .main (.reply (.dbExec (.registerStorageUnit _ _ _ _ _ _)) none) => true
  | _ => false

theorem registers_kind {e : Ev} (h : registers e = true) : kind (about e) = .register := by
  unfold registers at h
  split at h
  · rfl
  · cases h

@[simp] theorem after_append (p : Proxies) (tr tr' : List Ev) :
    p.after (tr ++ tr') = (p.after tr).after tr' := List.foldl_append

theorem note_subset {p : Proxies} {e : Ev} (h : registers e = false) :
    (p.note e).units ⊆ p.units := by
  unfold Proxies.note
  split
  · exact List.Subset.refl _
  · exact List.Subset.refl _
  · cases h
  · exact List.filter_subset_self _
  · exact List.Subset.refl _

theorem after_subset {p : Proxies} {tr : List Ev} (h : ∀ e ∈ tr, registers e = false) :
    (p.after tr).units ⊆ p.units := by
  induction tr generalizing p with
  | nil => exact List.Subset.refl _
  | cons e tr ih =>
    have htail := ih (p := p.note e) (fun e' he' => h e' (by simp [he']))
    exact List.Subset.trans htail (note_subset (h e (by simp)))

theorem note_passive {p : Proxies} {e : Ev} (h : Passive (about e)) : p.note e = p := by
  unfold Proxies.note
  split
  · exact h.elim
  · exact h.elim
  · exact h.elim
  · exact h.elim
  · rfl

theorem after_passive {p : Proxies} {tr : List Ev} (h : ∀ e ∈ tr, Passive (about e)) :
    p.after tr = p := by
  induction tr generalizing p with
  | nil => rfl
  | cons e tr ih =>
    change (p.note e).after tr = p
    rw [note_passive (h e (by simp))]
    exact ih (fun e' he' => h e' (by simp [he']))

section Unregister

theorem getShardingsphereServer_after {n : StorageNode} {tr : List Ev} {r : Option Err}
    (h : Run alone (getShardingsphereServer n) tr r) (p : Proxies) :
    p.after tr = { p with computeNode := n.annotations.get annotationKeyComputeNodeName } := by
  obtain ⟨k, hk, hpassive⟩ := getShardingsphereServer_passive n
  rw [hk] at h
  obtain ⟨cn, tr', h', rfl⟩ := run_alone h
  rw [after_append, after_passive ((hpassive cn).events h'.cut)]
  rfl

theorem getRulesUsed_run {dsName : String} {rules : List Rule} {tr : List Ev}
    (h : Run alone (Server.getRulesUsed dsName) tr (.ok rules)) :
    ∃ rows, tr = whole (Op.dbQuery (.showRulesUsed dsName)) (.ok rows) [] := by
  obtain ⟨tr₁, rows, tr₂, h₁, h₂, rfl⟩ := run_bind.mp h
  cases rows with
  | error err => cases (run_ret.mp h₂).2
  | ok rows =>
    have hnil : tr₂ = [] := by
      dsimp only at h₂
      split at h₂ <;> exact (run_ret.mp h₂).1
    refine ⟨rows, ?_⟩
    rw [hnil, List.append_nil]
    exact run_op h₁

theorem unRegisterStorageUnit_run {logicDBName dsName : String} {tr : List Ev}
    (h : Run alone (Server.unRegisterStorageUnit logicDBName dsName) tr none) :
    ∃ rows tr', tr = whole (Op.dbExec (.useDatabase logicDBName)) none [] ++
        (whole (Op.dbQuery (.showRulesUsed dsName)) (Except.ok rows) [] ++
          (tr' ++ whole (Op.dbExec (.unRegisterStorageUnit dsName)) none [])) ∧
      ∀ e ∈ tr', Passive (about e) := by
  obtain ⟨tr₀, err, tr₁, h₀, h₁, rfl⟩ := run_bind.mp h
  cases err with
  | some err => cases (run_ret.mp h₁).2
  | none =>
    obtain ⟨tr₂, rules, tr₃, h₂, h₃, rfl⟩ := run_bind.mp h₁
    cases rules with
    | error err => cases (run_ret.mp h₃).2
    | ok rules =>
      obtain ⟨tr₄, err, tr₅, h₄, h₅, rfl⟩ := run_bind.mp h₃
      cases err with
      | some err => cases (run_ret.mp h₅).2
      | none =>
        obtain ⟨tr₆, err, tr₇, h₆, h₇, rfl⟩ := run_bind.mp h₅
        cases err with
        | some err => cases (run_ret.mp h₇).2
        | none =>
          obtain ⟨rfl, -⟩ := run_ret.mp h₇
          obtain ⟨rows, hrows⟩ := getRulesUsed_run h₂
          refine ⟨rows, tr₄, ?_, (dropRules_only rules).events h₄.cut⟩
          rw [run_op h₀, run_op h₆, hrows, List.append_nil]

theorem unRegisterStorageUnit_after {logicDBName dsName : String} {tr : List Ev}
    (h : Run alone (Server.unRegisterStorageUnit logicDBName dsName) tr none) (p : Proxies) :
    p.after tr =
      { p with
        database := logicDBName
        units := p.units.filter (· ≠ ⟨p.computeNode, logicDBName, dsName⟩) } := by
  obtain ⟨rows, tr', rfl, hpassive⟩ := unRegisterStorageUnit_run h
  simp only [after_append, after_passive hpassive]
  rfl

theorem unregisterStorageUnit_parts {n m : StorageNode} {tr : List Ev}
    (h : Run alone (unregisterStorageUnit n) tr (.ok m)) (hreg : n.status.registered = true) :
    ∃ tr₁ tr₂ err, Run alone (getShardingsphereServer n) tr₁ none ∧
      Run alone (Server.unRegisterStorageUnit
        (n.annotations.get annotationKeyLogicDatabaseName) (getDSName n)) tr₂ none ∧
      tr = tr₁ ++ (tr₂ ++ whole Op.dbClose err []) := by
  unfold unregisterStorageUnit at h
  rw [if_neg (by simp [hreg])] at h
  split at h
  · cases (run_ret.mp h).2
  obtain ⟨tr₁, err, tr₂, h₁, h₂, rfl⟩ := run_bind.mp h
  cases err with
  | some err => cases (run_ret.mp h₂).2
  | none =>
    obtain ⟨tr₃, err, tr₄, h₃, h₄, rfl⟩ := run_bind.mp h₂
    obtain ⟨tr₅, err', tr₆, h₅, h₆, rfl⟩ := run_bind.mp h₄
    cases err with
    | some err => cases (run_ret.mp h₆).2
    | none =>
      obtain ⟨rfl, -⟩ := run_ret.mp h₆
      refine ⟨tr₁, tr₃, err', h₁, h₃, ?_⟩
      rw [run_op h₅, List.append_nil]

theorem unregisterStorageUnit_after {n m : StorageNode} {tr : List Ev}
    (h : Run alone (unregisterStorageUnit n) tr (.ok m)) (hreg : n.status.registered = true)
    (p : Proxies) : (p.after tr).units = p.units.filter (· ≠ unitOf n) := by
  obtain ⟨tr₁, tr₂, err, h₁, h₂, rfl⟩ := unregisterStorageUnit_parts h hreg
  rw [after_append, after_append, getShardingsphereServer_after h₁, unRegisterStorageUnit_after h₂]
  rfl

end Unregister

section Register

theorem registers_not_of {ks : List Kind} {α : Type} {p : Rec α} {tr : List Ev}
    (h : Only (Of ks) p) (hc : Cut alone p tr) (hks : .register ∉ ks) :
    ∀ e ∈ tr, registers e = false := by
  intro e he
  have hk := (only_avoids h hks).events hc e he
  by_contra hreg
  exact hk (registers_kind (by simpa using hreg))

theorem serverRegister_run {logicDBName dsName dsHost : String} {dsPort : ℕ}
    {dsDBName dsUser dsPassword : String} {tr : List Ev} {r : Option Err} {e : Ev}
    (h : Run alone (Server.registerStorageUnit logicDBName dsName dsHost dsPort dsDBName dsUser
      dsPassword) tr r) (he : e ∈ tr) (hreg : registers e = true) : r = none := by
  obtain ⟨tr₀, err, tr₁, h₀, h₁, rfl⟩ := run_bind.mp h
  have hleft := run_op h₀
  cases err with
  | some err =>
    obtain ⟨rfl, -⟩ := run_ret.mp h₁
    simp only [hleft, whole, List.map_nil, List.cons_append, List.nil_append, List.append_nil,
      List.mem_cons, List.not_mem_nil, or_false] at he
    obtain rfl | rfl := he <;> cases hreg
  | none =>
    obtain ⟨tr₂, err, tr₃, h₂, h₃, rfl⟩ := run_bind.mp h₁
    have hright := run_op h₂
    cases err with
    | none => exact (run_ret.mp h₃).2
    | some err =>
      obtain ⟨rfl, -⟩ := run_ret.mp h₃
      simp only [hleft, hright, whole, List.map_nil, List.cons_append, List.nil_append,
        List.append_nil, List.mem_cons, List.not_mem_nil, or_false] at he
      obtain rfl | rfl | rfl | rfl := he <;> cases hreg

theorem registerAt_run {n : StorageNode} {sp : StorageProvider} {tr : List Ev}
    {r : Except Err StorageNode} {e : Ev} (h : Run alone (registerAt n sp) tr r) (he : e ∈ tr)
    (hreg : registers e = true) :
    r = .ok { n with status := { n.status with registered := true } } := by
  have hkind : ¬Of [.proxy] (about e) := by simp [Of, registers_kind hreg]
  obtain ⟨tr₁, err, tr₂, -, h₂, rfl, he₂⟩ :=
    run_past h (only_passive (createDatabase_only _)) he hkind
  cases err with
  | some err =>
    obtain ⟨rfl, -⟩ := run_ret.mp h₂
    cases he₂
  | none =>
    obtain ⟨tr₃, endpoint, tr₄, -, h₄, rfl, he₄⟩ :=
      run_past h₂ (datasource_only n) he₂ hkind
    obtain ⟨tr₅, err, tr₆, h₅, h₆, rfl⟩ := run_bind.mp h₄
    cases err with
    | none => exact (run_ret.mp h₆).2
    | some err =>
      obtain ⟨rfl, -⟩ := run_ret.mp h₆
      rw [List.append_nil] at he₄
      cases serverRegister_run h₅ he₄ hreg

theorem registerStorageUnit_run {n : StorageNode} {sp : StorageProvider} {tr : List Ev}
    {r : Except Err StorageNode} {e : Ev} (h : Run alone (registerStorageUnit n sp) tr r)
    (he : e ∈ tr) (hreg : registers e = true) :
    r = .ok { n with status := { n.status with registered := true } } := by
  unfold registerStorageUnit at h
  have hnil : ∀ {r' : Except Err StorageNode}, Run alone (.ret r') tr r → False := by
    intro r' hr
    obtain ⟨rfl, -⟩ := run_ret.mp hr
    cases he
  split at h
  · exact (hnil h).elim
  split at h
  · exact (hnil h).elim
  split at h
  · exact (hnil h).elim
  split at h
  · exact (hnil h).elim
  have hkind : ¬Of [.proxy] (about e) := by simp [Of, registers_kind hreg]
  obtain ⟨tr₁, err, tr₂, -, h₂, rfl, he₂⟩ :=
    run_past h (getShardingsphereServer_only n) he hkind
  cases err with
  | some err =>
    obtain ⟨rfl, -⟩ := run_ret.mp h₂
    cases he₂
  | none =>
    obtain ⟨tr₃, r', tr₄, h₃, h₄, rfl⟩ := run_bind.mp h₂
    obtain ⟨tr₅, _, tr₆, h₅, h₆, rfl⟩ := run_bind.mp h₄
    obtain ⟨rfl, rfl⟩ := run_ret.mp h₆
    rcases List.mem_append.mp he₂ with he₃ | he₄
    · exact registerAt_run h₃ he₃ hreg
    · rw [run_op h₅, List.append_nil] at he₄
      simp only [whole, List.map_nil, List.cons_append, List.nil_append, List.mem_cons,
        List.not_mem_nil, or_false] at he₄
      obtain rfl | rfl := he₄ <;> cases hreg

theorem reconcile_records {n m : StorageNode} {sp : StorageProvider} {tr : List Ev} {e e' : Ev}
    (h : Cut alone (reconcile sp n) tr) (he : e ∈ tr) (hreg : registers e = true) (he' : e' ∈ tr)
    (hm : about e' = .statusUpdate m) : m.status.registered = true := by
  have hwrite : kind (about e') = .write := by rw [hm]; rfl
  have hkind := registers_kind hreg
  unfold reconcile at h
  cases hp : reconcileProvisioner n sp with
  | none =>
    rw [hp] at h
    cases h
    cases he
  | some p =>
    rw [hp] at h
    have hprov := reconcileProvisioner_only hp
    obtain ⟨tr₁, r, tr₂, hrun, hcut, rfl, he₂⟩ :=
      cut_past h hprov he (by simp [Of, hkind, provisioning])
    have he₂' := (List.mem_append.mp he').resolve_left (fun hx => by
      have := hprov.events hrun.cut e' hx
      simp [Of, hwrite, provisioning] at this)
    cases r with
    | error err =>
      cases hcut
      cases he₂
    | ok held =>
      obtain ⟨tr₃, r, tr₄, hrun', hcut', rfl, he₄⟩ :=
        cut_past hcut (registerStorageUnit_only _ _) he₂' (by simp [Of, hwrite])
      cases r with
      | error err =>
        cases hcut'
        cases he₄
      | ok m' =>
        have he₃ := (List.mem_append.mp he₂).resolve_right (fun hx => by
          have := (storeStatus_only m').events hcut' e hx
          simp [Of, hkind] at this)
        have hstored := (storeStatus_stores (Q := fun m => m.status = computeDesiredState m'.status)
          rfl).events hcut' e' he₄
        rw [hm] at hstored
        cases registerStorageUnit_run hrun' he₃ hreg
        rw [hstored]
        rfl

theorem adopt_records {n m : StorageNode} {sp : StorageProvider} {tr : List Ev} {e e' : Ev}
    (h : Cut alone (adopt n sp) tr) (he : e ∈ tr) (hreg : registers e = true) (he' : e' ∈ tr)
    (hm : about e' = .statusUpdate m) : m.status.registered = true := by
  have hother : about e ≠ .update (addFinalizer n) := by
    intro hx
    have hkind := registers_kind hreg
    rw [hx] at hkind
    cases hkind
  obtain ⟨err, tr', hcut, rfl, he₁⟩ := cut_past_call h he hother
  have he₂ : e' ∈ tr' := by
    refine (List.mem_append.mp he').resolve_left (fun hx => ?_)
    simp only [whole, List.map_nil, List.cons_append, List.nil_append, List.mem_cons,
      List.not_mem_nil, or_false] at hx
    obtain rfl | rfl := hx <;> cases hm
  cases err with
  | some err =>
    cases hcut
    cases he₁
  | none => exact reconcile_records hcut he₁ hreg he₂ hm

end Register

end ShardingOnCloud.Operator.StorageUnits
