import ShardingOnCloud.Pitr.BackupSpec
import ShardingOnCloud.Pitr.RecordFiles

namespace ShardingOnCloud.Pitr.BackupFiles

open ShardingOnCloud.Lib.Program ShardingOnCloud.Lib.Assertions ShardingOnCloud.Lib.Pool
open ShardingOnCloud.Pitr.Model ShardingOnCloud.Pitr.Calls ShardingOnCloud.Pitr.LocalStorage
open ShardingOnCloud.Pitr.Backup ShardingOnCloud.Pitr.BackupSpec
open ShardingOnCloud.Pitr.StorageSpec ShardingOnCloud.Pitr.Encoding ShardingOnCloud.Pitr.RecordFiles

/-- The backup directory during a run of `backup`. A write that fails leaves the first
`n` bytes of its data, and a file that cannot be created stays as it was. -/
def disk (n : ℕ) : World Files Ev where
  step s
    | .main (.reply (.act (.osCreate name)) none), t => t = Function.update s name (some .empty)
    | .main (.reply (.act (.fileWrite name r)) none), t =>
      t = Function.update s name (some (recordBytes r))
    | .main (.reply (.act (.fileWrite name r)) (some _)), t =>
      t = Function.update s name (some ((recordBytes r).extract 0 n))
    | .main (.reply (.act (.osRemove name)) none), t | .sub (_, .reply (.osRemove name) none), t =>
      t = Function.update s name none
    | _, t => t = s

/-- What `backup` is told about the nodes of the cluster and about its files. -/
inductive Answer
  | nodes (nodes : List StorageNode)
  | created (name : String)
  | wrote (r : LsBackup)
  | broke (r : LsBackup)

def answer : Ev → Option Answer
  | .main (.reply (.act .exportStorageNodes) (.ok nodes)) => some (.nodes nodes)
  | .main (.reply (.act (.osCreate name)) none) => some (.created name)
  | .main (.reply (.act (.fileWrite _ r)) none) => some (.wrote r)
  | .main (.reply (.act (.fileWrite _ r)) (some _)) => some (.broke r)
  | _ => none

def answers (tr : List Ev) : List Answer := tr.filterMap answer

theorem answers_append (as bs : List Ev) : answers (as ++ bs) = answers as ++ answers bs :=
  List.filterMap_append

theorem answers_nil : answers [] = [] := rfl

/-- Every file that is created is a new one, and a write that fails has written all of its
data, or it is not the first one and there are storage nodes. -/
def Harmless (n : ℕ) (s : Files) (tr : List Ev) : Prop :=
  (∀ name, .created name ∈ answers tr → s name = none) ∧
    ∀ r, .broke r ∈ answers tr → (recordBytes r).size ≤ n ∨
      ((∃ r', .wrote r' ∈ answers tr) ∧ .nodes [] ∉ answers tr)

def Bare (e : Ev) : Prop := answer e = none ∧ ∀ n s t, (disk n).step s e t → t = s

theorem bare_answers {tr : List Ev} (h : ∀ e ∈ tr, Bare e) : answers tr = [] :=
  List.filterMap_eq_nil_iff.mpr (fun e he => (h e he).1)

theorem bare_path {n : ℕ} {s t : Files} {tr : List Ev} (h : ∀ e ∈ tr, Bare e)
    (hp : (disk n).Path s tr t) : t = s := by
  refine World.path_keeps (K := (· = s)) hp (fun e he u v hstep hu => ?_) rfl
  rw [(h e he).2 n u v hstep, hu]

def bare : Act → Bool
  | .osCreate _ | .fileWrite _ _ | .osRemove _ | .exportStorageNodes => false
  | _ => true

theorem allows_bare {a : Act} (h : bare a = true) : Allows Bare a := by
  cases a with
  | osCreate name => cases h
  | fileWrite name r => cases h
  | osRemove name => cases h
  | exportStorageNodes => cases h
  | _ => exact ⟨⟨rfl, fun _ _ _ h => h⟩, fun _ => ⟨rfl, fun _ _ _ h => h⟩⟩

def BareGo (l : Label Act ActR) : Prop := ∀ i, Bare (.sub (i, l))

theorem allows_bareGo {a : Act} (h : bare a = true) : AllowsGo BareGo a := by
  cases a with
  | osCreate name => cases h
  | fileWrite name r => cases h
  | osRemove name => cases h
  | exportStorageNodes => cases h
  | _ => exact ⟨fun _ => ⟨rfl, fun _ _ _ h => h⟩, fun _ _ => ⟨rfl, fun _ _ _ h => h⟩⟩

/-- How `WriteByJSON` ends: what it was told, its error, and what has become of the
files. -/
inductive Wrote (n : ℕ) (name : String) (r : LsBackup) (s : Files) :
    List Answer → Option Err → Files → Prop
  | whole : Wrote n name r s [.created name, .wrote r] none
      (Function.update s name (some (recordBytes r)))
  | refused (e : Err) : Wrote n name r s [] (some e) s
  | broken (e : Err) : Wrote n name r s [.created name, .broke r] (some e)
      (Function.update s name (some ((recordBytes r).extract 0 n)))

section Steps

variable {pk : Packages} {f : Flags} {n : ℕ} {s t t' : Files} {tr : List Ev}

theorem writeByJSON_wrote {name : String} {r : LsBackup} {err : Option Err}
    (hj : hasSuffix name ".json" = true) (h : Run (sem pk) (writeByJSON f name r) tr err)
    (hp : (disk n).Path s tr t) : Wrote n name r s (answers tr) err t := by
  rw [writeByJSON, if_pos hj] at h
  obtain ⟨e, tr₁, h₁, rfl⟩ := run_act_inv h
  cases e with
  | some e =>
    obtain ⟨rfl, rfl⟩ := run_ret.mp h₁
    obtain ⟨_, rfl, _, rfl, rfl⟩ := hp
    exact .refused _
  | none =>
    obtain ⟨e, tr₂, h₂, rfl⟩ := run_act_inv h₁
    cases e with
    | some x =>
      obtain ⟨rfl, rfl⟩ := run_ret.mp h₂
      obtain ⟨_, rfl, _, rfl, _, rfl, _, rfl, rfl⟩ := hp
      rw [Function.update_idem]
      exact .broken _
    | none =>
      obtain ⟨rfl, rfl⟩ := run_ret.mp h₂
      obtain ⟨_, rfl, _, rfl, _, rfl, _, rfl, rfl⟩ := hp
      rw [Function.update_idem]
      exact .whole

def HasID (id : String) (r : LsBackup) : Prop := r.info.map (·.id) = some id

def HasNodes (nodes : List StorageNode) (r : LsBackup) : Prop :=
  r.ssBackup.map (·.storageNodes) = some nodes

/-- The file has been written, and no write has failed. -/
def Whole (s : Files) (name id : String) (A : List Answer) (t : Files) : Prop :=
  ∃ r, HasID id r ∧ t = Function.update s name (some (recordBytes r)) ∧
    ∀ a ∈ A, a = .created name ∨ ∃ r', a = .wrote r'

def Broken (n : ℕ) (s : Files) (name id : String) (A : List Answer) (t : Files) : Prop :=
  ∃ r, HasID id r ∧ t = Function.update s name (some ((recordBytes r).extract 0 n)) ∧
    .broke r ∈ A ∧ ∀ a ∈ A, a = .created name ∨ (∃ r', a = .wrote r') ∨ a = .broke r

/-- Where the steps of `backup` after `exportData` end. -/
structure Later (n : ℕ) (s : Files) (name id : String) (nodes : List StorageNode) (A : List Answer)
    (t : Files) (v : Vars) : Prop where
  filename : v.filename = name
  record : ∃ r, v.lsBackup = some r ∧ HasNodes nodes r
  content : Whole s name id A t ∨ (v.err ≠ none ∧ Broken n s name id A t)

variable {name id : String} {nodes : List StorageNode} {A A' : List Answer}

theorem whole_bare (h : Whole s name id A t) (htr : ∀ e ∈ tr, Bare e)
    (hp : (disk n).Path t tr t') : Whole s name id (A ++ answers tr) t' := by
  rw [bare_answers htr, List.append_nil, bare_path htr hp]
  exact h

theorem whole_wrote {r : LsBackup} {err : Option Err} (h : Whole s name id A t) (hr : HasID id r)
    (hw : Wrote n name r t A' err t') :
    Whole s name id (A ++ A') t' ∨ (err ≠ none ∧ Broken n s name id (A ++ A') t') := by
  obtain ⟨r₀, hr₀, rfl, hA⟩ := h
  cases hw with
  | whole =>
    refine Or.inl ⟨r, hr, by rw [Function.update_idem], fun a ha => ?_⟩
    simp only [List.mem_append, List.mem_cons, List.not_mem_nil, or_false] at ha
    rcases ha with ha | rfl | rfl
    · exact hA a ha
    · exact Or.inl rfl
    · exact Or.inr ⟨r, rfl⟩
  | refused e => exact Or.inl ⟨r₀, hr₀, rfl, by simpa using hA⟩
  | broken e =>
    refine Or.inr ⟨by simp, r, hr, by rw [Function.update_idem], by simp, fun a ha => ?_⟩
    simp only [List.mem_append, List.mem_cons, List.not_mem_nil, or_false] at ha
    rcases ha with ha | rfl | rfl
    · exact (hA a ha).imp_right Or.inl
    · exact Or.inl rfl
    · exact Or.inr (Or.inr rfl)

theorem bare_call {c : Call} (h : ∀ a, c ≠ .act a) :
    Bare (.main (.issue c)) ∧ ∀ r, Bare (.main (.reply c r)) := by
  cases c with
  | act a => exact absurd rfl (h a)
  | _ => exact ⟨⟨rfl, fun _ _ _ h => h⟩, fun _ => ⟨rfl, fun _ _ _ h => h⟩⟩

theorem bare_did {a : Act} (h : bare a = true) (r : ActR a) : ∀ e ∈ did a r, Bare e := by
  intro e he
  obtain rfl | ⟨x, hx, rfl⟩ | rfl := mem_whole.mp he
  · exact (allows_bare h).1
  · cases hx
  · exact (allows_bare h).2 r

theorem checkAgentServerStatus_bare {r : LsBackup} {available : Bool}
    (h : Run (sem pk) (checkAgentServerStatus f r) tr available) : ∀ e ∈ tr, Bare e :=
  (checkAgentServerStatus_emits f (allows_bare rfl) (fun _ _ => allows_bare rfl) r).cut h.cut

theorem checkDiskSpace_bare {r : LsBackup} {err : Option Err}
    (h : Run (sem pk) (checkDiskSpace f r) tr err) : err = none ∧ ∀ e ∈ tr, Bare e := by
  have hemits : Emits (sem pk) Bare (checkDiskSpace f r) (fun err => err = none) :=
    checkDiskSpace_emits f (allows_bare rfl) (fun _ _ => allows_bare rfl) r
  exact ⟨hemits.run h, hemits.cut h.cut⟩

theorem execBackup_bare {r : LsBackup} {x : LsBackup × Option Err}
    (h : Run (sem pk) (execBackup f r) tr x) : ∀ e ∈ tr, Bare e := by
  have hasking : ∀ a, asking a = true → AllowsGo BareGo a := by
    intro a ha
    refine allows_bareGo ?_
    cases a <;> first | rfl | cases ha
  exact (execBackup_emits f r (allows_bare rfl) (fun _ _ => bare_call nofun) (fun i _ hl => hl i)
    hasking).cut h.cut

theorem execBackup_same {r : LsBackup} {x : LsBackup × Option Err}
    (h : Run (sem pk) (execBackup f r) tr x) (hid : HasID id r) (hn : HasNodes nodes r) :
    HasID id x.1 ∧ HasNodes nodes x.1 := by
  obtain ⟨tr₁, ss, tr₂, hderef, h₁, rfl⟩ := run_bind.mp h
  obtain ⟨-, hss⟩ := run_deref hderef
  have hnodes : ss.storageNodes = nodes := by simpa [HasNodes, hss] using hn
  obtain ⟨⟨dns, err⟩, log, tr₃, -, h₂, rfl⟩ := run_call.mp h₁
  cases err with
  | some err =>
    cases (run_ret.mp h₂).2
    exact ⟨hid, by simp [HasNodes, hnodes]⟩
  | none =>
    cases (run_ret.mp h₂).2
    exact ⟨hid, by simp [HasNodes, hnodes]⟩

theorem checkBackupStatus_bare {r : LsBackup} {x : LsBackup × BackupStatus}
    (h : Run (sem pk) (checkBackupStatus f r) tr x) : ∀ e ∈ tr, Bare e := by
  have hchecking : ∀ a, checking a = true → AllowsGo BareGo a := by
    intro a ha
    refine allows_bareGo ?_
    cases a <;> first | rfl | cases ha
  exact (checkBackupStatus_emits f r (allows_bare rfl) (allows_bare rfl)
    (fun _ _ => bare_call nofun) (fun i _ hl => hl i) hchecking).cut h.cut

theorem checkBackupStatus_same {r : LsBackup} {x : LsBackup × BackupStatus}
    (h : Run (sem pk) (checkBackupStatus f r) tr x) (hid : HasID id r) (hn : HasNodes nodes r) :
    HasID id x.1 ∧ HasNodes nodes x.1 := by
  obtain ⟨tr₁, ss, tr₂, hderef, h₁, rfl⟩ := run_bind.mp h
  obtain ⟨-, hss⟩ := run_deref hderef
  have hnodes : ss.storageNodes = nodes := by simpa [HasNodes, hss] using hn
  change Run (sem pk) (if _ then _ else _) _ _ at h₁
  split at h₁
  · cases (run_ret.mp h₁).2
    exact ⟨hid, hn⟩
  · obtain ⟨dnResult, log, tr₃, -, h₂, rfl⟩ := run_call.mp h₁
    change Run (sem pk) (deref r.info >>= _) _ _ at h₂
    obtain ⟨tr₄, info, tr₅, hinfo, h₃, rfl⟩ := run_bind.mp h₂
    obtain ⟨-, hinfo⟩ := run_deref hinfo
    obtain ⟨endTime, tr₆, h₄, rfl⟩ := run_act_inv h₃
    cases (run_ret.mp h₄).2
    refine ⟨?_, by simp [HasNodes, hnodes]⟩
    simpa [HasID, hinfo] using hid

theorem backupTail_later {r : LsBackup} {x : Vars × Option Err}
    (h : Run (sem pk) (backupTail f name r) tr x) (hj : hasSuffix name ".json" = true)
    (ht : Whole s name id A t) (hid : HasID id r) (hn : HasNodes nodes r)
    (hp : (disk n).Path t tr t') : Later n s name id nodes (A ++ answers tr) t' x.1 := by
  obtain ⟨tr₁, err, tr₂, hwrite, h₁, rfl⟩ := run_bind.mp h
  obtain ⟨u, hu, hp⟩ := World.path_append.mp hp
  have hfirst := whole_wrote ht hid (writeByJSON_wrote hj hwrite hu)
  rw [answers_append, ← List.append_assoc]
  cases err with
  | some e =>
    obtain ⟨rfl, rfl⟩ := run_ret.mp h₁
    cases hp
    rw [answers_nil, List.append_nil]
    exact ⟨rfl, ⟨r, rfl, hn⟩, hfirst⟩
  | none =>
    have hwhole := hfirst.resolve_right (fun h => h.1 rfl)
    obtain ⟨tr₃, ⟨r₂, status⟩, tr₄, hcheck, h₂, rfl⟩ := run_bind.mp h₁
    obtain ⟨u', hu', hp⟩ := World.path_append.mp hp
    have hwhole' := whole_bare hwhole (checkBackupStatus_bare hcheck) hu'
    obtain ⟨hid₂, hn₂⟩ := checkBackupStatus_same hcheck hid hn
    rw [answers_append, ← List.append_assoc]
    change Run (sem pk) (if _ then _ else _) _ _ at h₂
    split at h₂
    · obtain ⟨rfl, rfl⟩ := run_ret.mp h₂
      cases hp
      rw [answers_nil, List.append_nil]
      exact ⟨rfl, ⟨r₂, rfl, hn₂⟩, Or.inl hwhole'⟩
    · obtain ⟨tr₅, err, tr₆, hwrite₂, h₃, rfl⟩ := run_bind.mp h₂
      obtain ⟨u'', hu'', hp⟩ := World.path_append.mp hp
      have hlast := whole_wrote hwhole' hid₂ (writeByJSON_wrote hj hwrite₂ hu'')
      cases err with
      | some e =>
        obtain ⟨rfl, rfl⟩ := run_ret.mp h₃
        cases hp
        rw [List.append_nil]
        exact ⟨rfl, ⟨r₂, rfl, hn₂⟩, hlast⟩
      | none =>
        obtain ⟨rfl, rfl⟩ := run_ret.mp h₃
        cases hp
        rw [List.append_nil]
        exact ⟨rfl, ⟨r₂, rfl, hn₂⟩, hlast⟩

theorem backupCut_later {r : LsBackup} {x : Vars × Option Err}
    (h : Run (sem pk) (backupCut f name r) tr x) (hj : hasSuffix name ".json" = true)
    (ht : Whole s name id A t) (hid : HasID id r) (hn : HasNodes nodes r)
    (hp : (disk n).Path t tr t') : Later n s name id nodes (A ++ answers tr) t' x.1 := by
  obtain ⟨tr₁, ⟨r₁, err⟩, tr₂, hexec, h₁, rfl⟩ := run_bind.mp h
  obtain ⟨u, hu, hp₁⟩ := World.path_append.mp hp
  have hwhole := whole_bare ht (execBackup_bare hexec) hu
  obtain ⟨hid₁, hn₁⟩ := execBackup_same hexec hid hn
  rw [answers_append, ← List.append_assoc]
  cases err with
  | some e =>
    obtain ⟨rfl, rfl⟩ := run_ret.mp h₁
    cases hp₁
    rw [answers_nil, List.append_nil]
    exact ⟨rfl, ⟨r₁, rfl, hn₁⟩, Or.inl hwhole⟩
  | none =>
    obtain ⟨err, tr₃, h₂, rfl⟩ := run_act_inv h₁
    obtain ⟨u', hu', hp₂⟩ := World.path_append.mp hp₁
    have hwhole' := whole_bare hwhole (bare_did (a := .exec _) rfl err) hu'
    rw [answers_append, ← List.append_assoc]
    cases err with
    | some e =>
      obtain ⟨rfl, rfl⟩ := run_ret.mp h₂
      cases hp₂
      rw [answers_nil, List.append_nil]
      exact ⟨rfl, ⟨r₁, rfl, hn₁⟩, Or.inl hwhole'⟩
    | none => exact backupTail_later h₂ hj hwhole' hid₁ hn₁ hp₂

theorem backupChecks_later {r : LsBackup} {x : Vars × Option Err}
    (h : Run (sem pk) (backupChecks f name r) tr x) (hj : hasSuffix name ".json" = true)
    (ht : Whole s name id A t) (hid : HasID id r) (hn : HasNodes nodes r)
    (hp : (disk n).Path t tr t') : Later n s name id nodes (A ++ answers tr) t' x.1 := by
  obtain ⟨tr₁, available, tr₂, hstatus, h₁, rfl⟩ := run_bind.mp h
  obtain ⟨u, hu, hp₁⟩ := World.path_append.mp hp
  have hwhole := whole_bare ht (checkAgentServerStatus_bare hstatus) hu
  rw [answers_append, ← List.append_assoc]
  cases available with
  | false =>
    obtain ⟨rfl, rfl⟩ := run_ret.mp h₁
    cases hp₁
    rw [answers_nil, List.append_nil]
    exact ⟨rfl, ⟨r, rfl, hn⟩, Or.inl hwhole⟩
  | true =>
    obtain ⟨tr₃, err, tr₄, hspace, h₂, rfl⟩ := run_bind.mp h₁
    obtain ⟨u₁, hu₁, hp₂⟩ := World.path_append.mp hp₁
    obtain ⟨rfl, hbare⟩ := checkDiskSpace_bare hspace
    have hwhole₁ := whole_bare hwhole hbare hu₁
    obtain ⟨err, tr₅, h₃, rfl⟩ := run_act_inv h₂
    obtain ⟨u₂, hu₂, hp₃⟩ := World.path_append.mp hp₂
    have hwhole₂ := whole_bare hwhole₁ (bare_did (a := .getUserApprove _) rfl err) hu₂
    rw [answers_append, answers_append, ← List.append_assoc, ← List.append_assoc]
    cases err with
    | some e =>
      obtain ⟨rfl, rfl⟩ := run_ret.mp h₃
      cases hp₃
      rw [answers_nil, List.append_nil]
      exact ⟨rfl, ⟨r, rfl, hn⟩, Or.inl hwhole₂⟩
    | none => exact backupCut_later h₃ hj hwhole₂ hid hn hp₃

/-- How `exportData` ends. -/
inductive Exported (n : ℕ) (s : Files) (tr : List Ev) : Files → String × Except Err LsBackup → Prop
  | untouched {x : String × Except Err LsBackup} {e : Err} : x.2 = .error e →
      (∀ a ∈ answers tr, ∃ nodes, a = .nodes nodes) → Exported n s tr s x
  | wrote (p q id : String) (nodes : List StorageNode) {r : LsBackup} {A : List Answer}
      {err : Option Err} {t : Files} {x : String × Except Err LsBackup} :
      .main (.reply (.act .genFilename) (p, q)) ∈ tr → .main (.reply (.act .newUUID) id) ∈ tr →
      HasID id r → HasNodes nodes r → x.1 = p ++ "_" ++ q ++ ".json" →
      Wrote n x.1 r s A err t → answers tr = .nodes nodes :: A →
      (∀ e, x.2 = .error e → err ≠ none) → (∀ r', x.2 = .ok r' → r' = r ∧ err = none) →
      Exported n s tr t x

theorem exportData_exported {filename : String} {x : String × Except Err LsBackup}
    (h : Run (sem pk) (exportData f filename) tr x) (hp : (disk n).Path s tr t) :
    Exported n s tr t x := by
  obtain ⟨res, tr₁, h₁, rfl⟩ := run_act_inv h
  obtain ⟨_, rfl, _, rfl, hp₁⟩ := hp
  cases res with
  | error err =>
    obtain ⟨rfl, rfl⟩ := run_ret.mp h₁
    cases hp₁
    exact .untouched rfl (by simp [answers, did, whole, answer])
  | ok cluster =>
    obtain ⟨res, tr₂, h₂, rfl⟩ := run_act_inv h₁
    obtain ⟨_, rfl, _, rfl, hp₂⟩ := hp₁
    cases res with
    | error err =>
      obtain ⟨rfl, rfl⟩ := run_ret.mp h₂
      cases hp₂
      exact .untouched rfl (by simp [answers, did, whole, answer])
    | ok nodes =>
      obtain ⟨⟨p, q⟩, tr₃, h₃, rfl⟩ := run_act_inv h₂
      obtain ⟨id, tr₄, h₄, rfl⟩ := run_act_inv h₃
      obtain ⟨startTime, tr₅, h₅, rfl⟩ := run_act_inv h₄
      obtain ⟨_, rfl, _, rfl, _, rfl, _, rfl, _, rfl, _, rfl, hp₃⟩ := hp₂
      change Run (sem pk) (writeByJSON f (p ++ "_" ++ q ++ ".json") _ >>= _) _ _ at h₅
      obtain ⟨tr₆, err, tr₇, hwrite, h₆, rfl⟩ := run_bind.mp h₅
      have hp' : (disk n).Path _ (tr₆ ++ tr₇) t := hp₃
      obtain ⟨u, hu, hp₄⟩ := World.path_append.mp hp'
      have hwrote := writeByJSON_wrote (hasSuffix_append _ _) hwrite hu
      cases err with
      | some e =>
        obtain ⟨rfl, rfl⟩ := run_ret.mp h₆
        cases hp₄
        rw [List.append_nil]
        refine .wrote p q id nodes ?_ ?_ ?_ ?_ rfl hwrote rfl (by simp) (by simp)
        · simp [did, whole]
        · simp [did, whole]
        · rfl
        · rfl
      | none =>
        obtain ⟨rfl, rfl⟩ := run_ret.mp h₆
        cases hp₄
        rw [List.append_nil]
        refine .wrote p q id nodes ?_ ?_ ?_ ?_ rfl hwrote rfl (by simp) (by simp)
        · simp [did, whole]
        · simp [did, whole]
        · rfl
        · rfl

def RemovesAll (tr : List Ev) : Prop :=
  ∀ i name err, .sub (i, .reply (.osRemove name) (some err)) ∉ tr

theorem RemovesAll.mono {tr' : List Ev} (h : RemovesAll tr) (hsub : ∀ e ∈ tr', e ∈ tr) :
    RemovesAll tr' := fun i name err he => h i name err (hsub _ he)

def removal (i : ℕ) (name : String) : Ev := .sub (i, .reply (.osRemove name) none)

theorem path_removed {i : ℕ} (htr : ∀ e ∈ tr, Bare e ∨ ∃ i, e = removal i name)
    (hi : removal i name ∈ tr) (hp : (disk n).Path s tr t) : t = Function.update s name none := by
  have hkeep : ∀ e ∈ tr, ∀ u v, (disk n).step u e v →
      Function.update u name none = Function.update s name none →
      Function.update v name none = Function.update s name none := by
    intro e he u v hstep hu
    obtain hbare | ⟨j, rfl⟩ := htr e he
    · rwa [hbare.2 n u v hstep]
    · cases hstep
      rwa [Function.update_idem]
  obtain ⟨as, bs, rfl⟩ := List.append_of_mem hi
  obtain ⟨u, hu, v, hv, hrest⟩ := World.path_append.mp hp
  have hsame := World.path_keeps
    (K := fun u => Function.update u name none = Function.update s name none) hu
    (fun e he => hkeep e (by simp [he])) rfl
  cases hv
  rw [hsame] at hrest
  refine World.path_keeps (K := (· = Function.update s name none)) hrest ?_ rfl
  rintro e he u v hstep rfl
  obtain hbare | ⟨j, rfl⟩ := htr e (by simp [he])
  · exact hbare.2 n _ v hstep
  · cases hstep
    rw [Function.update_idem]

def Removing (name : String) (l : Label Act ActR) : Prop :=
  BareGo l ∨ ∃ r, l = .reply (.osRemove name) r

theorem deleteTasks_removing (f : Flags) (dns : String → Option DataNode) (sns : List StorageNode) :
    ∀ p ∈ removeRecord name :: deleteTasks f dns sns,
      Emits alone (onMain (Removing name)) p (fun _ => True) := by
  refine deleteTasks_emits f dns sns ⟨Or.inl ?_, fun r => Or.inr ⟨r, rfl⟩⟩ ?_
  · exact fun _ => ⟨rfl, fun _ _ _ h => h⟩
  · intro a ha hne
    have hbare : bare a = true := by
      cases a <;> first | rfl | exact absurd rfl (hne _) | cases ha
    exact ⟨Or.inl (allows_bareGo hbare).1, fun r => Or.inl ((allows_bareGo hbare).2 r)⟩

/-- The goroutines of the cleanup, beside which the main goroutine removes the file. -/
@[reducible] def cleanup (f : Flags) (name : String) (r : LsBackup) (ss : SsBackup) : Call :=
  .goDetach .deleteResult ss.storageNodes.length
    (deleteTasks f (dataNodeMap r.dnList) ss.storageNodes) (removeRecord name)

theorem cleanup_answered {r : LsBackup} {ss : SsBackup} {log : Log}
    (h : (sem pk).returns (cleanup f name r ss) () log) :
    ∃ err, (0, .reply (.osRemove name) err) ∈ log := by
  obtain ⟨us, hpath, hdone⟩ := h
  obtain ⟨u, hu, hown⟩ := path_program hpath (i := 0) rfl
  rw [List.head?_eq_getElem?, hu, Option.bind_some] at hdone
  obtain ⟨a, ha⟩ := Option.isSome_iff_exists.mp hdone
  rw [Thread.result_eq_some.mp ha] at hown
  obtain ⟨err, ls, hls, -⟩ := Thread.path_call_done hown
  exact ⟨err, mem_own.mp (by simp [hls])⟩

theorem cleanup_bare {r : LsBackup} {ss : SsBackup} {log : Log}
    (h : (sem pk).returns (cleanup f name r ss) () log)
    (hrm : RemovesAll (whole (cleanup f name r ss) () log)) :
    ∀ e ∈ whole (cleanup f name r ss) () log, Bare e ∨ ∃ i, e = removal i name := by
  intro e he
  obtain rfl | ⟨⟨i, l⟩, hx, rfl⟩ | rfl := mem_whole.mp he
  · exact Or.inl ⟨rfl, fun _ _ _ h => h⟩
  · obtain hl | ⟨err, rfl⟩ := path_emits h.choose_spec.1 (deleteTasks_removing f _ _) _ hx
    · exact Or.inl (hl i)
    · cases err with
      | none => exact Or.inr ⟨i, rfl⟩
      | some err => exact absurd he (hrm i name err)
  · exact Or.inl ⟨rfl, fun _ _ _ h => h⟩

theorem cleanup_removes {r : LsBackup} {ss : SsBackup} {log : Log}
    (h : (sem pk).returns (cleanup f name r ss) () log)
    (hrm : RemovesAll (whole (cleanup f name r ss) () log))
    (hp : (disk n).Path s (whole (cleanup f name r ss) () log) t) :
    answers (whole (cleanup f name r ss) () log) = [] ∧ t = Function.update s name none := by
  have hbare := cleanup_bare h hrm
  have hremoved : removal 0 name ∈ whole (cleanup f name r ss) () log := by
    obtain ⟨err, herr⟩ := cleanup_answered h
    have hmem : (.sub (0, .reply (.osRemove name) err) : Ev) ∈ whole (cleanup f name r ss) () log :=
      mem_whole.mpr (Or.inr (Or.inl ⟨_, herr, rfl⟩))
    cases err with
    | none => exact hmem
    | some err => exact absurd hmem (hrm 0 name err)
  refine ⟨List.filterMap_eq_nil_iff.mpr (fun e he => ?_), path_removed hbare hremoved hp⟩
  obtain he | ⟨i, rfl⟩ := hbare e he
  · exact he.1
  · rfl

theorem deleteBackupFiles_removes {r : LsBackup} (hn : HasNodes nodes r)
    (h : Run (sem pk) (deleteBackupFiles f name r .quiet) tr ()) (hrm : RemovesAll tr)
    (hp : (disk n).Path s tr t) :
    answers tr = [] ∧ t = if nodes = [] then s else Function.update s name none := by
  obtain ⟨tr₁, ss, tr₂, hderef, h₁, rfl⟩ := run_bind.mp h
  obtain ⟨rfl, hss⟩ := run_deref hderef
  have hnodes : ss.storageNodes = nodes := by simpa [HasNodes, hss] using hn
  subst hnodes
  rw [List.nil_append] at hp hrm ⊢
  change Run (sem pk) (if _ then _ else _) _ _ at h₁
  split at h₁
  · next hzero =>
    obtain ⟨rfl, -⟩ := run_ret.mp h₁
    cases hp
    rw [if_pos (List.length_eq_zero_iff.mp hzero)]
    exact ⟨rfl, rfl⟩
  · next hzero =>
    obtain ⟨_, log, tr₃, hret, h₂, rfl⟩ := run_call.mp h₁
    obtain ⟨rfl, -⟩ := run_ret.mp h₂
    rw [List.append_nil] at hp hrm ⊢
    rw [if_neg (fun hnil => hzero (List.length_eq_zero_iff.mpr hnil))]
    exact cleanup_removes hret hrm hp

theorem unlock_bare {err : Option Err} (h : Run (sem pk) unlock tr err) : ∀ e ∈ tr, Bare e := by
  obtain ⟨r, tr₁, h₁, rfl⟩ := run_act_inv h
  obtain ⟨rfl, -⟩ := run_ret.mp h₁
  rw [List.append_nil]
  exact bare_did (a := .exec _) rfl r

/-- The deferred function only changes the files if there are an error, a record and a storage
node. -/
theorem deferred_bare {v : Vars} (h : Run (sem pk) (deferred f v) tr ())
    (hv : v.err = none ∨ v.lsBackup = none) : ∀ e ∈ tr, Bare e := by
  cases herr : v.err with
  | none =>
    rw [deferred, herr] at h
    obtain ⟨rfl, -⟩ := run_ret.mp h
    simp
  | some e =>
    have hnone := hv.resolve_left (by simp [herr])
    rw [deferred, herr] at h
    obtain ⟨tr₁, err, tr₂, hunlock, h₁, rfl⟩ := run_bind.mp h
    rw [hnone] at h₁
    obtain ⟨rfl, -⟩ := run_ret.mp h₁
    rw [List.append_nil]
    exact unlock_bare hunlock

theorem deferred_removes {v : Vars} {r : LsBackup} (h : Run (sem pk) (deferred f v) tr ())
    (herr : v.err ≠ none) (hr : v.lsBackup = some r) (hn : HasNodes nodes r) (hrm : RemovesAll tr)
    (hp : (disk n).Path s tr t) :
    answers tr = [] ∧ t = if nodes = [] then s else Function.update s v.filename none := by
  obtain ⟨e, he⟩ := Option.ne_none_iff_exists'.mp herr
  rw [deferred, he] at h
  obtain ⟨tr₁, err, tr₂, hunlock, h₁, rfl⟩ := run_bind.mp h
  obtain ⟨u, hu, hp₁⟩ := World.path_append.mp hp
  have hbare := unlock_bare hunlock
  rw [hr] at h₁
  rw [bare_path hbare hu] at hp₁
  rw [answers_append, bare_answers hbare, List.nil_append]
  exact deleteBackupFiles_removes hn h₁ (hrm.mono (fun e he => by simp [he])) hp₁

/-- What a run leaves of its file. -/
inductive Left (n : ℕ) (id : String) (A : List Answer) : Option ByteArray → Prop
  | whole (r : LsBackup) : HasID id r → (∀ r', .broke r' ∉ A) → Left n id A (some (recordBytes r))
  | broken (r : LsBackup) : HasID id r → .broke r ∈ A → (∀ r', .broke r' ∈ A → r' = r) →
      ((∀ r', .wrote r' ∉ A) ∨ .nodes [] ∈ A) →
      Left n id A (some ((recordBytes r).extract 0 n))
  | removed (r : LsBackup) : .wrote r ∈ A → .nodes [] ∉ A → Left n id A none

/-- What a run of `backup` does to the files: it only changes the one that it creates. -/
inductive Outcome (n : ℕ) (s : Files) (tr : List Ev) : Files → Prop
  | untouched : (∀ a ∈ answers tr, ∃ nodes, a = .nodes nodes) → Outcome n s tr s
  | changed (p q id : String) (x : Option ByteArray) :
      .main (.reply (.act .genFilename) (p, q)) ∈ tr → .main (.reply (.act .newUUID) id) ∈ tr →
      (∀ name, .created name ∈ answers tr ↔ name = p ++ "_" ++ q ++ ".json") →
      Left n id (answers tr) x →
      Outcome n s tr (Function.update s (p ++ "_" ++ q ++ ".json") x)

theorem Outcome.mono {tr' : List Ev} (h : Outcome n s tr t) (hsub : ∀ e ∈ tr, e ∈ tr')
    (hA : answers tr' = answers tr) : Outcome n s tr' t := by
  cases h with
  | untouched hnodes => exact .untouched (hA ▸ hnodes)
  | changed p q id x hname hid hcreated hleft =>
    exact .changed p q id x (hsub _ hname) (hsub _ hid) (hA ▸ hcreated) (hA ▸ hleft)

theorem exported_failed {x : String × Except Err LsBackup} {e : Err} (hx : Exported n s tr t x)
    (he : x.2 = .error e) : Outcome n s tr t := by
  cases hx with
  | untouched _ hnodes => exact .untouched hnodes
  | wrote p q id nodes hname hid hr _ hfile hwrote hA herr _ =>
    cases hwrote with
    | whole => exact absurd rfl (herr e he)
    | refused e' => exact .untouched (by simp [hA])
    | broken e' =>
      rw [hfile] at hA ⊢
      refine .changed p q id _ hname hid (by simp [hA]) (.broken _ hr (by simp [hA]) ?_ ?_)
      · simp [hA]
      · exact Or.inl (by simp [hA])

theorem exported_ok {x : String × Except Err LsBackup} {r : LsBackup} (hx : Exported n s tr t x)
    (hr : x.2 = .ok r) :
    ∃ p q id nodes, .main (.reply (.act .genFilename) (p, q)) ∈ tr ∧
      .main (.reply (.act .newUUID) id) ∈ tr ∧ HasID id r ∧ HasNodes nodes r ∧
      x.1 = p ++ "_" ++ q ++ ".json" ∧ answers tr = [.nodes nodes, .created x.1, .wrote r] ∧
      t = Function.update s x.1 (some (recordBytes r)) := by
  cases hx with
  | untouched he => cases he.symm.trans hr
  | wrote p q id nodes hname hid hid' hnodes hfile hwrote hA _ hok =>
    obtain ⟨rfl, rfl⟩ := hok r hr
    cases hwrote
    exact ⟨p, q, id, nodes, hname, hid, hid', hnodes, hfile, hA, rfl⟩

theorem whole_left (h : Whole s name id A t) :
    ∃ x, t = Function.update s name x ∧ Left n id (.nodes nodes :: A) x := by
  obtain ⟨r, hr, rfl, hA⟩ := h
  refine ⟨_, rfl, .whole r hr (fun r' hr' => ?_)⟩
  have hmem : .broke r' ∈ A := by simpa using hr'
  obtain h | ⟨r', h⟩ := hA _ hmem
  · cases h
  · cases h

theorem broken_left (h : Broken n s name id A t) :
    ∃ x, t = Function.update s name x ∧ Left n id (.nodes [] :: A) x := by
  obtain ⟨r, hr, rfl, hbroke, hA⟩ := h
  refine ⟨_, rfl, .broken r hr (by simp [hbroke]) (fun r' hr' => ?_) (Or.inr (by simp))⟩
  have hmem : .broke r' ∈ A := by simpa using hr'
  obtain h | ⟨r', h⟩ | h := hA _ hmem
  · cases h
  · cases h
  · cases h
    rfl

theorem later_answers {v : Vars} (h : Later n s name id nodes A t v) {a : Answer} (ha : a ∈ A) :
    a = .created name ∨ (∃ r, a = .wrote r) ∨ ∃ r, a = .broke r := by
  obtain ⟨r, -, -, hA⟩ | ⟨-, r, -, -, -, hA⟩ := h.content
  · exact (hA a ha).imp_right Or.inl
  · exact (hA a ha).imp_right (Or.imp_right (fun h => ⟨r, h⟩))

theorem later_left {v : Vars} {r : LsBackup} (hl : Later n s name id nodes A t v)
    (hwrote : .wrote r ∈ A) (h : Run (sem pk) (deferred f v) tr ()) (hrm : RemovesAll tr)
    (hp : (disk n).Path t tr t') :
    answers tr = [] ∧ ∃ x, t' = Function.update s name x ∧ Left n id (.nodes nodes :: A) x := by
  by_cases herr : v.err = none
  · have hbare := deferred_bare h (Or.inl herr)
    have hwhole := hl.content.resolve_right (fun hb => hb.1 herr)
    rw [bare_path hbare hp]
    exact ⟨bare_answers hbare, whole_left hwhole⟩
  · obtain ⟨r', hr', hn⟩ := hl.record
    obtain ⟨hA, ht⟩ := deferred_removes h herr hr' hn hrm hp
    refine ⟨hA, ?_⟩
    by_cases hnil : nodes = []
    · rw [if_pos hnil] at ht
      subst ht hnil
      rcases hl.content with hwhole | ⟨-, hbroken⟩
      · exact whole_left hwhole
      · exact broken_left hbroken
    · rw [if_neg hnil, hl.filename] at ht
      have hnodes : .nodes [] ∉ .nodes nodes :: A := by
        intro hmem
        obtain heq | hmem := List.mem_cons.mp hmem
        · cases heq
          exact hnil rfl
        · obtain h | ⟨r, h⟩ | ⟨r, h⟩ := later_answers hl hmem <;> cases h
      refine ⟨none, ?_, .removed r (by simp [hwrote]) hnodes⟩
      obtain ⟨r₀, -, rfl, -⟩ | ⟨-, r₀, -, rfl, -⟩ := hl.content
      · rw [ht, Function.update_idem]
      · rw [ht, Function.update_idem]

theorem backupChecks_outcome {r : LsBackup} {v : Vars} {res : Option Err} {u : Files}
    {tr₁ tr₂ : List Ev} (hx : Exported n s tr u (name, .ok r))
    (h : Run (sem pk) (backupChecks f name r) tr₁ (v, res)) (hp : (disk n).Path u tr₁ t)
    (hd : Run (sem pk) (deferred f v) tr₂ ()) (hrm : RemovesAll tr₂)
    (hp' : (disk n).Path t tr₂ t') : Outcome n s (tr ++ tr₁ ++ tr₂) t' := by
  obtain ⟨p, q, id, nodes, hname, hid, hr, hn, rfl, hA, rfl⟩ := exported_ok hx rfl
  have hwhole : Whole s (p ++ "_" ++ q ++ ".json") id
      [.created (p ++ "_" ++ q ++ ".json"), .wrote r]
      (Function.update s (p ++ "_" ++ q ++ ".json") (some (recordBytes r))) :=
    ⟨r, hr, rfl, by simp⟩
  have hlater := backupChecks_later h (hasSuffix_append _ _) hwhole hr hn hp
  obtain ⟨hnil, x, rfl, hleft⟩ := later_left (r := r) hlater (by simp) hd hrm hp'
  have hall : answers (tr ++ tr₁ ++ tr₂) =
      .nodes nodes :: ([Answer.created (p ++ "_" ++ q ++ ".json"), .wrote r] ++ answers tr₁) := by
    simp [answers_append, hnil, hA]
  rw [← hall] at hleft
  refine .changed p q id x (by simp [hname]) (by simp [hid]) (fun name => ?_) hleft
  rw [hall]
  constructor
  · intro hmem
    have hmem : Answer.created name ∈
        [Answer.created (p ++ "_" ++ q ++ ".json"), .wrote r] ++ answers tr₁ := by
      simpa using hmem
    obtain h | ⟨r, h⟩ | ⟨r, h⟩ := later_answers hlater hmem <;> cases h
    rfl
  · rintro rfl
    simp

/-- How far a run of `backup` gets. -/
inductive Stages (pk : Packages) (f : Flags) : List Ev → Option Err → Prop
  | early {tr : List Ev} {e : Err} : (∀ e ∈ tr, Bare e) → Stages pk f tr (some e)
  | unsaved {before tr after : List Ev} {filename name : String} {e e' : Err} :
      (∀ e ∈ before, Bare e) → Run (sem pk) (exportData f filename) tr (name, .error e) →
      (∀ e ∈ after, Bare e) → Stages pk f (before ++ (tr ++ after)) (some e')
  | saved {before tr tr₁ tr₂ : List Ev} {filename name : String} {r : LsBackup} {v : Vars}
      {res : Option Err} :
      (∀ e ∈ before, Bare e) → Run (sem pk) (exportData f filename) tr (name, .ok r) →
      Run (sem pk) (backupChecks f name r) tr₁ (v, res) → Run (sem pk) (deferred f v) tr₂ () →
      Stages pk f (before ++ (tr ++ tr₁ ++ tr₂)) res

theorem Stages.after {before : List Ev} {res : Option Err} (h : Stages pk f tr res)
    (hbefore : ∀ e ∈ before, Bare e) : Stages pk f (before ++ tr) res := by
  have happend : ∀ {tr' : List Ev}, (∀ e ∈ tr', Bare e) → ∀ e ∈ before ++ tr', Bare e := by
    intro tr' htr' e he
    rcases List.mem_append.mp he with he | he
    · exact hbefore e he
    · exact htr' e he
  cases h with
  | early hbare => exact .early (happend hbare)
  | unsaved hbare hexport hafter =>
    rw [← List.append_assoc]
    exact .unsaved (happend hbare) hexport hafter
  | saved hbare hexport hchecks hdeferred =>
    rw [← List.append_assoc]
    exact .saved (happend hbare) hexport hchecks hdeferred

theorem backupSteps_stages {filename : String} {v : Vars} {res : Option Err} {tr' : List Ev}
    (h : Run (sem pk) (backupSteps f filename) tr (v, res))
    (hd : Run (sem pk) (deferred f v) tr' ()) : Stages pk f (tr ++ tr') res := by
  obtain ⟨err, tr₁, h₁, rfl⟩ := run_act_inv h
  have hlock := bare_did (a := .exec .lockForBackup) rfl err
  rw [List.append_assoc]
  refine Stages.after ?_ hlock
  have hnone : ∀ e ∈ ([] : List Ev), Bare e := by simp
  cases err with
  | some e =>
    obtain ⟨rfl, heq⟩ := run_ret.mp h₁
    cases heq
    exact .early (deferred_bare hd (Or.inr rfl))
  | none =>
    change Run (sem pk) (exportData f filename >>= _) _ _ at h₁
    obtain ⟨tr₂, x, tr₃, hexport, h₂, rfl⟩ := run_bind.mp h₁
    obtain ⟨name, e | r⟩ := x
    · obtain ⟨rfl, heq⟩ := run_ret.mp h₂
      cases heq
      rw [List.append_nil]
      have hunsaved : Stages pk f ([] ++ (tr₂ ++ tr'))
          (some ("export backup data failed. err: " ++ e)) :=
        .unsaved hnone hexport (deferred_bare hd (Or.inr rfl))
      exact hunsaved
    · have hsaved : Stages pk f ([] ++ (tr₂ ++ tr₃ ++ tr')) res := .saved hnone hexport h₂ hd
      exact hsaved

theorem backup_stages {filename : String} {res : Option Err}
    (h : Run (sem pk) (backup f filename) tr res) : Stages pk f tr res := by
  obtain ⟨err, tr₁, h₁, rfl⟩ := run_act_inv h
  refine Stages.after ?_ (bare_did (a := .newShardingSphereProxy _ _ _ _ _) rfl err)
  cases err with
  | some e =>
    obtain ⟨rfl, rfl⟩ := run_ret.mp h₁
    exact .early (by simp)
  | none =>
    obtain ⟨err, tr₂, h₂, rfl⟩ := run_act_inv h₁
    refine Stages.after ?_ (bare_did (a := .newLocalStorage _) rfl err)
    cases err with
    | some e =>
      obtain ⟨rfl, rfl⟩ := run_ret.mp h₂
      exact .early (by simp)
    | none =>
      change Run (sem pk) (backupSteps f filename >>= fun x => deferred f x.1 >>= fun _ => .ret x.2)
        _ _ at h₂
      obtain ⟨tr₃, ⟨v, res'⟩, tr₄, hsteps, h₃, rfl⟩ := run_bind.mp h₂
      obtain ⟨tr₅, _, tr₆, hdeferred, h₄, rfl⟩ := run_bind.mp h₃
      obtain ⟨rfl, rfl⟩ := run_ret.mp h₄
      rw [List.append_nil]
      exact backupSteps_stages hsteps hdeferred

theorem backup_outcome {filename : String} {res : Option Err}
    (h : Run (sem pk) (backup f filename) tr res) (hrm : RemovesAll tr)
    (hp : (disk n).Path s tr t) : Outcome n s tr t := by
  cases backup_stages h with
  | early hbare =>
    rw [bare_path hbare hp]
    exact .untouched (by simp [bare_answers hbare])
  | unsaved hbefore hexport hafter =>
    obtain ⟨u, hu, hp₁⟩ := World.path_append.mp hp
    obtain ⟨u₁, hu₁, hp₂⟩ := World.path_append.mp hp₁
    rw [bare_path hbefore hu] at hu₁
    rw [bare_path hafter hp₂]
    refine (exported_failed (exportData_exported hexport hu₁) rfl).mono (fun e he => by simp [he]) ?_
    simp [answers_append, bare_answers hbefore, bare_answers hafter]
  | @saved _ _ _ tr₂ _ _ _ _ _ hbefore hexport hchecks hdeferred =>
    obtain ⟨u, hu, hp₁⟩ := World.path_append.mp hp
    obtain ⟨u₁, hu₁, hp₂⟩ := World.path_append.mp hp₁
    obtain ⟨u₂, hu₂, hp₃⟩ := World.path_append.mp hu₁
    rw [bare_path hbefore hu] at hu₂
    have hrm' : RemovesAll tr₂ := hrm.mono (fun e he => by simp [he])
    refine (backupChecks_outcome (exportData_exported hexport hu₂) hchecks hp₃ hdeferred hrm'
      hp₂).mono (fun e he => by simp_all) ?_
    simp [answers_append, bare_answers hbefore]

end Steps

end ShardingOnCloud.Pitr.BackupFiles
