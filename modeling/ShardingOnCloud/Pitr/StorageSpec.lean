import ShardingOnCloud.Pitr.Restore

namespace ShardingOnCloud.Pitr.StorageSpec

open ShardingOnCloud.Lib.Program ShardingOnCloud.Pitr.Model ShardingOnCloud.Pitr.Calls
open ShardingOnCloud.Pitr.LocalStorage ShardingOnCloud.Pitr.Backup ShardingOnCloud.Pitr.Restore

variable {pk : Packages}

theorem writeByJSON_inv {f : Flags} {name : String} {r : LsBackup} {tr : List Ev}
    (h : Run (sem pk) (writeByJSON f name r) tr none) :
    hasSuffix name ".json" = true ∧
      tr = did (.osCreate name) none ++ did (.fileWrite name r) none := by
  unfold writeByJSON at h
  split at h
  · next hj =>
    obtain ⟨err, tr₁, h₁, rfl⟩ := run_act_inv h
    cases err with
    | some err => cases (run_ret.mp h₁).2
    | none =>
      obtain ⟨err, tr₂, h₂, rfl⟩ := run_act_inv h₁
      rcases err with _ | ⟨err, data⟩
      · obtain ⟨rfl, -⟩ := run_ret.mp h₂
        exact ⟨hj, by simp⟩
      · cases (run_ret.mp h₂).2
  · cases (run_ret.mp h).2

theorem hideByName_inv {name : String} {tr : List Ev}
    (h : Run (sem pk) (hideByName name) tr none) : tr = did (.osRename name (hided name)) none := by
  obtain ⟨err, tr', h', rfl⟩ := run_act_inv h
  cases err with
  | some err => cases (run_ret.mp h').2
  | none =>
    obtain ⟨rfl, -⟩ := run_ret.mp h'
    simp

theorem deleteByName_inv {name : String} {tr : List Ev}
    (h : Run (sem pk) (inMain (deleteByName name)) tr none) : tr = did (.osRemove name) none := by
  obtain ⟨err, tr', h', rfl⟩ := run_act_inv h
  cases err with
  | some err => cases (run_ret.mp h').2
  | none =>
    obtain ⟨rfl, -⟩ := run_ret.mp h'
    simp

/-- The entries that `ReadAll` looks into. -/
def visible (entry : DirEntry) : Bool := !(entry.isDir || startsWith entry.name ".")

/-- The record that `ReadAll` makes of an entry, if it makes one. -/
def recordOf (entry : DirEntry) : Option LsBackup :=
  if visible entry && hasSuffix entry.name ".json" then
    match entry.file with
    | .ok (.ok b) =>
      b.info.map (fun info => { b with info := some { info with fileName := entry.name } })
    | _ => none
  else none

/-- An entry that does not keep `ReadAll` from its end. -/
def Fine (entry : DirEntry) : Prop :=
  visible entry = true → entry.info = none ∧
    (hasSuffix entry.name ".json" = true → (recordOf entry).isSome = true)

theorem recordOf_eq_some {entry : DirEntry} {b : LsBackup} :
    recordOf entry = some b ↔ visible entry = true ∧ hasSuffix entry.name ".json" = true ∧
      ∃ r info, entry.file = .ok (.ok r) ∧ r.info = some info ∧
        b = { r with info := some { info with fileName := entry.name } } := by
  unfold recordOf
  by_cases hv : visible entry = true
  · by_cases hj : hasSuffix entry.name ".json" = true
    · rcases hfile : entry.file with err | (err | r)
      · simp
      · simp
      · cases hinfo : r.info with
        | none => simp [hinfo]
        | some info => simp [hv, hj, hinfo, eq_comm]
    · simp [hj]
  · simp [hv]

theorem recordOf_fileName {entry : DirEntry} {b : LsBackup} (h : recordOf entry = some b) :
    b.info.map (·.fileName) = some entry.name := by
  obtain ⟨-, -, r, info, -, -, rfl⟩ := recordOf_eq_some.mp h
  rfl

theorem readEntries_skip (f : Flags) {entry : DirEntry} (hf : Fine entry)
    (h : recordOf entry = none) (entries : List DirEntry) (backups : List LsBackup) :
    readEntries f (entry :: entries) backups = readEntries f entries backups := by
  rw [readEntries]
  by_cases hv : (entry.isDir || startsWith entry.name ".") = true
  · rw [if_pos hv]
  · have hvis : visible entry = true := by simpa [visible] using hv
    obtain ⟨hinfo, hsome⟩ := hf hvis
    have hj : hasSuffix entry.name ".json" ≠ true := by
      intro hj
      have := hsome hj
      rw [h] at this
      cases this
    rw [if_neg hv, hinfo]
    exact if_neg hj

theorem readEntries_take (f : Flags) {entry : DirEntry} {b : LsBackup} (hf : Fine entry)
    (h : recordOf entry = some b) (entries : List DirEntry) (backups : List LsBackup) :
    readEntries f (entry :: entries) backups = readEntries f entries (backups ++ [b]) := by
  obtain ⟨hvis, hj, r, info, hfile, hinfo, rfl⟩ := recordOf_eq_some.mp h
  have hv : ¬(entry.isDir || startsWith entry.name ".") = true := by
    simpa [visible] using hvis
  rw [readEntries, if_neg hv, (hf hvis).1]
  simp only [hj, if_true, hfile, hinfo]
  rfl

/-- An entry that is not fine ends the loop with an error or a panic. -/
theorem readEntries_stop {f : Flags} {entry : DirEntry} (hf : ¬Fine entry)
    {entries : List DirEntry} {backups list : List LsBackup} {tr : List Ev} :
    ¬Run (sem pk) (readEntries f (entry :: entries) backups) tr (.ok list) := by
  intro h
  rw [readEntries] at h
  split at h
  · next hv =>
    refine hf (fun hvis => ?_)
    simp [visible, hv] at hvis
  · split at h
    · cases (run_ret.mp h).2
    · cases (run_ret.mp h).2
    · next hinfo =>
      split at h
      · next hj =>
        split at h
        · cases (run_ret.mp h).2
        · cases (run_ret.mp h).2
        · next r hfile =>
          obtain ⟨tr₁, info, tr₂, hderef, -, -⟩ := run_bind.mp h
          refine hf (fun hvis => ⟨hinfo, fun _ => ?_⟩)
          rw [recordOf_eq_some.mpr ⟨hvis, hj, r, info, hfile, (run_deref hderef).2, rfl⟩]
          rfl
      · next hj => exact hf (fun _ => ⟨hinfo, fun h => absurd h hj⟩)

theorem readEntries_eq (f : Flags) {entries : List DirEntry}
    (h : ∀ entry ∈ entries, Fine entry) (backups : List LsBackup) :
    readEntries f entries backups = .ret (.ok (backups ++ entries.filterMap recordOf)) := by
  induction entries generalizing backups with
  | nil => simp [readEntries, pure]
  | cons entry entries ih =>
    obtain ⟨hf, hrest⟩ := List.forall_mem_cons.mp h
    rw [List.filterMap_cons]
    cases hrec : recordOf entry with
    | none => rw [readEntries_skip f hf hrec, ih hrest]
    | some b =>
      rw [readEntries_take f hf hrec, ih hrest, List.append_assoc]
      rfl

theorem readEntries_fine {f : Flags} {entries : List DirEntry} {backups list : List LsBackup}
    {tr : List Ev} (h : Run (sem pk) (readEntries f entries backups) tr (.ok list)) :
    ∀ entry ∈ entries, Fine entry := by
  induction entries generalizing backups with
  | nil => simp
  | cons entry entries ih =>
    have hf : Fine entry := by
      by_contra hf
      exact readEntries_stop hf h
    rw [List.forall_mem_cons]
    refine ⟨hf, ?_⟩
    cases hrec : recordOf entry with
    | none =>
      rw [readEntries_skip f hf hrec] at h
      exact ih h
    | some b =>
      rw [readEntries_take f hf hrec] at h
      exact ih h

theorem readEntries_run {f : Flags} {entries : List DirEntry} {backups list : List LsBackup}
    {tr : List Ev} :
    Run (sem pk) (readEntries f entries backups) tr (.ok list) ↔
      tr = [] ∧ (∀ entry ∈ entries, Fine entry) ∧ list = backups ++ entries.filterMap recordOf := by
  constructor
  · intro h
    have hfine := readEntries_fine h
    rw [readEntries_eq f hfine] at h
    obtain ⟨rfl, hlist⟩ := run_ret.mp h
    cases hlist
    exact ⟨rfl, hfine, rfl⟩
  · rintro ⟨rfl, hfine, rfl⟩
    rw [readEntries_eq f hfine]
    exact Run.ret _

/-- `ReadAll` succeeds if no entry is in its way, and returns a record for each
visible record file. -/
theorem readAll_run {f : Flags} {list : List LsBackup} {tr : List Ev} :
    Run (sem pk) (readAll f) tr (.ok list) ↔ ∃ entries, tr = did .readDir (.ok entries) ∧
      (∀ entry ∈ entries, Fine entry) ∧ list = entries.filterMap recordOf := by
  constructor
  · intro h
    obtain ⟨r, tr', h', rfl⟩ := run_act_inv h
    cases r with
    | error err => cases (run_ret.mp h').2
    | ok entries =>
      obtain ⟨rfl, hfine, rfl⟩ := readEntries_run.mp h'
      exact ⟨entries, by simp, hfine, rfl⟩
  · rintro ⟨entries, rfl, hfine, rfl⟩
    have h : Run (sem pk) (readEntries f entries []) [] (.ok (entries.filterMap recordOf)) :=
      readEntries_run.mpr ⟨rfl, hfine, rfl⟩
    have hrun : Run (sem pk) (readAll f) (did .readDir (.ok entries) ++ []) _ :=
      run_act (a := .readDir) (r := .ok entries) h
    rwa [List.append_nil] at hrun

theorem readAllByCSN_run {f : Flags} {csn : String} {list : List LsBackup} {tr : List Ev} :
    Run (sem pk) (readAllByCSN f csn) tr (.ok list) ↔ ∃ all, Run (sem pk) (readAll f) tr (.ok all) ∧
      list = all.filter (fun v => decide (v.info.map (·.csn) = some csn)) := by
  constructor
  · intro h
    obtain ⟨tr₁, r, tr₂, hall, h₁, rfl⟩ := run_bind.mp h
    cases r with
    | error err => cases (run_ret.mp h₁).2
    | ok all =>
      obtain ⟨rfl, hlist⟩ := run_ret.mp h₁
      cases hlist
      exact ⟨all, by simpa using hall, rfl⟩
  · rintro ⟨all, hall, rfl⟩
    exact run_bind.mpr ⟨tr, .ok all, [], hall, Run.ret _, by simp⟩

/-- The answer of `ReadByID` when the records are read. -/
def firstByID (all : List LsBackup) (id : String) : Except Err LsBackup :=
  match all.find? (fun v => decide (v.info.map (·.id) = some id)) with
  | some v => .ok v
  | none => .error "Not found"

theorem readByID_of_readAll {f : Flags} {id : String} {all : List LsBackup} {tr : List Ev}
    (h : Run (sem pk) (readAll f) tr (.ok all)) :
    Run (sem pk) (readByID f id) tr (firstByID all id) := by
  refine run_bind.mpr ⟨tr, .ok all, [], h, ?_, by simp⟩
  cases hfind : all.find? (fun v => decide (v.info.map (·.id) = some id)) with
  | none =>
    simp only [firstByID, hfind]
    exact Run.ret _
  | some v =>
    simp only [firstByID, hfind]
    exact Run.ret _

theorem readByID_run {f : Flags} {id : String} {b : LsBackup} {tr : List Ev}
    (h : Run (sem pk) (readByID f id) tr (.ok b)) :
    ∃ all, Run (sem pk) (readAll f) tr (.ok all) ∧ firstByID all id = .ok b := by
  obtain ⟨tr₁, r, tr₂, hall, h₁, rfl⟩ := run_bind.mp h
  cases r with
  | error err => cases (run_ret.mp h₁).2
  | ok all =>
    dsimp only at h₁
    split at h₁
    · next v hfind =>
      obtain ⟨rfl, hb⟩ := run_ret.mp h₁
      cases hb
      exact ⟨all, by simpa using hall, by simp only [firstByID, hfind]⟩
    · cases (run_ret.mp h₁).2

theorem firstByID_ok {all : List LsBackup} {id : String} {b : LsBackup}
    (h : firstByID all id = .ok b) : b ∈ all ∧ b.info.map (·.id) = some id := by
  unfold firstByID at h
  split at h
  · next v hv =>
    cases h
    exact ⟨List.mem_of_find?_eq_some hv, by simpa using List.find?_some hv⟩
  · cases h

/-- What `ReadAllByCSN` and `ReadByID` answer once `ReadAll` has succeeded. -/
theorem readAllByCSN_of_readAll {f : Flags} {csn : String} {tr : List Ev}
    {res : Except Err (List LsBackup)} (h : Run (sem pk) (readAllByCSN f csn) tr res)
    {list : List LsBackup}
    (hall : ∀ {tr' r}, tr' <+: tr → Run (sem pk) (readAll f) tr' r → r = .ok list) :
    res = .ok (list.filter (fun v => decide (v.info.map (·.csn) = some csn))) := by
  obtain ⟨tr₁, r, tr₂, hread, h₁, rfl⟩ := run_bind.mp h
  rw [hall (List.prefix_append _ _) hread] at h₁
  exact (run_ret.mp h₁).2

theorem readByID_first {f : Flags} {id : String} {tr : List Ev} {res : Except Err LsBackup}
    (h : Run (sem pk) (readByID f id) tr res) {list : List LsBackup}
    (hall : ∀ {tr' r}, tr' <+: tr → Run (sem pk) (readAll f) tr' r → r = .ok list) :
    res = firstByID list id := by
  obtain ⟨tr₁, r, tr₂, hread, h₁, rfl⟩ := run_bind.mp h
  rw [hall (List.prefix_append _ _) hread] at h₁
  dsimp only at h₁
  split at h₁
  · next v hfind =>
    rw [firstByID, hfind]
    exact (run_ret.mp h₁).2
  · next hfind =>
    rw [firstByID, hfind]
    exact (run_ret.mp h₁).2

def Listed (evs : List Ev) (b : LsBackup) : Prop :=
  ∃ entries, .main (.reply (.act .readDir) (.ok entries)) ∈ evs ∧ b ∈ entries.filterMap recordOf

theorem Listed.mono {evs evs' : List Ev} {b : LsBackup} (h : Listed evs b)
    (hsub : ∀ e ∈ evs, e ∈ evs') : Listed evs' b := by
  obtain ⟨entries, hm, hb⟩ := h
  exact ⟨entries, hsub _ hm, hb⟩

theorem readAll_listed {f : Flags} {list : List LsBackup} {tr : List Ev}
    (h : Run (sem pk) (readAll f) tr (.ok list)) : ∀ b ∈ list, Listed tr b := by
  obtain ⟨entries, rfl, -, rfl⟩ := readAll_run.mp h
  exact fun b hb => ⟨entries, by simp [did, whole], hb⟩

theorem validateByCSN_listed {f : Flags} {list : List LsBackup} {tr : List Ev}
    (h : Run (sem pk) (validateByCSN f) tr (.ok list)) :
    ∀ b ∈ list, Listed tr b ∧ f.csn ≠ "" ∧ b.info.map (·.csn) = some f.csn := by
  unfold validateByCSN at h
  split at h
  · next hcsn =>
    obtain ⟨tr₁, r, tr₂, hread, h₁, rfl⟩ := run_bind.mp h
    cases r with
    | error err => cases (run_ret.mp h₁).2
    | ok baks =>
      obtain ⟨all, hall, rfl⟩ := readAllByCSN_run.mp hread
      cases (run_ret.mp h₁).2
      intro b hb
      obtain ⟨hb, hb'⟩ := List.mem_filter.mp hb
      exact ⟨(readAll_listed hall b hb).mono (fun e he => by simp [he]), hcsn, by simpa using hb'⟩
  · cases (run_ret.mp h).2
    simp

theorem validateByID_listed {f : Flags} {baks list : List LsBackup} {tr : List Ev}
    (h : Run (sem pk) (validateByID f baks) tr (.ok list)) :
    ∀ b ∈ list, b ∈ baks ∨ (Listed tr b ∧ b.info.map (·.id) = some f.recordID) := by
  unfold validateByID at h
  split at h
  · obtain ⟨tr₁, r, tr₂, hread, h₁, rfl⟩ := run_bind.mp h
    cases r with
    | error err => cases (run_ret.mp h₁).2
    | ok b' =>
      cases (run_ret.mp h₁).2
      intro b hb
      rcases List.mem_append.mp hb with hb | hb
      · exact Or.inl hb
      · rw [List.mem_singleton.mp hb]
        obtain ⟨all, hall, hfirst⟩ := readByID_run hread
        obtain ⟨hmem, hid⟩ := firstByID_ok hfirst
        exact Or.inr ⟨(readAll_listed hall _ hmem).mono (fun e he => by simp [he]), hid⟩
  · cases (run_ret.mp h).2
    exact fun b hb => Or.inl hb

/-- The record that `validate` returns was read from the directory, with the CSN
or the ID that was asked for. -/
theorem validate_listed {f : Flags} {bak : LsBackup} {tr : List Ev}
    (h : Run (sem pk) (validate f) tr (.ok bak)) :
    Listed tr bak ∧ ((f.csn ≠ "" ∧ bak.info.map (·.csn) = some f.csn) ∨
      bak.info.map (·.id) = some f.recordID) := by
  obtain ⟨tr₁, r, tr₂, hcsn, h₁, rfl⟩ := run_bind.mp h
  cases r with
  | error err => cases (run_ret.mp h₁).2
  | ok baks =>
    obtain ⟨tr₃, r, tr₄, hid, h₂, rfl⟩ := run_bind.mp h₁
    rcases r with err | (_ | ⟨b, _ | ⟨b', bs⟩⟩)
    · cases (run_ret.mp h₂).2
    · cases (run_ret.mp h₂).2
    · cases (run_ret.mp h₂).2
      rcases validateByID_listed hid bak (by simp) with hb | ⟨hl, hb⟩
      · obtain ⟨hl, hb⟩ := validateByCSN_listed hcsn bak hb
        exact ⟨hl.mono (fun e he => by simp [he]), Or.inl hb⟩
      · exact ⟨hl.mono (fun e he => by simp [he]), Or.inr hb⟩
    · cases (run_ret.mp h₂).2

theorem findRecord_listed {f : Flags} {bak : LsBackup} {tr : List Ev}
    (h : Run (sem pk) (findRecord f) tr (.ok bak)) : Listed tr bak := by
  obtain ⟨r, tr₁, h₁, rfl⟩ := run_act_inv h
  cases r with
  | some err => cases (run_ret.mp h₁).2
  | none =>
    obtain ⟨r, tr₂, h₂, rfl⟩ := run_act_inv h₁
    cases r with
    | some err => cases (run_ret.mp h₂).2
    | none => exact (validate_listed h₂).1.mono (fun e he => by simp [he])

end ShardingOnCloud.Pitr.StorageSpec
