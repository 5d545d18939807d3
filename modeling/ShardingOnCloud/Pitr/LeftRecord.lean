import ShardingOnCloud.Pitr.FailedBackup

namespace ShardingOnCloud.Pitr.LeftRecord

open ShardingOnCloud.Lib.Program ShardingOnCloud.Lib.Assertions ShardingOnCloud.Lib.Pool
open ShardingOnCloud.Pitr.Model ShardingOnCloud.Pitr.Calls ShardingOnCloud.Pitr.LocalStorage
open ShardingOnCloud.Pitr.Backup ShardingOnCloud.Pitr.BackupSpec ShardingOnCloud.Pitr.BackupRuns
open ShardingOnCloud.Pitr.ClusterLock ShardingOnCloud.Pitr.Encoding ShardingOnCloud.Pitr.StorageSpec
open ShardingOnCloud.Pitr.RecordFiles ShardingOnCloud.Pitr.BackupFiles
open ShardingOnCloud.Pitr.FailedBackup

variable {pk : Packages} {f : Flags} {msg : ByteArray → Err} {n : ℕ} {s t : Files} {tr : List Ev}

/-- `ReadAll` looks into the file of this name. -/
def Sees (entries : List DirEntry) (name : String) : Prop :=
  ∃ entry ∈ entries, entry.name = name ∧ visible entry = true ∧
    hasSuffix entry.name ".json" = true

/-- No file that the run has created is seen by `ReadAll`. -/
def NoneSeen (tr : List Ev) (entries : List DirEntry) : Prop :=
  ∀ name, .created name ∈ answers tr → ¬Sees entries name

/-- A run that creates a file has storage nodes to back up, and the first write into the
file succeeds. -/
def Cleaned (tr : List Ev) : Prop :=
  ∀ name, .created name ∈ answers tr → .nodes [] ∉ answers tr ∧ ∃ r, .wrote r ∈ answers tr

theorem sees_iff {name : String} {entries : List DirEntry} (hl : Listing msg t entries)
    (hvisible : startsWith name "." = false) (hjson : hasSuffix name ".json" = true) :
    Sees entries name ↔ t name ≠ none := by
  constructor
  · rintro ⟨entry, hentry, rfl, -, -⟩
    obtain ⟨name, bytes, hs, rfl⟩ := (hl.mem_iff entry).mp hentry
    change t name ≠ none
    simp [hs]
  · intro hs
    obtain ⟨bytes, hbytes⟩ := Option.ne_none_iff_exists'.mp hs
    refine ⟨entryOf msg name bytes, (hl.mem_iff _).mpr ⟨name, bytes, hbytes, rfl⟩, rfl, ?_, hjson⟩
    simp [visible, entryOf, hvisible]

section Captured

/-- An error that `backup` returns is captured by the deferred function. -/
def Captures (x : Vars × Option Err) : Prop := x.1.err = none → x.2 = none

theorem allows_any (a : Act) : Allows (fun _ => True) a := ⟨trivial, fun _ => trivial⟩

theorem writeByJSON_any (name : String) (r : LsBackup) :
    Emits (sem pk) (fun _ => True) (writeByJSON f name r) (fun _ => True) :=
  writeByJSON_emits f name r (allows_any _) (allows_any _)

theorem backupTail_captures (name : String) (r : LsBackup) :
    Emits (sem pk) (fun _ => True) (backupTail f name r) Captures := by
  refine emits_bind (writeByJSON_any name r) (fun err _ => ?_)
  cases err with
  | some e =>
    intro h
    cases h
  | none =>
    refine emits_bind (checkBackupStatus_emits (L := fun _ => True) f r (allows_any _) (allows_any _)
      (fun _ _ => ⟨trivial, fun _ => trivial⟩) (fun _ _ _ => trivial)
      (fun _ _ => ⟨trivial, fun _ => trivial⟩)) (fun x _ => ?_)
    obtain ⟨r', status⟩ := x
    change Emits (sem pk) _ (if _ then _ else _) _
    split
    · intro h
      cases h
    · refine emits_bind (writeByJSON_any name r') (fun err _ => ?_)
      cases err with
      | some e =>
        intro h
        cases h
      | none => exact fun _ => rfl

theorem backupCut_captures (name : String) (r : LsBackup) :
    Emits (sem pk) (fun _ => True) (backupCut f name r) Captures := by
  refine emits_bind (execBackup_emits (L := fun _ => True) f r (allows_any _)
    (fun _ _ => ⟨trivial, fun _ => trivial⟩) (fun _ _ _ => trivial)
    (fun _ _ => ⟨trivial, fun _ => trivial⟩)) (fun x _ => ?_)
  obtain ⟨r', err⟩ := x
  cases err with
  | some e =>
    intro h
    cases h
  | none =>
    refine emits_act (allows_any _) (fun err => ?_)
    cases err with
    | some e =>
      intro h
      cases h
    | none => exact backupTail_captures name r'

theorem backupChecks_captures (name : String) (r : LsBackup) :
    Emits (sem pk) (fun _ => True) (backupChecks f name r) Captures := by
  refine emits_bind (checkAgentServerStatus_emits f (allows_any _) (fun _ _ => allows_any _) r)
    (fun available _ => ?_)
  cases available with
  | false =>
    intro h
    cases h
  | true =>
    refine emits_bind (checkDiskSpace_emits f (allows_any _) (fun _ _ => allows_any _) r)
      (fun err herr => ?_)
    subst herr
    refine emits_act (allows_any _) (fun err => ?_)
    cases err with
    | some e =>
      intro h
      cases h
    | none => exact backupCut_captures name r

end Captured

/-- What has become of the file that a failed run has created. -/
inductive Fate (tr : List Ev) (t : Files) : Prop
  | none : (∀ name, .created name ∉ answers tr) → Fate tr t
  | one (p q : String) : .main (.reply (.act .genFilename) (p, q)) ∈ tr →
      (∀ name, .created name ∈ answers tr ↔ name = p ++ "_" ++ q ++ ".json") →
      (t (p ++ "_" ++ q ++ ".json") = none ↔ Cleaned tr) → Fate tr t

section Fates

variable {name id : String} {nodes : List StorageNode} {A : List Answer} {v : Vars} {r : LsBackup}
  {u : Files} {tr₁ tr₂ : List Ev} {e : Err}

theorem unsaved_fate {x : String × Except Err LsBackup} (hx : Exported n s tr t x)
    (he : x.2 = .error e) : Fate tr t := by
  cases hx with
  | untouched _ hnodes =>
    refine .none (fun name hname => ?_)
    obtain ⟨nodes, h⟩ := hnodes _ hname
    cases h
  | wrote p q id nodes hname _ _ _ hfile hwrote hA herr _ =>
    cases hwrote with
    | whole => exact absurd rfl (herr e he)
    | refused e' => exact .none (by simp [hA])
    | broken e' =>
      rw [hfile] at hA ⊢
      have hcleaned : ¬Cleaned tr := by
        intro h
        obtain ⟨-, r, hr⟩ := h (p ++ "_" ++ q ++ ".json") (by simp [hA])
        simp [hA] at hr
      refine .one p q hname (by simp [hA]) (iff_of_false ?_ hcleaned)
      simp

theorem later_kept (h : Later n s name id nodes A t v) : t name ≠ none := by
  obtain ⟨r, -, rfl, -⟩ | ⟨-, r, -, rfl, -⟩ := h.content
  · simp
  · simp

theorem saved_fate (hx : Exported n s tr u (name, .ok r))
    (h : Run (sem pk) (backupChecks f name r) tr₁ (v, some e)) {u' : Files}
    (hp : (disk n).Path u tr₁ u') (hd : Run (sem pk) (deferred f v) tr₂ ()) (hrm : RemovesAll tr₂)
    (hp' : (disk n).Path u' tr₂ t) : Fate (tr ++ tr₁ ++ tr₂) t := by
  obtain ⟨p, q, id, nodes, hname, -, hr, hn, rfl, hA, rfl⟩ := exported_ok hx rfl
  have hwhole : Whole s (p ++ "_" ++ q ++ ".json") id
      [.created (p ++ "_" ++ q ++ ".json"), .wrote r]
      (Function.update s (p ++ "_" ++ q ++ ".json") (some (recordBytes r))) :=
    ⟨r, hr, rfl, by simp⟩
  have hlater := backupChecks_later h (hasSuffix_append _ _) hwhole hr hn hp
  have herr : v.err ≠ none := fun hnone => by cases (backupChecks_captures _ r).run h hnone
  obtain ⟨r', hr', hn'⟩ := hlater.record
  obtain ⟨hnil, ht⟩ := deferred_removes hd herr hr' hn' hrm hp'
  have hall : answers (tr ++ tr₁ ++ tr₂) =
      .nodes nodes :: ([Answer.created (p ++ "_" ++ q ++ ".json"), .wrote r] ++ answers tr₁) := by
    simp [answers_append, hnil, hA]
  have hother : ∀ a ∈ [Answer.created (p ++ "_" ++ q ++ ".json"), .wrote r] ++ answers tr₁,
      a = .created (p ++ "_" ++ q ++ ".json") ∨ (∃ r, a = .wrote r) ∨ ∃ r, a = .broke r :=
    fun a ha => later_answers hlater ha
  have hcreated : ∀ name, .created name ∈ answers (tr ++ tr₁ ++ tr₂) ↔
      name = p ++ "_" ++ q ++ ".json" := by
    intro name
    rw [hall]
    constructor
    · intro hmem
      obtain hmem | hmem := List.mem_cons.mp hmem
      · cases hmem
      · obtain h | ⟨r, h⟩ | ⟨r, h⟩ := hother _ hmem <;> cases h
        rfl
    · rintro rfl
      simp
  have hnodes : .nodes [] ∈ answers (tr ++ tr₁ ++ tr₂) ↔ nodes = [] := by
    rw [hall]
    constructor
    · intro hmem
      obtain hmem | hmem := List.mem_cons.mp hmem
      · cases hmem
        rfl
      · obtain h | ⟨r, h⟩ | ⟨r, h⟩ := hother _ hmem <;> cases h
    · rintro rfl
      simp
  have hcleaned : Cleaned (tr ++ tr₁ ++ tr₂) ↔ nodes ≠ [] := by
    constructor
    · exact fun h hnil => (h _ ((hcreated _).mpr rfl)).1 (hnodes.mpr hnil)
    · exact fun hne _ _ => ⟨fun h => hne (hnodes.mp h), r, by rw [hall]; simp⟩
  refine .one p q (by simp [hname]) hcreated ?_
  rw [hcleaned, ht]
  split
  · next hnil => exact iff_of_false (later_kept hlater) (fun h => h hnil)
  · next hne =>
    rw [hlater.filename, Function.update_self]
    exact iff_of_true rfl hne

end Fates

theorem Fate.mono {tr' : List Ev} (h : Fate tr t) (hsub : ∀ e ∈ tr, e ∈ tr')
    (hA : answers tr' = answers tr) : Fate tr' t := by
  cases h with
  | none h => exact .none (hA ▸ h)
  | one p q hname hcreated hgone =>
    refine .one p q (hsub _ hname) (hA ▸ hcreated) ?_
    rwa [Cleaned, hA]

theorem backup_fate {filename : String} {err : Err}
    (h : Run (sem pk) (backup f filename) tr (some err)) (hp : (disk n).Path s tr t)
    (hrm : RemovesAll tr) : Fate tr t := by
  cases backup_stages h with
  | early hbare => exact .none (by simp [bare_answers hbare])
  | unsaved hbefore hexport hafter =>
    obtain ⟨u, hu, hp₁⟩ := World.path_append.mp hp
    obtain ⟨u₁, hu₁, hp₂⟩ := World.path_append.mp hp₁
    rw [bare_path hbefore hu] at hu₁
    rw [bare_path hafter hp₂]
    refine (unsaved_fate (exportData_exported hexport hu₁) rfl).mono (fun e he => by simp [he]) ?_
    simp [answers_append, bare_answers hbefore, bare_answers hafter]
  | @saved _ _ _ tr₂ _ _ _ _ _ hbefore hexport hchecks hdeferred =>
    obtain ⟨u, hu, hp₁⟩ := World.path_append.mp hp
    obtain ⟨u₁, hu₁, hp₂⟩ := World.path_append.mp hp₁
    obtain ⟨u₂, hu₂, hp₃⟩ := World.path_append.mp hu₁
    rw [bare_path hbefore hu] at hu₂
    have hrm' : RemovesAll tr₂ := hrm.mono (fun e he => by simp [he])
    refine (saved_fate (exportData_exported hexport hu₂) hchecks hp₃ hdeferred hrm' hp₂).mono
      (fun e he => by simp_all) ?_
    simp [answers_append, bare_answers hbefore]

/-- A failed run of `backup` leaves no record that `ReadAll` sees if and only if it has created
no file, or there are storage nodes and the first write has succeeded. -/
theorem no_record_left_iff {filename : String} {err : Err} {entries : List DirEntry}
    (h : Run (sem pk) (backup f filename) tr (some err)) (hp : (disk n).Path s tr t)
    (hremoves : RemovesAll tr) (hdated : Dated tr) (hl : Listing msg t entries) :
    NoneSeen tr entries ↔ Cleaned tr := by
  cases backup_fate h hp hremoves with
  | none hnone =>
    exact iff_of_true (fun name hname => absurd hname (hnone name))
      (fun name hname => absurd hname (hnone name))
  | one p q hname hcreated hgone =>
    have hsees := sees_iff hl (startsWith_dot (q := q) (hdated p q hname)) (hasSuffix_append _ _)
    rw [← hgone]
    constructor
    · intro hnone
      by_contra hkept
      exact hnone _ ((hcreated _).mpr rfl) (hsees.mpr hkept)
    · intro hnone name hmem hseen
      rw [(hcreated name).mp hmem] at hseen
      exact hsees.mp hseen hnone

/-- The record of a backup that fails at the agents is not seen. -/
theorem unreachable_not_seen :
    NoneSeen unreachable [entryOf decodeErr olderName (recordBytes older)] := by
  have hfiles : Function.update olderFiles savedName none = olderFiles := by
    rw [← savedName_free, Function.update_eq_self]
  have hpath := unreachable_path 0
  rw [hfiles] at hpath
  refine (no_record_left_iff unreachable_run hpath unreachable_removes unreachable_dated
    older_listing).mpr ?_
  rw [Cleaned, unreachable_answers]
  exact fun _ _ => ⟨by simp, saved, by simp⟩

section Declined

def nodeless : LsBackup where
  info := saved.info
  dnList := []
  ssBackup := some
    { status := ssBackupStatusWaiting, clusterInfo := some sampleCluster, storageNodes := [] }

def savingNodeless : List Ev :=
  did .exportMetaData (.ok sampleCluster) ++ (did .exportStorageNodes (.ok []) ++
    (did .genFilename ("20230102030405", "a1B2c3D4") ++ (did .newUUID savedID ++
      (did .now "2023-01-02 03:04:05" ++ (did (.osCreate savedName) none ++
        (did (.fileWrite savedName nodeless) none ++ []))))))

theorem savingNodeless_run : Run (sem .documented) (exportData .sample "") savingNodeless
    (savedName, .ok nodeless) := by
  refine run_act (run_act (run_act (run_act (run_act ?_))))
  change Run (sem .documented) (writeByJSON .sample savedName nodeless >>= _) _ _
  rw [writeByJSON, if_pos savedName_json]
  exact run_act (run_act (.ret _))

def declined : List Ev :=
  connecting .sample none (savingNodeless ++
    (did (.getUserApprove backupPromptFmt) (some "User abort") ++ []) ++
    (did (.exec .unlock) none ++ []))

theorem declined_run : Run (sem .documented) (backup .sample "") declined (some "User abort") := by
  have hchecks : Run (sem .documented) (backupChecks .sample savedName nodeless)
      (did (.getUserApprove backupPromptFmt) (some "User abort") ++ [])
      (⟨some "User abort", some nodeless, true, savedName⟩, some "User abort") :=
    run_act (.ret _)
  exact connecting_run (exporting_run savingNodeless_run hchecks)
    (run_act (a := .exec _) (r := none) (.ret _))

theorem declined_path (n : ℕ) : (disk n).Path (fun _ => none) declined
    (Function.update (fun _ => none) savedName (some (recordBytes nodeless))) := by
  simp [World.Path, declined, connecting, savingNodeless, did, whole, disk]

theorem declined_removes : RemovesAll declined := by
  intro i name err
  simp [declined, connecting, savingNodeless, did, whole]

theorem declined_dated : Dated declined :=
  saving_dated (by simp [declined, connecting, savingNodeless, did, whole])

/-- Without storage nodes the cleanup returns before it removes the record. -/
theorem not_every_record_removed :
    ¬∀ (pk : Packages) (f : Flags) (filename : String) (tr : List Ev) (err : Err)
      (msg : ByteArray → Err) (n : ℕ) (s t : Files) (entries : List DirEntry),
      Run (sem pk) (backup f filename) tr (some err) → (disk n).Path s tr t → RemovesAll tr →
      Dated tr → Listing msg t entries → NoneSeen tr entries := by
  intro h
  have hlisting := listing_single decodeErr savedName (recordBytes nodeless)
  have hcreated : .created savedName ∈ answers declined := by
    simp [answers, declined, connecting, savingNodeless, did, whole, answer]
  refine h _ _ _ _ _ decodeErr 0 _ _ _ declined_run (declined_path 0) declined_removes
    declined_dated hlisting savedName hcreated ?_
  refine (sees_iff hlisting (by decide) savedName_json).mpr ?_
  simp

end Declined

end ShardingOnCloud.Pitr.LeftRecord
