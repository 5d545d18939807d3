import ShardingOnCloud.Pitr.DeleteSpec
import ShardingOnCloud.Pitr.RecordMap

namespace ShardingOnCloud.Pitr.HiddenRecords

open ShardingOnCloud.Lib.Program ShardingOnCloud.Lib.Assertions ShardingOnCloud.Lib.Pool
open ShardingOnCloud.Pitr.Model ShardingOnCloud.Pitr.Calls ShardingOnCloud.Pitr.LocalStorage
open ShardingOnCloud.Pitr.Backup ShardingOnCloud.Pitr.BackupSpec ShardingOnCloud.Pitr.Restore
open ShardingOnCloud.Pitr.RestoreSpec ShardingOnCloud.Pitr.RestoreMetadata
open ShardingOnCloud.Pitr.StorageSpec ShardingOnCloud.Pitr.RecordStore ShardingOnCloud.Pitr.Delete
open ShardingOnCloud.Pitr.DeleteSpec ShardingOnCloud.Pitr.BackupRuns ShardingOnCloud.Pitr.RestoreRuns
open ShardingOnCloud.Pitr.RecordMap (Lists startsWith_hided)

/-- The directory together with what is read of it: a listing has the relation `R` to
the files that are there. -/
def shelf (R : Store → List DirEntry → Prop) : World Store Ev where
  step s e t := store.step s e t ∧
    ∀ entries, e = .main (.reply (.act .readDir) (.ok entries)) → R s entries

/-- A record that is read from a file is the one that is stored there. -/
def Truthful (s : Store) (entries : List DirEntry) : Prop :=
  ∀ entry ∈ entries, ∀ r, entry.file = .ok (.ok r) → s entry.name = some (.record r)

theorem lists_truthful {s : Store} {entries : List DirEntry} (h : Lists s entries) :
    Truthful s entries := by
  intro entry hentry r hfile
  have hholds := (h.file entry hentry).2.2
  rcases hs : s entry.name with _ | (_ | r')
  · rw [hs] at hholds
    exact hholds.elim
  · rw [hs] at hholds
    obtain ⟨err, herr⟩ := hholds
    rw [hfile] at herr
    cases herr
  · rw [hs] at hholds
    have heq := hfile.symm.trans hholds
    cases heq
    rfl

/-- The events that create no file that `ReadAll` looks at: nothing is written, and a
file that is renamed becomes hidden. -/
def Withdraws : Ev → Prop
  | .main (.issue (.act (.osCreate _))) | .main (.reply (.act (.osCreate _)) _)
  | .main (.issue (.act (.fileWrite _ _))) | .main (.reply (.act (.fileWrite _ _)) _) => False
  | .main (.issue (.act (.osRename name newName)))
  | .main (.reply (.act (.osRename name newName)) _) => newName = hided name
  | _ => True

theorem visible_ne_hided {name : String} (h : startsWith name "." = false) (other : String) :
    name ≠ hided other := by
  rintro rfl
  rw [startsWith_hided] at h
  cases h

theorem renamed_self (s : Store) (name newName : String) : renamed s name newName name = none := by
  cases hs : s name with
  | none => simp only [renamed, hs]
  | some x => simp only [renamed, hs, Function.update_self]

theorem renamed_visible (s : Store) (other : String) {name : String}
    (hname : startsWith name "." = false) :
    renamed s other (hided other) name = s name ∨ renamed s other (hided other) name = none := by
  by_cases heq : name = other
  · rw [heq]
    exact Or.inr (renamed_self s other _)
  · refine Or.inl ?_
    cases hs : s other with
    | none => simp only [renamed, hs]
    | some x =>
      simp only [renamed, hs]
      rw [Function.update_of_ne heq, Function.update_of_ne (visible_ne_hided hname other)]

theorem removed_visible (s : Store) (other name : String) :
    Function.update s other none name = s name ∨ Function.update s other none name = none := by
  by_cases heq : name = other
  · rw [heq]
    exact Or.inr (Function.update_self _ _ _)
  · exact Or.inl (Function.update_of_ne heq _ _)

/-- A file that `ReadAll` looks at stays as it is, or is gone. -/
theorem withdraws_step {s t : Store} {e : Ev} (he : Withdraws e) (h : store.step s e t)
    {name : String} (hname : startsWith name "." = false) : t name = s name ∨ t name = none := by
  simp only [store] at h
  split at h
  · exact he.elim
  · exact he.elim
  · exact he.elim
  · exact he.elim
  · rcases h with rfl | rfl
    · exact Or.inl rfl
    · exact removed_visible _ _ _
  · rcases h with rfl | rfl
    · exact Or.inl rfl
    · exact removed_visible _ _ _
  · rw [h]
    exact removed_visible _ _ _
  · rw [h]
    exact removed_visible _ _ _
  · obtain rfl : _ = hided _ := he
    rcases h with rfl | rfl
    · exact Or.inl rfl
    · exact renamed_visible _ _ hname
  · obtain rfl : _ = hided _ := he
    rw [h]
    exact renamed_visible _ _ hname
  · rw [h]
    exact Or.inl rfl

def Idle (e : Ev) : Prop := ∀ s t, store.step s e t ↔ t = s

/-- An event that is neither about the directory nor about what is read of it. -/
def Still (e : Ev) : Prop := Idle e ∧ ∀ entries, e ≠ .main (.reply (.act .readDir) (.ok entries))

section Path

variable {R : Store → List DirEntry → Prop} {s t : Store} {evs : List Ev}
  (hevs : ∀ e ∈ evs, Withdraws e) {name : String} (hname : startsWith name "." = false)

include hevs hname in
theorem withdraws_keeps : ∀ e ∈ evs, ∀ u v, (shelf R).step u e v →
    (u name = s name ∨ u name = none) → v name = s name ∨ v name = none := by
  intro e he u v hstep hu
  rcases withdraws_step (hevs e he) hstep.1 hname with hv | hv
  · rwa [hv]
  · exact Or.inr hv

include hevs hname in
theorem withdraws_path (hp : (shelf R).Path s evs t) {x : File} (ht : t name = some x) :
    s name = some x := by
  rcases World.path_keeps hp (withdraws_keeps hevs hname) (Or.inl rfl) with h | h
  · rwa [← h]
  · rw [h] at ht
    cases ht

theorem idle_path (hidle : ∀ e ∈ evs, Idle e) (hp : (shelf R).Path s evs t) : t = s := by
  refine World.path_keeps (K := (· = s)) hp (fun e he u v hstep hu => ?_) rfl
  rw [(hidle e he u v).mp hstep.1, hu]

theorem still_path (hstill : ∀ e ∈ evs, Still e) : (shelf R).Path s evs s := by
  induction evs with
  | nil => rfl
  | cons e evs ih =>
    obtain ⟨⟨hidle, hread⟩, hrest⟩ := List.forall_mem_cons.mp hstill
    exact ⟨s, ⟨(hidle s s).mpr rfl, fun entries h => absurd h (hread entries)⟩, ih hrest⟩

end Path

def still : Act → Bool
  | .osCreate _ | .fileWrite _ _ | .osRemove _ | .osRename _ _ | .readDir => false
  | _ => true

theorem allows_still {a : Act} (h : still a = true) : Allows Still a := by
  cases a with
  | osCreate name => cases h
  | fileWrite name r => cases h
  | osRemove name => cases h
  | osRename name newName => cases h
  | readDir => cases h
  | _ => exact ⟨⟨fun _ _ => Iff.rfl, nofun⟩, fun _ => ⟨fun _ _ => Iff.rfl, nofun⟩⟩

theorem looking_idle (a : Act) (h : looking a = true) : Allows Idle a := by
  cases a <;> first | exact ⟨fun _ _ => Iff.rfl, fun _ _ _ => Iff.rfl⟩ | cases h

theorem still_checks {pk : Packages} {f : Flags} {bak : LsBackup} {tr : List Ev} {available : Bool}
    (h : Run (sem pk) (checkAgentServerStatus f bak) tr available) : ∀ e ∈ tr, Still e :=
  (checkAgentServerStatus_emits f (allows_still rfl) (fun _ _ => allows_still rfl) bak).cut h.cut

theorem still_did {a : Act} (h : still a = true) (r : ActR a) : ∀ e ∈ did a r, Still e := by
  intro e he
  obtain rfl | ⟨x, hx, rfl⟩ | rfl := mem_whole.mp he
  · exact (allows_still h).1
  · cases hx
  · exact (allows_still h).2 r

theorem still_execDelete {pk : Packages} {f : Flags} {bak : LsBackup} {tr : List Ev}
    {res : Option Err} (h : Run (sem pk) (_execDelete f bak) tr res) : ∀ e ∈ tr, Still e := by
  have hgo : ∀ a, removing a = true → AllowsGo (fun l => ∀ i, Still (.sub (i, l))) a := by
    intro a ha
    cases a <;>
      first
      | exact ⟨fun _ => ⟨fun _ _ => Iff.rfl, nofun⟩, fun _ _ => ⟨fun _ _ => Iff.rfl, nofun⟩⟩
      | cases ha
  refine (_execDelete_emits (fun _ _ => ?_) (fun i l hl => hl i) hgo (allows_still rfl) f bak).cut
    h.cut
  exact ⟨⟨fun _ _ => Iff.rfl, nofun⟩, fun _ => ⟨fun _ _ => Iff.rfl, nofun⟩⟩

/-- A record that is read was in the directory from the start, under its file name. -/
theorem listed_stored {s t : Store} {evs : List Ev} (hp : (shelf Truthful).Path s evs t)
    (hevs : ∀ e ∈ evs, Withdraws e) {b : LsBackup} (hb : Listed evs b) :
    ∃ name r info, startsWith name "." = false ∧ s name = some (.record r) ∧ r.info = some info ∧
      b = { r with info := some { info with fileName := name } } := by
  obtain ⟨entries, hm, hmem⟩ := hb
  obtain ⟨entry, hentry, hrec⟩ := List.mem_filterMap.mp hmem
  obtain ⟨hv, -, r, info, hfile, hinfo, rfl⟩ := recordOf_eq_some.mp hrec
  have hname : startsWith entry.name "." = false := by
    simp only [visible, Bool.not_eq_true', Bool.or_eq_false_iff] at hv
    exact hv.2
  refine ⟨entry.name, r, info, hname, ?_, hinfo, rfl⟩
  obtain ⟨u, v, hu, hstep⟩ := World.path_before hp (withdraws_keeps hevs hname) (Or.inl rfl) hm
  have hstored := hstep.2 entries rfl entry hentry r hfile
  rcases hu with hu | hu
  · rw [← hu, hstored]
  · rw [hu] at hstored
    cases hstored

/-- The commands that work on a record which is there. `databaseNamesExist` is the
value of the package variable. -/
inductive Command
  | deleteRecord (f : Flags)
  | restore (f : Flags) (databaseNamesExist : List String)

/-- The command has run, at least up to some moment. -/
def Started (pk : Packages) : Command → List Ev → Prop
  | .deleteRecord f, evs => Cut (sem pk) (deleteRecord f) evs
  | .restore f names, evs => Cut (sem pk) (restore f names) evs

/-- `validate` has returned the record to the command. -/
def Validated (pk : Packages) : Command → List Ev → LsBackup → Prop
  | .deleteRecord f, evs, b =>
    ∃ tr₁ tr₂, evs = tr₁ ++ tr₂ ∧ Run (sem pk) (findDeleted f) tr₁ (.ok b)
  | .restore f _, evs, b => Selected pk f evs b

variable {pk : Packages}

theorem looking_withdraws (a : Act) (ha : looking a = true) : Allows Withdraws a := by
  cases a <;> first | exact ⟨trivial, fun _ => trivial⟩ | cases ha

theorem started_withdraws {c : Command} {evs : List Ev} (h : Started pk c evs) :
    ∀ e ∈ evs, Withdraws e := by
  cases c with
  | deleteRecord f =>
    refine (deleteRecord_emits (L := fun _ => True) (fun _ _ => ⟨trivial, fun _ => trivial⟩)
      (fun _ _ _ => trivial) (fun _ _ => ⟨trivial, fun _ => trivial⟩) looking_withdraws
      (fun _ => ⟨rfl, fun _ => rfl⟩)
      (fun _ => ⟨trivial, fun _ => trivial⟩) f).cut h
  | restore f names =>
    refine (restore_emits looking_withdraws (fun _ => ⟨trivial, fun _ => trivial⟩) f names
      (fun bak => ?_)).cut h
    exact restoreData_emits looking_withdraws ⟨trivial, fun _ => trivial⟩ f names
      (execRestore_emits (L := fun _ => True) looking_withdraws
        (fun _ _ => ⟨trivial, fun _ => trivial⟩) (fun _ _ => trivial) (fun _ _ _ => trivial)
        (fun _ _ => ⟨trivial, fun _ => trivial⟩) f bak)

theorem validated_listed {c : Command} {evs : List Ev} {b : LsBackup} (h : Validated pk c evs b) :
    Listed evs b := by
  cases c with
  | deleteRecord f =>
    obtain ⟨tr₁, tr₂, rfl, hrun⟩ := h
    exact (findDeleted_listed hrun).1.mono (fun e he => by simp [he])
  | restore f names =>
    obtain ⟨tr₁, tr₂, rfl, hrun⟩ := h
    exact (findRecord_listed hrun).mono (fun e he => by simp [he])

/-- A `Restore` request is only sent for the record that was found. -/
theorem restore_selected {f : Flags} {names : List String} {evs : List Ev}
    (h : Cut (sem pk) (restore f names) evs) {x : ℕ × Label Act ActR} (hx : .sub x ∈ evs) :
    ∃ b, Selected pk f evs b := by
  obtain ⟨tr₁, r, tr₂, hfind, -, hrest, hx', rfl⟩ := cut_bind_past (findRecord_aside f) h hx
  cases r with
  | error err => exact absurd hx' (cut_ret_past hrest)
  | ok b => exact ⟨b, tr₁, tr₂, rfl, hfind⟩

/-- No two records that `ReadAll` looks at have the same ID. -/
def UniqueIDs (s : Store) : Prop :=
  ∀ name name' r r', startsWith name "." = false → startsWith name' "." = false →
    s name = some (.record r) → s name' = some (.record r') →
    r.info.map (·.id) = r'.info.map (·.id) → name = name'

/-- Another record of the directory: one with another file, and where IDs are unique
with another ID. -/
def Other (s : Store) (a b : LsBackup) : Prop :=
  a.info.map (·.fileName) ≠ b.info.map (·.fileName) ∧
    (UniqueIDs s → a.info.map (·.id) ≠ b.info.map (·.id))

theorem hidden_other {s t u : Store} {evs evs' : List Ev} {name : String} {a b : LsBackup}
    (hp : (shelf Truthful).Path s evs t) (hevs : ∀ e ∈ evs, Withdraws e) (ha : Listed evs a)
    (hname : a.info.map (·.fileName) = some name) (ht : t name = none)
    (hp' : (shelf Truthful).Path t evs' u) (hevs' : ∀ e ∈ evs', Withdraws e) (hb : Listed evs' b) :
    Other s a b := by
  obtain ⟨na, ra, ia, hna, hsa, hia, rfl⟩ := listed_stored hp hevs ha
  obtain ⟨nb, rb, ib, hnb, htb, hib, rfl⟩ := listed_stored hp' hevs' hb
  obtain rfl : na = name := by simpa using hname
  have hne : na ≠ nb := by
    rintro rfl
    rw [ht] at htb
    cases htb
  refine ⟨by simpa using hne, fun hunique hid => hne ?_⟩
  refine hunique na nb ra rb hna hnb hsa (withdraws_path hevs hnb hp htb) ?_
  simpa [hia, hib] using hid

theorem hidden_after {R : Store → List DirEntry → Prop} {s t : Store} {tr : List Ev} {name : String}
    (hp : (shelf R).Path s (tr ++ did (.osRename name (hided name)) none) t) : t name = none := by
  obtain ⟨u, -, v, -, w, ⟨hw, -⟩, rfl⟩ := World.path_append.mp hp
  obtain rfl : w = renamed v name (hided name) := hw
  exact renamed_self v name _

/-- What is read after `deleteRecord` has started a goroutine is another record. -/
theorem deleted_other {f : Flags} {s t : Store} {pre evs post : List Ev} {a b : LsBackup}
    (hcut : Cut (sem pk) (deleteRecord f) evs) {x : ℕ × Label Act ActR} (hx : .sub x ∈ evs)
    (ha : Validated pk (.deleteRecord f) evs a) (hpre : ∀ e ∈ pre, Withdraws e)
    (hpost : ∀ e ∈ post, Withdraws e) (hp : (shelf Truthful).Path s (pre ++ (evs ++ post)) t)
    (hb : Listed post b) : Other s a b := by
  have hevs : ∀ e ∈ evs, Withdraws e := started_withdraws (c := .deleteRecord f) hcut
  obtain ⟨bak, info, tr₁, tr₂, tr₃, hfind, hinfo, -, -, rfl⟩ := deleteRecord_hides hcut hx
  obtain ⟨tr₁', tr₂', heq, hfind'⟩ := ha
  cases hfind.unique hfind' heq
  have hsplit : pre ++ (tr₁ ++ (tr₂ ++ (did (.getUserApprove (deletePrompt info)) none ++
      (did (.osRename info.fileName (hided info.fileName)) none ++ tr₃))) ++ post) =
      (pre ++ (tr₁ ++ (tr₂ ++ did (.getUserApprove (deletePrompt info)) none)) ++
        did (.osRename info.fileName (hided info.fileName)) none) ++ (tr₃ ++ post) := by
    simp
  have hall : ∀ e ∈ pre ++ (tr₁ ++ (tr₂ ++ (did (.getUserApprove (deletePrompt info)) none ++
      (did (.osRename info.fileName (hided info.fileName)) none ++ tr₃))) ++ post), Withdraws e :=
    List.forall_mem_append.mpr ⟨hpre, List.forall_mem_append.mpr ⟨hevs, hpost⟩⟩
  rw [hsplit] at hp hall
  obtain ⟨u, hu, hrest⟩ := World.path_append.mp hp
  obtain ⟨hfirst, hlast⟩ := List.forall_mem_append.mp hall
  refine hidden_other hu hfirst ?_ ?_ (hidden_after hu) hrest hlast ?_
  · exact (findDeleted_listed hfind).1.mono (fun e he => by simp [he])
  · rw [hinfo, Option.map_some]
  · exact hb.mono (fun e he => List.mem_append_right _ he)

theorem started_all {runs : List (Command × List Ev)}
    (h : ∀ run ∈ runs, Started pk run.1 run.2) : ∀ e ∈ runs.flatMap (·.2), Withdraws e := by
  intro e he
  obtain ⟨run, hrun, he⟩ := List.mem_flatMap.mp he
  exact started_withdraws (h run hrun) e he

/-- A record for which a `DeleteBackup` request was sent is not restored by any later
command. -/
theorem deleted_never_restored {pk : Packages} {s t : Store} {before after : List (Command × List Ev)}
    {f : Flags} {evs : List Ev} {bak : LsBackup} {i : ℕ} {addr : String} {x : DeleteBackupIn}
    (hruns : ∀ run ∈ before ++ (.deleteRecord f, evs) :: after, Started pk run.1 run.2)
    (hp : (shelf Truthful).Path s ((before ++ (.deleteRecord f, evs) :: after).flatMap (·.2)) t)
    (hbak : Validated pk (.deleteRecord f) evs bak)
    (hsent : .sub (i, .issue (.deleteBackup addr x)) ∈ evs) :
    ∀ run ∈ after, (∀ b, Validated pk run.1 run.2 b → Other s bak b) ∧
      ∀ f' names, run.1 = .restore f' names → ∀ j addr' y,
        .sub (j, .issue (.restore addr' y)) ∈ run.2 → ∃ b, Selected pk f' run.2 b ∧ Other s bak b := by
  obtain ⟨hbefore, hruns⟩ := List.forall_mem_append.mp hruns
  obtain ⟨hcut, hafter⟩ := List.forall_mem_cons.mp hruns
  rw [List.flatMap_append, List.flatMap_cons] at hp
  have hother : ∀ run ∈ after, ∀ b, Validated pk run.1 run.2 b → Other s bak b := by
    intro run hrun b hb
    refine deleted_other hcut hsent hbak (started_all hbefore) (started_all hafter) hp ?_
    exact (validated_listed hb).mono (fun e he => List.mem_flatMap.mpr ⟨run, hrun, he⟩)
  intro run hrun
  refine ⟨hother run hrun, ?_⟩
  rintro f' names hcommand j addr' y hy
  have hstarted := hafter run hrun
  rw [hcommand] at hstarted
  obtain ⟨b, hb⟩ := restore_selected hstarted hy
  refine ⟨b, hb, hother run hrun b ?_⟩
  rw [hcommand]
  exact hb

theorem renamed_again (s : Store) (name newName : String) :
    renamed (renamed s name newName) name newName = renamed s name newName := by
  rw [renamed, renamed_self]

theorem renamed_hided {s : Store} {name : String} {x : File} (hname : startsWith name "." = false)
    (hs : s name = some x) : renamed s name (hided name) (hided name) = some x := by
  simp only [renamed, hs]
  rw [Function.update_of_ne (visible_ne_hided hname name).symm, Function.update_self]

theorem renamed_did {R : Store → List DirEntry → Prop} {s t : Store} {name newName : String}
    (hp : (shelf R).Path s (did (.osRename name newName) none) t) : t = renamed s name newName := by
  obtain ⟨u, ⟨hu, -⟩, v, ⟨hv, -⟩, rfl⟩ := hp
  obtain rfl : v = renamed u name newName := hv
  rcases hu with rfl | rfl
  · rfl
  · exact renamed_again s name newName

/-- When the deletion fails on a node, the record has become hidden and nothing else
has changed. -/
theorem failed_deletion {f : Flags} {s t : Store} {tr : List Ev} {res : Option Err} {bak : LsBackup}
    (h : Run (sem pk) (deleteRecord f) tr res) {i : ℕ} {addr : String} {x : DeleteBackupIn}
    {e : Err} (hx : .sub (i, .reply (.deleteBackup addr x) (some e)) ∈ tr)
    (hbak : Validated pk (.deleteRecord f) tr bak) (hp : (shelf Truthful).Path s tr t) :
    (∃ err, res = some ("exec delete failed. err: " ++ err)) ∧
      ∃ name r, bak.info.map (·.fileName) = some name ∧ startsWith name "." = false ∧
        s name = some (.record r) ∧ t = renamed s name (hided name) := by
  have hevs : ∀ e ∈ tr, Withdraws e := started_withdraws (c := .deleteRecord f) h.cut
  obtain ⟨name, r, info, hname, hs, -, rfl⟩ := listed_stored hp hevs (validated_listed hbak)
  obtain ⟨bak, info', tr₁, tr₂, tr₃, err, hfind, hinfo, hstatus, hexec, rfl, rfl⟩ :=
    deleteRecord_failed h hx
  obtain ⟨tr₁', tr₂', heq, hfind'⟩ := hbak
  cases hfind.unique hfind' heq
  cases hinfo
  obtain ⟨u₁, h₁, hp⟩ := World.path_append.mp hp
  obtain ⟨u₂, h₂, hp⟩ := World.path_append.mp hp
  obtain ⟨u₃, h₃, hp⟩ := World.path_append.mp hp
  obtain ⟨u₄, h₄, h₅⟩ := World.path_append.mp hp
  obtain rfl := idle_path ((findDeleted_emits f looking_idle).cut hfind.cut) h₁
  obtain rfl := idle_path (fun e he => (still_checks hstatus e he).1) h₂
  obtain rfl := idle_path (fun e he => (still_did (a := .getUserApprove _) rfl none e he).1) h₃
  obtain rfl := idle_path (fun e he => (still_execDelete hexec e he).1) h₅
  exact ⟨⟨err, rfl⟩, name, r, rfl, hname, hs, renamed_did h₄⟩

/-- After a deletion that failed on a node, the record is still in the directory, but
hidden: a later `deleteRecord` with its ID does not find it and sends no request. -/
theorem failed_deletion_not_retried {pk : Packages} {f f' : Flags} {s t u : Store}
    {tr tr' : List Ev} {res : Option Err} {bak : LsBackup} {i : ℕ} {addr : String}
    {x : DeleteBackupIn} {e : Err} {between : List (Command × List Ev)}
    (hfirst : Run (sem pk) (deleteRecord f) tr res)
    (hfailed : .sub (i, .reply (.deleteBackup addr x) (some e)) ∈ tr)
    (hbak : Validated pk (.deleteRecord f) tr bak) (hp : (shelf Truthful).Path s tr t)
    (hunique : UniqueIDs s) (hbetween : ∀ run ∈ between, Started pk run.1 run.2)
    (hlater : Cut (sem pk) (deleteRecord f') tr')
    (hp' : (shelf Truthful).Path t (between.flatMap (·.2) ++ tr') u) (hcsn : f'.csn = "")
    (hid : bak.info.map (·.id) = some f'.recordID) :
    (∃ err, res = some ("exec delete failed. err: " ++ err)) ∧
      (∃ name r, bak.info.map (·.fileName) = some name ∧ s name = some (.record r) ∧
        t name = none ∧ t (hided name) = some (.record r)) ∧
      (∀ b, ¬Validated pk (.deleteRecord f') tr' b) ∧ (∀ y, .sub y ∉ tr') ∧
      ∀ res', Run (sem pk) (deleteRecord f') tr' res' → res' ≠ none := by
  obtain ⟨herr, name, r, hfile, hname, hs, ht⟩ := failed_deletion hfirst hfailed hbak hp
  have hnone : ∀ b, ¬Validated pk (.deleteRecord f') tr' b := by
    intro b hb
    have hpost : ∀ e ∈ between.flatMap (·.2) ++ tr', Withdraws e :=
      List.forall_mem_append.mpr
        ⟨started_all hbetween, started_withdraws (c := .deleteRecord f') hlater⟩
    have hpath : (shelf Truthful).Path s ([] ++ (tr ++ (between.flatMap (·.2) ++ tr'))) u := by
      rw [List.nil_append]
      exact World.path_append.mpr ⟨t, hp, hp'⟩
    have hother : Other s bak b := by
      refine deleted_other hfirst.cut hfailed hbak (by simp) hpost hpath ?_
      exact (validated_listed hb).mono (fun e he => List.mem_append_right _ he)
    obtain ⟨tr₁, tr₂, -, hfind⟩ := hb
    rcases (findDeleted_listed hfind).2 with ⟨hne, -⟩ | hbid
    · exact hne hcsn
    · exact hother.2 hunique (hid.trans hbid.symm)
  refine ⟨herr, ⟨name, r, hfile, hs, ?_, ?_⟩, hnone, ?_, ?_⟩
  · rw [ht]
    exact renamed_self s name _
  · rw [ht]
    exact renamed_hided hname hs
  · intro y hy
    obtain ⟨b, info, tr₁, tr₂, tr₃, hfind, -, -, -, hsplit⟩ := deleteRecord_hides hlater hy
    exact hnone b ⟨tr₁, _, hsplit, hfind⟩
  · rintro res' hrun rfl
    obtain ⟨tr₁, r, tr₂, hfind, hrest, rfl⟩ := run_bind.mp hrun
    cases r with
    | error err => cases (run_ret.mp hrest).2
    | ok b => exact hnone b ⟨tr₁, tr₂, rfl, hfind⟩

/-- The request of `deletetask.checkProgress`. -/
@[reducible] def deleteCall (sn : StorageNode) (backupID : String) : Act :=
  .deleteBackup (agentAddr .sample sn)
    { dbPort := sn.port, dbName := sn.database, username := sn.username, password := sn.password,
      dnBackupPath := Flags.sample.backupPath, backupID := backupID, instanceName := defaultInstance }

def deletedBy (sn : StorageNode) (backupID : String) (err : Option Err) : List (Label Act ActR) :=
  [.issue .newTicker, .reply .newTicker 1, .issue (deleteCall sn backupID),
    .reply (deleteCall sn backupID) err, .issue (.sendDeleteResult (deleteResult sn err)),
    .reply (.sendDeleteResult (deleteResult sn err)) ()] ++
  match err with
  | some _ => [.issue .markAsErrored, .reply .markAsErrored ()]
  | none => [.issue .markAsDone, .reply .markAsDone ()]

theorem deleteTask_path (sn : StorageNode) (dn : DataNode) (err : Option Err) :
    Thread.Path (.run (deleteTask .sample sn dn)) (deletedBy sn dn.backupID err)
      (.run sendDone) := by
  cases err with
  | some err =>
    exact ⟨_, .issue _ _, _, .reply _ _ _, _, .issue _ _, _, .reply _ _ _, _, .issue _ _, _,
      .reply _ _ _, _, .issue _ _, _, .reply _ _ _, rfl⟩
  | none =>
    exact ⟨_, .issue _ _, _, .reply _ _ _, _, .issue _ _, _, .reply _ _ _, _, .issue _ _, _,
      .reply _ _ _, _, .issue _ _, _, .reply _ _ _, rfl⟩

def deletingTasks : List (Go Unit) :=
  [deleteTask .sample nodeA (reported nodeA (.ok "B1")),
    deleteTask .sample nodeB (reported nodeB (.ok "B2"))]

/-- The first agent deletes the backup and the second one does not. -/
def halfDeletedLog : Log :=
  (deletedBy nodeA "B1" none).map (Prod.mk 0) ++
    (deletedBy nodeB "B2" (some "connection refused")).map (Prod.mk 1)

theorem halfDeleted_returns :
    (sem .documented).returns (.goRender .deleteResult 2 deletingTasks)
      [deleteResult nodeA none, deleteResult nodeB (some "connection refused")]
      halfDeletedLog := by
  have h₁ : Path (Room .deleteResult 2) (start deletingTasks)
      ([] ++ (deletedBy nodeA "B1" none).map (Prod.mk 0)) _ :=
    path_room (i := 0) .nil rfl (deleteTask_path nodeA (reported nodeA (.ok "B1")) none)
      (by simp [deletedBy, contents, received]) (by simp [deletedBy])
  have h₂ := path_room (i := 1) h₁ rfl
    (deleteTask_path nodeB (reported nodeB (.ok "B2")) (some "connection refused"))
    (by simp [deletedBy, reported, contents, received]) (by simp [deletedBy])
  have htrackers : trackers 2 halfDeletedLog = [true, true] := rfl
  refine ⟨_, h₂, ?_, rfl⟩
  intro b hb
  change b ∈ trackers 2 halfDeletedLog at hb
  simpa [htrackers] using hb

def deletePrompted : Act :=
  .getUserApprove (deletePrompt
    { id := "1", csn := "", backupMode := Flags.sample.backupMode, startTime := "", endTime := "",
      fileName := recordName })

def halfDeleted : List Ev :=
  (did (.newLocalStorage (defaultRootDir .sample)) none ++ (did .readDir (.ok [listed]) ++ [])) ++
    (checked .sample [nodeA, nodeB] ++ (did deletePrompted none ++
      (did (.osRename recordName (hided recordName)) none ++
        (whole (Call.goRender .deleteResult 2 deletingTasks)
          [deleteResult nodeA none, deleteResult nodeB (some "connection refused")]
          halfDeletedLog ++ []))))

theorem findDeleted_run : Run (sem pk) (findDeleted .sample)
    (did (.newLocalStorage (defaultRootDir .sample)) none ++ (did .readDir (.ok [listed]) ++ []))
    (.ok runningRead) :=
  run_act (a := .newLocalStorage _) (r := none) validate_run

theorem halfDeleted_status : Run (sem .documented) (checkAgentServerStatus .sample runningRead)
    (checked .sample [nodeA, nodeB]) true :=
  checkAgentServerStatus_run .sample sampleCluster nodes_nodup

theorem halfDeleted_exec : Run (sem .documented) (_execDelete .sample runningRead)
    (whole (Call.goRender .deleteResult 2 deletingTasks)
      [deleteResult nodeA none, deleteResult nodeB (some "connection refused")]
      halfDeletedLog ++ [])
    (some "delete failed, please check the log for more details.") :=
  Run.call halfDeleted_returns (.ret _)

theorem halfDeleted_run :
    Run (sem .documented) (deleteRecord .sample) halfDeleted
      (some ("exec delete failed. err: " ++
        "delete failed, please check the log for more details.")) := by
  refine run_bind.mpr ⟨_, _, _, findDeleted_run, ?_, rfl⟩
  refine run_bind.mpr ⟨_, _, _, halfDeleted_status, ?_, rfl⟩
  refine run_act (a := deletePrompted) (r := none) ?_
  refine run_act (a := .osRename _ _) (r := none) ?_
  change Run (sem .documented) (_execDelete .sample runningRead >>= _) _ _
  exact run_bind.mpr ⟨_, _, [], halfDeleted_exec, .ret _, (List.append_nil _).symm⟩

def single (name : String) : Store := Function.update (fun _ => none) name (some (.record running))

def singleEntry (name : String) : DirEntry := ⟨name, false, none, .ok (.ok running)⟩

theorem lists_single (name : String) : Lists (single name) [singleEntry name] := by
  refine ⟨List.pairwise_singleton _ _, fun other => ?_, ?_⟩
  · by_cases h : other = name
    · simp [single, singleEntry, h]
    · simp [single, singleEntry, Function.update_of_ne h, Ne.symm h]
  · intro entry hentry
    rw [List.mem_singleton.mp hentry]
    exact ⟨rfl, rfl, by simp [single, singleEntry, RecordMap.Holds]⟩

theorem renamed_single {name newName : String} (h : newName ≠ name) :
    renamed (single name) name newName = single newName := by
  funext other
  by_cases hname : other = name
  · rw [hname, renamed_self, single, Function.update_of_ne h.symm]
  · have hs : single name name = some (.record running) := Function.update_self _ _ _
    simp only [renamed, hs]
    rw [Function.update_of_ne hname]
    by_cases hnew : other = newName
    · simp [hnew, single]
    · simp [single, Function.update_of_ne hnew, Function.update_of_ne hname]

theorem readDir_path {R : Store → List DirEntry → Prop} {s : Store} {entries : List DirEntry}
    (h : R s entries) : (shelf R).Path s (did .readDir (.ok entries)) s := by
  refine ⟨s, ⟨rfl, nofun⟩, s, ⟨rfl, fun entries' heq => ?_⟩, rfl⟩
  cases heq
  exact h

theorem halfDeleted_path :
    (shelf Lists).Path (single recordName) halfDeleted (single (hided recordName)) := by
  have hrename : (shelf Lists).Path (single recordName)
      (did (.osRename recordName (hided recordName)) none) (single (hided recordName)) := by
    rw [← renamed_single (visible_ne_hided recordName_visible recordName).symm]
    exact ⟨_, ⟨Or.inl rfl, nofun⟩, _, ⟨rfl, nofun⟩, rfl⟩
  have hfind : (shelf Lists).Path (single recordName)
      (did (.newLocalStorage (defaultRootDir .sample)) none ++ (did .readDir (.ok [listed]) ++ []))
      (single recordName) := by
    rw [List.append_nil]
    exact World.path_append.mpr ⟨_, still_path (still_did (a := .newLocalStorage _) rfl none),
      readDir_path (lists_single recordName)⟩
  refine World.path_append.mpr ⟨_, hfind, ?_⟩
  refine World.path_append.mpr ⟨_, still_path (still_checks halfDeleted_status), ?_⟩
  refine World.path_append.mpr ⟨_, still_path (still_did (a := deletePrompted) rfl none), ?_⟩
  exact World.path_append.mpr ⟨_, hrename, still_path (still_execDelete halfDeleted_exec)⟩

theorem validate_hidden : Run (sem pk) (validate .sample)
    (did .readDir (.ok [singleEntry (hided recordName)]))
    (.error ("read backup record by id failed. err: " ++ "Not found")) := by
  have hhidden : visible (singleEntry (hided recordName)) = false := by
    simp [visible, singleEntry, startsWith_hided]
  have hall : Run (sem pk) (readAll .sample) (did .readDir (.ok [singleEntry (hided recordName)]))
      (.ok []) := by
    refine readAll_run.mpr ⟨_, rfl, ?_, ?_⟩
    · intro entry hentry hv
      rw [List.mem_singleton.mp hentry, hhidden] at hv
      cases hv
    · simp [recordOf, hhidden]
  have hread : Run (sem pk) (readByID .sample "1") _ (.error "Not found") := readByID_of_readAll hall
  refine run_bind.mpr ⟨[], .ok [], _, .ret _, ?_, rfl⟩
  refine run_bind.mpr ⟨_, .error _, [], ?_, .ret _, (List.append_nil _).symm⟩
  exact run_bind.mpr ⟨_, _, [], hread, .ret _, (List.append_nil _).symm⟩

def retried : List Ev :=
  did (.newLocalStorage (defaultRootDir .sample)) none ++
    did .readDir (.ok [singleEntry (hided recordName)])

theorem retried_run : Run (sem pk) (deleteRecord .sample) retried
    (some ("read backup record by id failed. err: " ++ "Not found")) := by
  refine run_bind.mpr ⟨_, .error _, [], ?_, .ret _, (List.append_nil _).symm⟩
  exact run_act (a := .newLocalStorage _) (r := none) validate_hidden

theorem retried_path :
    (shelf Lists).Path (single (hided recordName)) retried (single (hided recordName)) :=
  World.path_append.mpr ⟨_, still_path (still_did (a := .newLocalStorage _) rfl none),
    readDir_path (lists_single _)⟩

theorem lists_path {s t : Store} {evs : List Ev} (h : (shelf Lists).Path s evs t) :
    (shelf Truthful).Path s evs t := by
  have hstep : ∀ {s e t}, (shelf Lists).step s e t → (shelf Truthful).step s e t :=
    fun h => ⟨h.1, fun entries he => lists_truthful (h.2 entries he)⟩
  exact World.path_map (f := id) hstep h

theorem halfDeleted_validated : Validated .documented (.deleteRecord .sample) halfDeleted runningRead :=
  ⟨_, _, rfl, findDeleted_run⟩

theorem halfDeleted_sent :
    .sub (1, .issue (deleteCall nodeB "B2")) ∈ halfDeleted ∧
      .sub (1, .reply (deleteCall nodeB "B2") (some "connection refused")) ∈ halfDeleted := by
  simp [halfDeleted, halfDeletedLog, deletedBy, whole]

theorem uniqueIDs_single (name : String) : UniqueIDs (single name) := by
  have honly : ∀ other x, single name other = some x → other = name := by
    intro other x hx
    by_contra h
    rw [single, Function.update_of_ne h] at hx
    cases hx
  intro a b r r' _ _ ha hb _
  rw [honly a _ ha, honly b _ hb]

def searched : List Ev :=
  did (.newLocalStorage (defaultRootDir .sample)) none ++
    (did (.newShardingSphereProxy Flags.sample.username Flags.sample.password defaultDBName
      Flags.sample.host Flags.sample.port) none ++
      did .readDir (.ok [singleEntry (hided recordName)]))

theorem searched_run : Run (sem pk) (restore .sample []) searched
    (some ("read backup record by id failed. err: " ++ "Not found")) := by
  refine run_bind.mpr ⟨_, .error _, [], ?_, .ret _, (List.append_nil _).symm⟩
  exact run_act (a := .newLocalStorage _) (r := none)
    (run_act (a := .newShardingSphereProxy _ _ _ _ _) (r := none) validate_hidden)

theorem searched_path :
    (shelf Lists).Path (single (hided recordName)) searched (single (hided recordName)) :=
  World.path_append.mpr ⟨_, still_path (still_did (a := .newLocalStorage _) rfl none),
    World.path_append.mpr ⟨_,
      still_path (still_did (a := .newShardingSphereProxy _ _ _ _ _) rfl none),
      readDir_path (lists_single _)⟩⟩

/-- The second agent refuses a deletion, and then the record is to be restored. -/
theorem halfDeleted_never_restored :
    Started .documented (.restore .sample []) searched ∧
      ∀ b, Validated .documented (.restore .sample []) searched b →
        Other (single recordName) runningRead b := by
  have hruns : ∀ run ∈ [] ++ (Command.deleteRecord .sample, halfDeleted) ::
      [(Command.restore .sample [], searched)], Started .documented run.1 run.2 := by
    intro run hrun
    simp only [List.nil_append, List.mem_cons, List.not_mem_nil, or_false] at hrun
    rcases hrun with rfl | rfl
    · exact halfDeleted_run.cut
    · exact searched_run.cut
  have hpath : (shelf Truthful).Path (single recordName)
      (([] ++ (Command.deleteRecord .sample, halfDeleted) ::
        [(.restore .sample [], searched)]).flatMap Prod.snd) (single (hided recordName)) := by
    simp only [List.nil_append, List.flatMap_cons, List.flatMap_nil, List.append_nil]
    exact lists_path (World.path_append.mpr ⟨_, halfDeleted_path, searched_path⟩)
  have hlast := deleted_never_restored hruns hpath halfDeleted_validated halfDeleted_sent.1
    (.restore .sample [], searched) (by simp)
  exact ⟨searched_run.cut, hlast.1⟩

/-- The same deletion is tried again at once. -/
theorem halfDeleted_not_retried :
    (∃ name r, runningRead.info.map (·.fileName) = some name ∧
        single recordName name = some (.record r) ∧ single (hided recordName) name = none ∧
        single (hided recordName) (hided name) = some (.record r)) ∧
      ∀ y, .sub y ∉ retried := by
  have hpath : (shelf Truthful).Path (single (hided recordName))
      (([] : List (Command × List Ev)).flatMap (·.2) ++ retried) (single (hided recordName)) :=
    lists_path retried_path
  have h := failed_deletion_not_retried halfDeleted_run halfDeleted_sent.2 halfDeleted_validated
    (lists_path halfDeleted_path) (uniqueIDs_single recordName) (by simp)
    (Run.cut retried_run) hpath rfl rfl
  exact ⟨h.2.1, h.2.2.2.1⟩

/-- The answer of an act of `deleteRecord` to the main goroutine that is an error. -/
def failure : (a : Act) → ActR a → Bool
  | .newLocalStorage _, r | .checkStatus _ _, r | .getUserApprove _, r | .osRename _ _, r
  | .osRemove _, r => r.isSome
  | .readDir, .error _ => true
  | _, _ => false

/-- A deletion that has failed is not made good by the next one, although nothing
fails there. -/
theorem not_all_deletions_retried :
    ¬∀ (pk : Packages) (f : Flags) (s t u : Store) (tr tr' : List Ev) (err : Err)
      (res : Option Err) (bak : LsBackup), Run (sem pk) (deleteRecord f) tr (some err) →
      (shelf Lists).Path s tr t → Validated pk (.deleteRecord f) tr bak → f.csn = "" →
      bak.info.map (·.id) = some f.recordID → UniqueIDs s →
      (∃ i addr x e, .sub (i, .reply (.deleteBackup addr x) (some e)) ∈ tr) →
      Run (sem pk) (deleteRecord f) tr' res → (shelf Lists).Path t tr' u →
      (∀ a r, .main (.reply (.act a) r) ∈ tr' → failure a r = false) →
      (∃ b, Validated pk (.deleteRecord f) tr' b ∧
        b.info.map (·.id) = bak.info.map (·.id)) ∧
      ∀ i addr x e, .sub (i, .reply (.deleteBackup addr x) (some e)) ∈ tr →
        ∃ j, .sub (j, .issue (.deleteBackup addr x)) ∈ tr' := by
  intro h
  have hgood : ∀ a r, .main (.reply (.act a) r) ∈ retried → failure a r = false := by
    intro a r hm
    simp only [retried, did, whole, List.map_nil, List.nil_append, List.cons_append, List.mem_cons,
      List.not_mem_nil, or_false, reduceCtorEq, Event.main.injEq, false_or] at hm
    rcases hm with hm | hm <;> cases hm <;> rfl
  obtain ⟨-, hall⟩ := h .documented .sample _ _ _ _ _ _ _ _ halfDeleted_run halfDeleted_path
    halfDeleted_validated rfl rfl (uniqueIDs_single recordName) ⟨_, _, _, _, halfDeleted_sent.2⟩
    retried_run retried_path hgood
  obtain ⟨j, hj⟩ := hall _ _ _ _ halfDeleted_sent.2
  simp [retried, did, whole] at hj

end ShardingOnCloud.Pitr.HiddenRecords
