import ShardingOnCloud.Pitr.RecordStore
import ShardingOnCloud.Pitr.RestoreMetadata
import ShardingOnCloud.Pitr.StorageSpec

namespace ShardingOnCloud.Pitr.RestoreRecord

open ShardingOnCloud.Lib.Program ShardingOnCloud.Lib.Assertions ShardingOnCloud.Lib.Pool
open ShardingOnCloud.Pitr.Model ShardingOnCloud.Pitr.Calls ShardingOnCloud.Pitr.LocalStorage
open ShardingOnCloud.Pitr.Backup ShardingOnCloud.Pitr.BackupSpec ShardingOnCloud.Pitr.BackupRuns
open ShardingOnCloud.Pitr.RecordStore ShardingOnCloud.Pitr.Restore ShardingOnCloud.Pitr.RestoreSpec
open ShardingOnCloud.Pitr.RestoreRuns ShardingOnCloud.Pitr.RestoreMetadata
open ShardingOnCloud.Pitr.StorageSpec

def Reads (s : Store) (evs : List Ev) : Prop :=
  ∀ entries, .main (.reply (.act .readDir) (.ok entries)) ∈ evs → ∀ entry ∈ entries, ∀ r,
    entry.file = .ok (.ok r) → s entry.name = some (.record r)

def Read (evs : List Ev) (b : LsBackup) : Prop :=
  ∃ entries, .main (.reply (.act .readDir) (.ok entries)) ∈ evs ∧ FromFile entries b

variable {pk : Packages}

theorem read_of_listed {evs : List Ev} {b : LsBackup} (h : Listed evs b) : Read evs b := by
  obtain ⟨entries, hm, hb⟩ := h
  obtain ⟨entry, hentry, hrec⟩ := List.mem_filterMap.mp hb
  obtain ⟨-, -, r, info, hfile, -, rfl⟩ := recordOf_eq_some.mp hrec
  exact ⟨entries, hm, entry, hentry, r, _, hfile, rfl⟩

/-- The record that is found has no data nodes yet, or those of all agents. -/
theorem found_written {f : Flags} {s : Store} {tr : List Ev} {bak : LsBackup}
    (h : Run (sem pk) (findRecord f) tr (.ok bak)) (hs : Sound s) (hr : Reads s tr) :
    Written bak := by
  obtain ⟨entries, hm, entry, hentry, r, info, hfile, rfl⟩ := read_of_listed (findRecord_listed h)
  exact hs entry.name r (hr entries hm entry hentry r hfile)

/-- The events other than a `Restore` request to an agent. -/
def NoRequest : Ev → Prop
  | .sub (_, .issue (.restore _ _)) => False
  | _ => True

theorem aside_noRequest {e : Ev} (h : Aside e) : NoRequest e := by
  cases e with
  | main l => trivial
  | sub x => exact h.elim

theorem looking_noRequest (a : Act) (_ : looking a = true) : Allows NoRequest a :=
  ⟨trivial, fun _ => trivial⟩

/-- Without data nodes `execRestore` gives up at the first storage node. -/
theorem execRestore_noRequest (f : Flags) {bak : LsBackup} (h : bak.dnList = []) :
    Emits (sem pk) NoRequest (execRestore f bak) (fun _ => True) := by
  refine emits_bind (deref_emits ⟨trivial, fun _ => trivial⟩ bak.ssBackup) (fun ss _ => ?_)
  rw [h]
  cases ss.storageNodes with
  | nil => exact emits_bind (deref_emits ⟨trivial, fun _ => trivial⟩ bak.info) (fun _ _ => trivial)
  | cons sn sns =>
    refine ⟨trivial, ?_, fun _ _ hr => hr.elim⟩
    rintro is ⟨us, hp⟩ x hx
    have hi := path_index hp hx
    cases hi

/-- A `Restore` request is only sent for a record whose backup all agents have
accepted. -/
theorem restore_requests_accepted {pk : Packages} {s : Store} {f : Flags} {names : List String}
    {evs : List Ev} {i : ℕ} {addr : String} {x : RestoreIn} (hs : Reached pk s)
    (h : Cut (sem pk) (restore f names) evs) (hr : Reads s evs)
    (hx : .sub (i, .issue (.restore addr x)) ∈ evs) :
    ∃ bak ss, Selected pk f evs bak ∧ bak.ssBackup = some ss ∧
      (ss.status = ssBackupStatusRunning ∨ ss.status = ssBackupStatusCompleted) ∧
      ∀ sn ∈ ss.storageNodes, ∃ dn ∈ bak.dnList, dn.ip = sn.ip := by
  have hfirst : ∀ {tr}, Cut (sem pk) (findRecord f) tr →
      .sub (i, .issue (.restore addr x)) ∉ tr := by
    intro tr hcut hm
    exact (aside_noRequest ((findRecord_aside f).cut hcut _ hm)).elim
  obtain hcut | ⟨tr₁, r, tr₂, hfind, hrest, rfl⟩ := cut_bind h
  · exact absurd hx (hfirst hcut)
  have hx₂ := (List.mem_append.mp hx).resolve_left (hfirst hfind.cut)
  cases r with
  | error err =>
    cases hrest with
    | here => cases hx₂
  | ok bak =>
    have hreads : Reads s tr₁ := fun entries hm => hr entries (List.mem_append_left _ hm)
    obtain hnil | ⟨ss, hss, hstatus, hnodes⟩ := found_written hfind (reached_sound hs) hreads
    · -- nothing is sent for a record without data nodes
      have hquiet : Emits (sem pk) NoRequest (restoreData f names bak) (fun _ => True) :=
        restoreData_emits looking_noRequest ⟨trivial, fun _ => trivial⟩ f names
          (execRestore_noRequest f hnil)
      refine ((emits_bind (Q := fun _ => True) hquiet (fun r _ => ?_)).cut hrest _ hx₂).elim
      cases r with
      | error err => trivial
      | ok names =>
        refine emits_bind ((restoreDataToSSProxy_aside names bak).mono
          (fun _ => aside_noRequest) (fun _ h => h)) (fun _ _ => trivial)
    · exact ⟨bak, ss, ⟨tr₁, tr₂, rfl, hfind⟩, hss, hstatus, hnodes⟩

def bothAccept : List Ev :=
  whole (Call.goWait 2 [_execBackup .sample nodeA, _execBackup .sample nodeB])
    ([reported nodeA (.ok "B1"), reported nodeB (.ok "B2")], none)
    (fanOut .sample nodeA nodeB (.ok "B1") (.ok "B2")) ++ did (.exec .unlock) none

theorem bothAccept_cut :
    Cut (sem .documented)
      (backupCut .sample recordName (waiting .sample sampleCluster [nodeA, nodeB]))
      (bothAccept ++ written recordName running) := by
  have htail : Cut (sem .documented) (backupTail .sample recordName running)
      (written recordName running ++ []) :=
    (writeByJSON_run .sample recordName_json running).bind_cut (.here _)
  rw [List.append_nil] at htail
  rw [bothAccept, List.append_assoc]
  refine Cut.call (fanOut_returns .sample nodeA nodeB (.ok "B1") (.ok "B2")) ?_
  exact cut_act (a := .exec _) (r := none) htail

theorem written_path (s : Store) (name : String) (r : LsBackup) :
    ∃ t, store.Path s (written name r) t ∧ t name = some (.record r) :=
  ⟨_, ⟨s, Or.inl rfl, _, rfl, _, Or.inl rfl, _, rfl, rfl⟩, Function.update_self _ _ _⟩

/-- `backup` may be stopped when it has written the record for the second time. -/
theorem running_reached : ∃ s, Reached .documented s ∧ s recordName = some (.record running) := by
  have hcut : Cut (sem .documented) (backup .sample "") _ :=
    approving_cut nodes_nodup bothAccept_cut
  have hlast : approving .sample sampleCluster [nodeA, nodeB]
      (bothAccept ++ written recordName running) =
      approving .sample sampleCluster [nodeA, nodeB] bothAccept ++ written recordName running := by
    simp [approving, approved, ClusterLock.connecting]
  rw [hlast] at hcut
  obtain ⟨u, hu⟩ := store_path (fun _ => none)
    (approving .sample sampleCluster [nodeA, nodeB] bothAccept)
  obtain ⟨t, ht, hname⟩ := written_path u recordName running
  exact ⟨t, .backup .empty hcut (World.path_append.mpr ⟨u, hu, ht⟩), hname⟩

theorem restored_reads {s : Store} (hs : s recordName = some (.record running)) :
    Reads s (restored sampleCluster) := by
  intro entries hm entry hentry r hfile
  have hlisted : entries = [listed] := by
    simpa [restored, looked, restoredData, droppedAll, checked, sampleCluster, StringMap.keys,
      did, whole] using hm
  rw [hlisted, List.mem_singleton] at hentry
  subst hentry
  cases hfile
  exact hs

theorem restored_requests : .sub (0, .issue (restoreCall .sample nodeA "B1")) ∈
    restored sampleCluster := by
  simp [restored, restoredData, restoredLog, restoredBy, whole]

theorem running_requests_accepted :
    ∃ bak ss, Selected .documented .sample (restored sampleCluster) bak ∧ bak.ssBackup = some ss ∧
      (ss.status = ssBackupStatusRunning ∨ ss.status = ssBackupStatusCompleted) ∧
      ∀ sn ∈ ss.storageNodes, ∃ dn ∈ bak.dnList, dn.ip = sn.ip := by
  obtain ⟨s, hs, hname⟩ := running_reached
  exact restore_requests_accepted hs (restored_run sampleCluster).cut (restored_reads hname)
    restored_requests

/-- The record of a backup that was stopped while the agents were still at work is
restored as well. -/
theorem not_all_restores_completed :
    ¬∀ (pk : Packages) (s : Store) (f : Flags) (names : List String) (evs : List Ev) (i : ℕ)
      (addr : String) (x : RestoreIn), Reached pk s → Cut (sem pk) (restore f names) evs →
      Reads s evs → .sub (i, .issue (.restore addr x)) ∈ evs →
      ∃ bak ss, Selected pk f evs bak ∧ bak.ssBackup = some ss ∧
        ss.status = ssBackupStatusCompleted ∧
        ∀ sn ∈ ss.storageNodes, ∃ dn ∈ bak.dnList, dn.ip = sn.ip := by
  intro h
  obtain ⟨s, hs, hname⟩ := running_reached
  obtain ⟨bak, ss, hsel, hss, hstatus, -⟩ := h _ s _ _ _ _ _ _ hs
    (restored_run sampleCluster).cut (restored_reads hname) restored_requests
  obtain rfl := selected_unique hsel ⟨looked, _, rfl, findRecord_run⟩
  cases hss
  exact absurd hstatus (by decide)

end ShardingOnCloud.Pitr.RestoreRecord
