import ShardingOnCloud.Pitr.BackupFiles
import ShardingOnCloud.Pitr.BackupRuns
import ShardingOnCloud.Pitr.RecordMap

namespace ShardingOnCloud.Pitr.FailedBackup

open ShardingOnCloud.Lib.Program ShardingOnCloud.Pitr.Model ShardingOnCloud.Pitr.Calls
open ShardingOnCloud.Pitr.LocalStorage ShardingOnCloud.Pitr.Backup ShardingOnCloud.Pitr.BackupSpec
open ShardingOnCloud.Pitr.BackupRuns ShardingOnCloud.Pitr.ClusterLock ShardingOnCloud.Pitr.Encoding
open ShardingOnCloud.Pitr.StorageSpec ShardingOnCloud.Pitr.RecordFiles
open ShardingOnCloud.Pitr.BackupFiles
open ShardingOnCloud.Pitr.RecordMap (finite_update)

section Reads

variable {pk : Packages} {f : Flags} {msg : ByteArray → Err} {n : ℕ} {s t : Files} {tr : List Ev}
  {name id : String} {A : List Answer} {x : Option ByteArray}

theorem extract_whole {bytes : ByteArray} (h : bytes.size ≤ n) : bytes.extract 0 n = bytes := by
  have hmax : max n bytes.size = n := max_eq_left h
  calc bytes.extract 0 n = bytes.extract 0 (max n bytes.size) := by rw [hmax]
    _ = bytes := ByteArray.extract_zero_max_size

theorem recordOf_id {r b : LsBackup} (hr : HasID id r)
    (hb : recordOf (entryOf msg name (recordBytes r)) = some b) : HasID id b := by
  obtain ⟨-, -, r', info, hfile, hinfo, rfl⟩ := recordOf_eq_some.mp hb
  have hr' : canonRecord r = r' := by simpa [entryOf, readBytes_recordBytes] using hfile
  have hid : (canonRecord r).info.map (·.id) = some id := hr
  rw [hr', hinfo] at hid
  exact hid

section Name

variable (hvisible : startsWith name "." = false) (hjson : hasSuffix name ".json" = true)

include hvisible hjson in
theorem fine_cut_iff {r : LsBackup} (hr : HasID id r) :
    Fine (entryOf msg name ((recordBytes r).extract 0 n)) ↔ (recordBytes r).size ≤ n := by
  constructor
  · intro hfine
    by_contra hn
    exact not_fine_cut hvisible hjson (not_le.mp hn) hfine
  · intro hn
    obtain ⟨info, hinfo, -⟩ := Option.map_eq_some_iff.mp hr
    rw [extract_whole hn]
    exact fine_recordBytes hinfo

include hvisible hjson in
/-- A record that is read in what the run has left is the one of the run. -/
theorem left_id (h : Left n id A x) {bytes : ByteArray} {b : LsBackup} (hx : x = some bytes)
    (hb : recordOf (entryOf msg name bytes) = some b) : HasID id b := by
  cases h with
  | whole r hr _ =>
    cases hx
    exact recordOf_id hr hb
  | broken r hr _ _ _ =>
    cases hx
    have hfine : Fine (entryOf msg name ((recordBytes r).extract 0 n)) :=
      fun _ => ⟨rfl, fun _ => by rw [hb, Option.isSome_some]⟩
    rw [extract_whole ((fine_cut_iff hvisible hjson hr).mp hfine)] at hb
    exact recordOf_id hr hb
  | removed r _ _ => cases hx

include hvisible hjson in
theorem left_fine_iff (h : Left n id A x) :
    (∀ bytes, x = some bytes → Fine (entryOf msg name bytes)) ↔
      ∀ r, .broke r ∈ A → (recordBytes r).size ≤ n ∨ ((∃ r', .wrote r' ∈ A) ∧ .nodes [] ∉ A) := by
  cases h with
  | whole r hr hbroke =>
    constructor
    · intro _ r' hr'
      exact absurd hr' (hbroke r')
    · intro _ bytes hx
      cases hx
      obtain ⟨info, hinfo, -⟩ := Option.map_eq_some_iff.mp hr
      exact fine_recordBytes hinfo
  | broken r hr hbroke hall hleft =>
    constructor
    · intro hfine r' hr'
      rw [hall r' hr']
      exact Or.inl ((fine_cut_iff hvisible hjson hr).mp (hfine _ rfl))
    · intro hbroken bytes hx
      cases hx
      refine (fine_cut_iff hvisible hjson hr).mpr ((hbroken r hbroke).resolve_right ?_)
      rintro ⟨⟨r', hr'⟩, hnodes⟩
      rcases hleft with hwrote | hnil
      · exact hwrote r' hr'
      · exact hnodes hnil
  | removed r hwrote hnodes =>
    constructor
    · exact fun _ r' _ => Or.inr ⟨⟨r, hwrote⟩, hnodes⟩
    · intro _ bytes hx
      cases hx

end Name

theorem startsWith_dot {p q : String} (h : startsWith p "." = false) :
    startsWith (p ++ "_" ++ q ++ ".json") "." = false := by
  simp only [startsWith, String.toList_append] at h ⊢
  cases hp : p.toList with
  | nil => rfl
  | cons c cs =>
    rw [hp] at h
    exact h

/-- The file names that are generated begin with the time, and no name of a time begins with
a dot. -/
def Dated (tr : List Ev) : Prop :=
  ∀ p q, .main (.reply (.act .genFilename) (p, q)) ∈ tr → startsWith p "." = false

/-- The IDs that are generated are not those of the records. -/
def FreshIDs (list : List LsBackup) (tr : List Ev) : Prop :=
  ∀ id, .main (.reply (.act .newUUID) id) ∈ tr → ∀ b ∈ list, ¬HasID id b

end Reads

section Samples

def savedName : String := "20230102030405" ++ "_" ++ "a1B2c3D4" ++ ".json"

theorem savedName_json : hasSuffix savedName ".json" = true := hasSuffix_append _ _

def savedID : String := "f47ac10b-58cc-4372-a567-0e02b2c3d479"

def saved : LsBackup where
  info := some
    { id := savedID, csn := "", backupMode := Flags.sample.backupMode,
      startTime := "2023-01-02 03:04:05", endTime := "", fileName := "" }
  dnList := []
  ssBackup := some
    { status := ssBackupStatusWaiting, clusterInfo := some sampleCluster, storageNodes := [nodeA] }

/-- `exportData` with the given answer to its write. -/
def saving (err : Option (Err × String)) : List Ev :=
  did .exportMetaData (.ok sampleCluster) ++ (did .exportStorageNodes (.ok [nodeA]) ++
    (did .genFilename ("20230102030405", "a1B2c3D4") ++ (did .newUUID savedID ++
      (did .now "2023-01-02 03:04:05" ++ (did (.osCreate savedName) none ++
        (did (.fileWrite savedName saved) err ++ []))))))

theorem saving_run : Run (sem .documented) (exportData .sample "") (saving none)
    (savedName, .ok saved) := by
  refine run_act (run_act (run_act (run_act (run_act ?_))))
  change Run (sem .documented) (writeByJSON .sample savedName saved >>= _) _ _
  rw [writeByJSON, if_pos savedName_json]
  exact run_act (run_act (.ret _))

def noSpaceAnswer : Option (Err × String) := some ("no space left on device", recordText saved)

def noSpaceErr : Err :=
  "write backup info by json failed. err: " ++
    ("write to file failure. err: " ++ "no space left on device" ++ ", data: " ++ recordText saved)

theorem saving_fails : Run (sem .documented) (exportData .sample "")
    (saving noSpaceAnswer) (savedName, .error noSpaceErr) := by
  refine run_act (run_act (run_act (run_act (run_act ?_))))
  change Run (sem .documented) (writeByJSON .sample savedName saved >>= _) _ _
  rw [writeByJSON, if_pos savedName_json]
  exact run_act (run_act (.ret _))

/-- The run in which the first write finds no space. -/
def noSpace : List Ev :=
  connecting .sample none (saving noSpaceAnswer ++
    (did (.exec .unlock) none ++ []))

theorem noSpace_run : Run (sem .documented) (backup .sample "") noSpace
    (some ("export backup data failed. err: " ++ noSpaceErr)) := by
  have hsteps : Run (sem .documented) (backupSteps .sample "")
      (did (.exec .lockForBackup) none ++ saving noSpaceAnswer)
      (⟨some noSpaceErr, none, false, savedName⟩,
        some ("export backup data failed. err: " ++ noSpaceErr)) := by
    refine run_act (a := .exec _) (r := none) ?_
    change Run (sem .documented) (exportData .sample "" >>= _) _ _
    exact run_bind.mpr ⟨_, _, [], saving_fails, .ret _, (List.append_nil _).symm⟩
  exact connecting_run hsteps (run_act (a := .exec _) (r := none) (.ret _))

def unreachable : List Ev :=
  connecting .sample none (saving none ++
    (did (.checkStatus (agentAddr .sample nodeA)
      { dbPort := nodeA.port, dbName := nodeA.database, username := nodeA.username,
        password := nodeA.password }) (some "connection refused") ++ []) ++
    (did (.exec .unlock) none ++
      (whole (Call.goDetach .deleteResult 1 [] (removeRecord savedName)) ()
        [(0, .issue (.osRemove savedName)), (0, .reply (.osRemove savedName) none)] ++ [])))

theorem unreachable_run : Run (sem .documented) (backup .sample "") unreachable
    (some "One or more agent server are not available.") := by
  have hchecks : Run (sem .documented) (backupChecks .sample savedName saved)
      (did (.checkStatus (agentAddr .sample nodeA)
        { dbPort := nodeA.port, dbName := nodeA.database, username := nodeA.username,
          password := nodeA.password }) (some "connection refused") ++ [])
      (⟨some "One or more agent server are not available.", some saved, false, savedName⟩,
        some "One or more agent server are not available.") :=
    run_act (.ret _)
  refine connecting_run (exporting_run saving_run hchecks) (run_act (a := .exec _) (r := none) ?_)
  exact Run.call (removeRecord_returns 1 savedName) (.ret _)

def olderInfo : BackupMetaInfo where
  id := "9b2d7f0c-1c8e-4c57-9a43-2f6f5d0e7a11"
  csn := ""
  backupMode := Flags.sample.backupMode
  startTime := "2023-01-01 00:00:00"
  endTime := "2023-01-01 00:10:00"
  fileName := ""

def older : LsBackup := { saved with info := some olderInfo }

def olderName : String := "20230101000000_Zz9Yy8Xx.json"

def olderFiles : Files := Function.update (fun _ => none) olderName (some (recordBytes older))

def olderListed : LsBackup :=
  { canonRecord older with info := some { olderInfo with fileName := olderName } }

def decodeErr : ByteArray → Err := fun _ => "unexpected end of JSON input"

theorem older_listing :
    Listing decodeErr olderFiles [entryOf decodeErr olderName (recordBytes older)] :=
  listing_single decodeErr olderName (recordBytes older)

theorem older_read : Run (sem .documented) (readAll .sample)
    (did .readDir (.ok [entryOf decodeErr olderName (recordBytes older)])) (.ok [olderListed]) := by
  have hfine : Fine (entryOf decodeErr olderName (recordBytes older)) := fine_recordBytes rfl
  have hrecord : recordOf (entryOf decodeErr olderName (recordBytes older)) = some olderListed :=
    recordOf_recordBytes (by decide) (by decide) rfl
  refine older_listing.readAll_iff.mpr ⟨older_listing.fine_iff.mp (by simpa using hfine), ?_⟩
  rw [List.filterMap_cons_some hrecord, List.filterMap_nil]

theorem older_fresh {tr : List Ev}
    (htr : ∀ id, .main (.reply (.act .newUUID) id) ∈ tr → id = savedID) :
    FreshIDs [olderListed] tr := by
  intro id hid b hb
  rw [htr id hid, List.mem_singleton.mp hb]
  simp [HasID, olderListed, olderInfo, savedID]

theorem noSpace_path (n : ℕ) : (disk n).Path olderFiles noSpace
    (Function.update olderFiles savedName (some ((recordBytes saved).extract 0 n))) := by
  simp [World.Path, noSpace, noSpaceAnswer, connecting, saving, did, whole, disk]

theorem unreachable_path (n : ℕ) : (disk n).Path olderFiles unreachable
    (Function.update olderFiles savedName none) := by
  simp [World.Path, unreachable, connecting, saving, did, whole, disk]

theorem unreachable_answers :
    answers unreachable = [.nodes [nodeA], .created savedName, .wrote saved] := rfl

theorem saving_dated {tr : List Ev} (htr : ∀ p q, .main (.reply (.act .genFilename) (p, q)) ∈ tr →
    p = "20230102030405" ∧ q = "a1B2c3D4") : Dated tr := by
  intro p q h
  rw [(htr p q h).1]
  decide

theorem noSpace_dated : Dated noSpace :=
  saving_dated (by simp [noSpace, connecting, saving, did, whole])

theorem noSpace_fresh : FreshIDs [olderListed] noSpace :=
  older_fresh (by simp [noSpace, connecting, saving, did, whole])

theorem noSpace_removes : RemovesAll noSpace := by
  intro i name err
  simp [noSpace, connecting, saving, did, whole]

theorem unreachable_dated : Dated unreachable :=
  saving_dated (by simp [unreachable, connecting, saving, did, whole])

theorem unreachable_fresh : FreshIDs [olderListed] unreachable :=
  older_fresh (by simp [unreachable, connecting, saving, did, whole])

theorem unreachable_removes : RemovesAll unreachable := by
  intro i name err
  simp [unreachable, connecting, saving, did, whole]

theorem savedName_free : olderFiles savedName = none :=
  Function.update_of_ne (by decide) _ _

theorem unreachable_harmless (n : ℕ) : Harmless n olderFiles unreachable := by
  rw [Harmless, unreachable_answers]
  refine ⟨fun name hname => ?_, by simp⟩
  have hsaved : name = savedName := by simpa using hname
  rw [hsaved, savedName_free]

end Samples

/-- A run of `backup` leaves all records readable if and only if it creates a new file and no
write fails in a way that the deferred function does not clean up. -/
theorem records_survive_backup_iff {pk : Packages} {f : Flags} {msg : ByteArray → Err} {n : ℕ}
    {s t : Files} {tr : List Ev} {filename : String} {res : Option Err} {entries : List DirEntry}
    {list : List LsBackup}
    (h : Run (sem pk) (backup f filename) tr res) (hp : (disk n).Path s tr t)
    (hremoves : RemovesAll tr) (hdated : Dated tr) (hl : Listing msg s entries)
    (hread : Run (sem pk) (readAll f) (did .readDir (.ok entries)) (.ok list))
    (hfresh : FreshIDs list tr) : StillReads pk f msg list t ↔ Harmless n s tr := by
  obtain ⟨hlegible, rfl⟩ := hl.readAll_iff.mp hread
  have hstored := hl.stored_iff
  cases backup_outcome h hremoves hp with
  | untouched hA =>
    have hstill : StillReads pk f msg (entries.filterMap recordOf) s :=
      (stillReads_iff hl.finite).mpr ⟨hlegible, fun b hb => (hstored b).mp hb⟩
    refine iff_of_true hstill ⟨fun name hname => ?_, fun r hr => ?_⟩
    · obtain ⟨nodes, h⟩ := hA _ hname
      cases h
    · obtain ⟨nodes, h⟩ := hA _ hr
      cases h
  | changed p q id x hname hid hcreated hleft =>
    have hvisible := startsWith_dot (q := q) (hdated p q hname)
    have hjson : hasSuffix (p ++ "_" ++ q ++ ".json") ".json" = true := hasSuffix_append _ _
    have hother : ∀ bytes b, x = some bytes →
        recordOf (entryOf msg (p ++ "_" ++ q ++ ".json") bytes) = some b →
        b ∉ entries.filterMap recordOf := fun bytes b hx hb hmem =>
      hfresh id hid b hmem (left_id hvisible hjson hleft hx hb)
    rw [stillReads_iff (finite_update hl.finite _ _),
      update_reads_iff hvisible hjson hlegible hstored hother, left_fine_iff hvisible hjson hleft]
    refine and_congr_left' ?_
    constructor
    · intro hfree name hmem
      rw [(hcreated name).mp hmem]
      exact hfree
    · exact fun hnew => hnew _ ((hcreated _).mpr rfl)

/-- The record of a backup that fails at the agents is removed, and the older one is read. -/
theorem unreachable_reads : StillReads .documented .sample decodeErr [olderListed]
    (Function.update olderFiles savedName none) :=
  (records_survive_backup_iff unreachable_run (unreachable_path 0) unreachable_removes
    unreachable_dated older_listing older_read unreachable_fresh).mpr (unreachable_harmless 0)

/-- When the first write finds no space, an empty file is left and no record can be read. -/
theorem not_all_records_survive :
    ¬∀ (pk : Packages) (f : Flags) (filename : String) (tr : List Ev) (res : Option Err)
      (msg : ByteArray → Err) (n : ℕ) (s t : Files) (entries : List DirEntry)
      (list : List LsBackup),
      Run (sem pk) (backup f filename) tr res → (disk n).Path s tr t → RemovesAll tr → Dated tr →
      Listing msg s entries →
      Run (sem pk) (readAll f) (did .readDir (.ok entries)) (.ok list) → FreshIDs list tr →
      StillReads pk f msg list t := by
  intro h
  have hreads := h _ _ _ _ _ _ 0 _ _ _ _ noSpace_run (noSpace_path 0) noSpace_removes noSpace_dated
    older_listing older_read noSpace_fresh
  obtain ⟨hlegible, -⟩ := (stillReads_iff (finite_update older_listing.finite _ _)).mp hreads
  exact not_fine_cut (by decide) savedName_json (recordBytes_pos saved)
    (hlegible savedName _ (Function.update_self _ _ _))

end ShardingOnCloud.Pitr.FailedBackup
