import ShardingOnCloud.Pitr.Encoding
import ShardingOnCloud.Pitr.RestoreRuns
import ShardingOnCloud.Pitr.StorageSpec

namespace ShardingOnCloud.Pitr.MetadataText

open ShardingOnCloud.Lib ShardingOnCloud.Lib.Program ShardingOnCloud.Lib.JsonParser
open ShardingOnCloud.Pitr.Model ShardingOnCloud.Pitr.Calls ShardingOnCloud.Pitr.LocalStorage
open ShardingOnCloud.Pitr.Backup ShardingOnCloud.Pitr.BackupSpec ShardingOnCloud.Pitr.BackupRuns
open ShardingOnCloud.Pitr.Restore ShardingOnCloud.Pitr.RestoreRuns ShardingOnCloud.Pitr.StorageSpec
open ShardingOnCloud.Pitr.Encoding

/-- The outcome of a query for one row: the errors of `Query`, `Scan`, `Close` and of
the rows, and the columns `id`, `create_time` and `data`. -/
structure Rows where
  queryErr : Option Err
  row : Option (Except Err (String × String × String))
  closeErr : Option Err
  rowsErr : Option Err

/-- What the decoders say of a text that they refuse. -/
structure Messages where
  base64 : String → Err
  json : String → Err

def scanData (q : Rows) : Except Err String :=
  match q.queryErr with
  | some err => .error ("export meta data failure. err: " ++ err)
  | none => do
    let data ← match q.row with
      | none => .ok ""
      | some (.error err) => .error ("query scan failure. err: " ++ err)
      | some (.ok (_, _, data)) =>
        match q.closeErr with
        | some err => .error ("query close failure. err: " ++ err)
        | none => .ok data
    match q.rowsErr with
    | some err => .error ("query err: " ++ err)
    | none => .ok data

def dropEmptySnapshot (c : ClusterInfo) : ClusterInfo :=
  match c.snapshotInfo with
  | none => c
  | some s => if s.csn = "" then { c with snapshotInfo := none } else c

def decodeCluster (json : String) : Option ClusterInfo :=
  (parse json).bind (fun j => decodeStruct clusterInfoFields j ⟨⟨emptyMap, "", ""⟩, none⟩)

def exportMetaData (msg : Messages) (q : Rows) : Except Err ClusterInfo :=
  match scanData q with
  | .error err => .error err
  | .ok data =>
    match Base64.decode data.toList with
    | none => .error ("base64 decode return err: " ++ msg.base64 data)
    | some rawDecodedText =>
      match (String.fromUTF8? ⟨rawDecodedText.toArray⟩).bind decodeCluster with
      | none => .error ("json unmarshal return err: " ++ msg.json data)
      | some out => .ok (dropEmptySnapshot out)

/-- The statement of `ImportMetaData`. -/
def importText (c : ClusterInfo) : String := "IMPORT METADATA '" ++ payload c ++ "';"

theorem exportMetaData_ok {msg : Messages} {q : Rows} {data : String} {c : ClusterInfo}
    (hq : scanData q = .ok data) (hc : readPayload data = some c) :
    exportMetaData msg q = .ok (dropEmptySnapshot c) := by
  obtain ⟨bs, hbs, h₁⟩ := Option.bind_eq_some_iff.mp hc
  simp only [exportMetaData, hq, hbs]
  have hdecode : (String.fromUTF8? ⟨bs.toArray⟩).bind decodeCluster = some c := h₁
  rw [hdecode]

structure SameCluster (c c' : ClusterInfo) : Prop where
  databases : c.metaData.databases.entries.Perm c'.metaData.databases.entries
  props : c.metaData.props = c'.metaData.props
  rules : c.metaData.rules = c'.metaData.rules
  snapshotInfo : c.snapshotInfo = c'.snapshotInfo

theorem canonCluster_same (c : ClusterInfo) : SameCluster (canonCluster c) c :=
  ⟨List.mergeSort_perm _ _, rfl, rfl, rfl⟩

theorem SameCluster.trans {a b c : ClusterInfo} (h : SameCluster a b) (h' : SameCluster b c) :
    SameCluster a c :=
  ⟨h.databases.trans h'.databases, h.props.trans h'.props, h.rules.trans h'.rules,
    h.snapshotInfo.trans h'.snapshotInfo⟩

variable {pk : Packages}

/-- The record that `exportData` makes of an exported cluster. -/
theorem exportData_inv {f : Flags} {filename name : String} {r : LsBackup} {tr : List Ev}
    (h : Run (sem pk) (exportData f filename) tr (name, .ok r)) :
    ∃ cluster nodes info, .main (.reply (.act .exportMetaData) (.ok cluster)) ∈ tr ∧
      hasSuffix name ".json" = true ∧ r.info = some info ∧
      info.csn = (cluster.snapshotInfo.map (·.csn)).getD "" ∧
      r.ssBackup = some ⟨ssBackupStatusWaiting, some cluster, nodes⟩ := by
  obtain ⟨x, tr₁, h₁, rfl⟩ := run_act_inv h
  cases x with
  | error err => cases (run_ret.mp h₁).2
  | ok cluster =>
    obtain ⟨x, tr₂, h₂, rfl⟩ := run_act_inv h₁
    cases x with
    | error err => cases (run_ret.mp h₂).2
    | ok nodes =>
      obtain ⟨file, tr₃, h₃, rfl⟩ := run_act_inv h₂
      obtain ⟨id, tr₄, h₄, rfl⟩ := run_act_inv h₃
      obtain ⟨startTime, tr₅, h₅, rfl⟩ := run_act_inv h₄
      change Run (sem pk) (writeByJSON _ _ _ >>= _) _ _ at h₅
      obtain ⟨tr₆, err, tr₇, -, h₆, rfl⟩ := run_bind.mp h₅
      cases err with
      | some err => cases (run_ret.mp h₆).2
      | none =>
        cases (run_ret.mp h₆).2
        exact ⟨cluster, nodes, _, by simp [did, whole], hasSuffix_append _ _, rfl, rfl, rfl⟩

def decodeFile (msg : Messages) (text : String) : Except Err (Except Err LsBackup) :=
  match readRecord text with
  | some r => .ok (.ok r)
  | none => .ok (.error (msg.json text))

/-- The entry of a record that `WriteByJSON` has stored. -/
def storedEntry (msg : Messages) (name : String) (r : LsBackup) : DirEntry :=
  ⟨name, false, none, decodeFile msg (recordText r)⟩

theorem storedEntry_record (msg : Messages) {name : String} (hname : startsWith name "." = false)
    (hjson : hasSuffix name ".json" = true) {r : LsBackup} {info : BackupMetaInfo}
    (hinfo : r.info = some info) :
    recordOf (storedEntry msg name r) =
      some { canonRecord r with info := some { info with fileName := name } } := by
  refine recordOf_eq_some.mpr ⟨by simp [visible, storedEntry, hname], hjson, canonRecord r, info,
    ?_, hinfo, rfl⟩
  simp [storedEntry, decodeFile, readRecord_recordText]

theorem readByID_stored {f : Flags} {before after : List DirEntry} {entry : DirEntry} {b : LsBackup}
    (info : BackupMetaInfo) (hfine : ∀ e ∈ before ++ entry :: after, Fine e)
    (hb : recordOf entry = some b) (hinfo : b.info = some info)
    (hfirst : ∀ e ∈ before, ∀ b', recordOf e = some b' → b'.info.map (·.id) ≠ some info.id) :
    Run (sem pk) (readByID f info.id) (did .readDir (.ok (before ++ entry :: after))) (.ok b) := by
  have hall : Run (sem pk) (readAll f) (did .readDir (.ok (before ++ entry :: after)))
      (.ok (before.filterMap recordOf ++ b :: after.filterMap recordOf)) :=
    readAll_run.mpr ⟨_, rfl, hfine, by simp [hb]⟩
  have hread : Run (sem pk) (readByID f info.id) _ _ := readByID_of_readAll hall
  have hnone : (before.filterMap recordOf).find?
      (fun v => decide (v.info.map (·.id) = some info.id)) = none := by
    refine List.find?_eq_none.mpr (fun b' hb' => ?_)
    obtain ⟨e, he, hrec⟩ := List.mem_filterMap.mp hb'
    simpa using hfirst e he b' hrec
  have hfind : (before.filterMap recordOf ++ b :: after.filterMap recordOf).find?
      (fun v => decide (v.info.map (·.id) = some info.id)) = some b := by
    rw [List.find?_append, hnone, Option.none_or, List.find?_cons_of_pos (by simp [hinfo])]
  rwa [firstByID, hfind] at hread

theorem importRecord_issues {b : LsBackup} (ss : SsBackup) {c : ClusterInfo} {tr : List Ev}
    {res : Option Err} (hss : b.ssBackup = some ss) (hc : ss.clusterInfo = some c)
    (h : Run (sem pk) (importRecord b) tr res) :
    .main (.issue (.act (.exec (.importMetaData c)))) ∈ tr := by
  obtain ⟨tr₁, ss', tr₂, hderef, h₁, rfl⟩ := run_bind.mp h
  obtain ⟨rfl, hss'⟩ := run_deref hderef
  cases hss.symm.trans hss'
  rw [hc] at h₁
  obtain ⟨err, tr₃, -, rfl⟩ := run_act_inv h₁
  simp [did, whole]

theorem dropEmptySnapshot_csn (c : ClusterInfo) :
    ((dropEmptySnapshot c).snapshotInfo.map (·.csn)).getD "" =
      (c.snapshotInfo.map (·.csn)).getD "" := by
  unfold dropEmptySnapshot
  split
  · rfl
  · next s hs =>
    split
    · next hcsn => simp [hs, hcsn]
    · rfl

/-- The metadata that the proxy exports comes back to it: the record is found under
its ID, and the statement that imports it carries the cluster that was exported,
but for a snapshot without a CSN. -/
theorem metadata_survives {pk : Packages} {f f' : Flags} {filename name data : String}
    {msg : Messages} {q : Rows} {c : ClusterInfo} {r stored : LsBackup} {info : BackupMetaInfo}
    {tr : List Ev} {before after : List DirEntry} (hq : scanData q = .ok data)
    (hc : readPayload data = some c)
    (hexport : Run (sem pk) (exportData f filename) tr (name, .ok r))
    (hreply : ∀ x, .main (.reply (.act .exportMetaData) x) ∈ tr → x = exportMetaData msg q)
    (hname : startsWith name "." = false) (hinfo : stored.info = some info)
    (hcluster : stored.ssBackup.bind (·.clusterInfo) = r.ssBackup.bind (·.clusterInfo))
    (hfine : ∀ e ∈ before ++ after, Fine e)
    (hfirst : ∀ e ∈ before, ∀ b, recordOf e = some b → b.info.map (·.id) ≠ some info.id) :
    r.info.map (·.csn) = some ((c.snapshotInfo.map (·.csn)).getD "") ∧
      ∃ b, Run (sem pk) (readByID f' info.id)
          (did .readDir (.ok (before ++ storedEntry msg name stored :: after))) (.ok b) ∧
        ∀ tr' res, Run (sem pk) (importRecord b) tr' res → ∃ cluster text,
          .main (.issue (.act (.exec (.importMetaData cluster)))) ∈ tr' ∧
          importText cluster = "IMPORT METADATA '" ++ text ++ "';" ∧
          ∃ c', readPayload text = some c' ∧ SameCluster c' (dropEmptySnapshot c) := by
  obtain ⟨cluster, nodes, rinfo, hmem, hjson, hrinfo, hcsn, hss⟩ := exportData_inv hexport
  have hexported := hreply _ hmem
  rw [exportMetaData_ok hq hc, Except.ok.injEq] at hexported
  subst hexported
  refine ⟨by rw [hrinfo, Option.map_some, hcsn, dropEmptySnapshot_csn], ?_⟩
  -- the record that is read back
  rw [hss] at hcluster
  obtain ⟨ss, hstored, hssc⟩ := Option.bind_eq_some_iff.mp hcluster
  have hrecord := storedEntry_record msg hname hjson hinfo
  have hentry : Fine (storedEntry msg name stored) :=
    fun _ => ⟨rfl, fun _ => by rw [hrecord]; rfl⟩
  have hall : ∀ e ∈ before ++ storedEntry msg name stored :: after, Fine e := by
    intro e he
    rcases List.mem_append.mp he with he | he
    · exact hfine e (List.mem_append_left _ he)
    · rcases List.mem_cons.mp he with rfl | he
      · exact hentry
      · exact hfine e (List.mem_append_right _ he)
  refine ⟨_, readByID_stored { info with fileName := name } hall hrecord rfl hfirst, ?_⟩
  intro tr' res himport
  refine ⟨canonCluster (dropEmptySnapshot c), payload (canonCluster (dropEmptySnapshot c)),
    importRecord_issues (canonSsBackup ss) ?_ ?_ himport, rfl,
    canonCluster (canonCluster (dropEmptySnapshot c)), readPayload_payload _, ?_⟩
  · simp [canonRecord, hstored]
  · simp [canonSsBackup, hssc]
  · exact (canonCluster_same _).trans (canonCluster_same _)

def sampleMessages : Messages :=
  ⟨fun _ => "illegal base64 data", fun _ => "unexpected end of JSON input"⟩

def sampleRows : Rows := ⟨none, some (.ok ("1", "", payload sampleCluster)), none, none⟩

theorem sampleCluster_survives :
    ∃ b, Run (sem .documented) (readByID .sample "1")
        (did .readDir (.ok [storedEntry sampleMessages recordName
          (waiting .sample (canonCluster sampleCluster) [nodeA, nodeB])])) (.ok b) ∧
      ∀ tr res, Run (sem .documented) (importRecord b) tr res → ∃ cluster text,
        .main (.issue (.act (.exec (.importMetaData cluster)))) ∈ tr ∧
        importText cluster = "IMPORT METADATA '" ++ text ++ "';" ∧
        ∃ c', readPayload text = some c' ∧ SameCluster c' (canonCluster sampleCluster) := by
  have hq : scanData sampleRows = .ok (payload sampleCluster) := rfl
  have hreply : ∀ x, .main (.reply (.act .exportMetaData) x) ∈
      exported .sample (canonCluster sampleCluster) [nodeA, nodeB] →
      x = exportMetaData sampleMessages sampleRows := by
    intro x hx
    have hexported : exportMetaData sampleMessages sampleRows = .ok (canonCluster sampleCluster) :=
      exportMetaData_ok hq (readPayload_payload sampleCluster)
    rw [hexported]
    simpa [exported, written, did, whole] using hx
  have hfine : ∀ e ∈ ([] ++ [] : List DirEntry), Fine e := by simp
  have hfirst : ∀ e ∈ ([] : List DirEntry), ∀ b, recordOf e = some b →
      b.info.map (·.id) ≠ some "1" := by simp
  exact (metadata_survives hq (readPayload_payload sampleCluster)
    (exportData_run .sample "" (canonCluster sampleCluster) [nodeA, nodeB]) hreply
    recordName_visible rfl rfl hfine hfirst).2

end ShardingOnCloud.Pitr.MetadataText
