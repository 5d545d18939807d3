import Mathlib.Data.List.Nodup
import Mathlib.Data.String.Basic
import ShardingOnCloud.Lib.Base64
import ShardingOnCloud.Lib.JsonPrinter
import ShardingOnCloud.Lib.Strconv
import ShardingOnCloud.Pitr.Model

namespace ShardingOnCloud.Pitr.Encoding

open ShardingOnCloud.Lib ShardingOnCloud.Lib.JsonParser ShardingOnCloud.Lib.JsonPrinter
open ShardingOnCloud.Pitr.Model

/-- A field of a structure as `encoding/json` sees it. A value is decoded into the
structure that is there already, which matters for null and for repeated keys. -/
structure Field (S : Type) where
  name : String
  isEmpty : S → Bool
  encode : S → Json
  decode : Json → S → Option S

/-- Two keys that only differ in case. The two letters outside ASCII that fold to
one inside it are the long s and the sign of the kelvin. -/
def foldChar (c : Char) : Char :=
  if c = '\u017F' then 's' else if c = '\u212A' then 'k' else c.toLower

def foldKey (k : String) : List Char := k.toList.map foldChar

def findField {S : Type} (fields : List (Field S)) (key : String) : Option (Field S) :=
  match fields.find? (fun f => decide (f.name = key)) with
  | some f => some f
  | none => fields.find? (fun f => decide (foldKey f.name = foldKey key))

/-- The fields that `omitempty` leaves out are those that say they are empty. -/
def encodeStruct {S : Type} (fields : List (Field S)) (s : S) : Json :=
  .obj ((fields.filter (fun f => !f.isEmpty s)).map (fun f => (f.name, f.encode s)))

def decodeMember {S : Type} (fields : List (Field S)) (s : S) (m : String × Json) : Option S :=
  match findField fields m.1 with
  | some f => f.decode m.2 s
  | none => some s

def decodeStruct {S : Type} (fields : List (Field S)) : Json → S → Option S
  | .null, s => some s
  | .obj ms, s => ms.foldlM (decodeMember fields) s
  | _, _ => none

def decodeString : Json → String → Option String
  | .str s, _ => some s
  | .null, s => some s
  | _, _ => none

def parseUint16 (cs : List Char) : Option UInt16 :=
  (Strconv.digits cs).bind (fun n => if n < 2 ^ 16 then some (UInt16.ofNat n) else none)

def decodeUint16 : Json → UInt16 → Option UInt16
  | .num l, _ => parseUint16 l.toList
  | .null, n => some n
  | _, _ => none

/-- The option `string` of a field: the number stands in a string. -/
def decodeQuotedUint16 : Json → UInt16 → Option UInt16
  | .str s, n => if s = "null" then some n else parseUint16 s.toList
  | .null, n => some n
  | _, _ => none

def encodePointer {α : Type} (encode : α → Json) : Option α → Json
  | none => .null
  | some a => encode a

def decodePointer {α : Type} (zero : α) (decode : Json → α → Option α) :
    Json → Option α → Option (Option α)
  | .null, _ => some none
  | j, o => (decode j (o.getD zero)).map some

/-- A slice of pointers. A slice that is empty is nil wherever the program writes
one. -/
def encodeSlice {α : Type} (encode : α → Json) : List α → Json
  | [] => .null
  | xs => .arr (xs.map encode)

/-- The elements are decoded into those that are there. A nil pointer among them has
no counterpart here. -/
def decodeItems {α : Type} (zero : α) (decode : Json → α → Option α) :
    List Json → List α → Option (List α)
  | [], _ => some []
  | .null :: _, _ => none
  | j :: js, old => do
    let x ← decode j (old.head?.getD zero)
    let xs ← decodeItems zero decode js old.tail
    return x :: xs

def decodeSlice {α : Type} (zero : α) (decode : Json → α → Option α) :
    Json → List α → Option (List α)
  | .null, _ => some []
  | .arr js, old => decodeItems zero decode js old
  | _, _ => none

def insertKey (es : List (String × String)) (k v : String) : List (String × String) :=
  if k ∈ es.map Prod.fst then es.map (fun e => if e.1 = k then (k, v) else e) else es ++ [(k, v)]

theorem insertKey_keys (es : List (String × String)) (k v : String) :
    (insertKey es k v).map Prod.fst =
      if k ∈ es.map Prod.fst then es.map Prod.fst else es.map Prod.fst ++ [k] := by
  unfold insertKey
  split
  · rw [List.map_map]
    refine List.map_congr_left (fun e _ => ?_)
    by_cases he : e.1 = k
    · simp [he]
    · simp [he]
  · simp

def insertEntry (m : StringMap) (k v : String) : StringMap where
  entries := insertKey m.entries k v
  nodup_keys := by
    rw [insertKey_keys]
    split
    · exact m.nodup_keys
    · next h =>
      refine List.nodup_append.mpr ⟨m.nodup_keys, by simp, fun a ha b hb => ?_⟩
      rw [List.mem_singleton.mp hb]
      exact fun hab => h (hab ▸ ha)

def emptyMap : StringMap := ⟨[], by simp⟩

def keyLe (a b : String × String) : Bool := decide (a.1 ≤ b.1)

def sortedMap (m : StringMap) : StringMap where
  entries := m.entries.mergeSort keyLe
  nodup_keys := ((List.mergeSort_perm m.entries keyLe).map Prod.fst).nodup_iff.mpr m.nodup_keys

/-- A map is written with its keys in order. The map nil is written as null and read
back as one without keys, as the empty map is. -/
def encodeMap (m : StringMap) : Json := .obj ((sortedMap m).entries.map (fun e => (e.1, .str e.2)))

def decodeMap : Json → StringMap → Option StringMap
  | .null, _ => some emptyMap
  | .obj ms, m => ms.foldlM (fun m x => (decodeString x.2 "").map (insertEntry m x.1)) m
  | _, _ => none

def field {S α : Type} (name : String) (get : S → α) (set : α → S → S) (encode : α → Json)
    (decode : Json → α → Option α) : Field S where
  name := name
  isEmpty _ := false
  encode s := encode (get s)
  decode j s := (decode j (get s)).map (fun x => set x s)

def textField {S : Type} (name : String) (get : S → String) (set : String → S → S) : Field S :=
  field name get set .str decodeString

def omitEmpty {S : Type} (f : Field S) (isEmpty : S → Bool) : Field S := { f with isEmpty }

def snapshotInfoFields : List (Field SnapshotInfo) :=
  [textField "csn" (·.csn) (fun x s => { s with csn := x }),
    textField "create_time" (·.createTime) (fun x s => { s with createTime := x })]

def metaDataFields : List (Field MetaData) :=
  [field "databases" (·.databases) (fun x s => { s with databases := x }) encodeMap decodeMap,
    textField "props" (·.props) (fun x s => { s with props := x }),
    textField "rules" (·.rules) (fun x s => { s with rules := x })]

def clusterInfoFields : List (Field ClusterInfo) :=
  [field "meta_data" (·.metaData) (fun x s => { s with metaData := x })
      (encodeStruct metaDataFields) (decodeStruct metaDataFields),
    omitEmpty
      (field "snapshot_info" (·.snapshotInfo) (fun x s => { s with snapshotInfo := x })
        (encodePointer (encodeStruct snapshotInfoFields))
        (decodePointer ⟨"", ""⟩ (decodeStruct snapshotInfoFields)))
      (fun s => s.snapshotInfo.isNone)]

def storageNodeFields : List (Field StorageNode) :=
  [textField "ip" (·.ip) (fun x s => { s with ip := x }),
    field "port" (·.port) (fun x s => { s with port := x }) (fun n => .str (toString n))
      decodeQuotedUint16,
    textField "username" (·.username) (fun x s => { s with username := x }),
    textField "password" (·.password) (fun x s => { s with password := x }),
    textField "database" (·.database) (fun x s => { s with database := x }),
    omitEmpty (textField "remark" (·.remark) (fun x s => { s with remark := x }))
      (fun s => s.remark.isEmpty)]

def ssBackupFields : List (Field SsBackup) :=
  [textField "status" (·.status.text) (fun x s => { s with status := ⟨x⟩ }),
    field "cluster_info" (·.clusterInfo) (fun x s => { s with clusterInfo := x })
      (encodePointer (encodeStruct clusterInfoFields))
      (decodePointer ⟨⟨emptyMap, "", ""⟩, none⟩ (decodeStruct clusterInfoFields)),
    field "storage_nodes" (·.storageNodes) (fun x s => { s with storageNodes := x })
      (encodeSlice (encodeStruct storageNodeFields))
      (decodeSlice ⟨"", 0, "", "", "", ""⟩ (decodeStruct storageNodeFields))]

def dataNodeFields : List (Field DataNode) :=
  [textField "ip" (·.ip) (fun x s => { s with ip := x }),
    field "port" (·.port) (fun x s => { s with port := x }) (fun n => .num (toString n))
      decodeUint16,
    textField "status" (·.status.text) (fun x s => { s with status := ⟨x⟩ }),
    textField "backup_id" (·.backupID) (fun x s => { s with backupID := x }),
    textField "start_time" (·.startTime) (fun x s => { s with startTime := x }),
    textField "end_time" (·.endTime) (fun x s => { s with endTime := x })]

def backupMetaInfoFields : List (Field BackupMetaInfo) :=
  [textField "id" (·.id) (fun x s => { s with id := x }),
    textField "csn" (·.csn) (fun x s => { s with csn := x }),
    textField "backup_mode" (·.backupMode.text) (fun x s => { s with backupMode := ⟨x⟩ }),
    textField "start_time" (·.startTime) (fun x s => { s with startTime := x }),
    textField "end_time" (·.endTime) (fun x s => { s with endTime := x }),
    textField "FileName" (·.fileName) (fun x s => { s with fileName := x })]

def lsBackupFields : List (Field LsBackup) :=
  [field "info" (·.info) (fun x s => { s with info := x })
      (encodePointer (encodeStruct backupMetaInfoFields))
      (decodePointer ⟨"", "", ⟨""⟩, "", "", ""⟩ (decodeStruct backupMetaInfoFields)),
    field "dn_list" (·.dnList) (fun x s => { s with dnList := x })
      (encodeSlice (encodeStruct dataNodeFields))
      (decodeSlice ⟨"", 0, ⟨""⟩, "", "", ""⟩ (decodeStruct dataNodeFields)),
    field "ss_backup" (·.ssBackup) (fun x s => { s with ssBackup := x })
      (encodePointer (encodeStruct ssBackupFields))
      (decodePointer ⟨⟨""⟩, none, []⟩ (decodeStruct ssBackupFields))]

theorem findField_self {S : Type} {fields : List (Field S)} (h : (fields.map (·.name)).Nodup)
    {f : Field S} (hf : f ∈ fields) : findField fields f.name = some f := by
  cases hfind : fields.find? (fun g => decide (g.name = f.name)) with
  | none =>
    have hne := List.find?_eq_none.mp hfind f hf
    simp at hne
  | some g =>
    have hname : g.name = f.name := by simpa using List.find?_some hfind
    rw [findField, hfind, List.inj_on_of_nodup_map h (List.mem_of_find?_eq_some hfind) hf hname]

theorem decodeStruct_encodeStruct {S : Type} {fields : List (Field S)}
    (h : (fields.map (·.name)).Nodup) (s zero : S) :
    decodeStruct fields (encodeStruct fields s) zero =
      (fields.filter (fun f => !f.isEmpty s)).foldlM (fun x f => f.decode (f.encode s) x) zero := by
  have hfold : ∀ fs : List (Field S), (∀ f ∈ fs, f ∈ fields) → ∀ x : S,
      (fs.map (fun f => (f.name, f.encode s))).foldlM (decodeMember fields) x =
        fs.foldlM (fun x f => f.decode (f.encode s) x) x := by
    intro fs hfs
    induction fs with
    | nil => exact fun x => rfl
    | cons f fs ih =>
      intro x
      obtain ⟨hf, hrest⟩ := List.forall_mem_cons.mp hfs
      simp only [List.map_cons, List.foldlM_cons, decodeMember, findField_self h hf]
      exact congrArg _ (funext (ih hrest))
  exact hfold _ (fun f hf => (List.mem_filter.mp hf).1) zero

theorem encodeStruct_printable {S : Type} {fields : List (Field S)} {s : S}
    (h : ∀ f ∈ fields, f.isEmpty s = false → Printable (f.encode s)) :
    Printable (encodeStruct fields s) := by
  refine .obj (fun m hm => ?_)
  obtain ⟨f, hf, rfl⟩ := List.mem_map.mp hm
  obtain ⟨hf, hempty⟩ := List.mem_filter.mp hf
  exact h f hf (by simpa using hempty)

theorem parseUint16_toString (n : UInt16) : parseUint16 (toString n).toList = some n := by
  have hdigits : Strconv.digits (Nat.toDigits 10 n.toNat) = some n.toNat := by
    have hall : (Nat.toDigits 10 n.toNat).all Char.isDigit = true :=
      List.all_eq_true.mpr (fun c hc => Nat.isDigit_of_mem_toDigits (by decide) (by decide) hc)
    rw [Strconv.digits, if_pos ⟨Nat.toDigits_ne_nil, hall⟩]
    exact congrArg some Nat.ofDigitChars_ten_toDigits
  have hlist : (toString n).toList = Nat.toDigits 10 n.toNat := Nat.toList_repr
  rw [parseUint16, hlist, hdigits]
  simp [n.toNat_lt]

theorem snapshotInfo_decode (s : SnapshotInfo) :
    decodeStruct snapshotInfoFields (encodeStruct snapshotInfoFields s) ⟨"", ""⟩ = some s := by
  rw [decodeStruct_encodeStruct (by decide)]
  simp [snapshotInfoFields, textField, field, decodeString]

theorem dataNode_decode (s : DataNode) :
    decodeStruct dataNodeFields (encodeStruct dataNodeFields s) ⟨"", 0, ⟨""⟩, "", "", ""⟩ =
      some s := by
  rw [decodeStruct_encodeStruct (by decide)]
  simp [dataNodeFields, textField, field, decodeString, decodeUint16, parseUint16_toString]

theorem backupMetaInfo_decode (s : BackupMetaInfo) :
    decodeStruct backupMetaInfoFields (encodeStruct backupMetaInfoFields s)
      ⟨"", "", ⟨""⟩, "", "", ""⟩ = some s := by
  rw [decodeStruct_encodeStruct (by decide)]
  simp [backupMetaInfoFields, textField, field, decodeString]

theorem decodeQuotedUint16_toString (n m : UInt16) :
    decodeQuotedUint16 (.str (toString n)) m = some n := by
  have hnull : toString n ≠ "null" := by
    intro h
    have hparse := parseUint16_toString n
    rw [h] at hparse
    cases hparse
  rw [decodeQuotedUint16, if_neg hnull, parseUint16_toString]

theorem storageNode_decode (s : StorageNode) :
    decodeStruct storageNodeFields (encodeStruct storageNodeFields s) ⟨"", 0, "", "", "", ""⟩ =
      some s := by
  rw [decodeStruct_encodeStruct (by decide)]
  obtain ⟨ip, port, username, password, database, remark⟩ := s
  by_cases h : remark = ""
  · subst h
    simp [storageNodeFields, textField, field, omitEmpty, decodeString, decodeQuotedUint16_toString]
  · simp [storageNodeFields, textField, field, omitEmpty, decodeString, decodeQuotedUint16_toString,
      h]

theorem decodeItems_encode {α : Type} {zero : α} {encode : α → Json} (canon : α → α)
    {decode : Json → α → Option α} (hne : ∀ a, encode a ≠ .null)
    (h : ∀ a, decode (encode a) zero = some (canon a)) (xs : List α) :
    decodeItems zero decode (xs.map encode) [] = some (xs.map canon) := by
  induction xs with
  | nil => rfl
  | cons x xs ih =>
    rw [List.map_cons, decodeItems.eq_3]
    · simp [h x, ih]
    · exact fun hnull => hne x hnull

theorem decodeSlice_encode {α : Type} {zero : α} {encode : α → Json} (canon : α → α)
    {decode : Json → α → Option α} (hne : ∀ a, encode a ≠ .null)
    (h : ∀ a, decode (encode a) zero = some (canon a)) (xs : List α) :
    decodeSlice zero decode (encodeSlice encode xs) [] = some (xs.map canon) := by
  cases xs with
  | nil => rfl
  | cons x xs => exact decodeItems_encode canon hne h (x :: xs)

theorem decodePointer_encode {α : Type} {zero : α} {encode : α → Json} (canon : α → α)
    {decode : Json → α → Option α} (hne : ∀ a, encode a ≠ .null)
    (h : ∀ a, decode (encode a) zero = some (canon a)) (o : Option α) :
    decodePointer zero decode (encodePointer encode o) none = some (o.map canon) := by
  cases o with
  | none => rfl
  | some a =>
    rw [encodePointer, decodePointer.eq_2 _ _ _ _ (hne a)]
    simp [h a]

theorem insertEntry_new {m : StringMap} {k : String} (h : k ∉ m.entries.map Prod.fst) (v : String) :
    (insertEntry m k v).entries = m.entries ++ [(k, v)] := if_neg h

theorem decodeMap_fold (es : List (String × String)) (m : StringMap)
    (h : ((m.entries ++ es).map Prod.fst).Nodup) :
    ∃ m', (es.map (fun e => (e.1, Json.str e.2))).foldlM
        (fun m x => (decodeString x.2 "").map (insertEntry m x.1)) m = some m' ∧
      m'.entries = m.entries ++ es := by
  induction es generalizing m with
  | nil => exact ⟨m, rfl, by simp⟩
  | cons e es ih =>
    have hnew : e.1 ∉ m.entries.map Prod.fst := by
      intro he
      rw [List.map_append, List.nodup_append] at h
      exact h.2.2 _ he e.1 (by simp) rfl
    have hentries := insertEntry_new hnew e.2
    obtain ⟨m', hm', heq⟩ := ih (insertEntry m e.1 e.2) (by simpa [hentries] using h)
    refine ⟨m', ?_, by rw [heq, hentries]; simp⟩
    simpa [decodeString] using hm'

theorem map_ext {m m' : StringMap} (h : m.entries = m'.entries) : m = m' := by
  cases m
  cases m'
  cases h
  rfl

theorem decodeMap_encodeMap (m : StringMap) :
    decodeMap (encodeMap m) emptyMap = some (sortedMap m) := by
  obtain ⟨m', hm', heq⟩ := decodeMap_fold (sortedMap m).entries emptyMap (sortedMap m).nodup_keys
  have hsame : m' = sortedMap m := map_ext heq
  rw [hsame] at hm'
  exact hm'

theorem metaData_decode (s : MetaData) :
    decodeStruct metaDataFields (encodeStruct metaDataFields s) ⟨emptyMap, "", ""⟩ =
      some { s with databases := sortedMap s.databases } := by
  rw [decodeStruct_encodeStruct (by decide)]
  simp [metaDataFields, textField, field, decodeString, decodeMap_encodeMap]

theorem encodeStruct_ne_null {S : Type} (fields : List (Field S)) (s : S) :
    encodeStruct fields s ≠ .null := nofun

def canonCluster (c : ClusterInfo) : ClusterInfo :=
  { c with metaData := { c.metaData with databases := sortedMap c.metaData.databases } }

theorem clusterInfo_decode (c : ClusterInfo) :
    decodeStruct clusterInfoFields (encodeStruct clusterInfoFields c) ⟨⟨emptyMap, "", ""⟩, none⟩ =
      some (canonCluster c) := by
  rw [decodeStruct_encodeStruct (by decide)]
  obtain ⟨m, s⟩ := c
  have hs : ∀ x, decodePointer ⟨"", ""⟩ (decodeStruct snapshotInfoFields)
      (encodePointer (encodeStruct snapshotInfoFields) (some x)) none = some (some x) := fun x =>
    decodePointer_encode id (encodeStruct_ne_null _) snapshotInfo_decode (some x)
  cases s with
  | none => simp [clusterInfoFields, field, omitEmpty, metaData_decode, canonCluster]
  | some x => simp [clusterInfoFields, field, omitEmpty, metaData_decode, canonCluster, hs]

def canonSsBackup (s : SsBackup) : SsBackup :=
  { s with clusterInfo := s.clusterInfo.map canonCluster }

theorem ssBackup_decode (s : SsBackup) :
    decodeStruct ssBackupFields (encodeStruct ssBackupFields s) ⟨⟨""⟩, none, []⟩ =
      some (canonSsBackup s) := by
  rw [decodeStruct_encodeStruct (by decide)]
  simp [ssBackupFields, textField, field, decodeString, canonSsBackup,
    decodePointer_encode canonCluster (encodeStruct_ne_null _) clusterInfo_decode,
    decodeSlice_encode id (encodeStruct_ne_null _) storageNode_decode]

def canonRecord (r : LsBackup) : LsBackup := { r with ssBackup := r.ssBackup.map canonSsBackup }

theorem lsBackup_decode (r : LsBackup) :
    decodeStruct lsBackupFields (encodeStruct lsBackupFields r) ⟨none, [], none⟩ =
      some (canonRecord r) := by
  rw [decodeStruct_encodeStruct (by decide)]
  simp [lsBackupFields, field, canonRecord,
    decodePointer_encode id (encodeStruct_ne_null _) backupMetaInfo_decode,
    decodePointer_encode canonSsBackup (encodeStruct_ne_null _) ssBackup_decode,
    decodeSlice_encode id (encodeStruct_ne_null _) dataNode_decode]

theorem encodePointer_printable {α : Type} {encode : α → Json} (h : ∀ a, Printable (encode a))
    (o : Option α) : Printable (encodePointer encode o) := by
  cases o with
  | none => exact .null
  | some a => exact h a

theorem encodeSlice_printable {α : Type} {encode : α → Json} (h : ∀ a, Printable (encode a))
    (xs : List α) : Printable (encodeSlice encode xs) := by
  cases xs with
  | nil => exact .null
  | cons x xs =>
    refine .arr (fun j hj => ?_)
    obtain ⟨a, -, rfl⟩ := List.mem_map.mp hj
    exact h a

theorem encodeMap_printable (m : StringMap) : Printable (encodeMap m) := by
  refine .obj (fun x hx => ?_)
  obtain ⟨e, -, rfl⟩ := List.mem_map.mp hx
  exact .str _

theorem toString_printable (n : UInt16) : Printable (.num (toString n)) :=
  .num (isNumber_repr n.toNat)

theorem clusterInfo_printable (c : ClusterInfo) : Printable (encodeStruct clusterInfoFields c) := by
  have hsnapshot : ∀ s, Printable (encodeStruct snapshotInfoFields s) := fun s =>
    encodeStruct_printable (by simp [snapshotInfoFields, textField, field, Printable.str])
  have hmeta : ∀ s, Printable (encodeStruct metaDataFields s) := fun s =>
    encodeStruct_printable
      (by simp [metaDataFields, textField, field, Printable.str, encodeMap_printable])
  refine encodeStruct_printable ?_
  simp [clusterInfoFields, field, omitEmpty, hmeta, encodePointer_printable hsnapshot]

theorem ssBackup_printable (s : SsBackup) : Printable (encodeStruct ssBackupFields s) := by
  have hnode : ∀ s, Printable (encodeStruct storageNodeFields s) := fun s =>
    encodeStruct_printable
      (by simp [storageNodeFields, textField, field, omitEmpty, Printable.str])
  refine encodeStruct_printable ?_
  simp [ssBackupFields, textField, field, Printable.str,
    encodePointer_printable clusterInfo_printable, encodeSlice_printable hnode]

theorem lsBackup_printable (r : LsBackup) : Printable (encodeStruct lsBackupFields r) := by
  have hinfo : ∀ s, Printable (encodeStruct backupMetaInfoFields s) := fun s =>
    encodeStruct_printable (by simp [backupMetaInfoFields, textField, field, Printable.str])
  have hnode : ∀ s, Printable (encodeStruct dataNodeFields s) := fun s =>
    encodeStruct_printable
      (by simp [dataNodeFields, textField, field, Printable.str, toString_printable])
  refine encodeStruct_printable ?_
  simp [lsBackupFields, field, encodePointer_printable hinfo, encodePointer_printable ssBackup_printable,
    encodeSlice_printable hnode]

/-- The file that `WriteByJSON` makes of a record. -/
def recordText (r : LsBackup) : String := marshalIndent (encodeStruct lsBackupFields r)

/-- `json.Unmarshal` of a file. -/
def readRecord (text : String) : Option LsBackup :=
  (parse text).bind (fun j => decodeStruct lsBackupFields j ⟨none, [], none⟩)

theorem readRecord_recordText (r : LsBackup) : readRecord (recordText r) = some (canonRecord r) := by
  have hparse : parse (recordText r) = some (encodeStruct lsBackupFields r) :=
    parse_print (lsBackup_printable r) .indented
  rw [readRecord, hparse]
  exact lsBackup_decode r

theorem readRecord_cut {r : LsBackup} {pre post : List Char}
    (h : (recordText r).toList = pre ++ post) (hpost : post ≠ []) :
    readRecord (String.ofList pre) = none := by
  rw [recordText, marshalIndent, String.toList_ofList] at h
  rw [readRecord, parse_cut (lsBackup_printable r) .indented h hpost]
  rfl

/-- The argument of `IMPORT METADATA`. -/
def payload (c : ClusterInfo) : String :=
  String.ofList (Base64.encode (marshal (encodeStruct clusterInfoFields c)).toUTF8.data.toList)

/-- What is in such an argument: base64, and in it JSON. Text that is not UTF-8 is
outside the model. -/
def readPayload (text : String) : Option ClusterInfo :=
  (Base64.decode text.toList).bind (fun bs => (String.fromUTF8? ⟨bs.toArray⟩).bind (fun json =>
    (parse json).bind (fun j => decodeStruct clusterInfoFields j ⟨⟨emptyMap, "", ""⟩, none⟩)))

theorem fromUTF8_toUTF8 (s : String) : String.fromUTF8? s.toUTF8 = some s := by
  simp only [String.fromUTF8?, Option.dite_none_right_eq_some]
  exact ⟨s.isValidUTF8, rfl⟩

theorem readPayload_payload (c : ClusterInfo) : readPayload (payload c) = some (canonCluster c) := by
  have hparse : parse (marshal (encodeStruct clusterInfoFields c)) =
      some (encodeStruct clusterInfoFields c) := parse_print (clusterInfo_printable c) .compact
  rw [readPayload, payload, String.toList_ofList, Base64.decode_encode]
  simp only [Option.bind_some, Array.toArray_toList]
  rw [fromUTF8_toUTF8, Option.bind_some, hparse]
  exact clusterInfo_decode c

end ShardingOnCloud.Pitr.Encoding
