import Mathlib.Data.Finset.Sort
import Mathlib.Data.String.Basic
import Mathlib.Data.Set.Finite.Basic
import ShardingOnCloud.Pitr.Encoding
import ShardingOnCloud.Pitr.StorageSpec

namespace ShardingOnCloud.Pitr.RecordFiles

open ShardingOnCloud.Lib.Program ShardingOnCloud.Pitr.Model ShardingOnCloud.Pitr.Calls
open ShardingOnCloud.Pitr.LocalStorage ShardingOnCloud.Pitr.StorageSpec ShardingOnCloud.Pitr.Encoding

/-- The files of the backup directory, with the bytes that are in them. -/
abbrev Files := String → Option ByteArray

def recordBytes (r : LsBackup) : ByteArray := (recordText r).toUTF8

/-- What `json.Unmarshal` makes of a file. -/
def readBytes (bytes : ByteArray) : Option LsBackup := (String.fromUTF8? bytes).bind readRecord

theorem readBytes_recordBytes (r : LsBackup) : readBytes (recordBytes r) = some (canonRecord r) := by
  rw [readBytes, recordBytes, fromUTF8_toUTF8, Option.bind_some, readRecord_recordText]

theorem recordBytes_pos (r : LsBackup) : 0 < (recordBytes r).size := by
  by_contra hzero
  have hempty : recordBytes r = ByteArray.empty :=
    ByteArray.size_eq_zero_iff.mp (Nat.eq_zero_of_not_pos hzero)
  have hread := readBytes_recordBytes r
  have hnone : readBytes ByteArray.empty = none := by
    rw [readBytes, show ByteArray.empty = "".toUTF8 from rfl, fromUTF8_toUTF8]
    rfl
  rw [hempty, hnone] at hread
  cases hread

/-- The text of the first bytes of a string is the beginning of the string. -/
theorem fromUTF8_extract {s t : String} {n : ℕ} (h : String.fromUTF8? (s.toUTF8.extract 0 n) = some t)
    (hn : n < s.toUTF8.size) : ∃ post, post ≠ [] ∧ s.toList = t.toList ++ post := by
  have hbytes : t.toByteArray = s.toByteArray.extract 0 n := by
    obtain ⟨hvalid, heq⟩ := Option.dite_none_right_eq_some.mp h
    cases heq
    rfl
  have hlt : n < s.toByteArray.size := hn
  have hprefix : t.toList <+: s.toList := by
    refine List.isPrefix_of_utf8Encode_append_eq_utf8Encode
      (s.toByteArray.extract n s.toByteArray.size) ?_
    rw [String.utf8Encode_toList, String.utf8Encode_toList, hbytes,
      ← ByteArray.extract_eq_extract_append_extract n (Nat.zero_le n) hlt.le,
      ByteArray.extract_zero_size]
  obtain ⟨post, hpost⟩ := hprefix
  refine ⟨post, ?_, hpost.symm⟩
  rintro rfl
  rw [List.append_nil, String.toList_inj] at hpost
  have hsize := congrArg ByteArray.size hbytes
  rw [hpost, ByteArray.size_extract] at hsize
  omega

theorem readBytes_cut {r : LsBackup} {n : ℕ} (h : n < (recordBytes r).size) :
    readBytes ((recordBytes r).extract 0 n) = none := by
  cases htext : String.fromUTF8? ((recordBytes r).extract 0 n) with
  | none => rw [readBytes, htext, Option.bind_none]
  | some text =>
    obtain ⟨post, hpost, heq⟩ := fromUTF8_extract htext h
    rw [readBytes, htext, Option.bind_some, ← String.ofList_toList (s := text)]
    exact readRecord_cut heq hpost

/-- A file as `ReadAll` meets it, with the text of an error. -/
def entryOf (msg : ByteArray → Err) (name : String) (bytes : ByteArray) : DirEntry where
  name := name
  isDir := false
  info := none
  file := match readBytes bytes with
    | some r => .ok (.ok r)
    | none => .ok (.error (msg bytes))

/-- `os.ReadDir`: the files of the directory, sorted by name. -/
structure Listing (msg : ByteArray → Err) (s : Files) (entries : List DirEntry) : Prop where
  sorted : entries.Pairwise (fun a b => a.name < b.name)
  mem_iff : ∀ entry, entry ∈ entries ↔ ∃ name bytes, s name = some bytes ∧
    entry = entryOf msg name bytes

/-- `ReadAll` has no trouble with any of the files. -/
def Legible (msg : ByteArray → Err) (s : Files) : Prop :=
  ∀ name bytes, s name = some bytes → Fine (entryOf msg name bytes)

/-- `ReadAll` finds the record in one of the files. -/
def Stored (msg : ByteArray → Err) (s : Files) (b : LsBackup) : Prop :=
  ∃ name bytes, s name = some bytes ∧ recordOf (entryOf msg name bytes) = some b

/-- `ReadAll` succeeds, and what it returns has all records of the list. -/
def StillReads (pk : Packages) (f : Flags) (msg : ByteArray → Err) (list : List LsBackup)
    (t : Files) : Prop :=
  ∀ entries, Listing msg t entries → ∃ list', Run (sem pk) (readAll f)
    (did .readDir (.ok entries)) (.ok list') ∧ ∀ b ∈ list, b ∈ list'

section Listing

variable {pk : Packages} {f : Flags} {msg : ByteArray → Err} {s t : Files}
  {entries : List DirEntry} {list : List LsBackup}

theorem Listing.fine_iff (h : Listing msg s entries) :
    (∀ entry ∈ entries, Fine entry) ↔ Legible msg s := by
  constructor
  · intro hfine name bytes hs
    exact hfine _ ((h.mem_iff _).mpr ⟨name, bytes, hs, rfl⟩)
  · intro hs entry hentry
    obtain ⟨name, bytes, hname, rfl⟩ := (h.mem_iff entry).mp hentry
    exact hs name bytes hname

theorem Listing.stored_iff (h : Listing msg s entries) (b : LsBackup) :
    b ∈ entries.filterMap recordOf ↔ Stored msg s b := by
  rw [List.mem_filterMap]
  constructor
  · rintro ⟨entry, hentry, hrec⟩
    obtain ⟨name, bytes, hs, rfl⟩ := (h.mem_iff entry).mp hentry
    exact ⟨name, bytes, hs, hrec⟩
  · rintro ⟨name, bytes, hs, hrec⟩
    exact ⟨_, (h.mem_iff _).mpr ⟨name, bytes, hs, rfl⟩, hrec⟩

theorem Listing.readAll_iff (h : Listing msg s entries) :
    Run (sem pk) (readAll f) (did .readDir (.ok entries)) (.ok list) ↔
      Legible msg s ∧ list = entries.filterMap recordOf := by
  rw [readAll_run, ← h.fine_iff]
  constructor
  · rintro ⟨entries', heq, hfine, rfl⟩
    have hok : (Except.ok entries : ActR .readDir) = .ok entries' :=
      (whole_inj (congrArg (· ++ []) heq)).1
    cases hok
    exact ⟨hfine, rfl⟩
  · rintro ⟨hfine, rfl⟩
    exact ⟨entries, rfl, hfine, rfl⟩

theorem listing_exists (msg : ByteArray → Err) (h : {name | s name ≠ none}.Finite) :
    ∃ entries, Listing msg s entries := by
  refine ⟨h.toFinset.sort.map (fun name => entryOf msg name ((s name).getD .empty)), ?_, ?_⟩
  · exact List.pairwise_map.mpr (Finset.sortedLT_sort h.toFinset).pairwise
  · intro entry
    simp only [List.mem_map, Finset.mem_sort, Set.Finite.mem_toFinset, Set.mem_ofPred_eq]
    constructor
    · rintro ⟨name, hname, rfl⟩
      obtain ⟨bytes, hbytes⟩ := Option.ne_none_iff_exists'.mp hname
      exact ⟨name, bytes, hbytes, by rw [hbytes, Option.getD_some]⟩
    · rintro ⟨name, bytes, hs, rfl⟩
      exact ⟨name, by simp [hs], by rw [hs, Option.getD_some]⟩

theorem Listing.finite (h : Listing msg s entries) : {name | s name ≠ none}.Finite := by
  refine (entries.map (·.name)).toFinset.finite_toSet.subset (fun name hname => ?_)
  obtain ⟨bytes, hbytes⟩ := Option.ne_none_iff_exists'.mp hname
  simp only [List.coe_toFinset, List.mem_map, Set.mem_ofPred_eq]
  exact ⟨_, (h.mem_iff _).mpr ⟨name, bytes, hbytes, rfl⟩, rfl⟩

theorem listing_single (msg : ByteArray → Err) (name : String) (bytes : ByteArray) :
    Listing msg (Function.update (fun _ => none) name (some bytes)) [entryOf msg name bytes] := by
  refine ⟨List.pairwise_singleton _ _, fun entry => ?_⟩
  rw [List.mem_singleton]
  constructor
  · rintro rfl
    exact ⟨name, bytes, Function.update_self _ _ _, rfl⟩
  · rintro ⟨other, bytes', h, rfl⟩
    by_cases heq : other = name
    · rw [heq, Function.update_self] at h
      cases h
      rw [heq]
    · rw [Function.update_of_ne heq] at h
      cases h

theorem stillReads_iff (ht : {name | t name ≠ none}.Finite) :
    StillReads pk f msg list t ↔ Legible msg t ∧ ∀ b ∈ list, Stored msg t b := by
  constructor
  · intro h
    obtain ⟨entries, hl⟩ := listing_exists msg ht
    obtain ⟨list', hread, hall⟩ := h entries hl
    obtain ⟨hlegible, rfl⟩ := hl.readAll_iff.mp hread
    exact ⟨hlegible, fun b hb => (hl.stored_iff b).mp (hall b hb)⟩
  · rintro ⟨hlegible, hall⟩ entries hl
    exact ⟨_, hl.readAll_iff.mpr ⟨hlegible, rfl⟩, fun b hb => (hl.stored_iff b).mpr (hall b hb)⟩

end Listing

section Update

variable {msg : ByteArray → Err} {s : Files} {name : String} {x : Option ByteArray}
  {list : List LsBackup}

theorem legible_update (hs : Legible msg s)
    (hx : ∀ bytes, x = some bytes → Fine (entryOf msg name bytes)) :
    Legible msg (Function.update s name x) := by
  intro other bytes h
  by_cases heq : other = name
  · subst heq
    rw [Function.update_self] at h
    exact hx bytes h
  · rw [Function.update_of_ne heq] at h
    exact hs other bytes h

theorem stored_update {b : LsBackup} (hfree : s name = none) (hb : Stored msg s b) :
    Stored msg (Function.update s name x) b := by
  obtain ⟨other, bytes, h, hrec⟩ := hb
  have hne : other ≠ name := by
    rintro rfl
    rw [hfree] at h
    cases h
  exact ⟨other, bytes, by rwa [Function.update_of_ne hne], hrec⟩

theorem stored_at {b : LsBackup} (hb : Stored msg s b)
    (hname : b.info.map (·.fileName) = some name) :
    ∃ bytes, s name = some bytes ∧ recordOf (entryOf msg name bytes) = some b := by
  obtain ⟨other, bytes, h, hrec⟩ := hb
  have heq : other = name := by
    have hfile := recordOf_fileName hrec
    rw [hname, Option.some.injEq] at hfile
    exact hfile.symm
  subst heq
  exact ⟨bytes, h, hrec⟩

/-- A change of one file leaves all records readable if and only if the file is new
and can be read. -/
theorem update_reads_iff (hvisible : startsWith name "." = false)
    (hjson : hasSuffix name ".json" = true) (hs : Legible msg s)
    (hlist : ∀ b, b ∈ list ↔ Stored msg s b)
    (hnew : ∀ bytes b, x = some bytes → recordOf (entryOf msg name bytes) = some b → b ∉ list) :
    (Legible msg (Function.update s name x) ∧
        ∀ b ∈ list, Stored msg (Function.update s name x) b) ↔
      s name = none ∧ ∀ bytes, x = some bytes → Fine (entryOf msg name bytes) := by
  constructor
  · rintro ⟨hlegible, hall⟩
    refine ⟨?_, fun bytes hx => hlegible name bytes (by rw [Function.update_self, hx])⟩
    by_contra hne
    obtain ⟨old, hold⟩ := Option.ne_none_iff_exists'.mp hne
    have hv : visible (entryOf msg name old) = true := by simp [visible, entryOf, hvisible]
    obtain ⟨b, hb⟩ := Option.isSome_iff_exists.mp ((hs name old hold hv).2 hjson)
    have hmem : b ∈ list := (hlist b).mpr ⟨name, old, hold, hb⟩
    have hfile : b.info.map (·.fileName) = some name := recordOf_fileName hb
    obtain ⟨bytes, hx, hrec⟩ := stored_at (hall b hmem) hfile
    rw [Function.update_self] at hx
    exact hnew bytes b hx hrec hmem
  · rintro ⟨hfree, hx⟩
    exact ⟨legible_update hs hx, fun b hb => stored_update hfree ((hlist b).mp hb)⟩

end Update

theorem recordOf_recordBytes {msg : ByteArray → Err} {name : String} {r : LsBackup}
    {info : BackupMetaInfo} (hvisible : startsWith name "." = false)
    (hjson : hasSuffix name ".json" = true) (hinfo : r.info = some info) :
    recordOf (entryOf msg name (recordBytes r)) =
      some { canonRecord r with info := some { info with fileName := name } } :=
  recordOf_eq_some.mpr ⟨by simp [visible, entryOf, hvisible], hjson, canonRecord r, info,
    by simp [entryOf, readBytes_recordBytes], hinfo, rfl⟩

theorem fine_recordBytes {msg : ByteArray → Err} {name : String} {r : LsBackup}
    {info : BackupMetaInfo} (hinfo : r.info = some info) :
    Fine (entryOf msg name (recordBytes r)) := by
  intro hv
  refine ⟨rfl, fun hj => ?_⟩
  have hrec := recordOf_eq_some.mpr ⟨hv, hj, canonRecord r, info, by
    simp [entryOf, readBytes_recordBytes], hinfo, rfl⟩
  rw [hrec]
  rfl

theorem not_fine_cut {msg : ByteArray → Err} {name : String} (hvisible : startsWith name "." = false)
    (hjson : hasSuffix name ".json" = true) {r : LsBackup} {n : ℕ} (h : n < (recordBytes r).size) :
    ¬Fine (entryOf msg name ((recordBytes r).extract 0 n)) := by
  intro hfine
  have hv : visible (entryOf msg name ((recordBytes r).extract 0 n)) = true := by
    simp [visible, entryOf, hvisible]
  obtain ⟨b, hb⟩ := Option.isSome_iff_exists.mp ((hfine hv).2 hjson)
  obtain ⟨-, -, r', info, hfile, -, -⟩ := recordOf_eq_some.mp hb
  simp [entryOf, readBytes_cut h] at hfile

end ShardingOnCloud.Pitr.RecordFiles
