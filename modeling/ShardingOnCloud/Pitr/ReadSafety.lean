import ShardingOnCloud.Lib.JsonBytes
import ShardingOnCloud.Pitr.Encoding
import ShardingOnCloud.Pitr.StorageSpec

namespace ShardingOnCloud.Pitr.ReadSafety

open ShardingOnCloud.Lib.Program ShardingOnCloud.Lib.JsonParser ShardingOnCloud.Lib.JsonBytes
open ShardingOnCloud.Pitr.Model ShardingOnCloud.Pitr.Calls ShardingOnCloud.Pitr.LocalStorage
open ShardingOnCloud.Pitr.Encoding ShardingOnCloud.Pitr.StorageSpec

section Decoding

/-- What a file is decoded to. A null in a list leaves a nil pointer in it. -/
structure RawSsBackup where
  status : BackupStatus
  clusterInfo : Option ClusterInfo
  storageNodes : List (Option StorageNode)

structure RawBackup where
  info : Option BackupMetaInfo
  dnList : List (Option DataNode)
  ssBackup : Option RawSsBackup

def encodePointers {α : Type} (encode : α → Json) : List (Option α) → Json
  | [] => .null
  | xs => .arr (xs.map (encodePointer encode))

def decodePointerItems {α : Type} (zero : α) (decode : Json → α → Option α) :
    List Json → List (Option α) → Option (List (Option α))
  | [], _ => some []
  | j :: js, old => do
    let x ← decodePointer zero decode j old.head?.join
    let xs ← decodePointerItems zero decode js old.tail
    return x :: xs

def decodePointers {α : Type} (zero : α) (decode : Json → α → Option α) :
    Json → List (Option α) → Option (List (Option α))
  | .null, _ => some []
  | .arr js, old => decodePointerItems zero decode js old
  | _, _ => none

def rawSsBackupFields : List (Pitr.Encoding.Field RawSsBackup) :=
  [textField "status" (·.status.text) (fun x s => { s with status := ⟨x⟩ }),
    field "cluster_info" (·.clusterInfo) (fun x s => { s with clusterInfo := x })
      (encodePointer (encodeStruct clusterInfoFields))
      (decodePointer ⟨⟨emptyMap, "", ""⟩, none⟩ (decodeStruct clusterInfoFields)),
    field "storage_nodes" (·.storageNodes) (fun x s => { s with storageNodes := x })
      (encodePointers (encodeStruct storageNodeFields))
      (decodePointers ⟨"", 0, "", "", "", ""⟩ (decodeStruct storageNodeFields))]

def infoField : Pitr.Encoding.Field RawBackup :=
  field "info" (·.info) (fun x s => { s with info := x })
    (encodePointer (encodeStruct backupMetaInfoFields))
    (decodePointer ⟨"", "", ⟨""⟩, "", "", ""⟩ (decodeStruct backupMetaInfoFields))

def dnListField : Pitr.Encoding.Field RawBackup :=
  field "dn_list" (·.dnList) (fun x s => { s with dnList := x })
    (encodePointers (encodeStruct dataNodeFields))
    (decodePointers ⟨"", 0, ⟨""⟩, "", "", ""⟩ (decodeStruct dataNodeFields))

def ssBackupField : Pitr.Encoding.Field RawBackup :=
  field "ss_backup" (·.ssBackup) (fun x s => { s with ssBackup := x })
    (encodePointer (encodeStruct rawSsBackupFields))
    (decodePointer ⟨⟨""⟩, none, []⟩ (decodeStruct rawSsBackupFields))

def rawBackupFields : List (Pitr.Encoding.Field RawBackup) :=
  [infoField, dnListField, ssBackupField]

def decodeBackup (j : Json) : Option RawBackup := decodeStruct rawBackupFields j ⟨none, [], none⟩

/-- `json.Unmarshal`. -/
def unmarshal (bytes : ByteArray) : Option RawBackup :=
  (parseBytes bytes.data.toList).bind decodeBackup

end Decoding

section Info

/-- A key that is taken for `info`. -/
def isInfo (key : String) : Bool := foldKey "info" = foldKey key

/-- The last value that an object gives to `info`. -/
def lastInfo (ms : List (String × Json)) : Option Json :=
  ((ms.filter (fun m => isInfo m.1)).getLast?).map Prod.snd

/-- An object that says something about `info`, which is not taken back. -/
def HasInfo : Json → Prop
  | .obj ms => ∃ j, lastInfo ms = some j ∧ j ≠ .null
  | _ => False

theorem mem_rawBackupFields {f : Pitr.Encoding.Field RawBackup} (h : f ∈ rawBackupFields) :
    f = infoField ∨ f = dnListField ∨ f = ssBackupField := by
  simpa [rawBackupFields] using h

theorem findField_isInfo {key : String} (h : isInfo key = true) :
    findField rawBackupFields key = some infoField := by
  have hfold : foldKey "info" = foldKey key := of_decide_eq_true h
  unfold findField
  cases hfind : rawBackupFields.find? (fun f => decide (f.name = key)) with
  | none => exact List.find?_cons_of_pos (decide_eq_true hfold)
  | some f =>
    have hname : f.name = key := by simpa using List.find?_some hfind
    subst hname
    obtain rfl | rfl | rfl := mem_rawBackupFields (List.mem_of_find?_eq_some hfind)
    · rfl
    · exact absurd h (by decide)
    · exact absurd h (by decide)

theorem findField_other {key : String} {f : Pitr.Encoding.Field RawBackup} (h : isInfo key = false)
    (hf : findField rawBackupFields key = some f) : f = dnListField ∨ f = ssBackupField := by
  have hmem : f ∈ rawBackupFields ∧ foldKey f.name = foldKey key := by
    unfold findField at hf
    split at hf
    · next hfind =>
      cases hf
      have hname : f.name = key := by simpa using List.find?_some hfind
      exact ⟨List.mem_of_find?_eq_some hfind, congrArg foldKey hname⟩
    · exact ⟨List.mem_of_find?_eq_some hf, by simpa using List.find?_some hf⟩
  obtain rfl | hother := mem_rawBackupFields hmem.1
  · exact absurd hmem.2 (of_decide_eq_false h)
  · exact hother

theorem field_decode {S α : Type} {name : String} {get : S → α} {set : α → S → S}
    {encode : α → Json} {decode : Json → α → Option α} {j : Json} {s t : S}
    (h : (field name get set encode decode).decode j s = some t) :
    ∃ x, decode j (get s) = some x ∧ t = set x s := by
  obtain ⟨x, hx, rfl⟩ := Option.map_eq_some_iff.mp h
  exact ⟨x, hx, rfl⟩

/-- A pointer is nil after it was decoded just when it was decoded from null. -/
theorem decodePointer_ne_none {α : Type} {zero : α} {decode : Json → α → Option α} {j : Json}
    {o o' : Option α} (h : decodePointer zero decode j o = some o') : o' ≠ none ↔ j ≠ .null := by
  by_cases hj : j = .null
  · subst hj
    cases h
    simp
  · rw [decodePointer.eq_2 _ _ _ _ hj] at h
    obtain ⟨x, -, rfl⟩ := Option.map_eq_some_iff.mp h
    simp [hj]

theorem decodeMember_info {s t : RawBackup} {m : String × Json}
    (h : decodeMember rawBackupFields s m = some t) :
    if isInfo m.1 then (t.info ≠ none ↔ m.2 ≠ .null) else t.info = s.info := by
  unfold decodeMember at h
  split
  · next hinfo =>
    rw [findField_isInfo hinfo] at h
    obtain ⟨x, hx, rfl⟩ := field_decode h
    exact decodePointer_ne_none hx
  · next hinfo =>
    split at h
    · next f hf =>
      obtain rfl | rfl := findField_other (Bool.eq_false_iff.mpr hinfo) hf
      · obtain ⟨x, -, rfl⟩ := field_decode h
        rfl
      · obtain ⟨x, -, rfl⟩ := field_decode h
        rfl
    · cases h
      rfl

/-- The pointer is set just when the file says so. -/
theorem decodeMembers_info {ms : List (String × Json)} {b : RawBackup}
    (h : ms.foldlM (decodeMember rawBackupFields) ⟨none, [], none⟩ = some b) :
    b.info ≠ none ↔ ∃ j, lastInfo ms = some j ∧ j ≠ .null := by
  induction ms using List.reverseRecOn generalizing b with
  | nil =>
    cases h
    simp [lastInfo]
  | append_singleton ms m ih =>
    rw [List.foldlM_append] at h
    obtain ⟨s, hs, hm⟩ := Option.bind_eq_some_iff.mp h
    have hlast : decodeMember rawBackupFields s m = some b := by simpa using hm
    have hinfo := decodeMember_info hlast
    by_cases hkey : isInfo m.1 = true
    · rw [if_pos hkey] at hinfo
      simp [lastInfo, hkey, hinfo]
    · rw [if_neg hkey] at hinfo
      rw [hinfo, ih hs]
      simp [lastInfo, hkey]

theorem decodeBackup_info {j : Json} {b : RawBackup} (h : decodeBackup j = some b) :
    b.info ≠ none ↔ HasInfo j := by
  cases j with
  | null =>
    cases h
    simp [HasInfo]
  | obj ms => exact decodeMembers_info h
  | bool x => cases h
  | num l => cases h
  | str s => cases h
  | arr xs => cases h

end Info

section Directory

/-- An entry of the backup directory: the error of `entry.Info`, and what reading it gives. -/
structure File where
  name : String
  isDir : Bool := false
  info : Option InfoErr := none
  contents : Except Err ByteArray

/-- The record that the program goes on with. It does not look at the lists, whose nil pointers
are left out. -/
def held (r : RawBackup) : LsBackup where
  info := r.info
  dnList := r.dnList.reduceOption
  ssBackup := r.ssBackup.map (fun s => ⟨s.status, s.clusterInfo, s.storageNodes.reduceOption⟩)

/-- The entry as `ReadAll` meets it, with the text of an error of the decoder. -/
def entryOf (msg : ByteArray → Err) (file : File) : DirEntry where
  name := file.name
  isDir := file.isDir
  info := file.info
  file := file.contents.map (fun bytes =>
    (unmarshal bytes).elim (.error (msg bytes)) (fun r => .ok (held r)))

/-- An entry that `ReadAll` does not pass over. -/
def listed (file : File) : Bool := !(file.isDir || startsWith file.name ".")

def Stops (file : File) : Prop :=
  listed file = true ∧ (file.info ≠ none ∨ hasSuffix file.name ".json" = true ∧
    ∀ bytes, file.contents = .ok bytes → unmarshal bytes = none)

/-- A file that can be read and decoded, and that says nothing about `info`. -/
def Bare (file : File) : Prop :=
  listed file = true ∧ file.info = none ∧ hasSuffix file.name ".json" = true ∧
    ∃ bytes j, file.contents = .ok bytes ∧ parseBytes bytes.data.toList = some j ∧
      (decodeBackup j).isSome = true ∧ ¬ HasInfo j

def Guarded (files : List File) : Prop :=
  ∀ pre file post, files = pre ++ file :: post → Bare file → ∃ g ∈ pre, Stops g

theorem guarded_nil : Guarded [] := by
  intro pre file post h
  simp at h

theorem guarded_cons {file : File} {files : List File} :
    Guarded (file :: files) ↔ ¬ Bare file ∧ (Stops file ∨ Guarded files) := by
  constructor
  · intro h
    refine ⟨fun hbare => ?_, ?_⟩
    · obtain ⟨g, hg, -⟩ := h [] file files rfl hbare
      cases hg
    · by_cases hstops : Stops file
      · exact Or.inl hstops
      · refine Or.inr (fun pre g post hfiles hbare => ?_)
        obtain ⟨x, hx, hxs⟩ := h (file :: pre) g post (by rw [hfiles, List.cons_append]) hbare
        rcases List.mem_cons.mp hx with rfl | hx
        · exact absurd hxs hstops
        · exact ⟨x, hx, hxs⟩
  · rintro ⟨hbare, hrest⟩ pre g post hfiles hg
    cases pre with
    | nil =>
      cases hfiles
      exact absurd hg hbare
    | cons x pre =>
      obtain ⟨rfl, htail⟩ := List.cons_eq_cons.mp hfiles
      obtain hstops | hguarded := hrest
      · exact ⟨file, List.mem_cons_self, hstops⟩
      · obtain ⟨y, hy, hys⟩ := hguarded pre g post htail hg
        exact ⟨y, List.mem_cons_of_mem _ hy, hys⟩

theorem bare_iff {file : File} : Bare file ↔ listed file = true ∧ file.info = none ∧
    hasSuffix file.name ".json" = true ∧
      ∃ bytes r, file.contents = .ok bytes ∧ unmarshal bytes = some r ∧ r.info = none := by
  have hdecoded : ∀ bytes, (∃ j, parseBytes bytes.data.toList = some j ∧
      (decodeBackup j).isSome = true ∧ ¬ HasInfo j) ↔
        ∃ r, unmarshal bytes = some r ∧ r.info = none := by
    intro bytes
    constructor
    · rintro ⟨j, hj, hsome, hnot⟩
      obtain ⟨r, hr⟩ := Option.isSome_iff_exists.mp hsome
      refine ⟨r, by rw [unmarshal, hj, Option.bind_some, hr], ?_⟩
      by_contra hne
      exact hnot ((decodeBackup_info hr).mp hne)
    · rintro ⟨r, hr, hnone⟩
      obtain ⟨j, hj, hr⟩ := Option.bind_eq_some_iff.mp hr
      exact ⟨j, hj, by simp [hr], fun hhas => (decodeBackup_info hr).mpr hhas hnone⟩
  unfold Bare
  simp only [exists_and_left, hdecoded]

end Directory

section Reading

variable {pk : Packages} {f : Flags} {msg : ByteArray → Err}

theorem readEntries_returns (files : List File) (backups : List LsBackup) :
    (∃ res, Run (sem pk) (readEntries f (files.map (entryOf msg)) backups) [] res) ↔
      Guarded files := by
  induction files generalizing backups with
  | nil => exact iff_of_true ⟨_, Run.ret _⟩ guarded_nil
  | cons file files ih =>
    rw [List.map_cons, readEntries, guarded_cons]
    simp only [entryOf]
    by_cases hlisted : listed file = true
    · have hskip : (file.isDir || startsWith file.name ".") = false := by
        simpa [listed] using hlisted
      simp only [hskip, Bool.false_eq_true, if_false]
      cases hinfo : file.info with
      | some err =>
        have hstops : Stops file := ⟨hlisted, Or.inl (by simp [hinfo])⟩
        have hbare : ¬ Bare file := fun hb => Option.some_ne_none _ (hinfo.symm.trans hb.2.1)
        cases err with
        | notExist => exact iff_of_true ⟨_, Run.ret _⟩ ⟨hbare, Or.inl hstops⟩
        | other err => exact iff_of_true ⟨_, Run.ret _⟩ ⟨hbare, Or.inl hstops⟩
      | none =>
        by_cases hjson : hasSuffix file.name ".json" = true
        · simp only [hjson, if_true]
          cases hcontents : file.contents with
          | error err =>
            refine iff_of_true ⟨_, Run.ret _⟩ ⟨?_, Or.inl ⟨hlisted, Or.inr ⟨hjson, ?_⟩⟩⟩
            · rintro ⟨-, -, -, bytes, j, hbytes, -⟩
              simp [hcontents] at hbytes
            · simp [hcontents]
          | ok bytes =>
            simp only [Except.map]
            cases hread : unmarshal bytes with
            | none =>
              refine iff_of_true ⟨_, Run.ret _⟩ ⟨?_, Or.inl ⟨hlisted, Or.inr ⟨hjson, ?_⟩⟩⟩
              · rw [bare_iff]
                simp [hcontents, hread]
              · simp [hcontents, hread]
            | some r =>
              have hstops : ¬ Stops file := by simp [Stops, hinfo, hcontents, hread]
              have hbare : Bare file ↔ r.info = none := by
                rw [bare_iff]
                simp [hlisted, hinfo, hjson, hcontents, hread]
              cases hr : r.info with
              | none =>
                refine iff_of_false ?_ (fun h => h.1 (hbare.mpr hr))
                rintro ⟨res, hrun⟩
                obtain ⟨tr₁, info, tr₂, hderef, -, -⟩ := run_bind.mp hrun
                exact Option.some_ne_none info ((run_deref hderef).2.symm.trans hr)
              | some info =>
                simp only [Option.elim_some, held, hr, deref, Proc.ret_bind]
                rw [ih]
                simp [hbare, hr, hstops]
        · simp only [hjson]
          rw [if_neg (by simp), ih]
          simp [Bare, Stops, hjson, hinfo]
    · have hskip : (file.isDir || startsWith file.name ".") = true := by
        simpa [listed, or_iff_not_imp_left] using hlisted
      simp only [hskip, if_true]
      rw [ih]
      simp [Bare, Stops, hlisted]

theorem run_did {α : Type} {a : Act} {k : ActR a → Cli α} {r : ActR a} {x : α} :
    Run (sem pk) (.call (.act a) k) (did a r) x ↔ Run (sem pk) (k r) [] x := by
  constructor
  · intro h
    obtain ⟨r', tr', hk, htr⟩ := run_act_inv h
    have hsame : did a r ++ [] = did a r' ++ tr' := by rw [List.append_nil, htr]
    obtain ⟨rfl, -, rfl⟩ := whole_inj hsame
    exact hk
  · intro h
    rw [← List.append_nil (did a r)]
    exact run_act h

theorem readAll_returns (dir : Except Err (List File)) :
    (∃ res, Run (sem pk) (readAll f) (did .readDir (dir.map (List.map (entryOf msg)))) res) ↔
      ∀ files, dir = .ok files → Guarded files := by
  refine (exists_congr (fun res => run_did)).trans ?_
  cases dir with
  | error err => exact iff_of_true ⟨_, Run.ret _⟩ (by simp)
  | ok files =>
    refine (readEntries_returns files []).trans ?_
    simp

theorem returns_bind {α β : Type} {p : Cli α} {k : α → Cli β} {tr : List Ev}
    (hk : ∀ a, ∃ b, k a = .ret b) :
    (∃ res, Run (sem pk) (p >>= k) tr res) ↔ ∃ res, Run (sem pk) p tr res := by
  constructor
  · rintro ⟨res, h⟩
    obtain ⟨tr₁, a, tr₂, h₁, h₂, rfl⟩ := run_bind.mp h
    obtain ⟨b, hb⟩ := hk a
    rw [hb] at h₂
    obtain ⟨rfl, -⟩ := run_ret.mp h₂
    rw [List.append_nil]
    exact ⟨a, h₁⟩
  · rintro ⟨a, h⟩
    obtain ⟨b, hb⟩ := hk a
    exact ⟨b, run_bind.mpr ⟨tr, a, [], h, hb ▸ Run.ret b, (List.append_nil tr).symm⟩⟩

theorem readAllByCSN_returns {csn : String} {tr : List Ev} :
    (∃ res, Run (sem pk) (readAllByCSN f csn) tr res) ↔ ∃ res, Run (sem pk) (readAll f) tr res := by
  refine returns_bind (fun list => ?_)
  cases list with
  | error err => exact ⟨_, rfl⟩
  | ok list => exact ⟨_, rfl⟩

theorem readByCSN_returns {csn : String} {tr : List Ev} :
    (∃ res, Run (sem pk) (readByCSN f csn) tr res) ↔ ∃ res, Run (sem pk) (readAll f) tr res := by
  refine returns_bind (fun list => ?_)
  cases list with
  | error err => exact ⟨_, rfl⟩
  | ok list =>
    dsimp only
    split <;> exact ⟨_, rfl⟩

theorem readByID_returns {id : String} {tr : List Ev} :
    (∃ res, Run (sem pk) (readByID f id) tr res) ↔ ∃ res, Run (sem pk) (readAll f) tr res := by
  refine returns_bind (fun list => ?_)
  cases list with
  | error err => exact ⟨_, rfl⟩
  | ok list =>
    dsimp only
    split <;> exact ⟨_, rfl⟩

theorem readAll_info {list : List LsBackup} {tr : List Ev}
    (h : Run (sem pk) (readAll f) tr (.ok list)) : ∀ v ∈ list, v.info ≠ none := by
  obtain ⟨entries, -, -, rfl⟩ := readAll_run.mp h
  intro v hv
  obtain ⟨entry, -, hrec⟩ := List.mem_filterMap.mp hv
  obtain ⟨-, -, r, info, -, -, rfl⟩ := recordOf_eq_some.mp hrec
  exact Option.some_ne_none _

end Reading

/-- Whatever is in the directory, the four functions come back with a result or an error, unless
they get to a file that is decoded to a record without `info`. No list that `ReadAll` returns has
such a record in it. -/
theorem reading_returns_iff (pk : Packages) (f : Flags) (msg : ByteArray → Err)
    (dir : Except Err (List File)) (id csn : String) :
    ((∃ res, Run (sem pk) (readAll f) (did .readDir (dir.map (List.map (entryOf msg)))) res) ↔
      ∀ files, dir = .ok files → Guarded files) ∧
    ((∃ res, Run (sem pk) (readByID f id) (did .readDir (dir.map (List.map (entryOf msg)))) res) ↔
      ∀ files, dir = .ok files → Guarded files) ∧
    ((∃ res, Run (sem pk) (readByCSN f csn) (did .readDir (dir.map (List.map (entryOf msg)))) res) ↔
      ∀ files, dir = .ok files → Guarded files) ∧
    ((∃ res, Run (sem pk) (readAllByCSN f csn)
        (did .readDir (dir.map (List.map (entryOf msg)))) res) ↔
      ∀ files, dir = .ok files → Guarded files) ∧
    ∀ tr list, Run (sem pk) (readAll f) tr (.ok list) → ∀ v ∈ list, v.info ≠ none := by
  have hall := @readAll_returns pk f msg dir
  exact ⟨hall, readByID_returns.trans hall, readByCSN_returns.trans hall,
    readAllByCSN_returns.trans hall, fun _ _ => readAll_info⟩

def emptyObject : File where
  name := "20230401_a.json"
  contents := .ok ⟨#[0x7b, 0x7d]⟩

theorem emptyObject_bare : Bare emptyObject :=
  ⟨by decide, rfl, by decide, _, .obj [], rfl, rfl, rfl, by simp [HasInfo, lastInfo]⟩

theorem not_all_directories_read :
    ¬ ∀ (pk : Packages) (f : Flags) (msg : ByteArray → Err) (files : List File),
      ∃ res, Run (sem pk) (readAll f) (did .readDir (.ok (files.map (entryOf msg)))) res := by
  intro h
  have hread := (readAll_returns (.ok [emptyObject])).mp
    (h Packages.documented Flags.sample (fun _ => "unexpected end of JSON input") [emptyObject])
  obtain ⟨g, hg, -⟩ := hread [emptyObject] rfl [] emptyObject [] rfl emptyObject_bare
  cases hg

end ShardingOnCloud.Pitr.ReadSafety
