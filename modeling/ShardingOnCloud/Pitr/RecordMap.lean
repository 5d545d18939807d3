import Mathlib.Data.Finset.Sort
import Mathlib.Data.String.Basic
import Mathlib.Data.Set.Finite.Basic
import ShardingOnCloud.Pitr.StorageSpec
import ShardingOnCloud.Pitr.RecordStore

namespace ShardingOnCloud.Pitr.RecordMap

open ShardingOnCloud.Lib.Program ShardingOnCloud.Pitr.Model ShardingOnCloud.Pitr.Calls
open ShardingOnCloud.Pitr.LocalStorage ShardingOnCloud.Pitr.StorageSpec ShardingOnCloud.Pitr.RecordStore

/-- What is known under a name: the value that is seen, and one that is hidden. -/
structure Slot (V : Type) where
  seen : Option V
  hidden : Option V

/-- The operations of a map with hidden entries. -/
inductive Op (K V : Type)
  | write (k : K) (v : V)
  | hide (k : K)
  | delete (k : K)
  | deleteHided (k : K)

namespace Op

variable {K V : Type}

def key : Op K V → K
  | .write k _ | .hide k | .delete k | .deleteHided k => k

def change : Op K V → Slot V → Slot V
  | .write _ v, x => { x with seen := some v }
  | .hide _, x => ⟨none, x.seen⟩
  | .delete _, x => { x with seen := none }
  | .deleteHided _, x => { x with hidden := none }

def apply [DecidableEq K] (m : K → Slot V) (op : Op K V) : K → Slot V :=
  Function.update m op.key (op.change (m op.key))

def enabled : Op K V → Slot V → Bool
  | .write _ _, _ => true
  | .hide _, x | .delete _, x => x.seen.isSome
  | .deleteHided _, x => x.hidden.isSome

def possible [DecidableEq K] : (K → Slot V) → List (Op K V) → Bool
  | _, [] => true
  | m, op :: ops => op.enabled (m op.key) && possible (apply m op) ops

/-- The map after a sequence of operations on the empty one. -/
def result [DecidableEq K] (ops : List (Op K V)) : K → Slot V :=
  ops.foldl apply (fun _ => ⟨none, none⟩)

theorem result_concat [DecidableEq K] (ops : List (Op K V)) (op : Op K V) :
    result (ops ++ [op]) = apply (result ops) op := by
  simp [result]

end Op

/-- The record that `ReadAll` returns for a visible file. -/
def named (name : String) (r : LsBackup) : LsBackup :=
  { r with info := r.info.map (fun info => { info with fileName := name }) }

/-- The records of a map that are seen, one for each name, in the order of the names. -/
structure Shows (m : String → Slot LsBackup) (list : List LsBackup) : Prop where
  sorted : list.Pairwise (fun a b => ∃ n n', a.info.map (·.fileName) = some n ∧
    b.info.map (·.fileName) = some n' ∧ n < n')
  mem_iff : ∀ b, b ∈ list ↔ ∃ name r, (m name).seen = some r ∧ b = named name r

def perform (f : Flags) : Op String LsBackup → Cli (Option Err)
  | .write name r => writeByJSON f name r
  | .hide name => hideByName name
  | .delete name => inMain (deleteByName name)
  | .deleteHided name => deleteByHidedName name

/-- Where one goes from a directory with a component of a path. -/
def walk (dir : List String) (c : String) : List String :=
  if c = "" ∨ c = "." then dir else if c = ".." then dir.dropLast else dir ++ [c]

def components (path : String) : List String := (path.toList.splitOn '/').map String.ofList

/-- The backup directory, as the components that lead to it from the root. -/
def backupDirPath (f : Flags) : List String := (components (backupDir f)).foldl walk []

/-- The entry of the backup directory that the path of a file name leads to. -/
def entryOf (f : Flags) (name : String) : Option String :=
  let place := (components name).foldl walk (backupDirPath f)
  if place.dropLast = backupDirPath f then place.getLast? else none

def put (s : Store) (entry : Option String) (x : Option File) : Store :=
  match entry with
  | some name => Function.update s name x
  | none => s

/-- A file is moved to another place, in the directory or not. -/
def Moved (s t : Store) : Option String → Option String → Prop
  | some a, some b => ∃ x, s a = some x ∧ t = Function.update (Function.update s a none) b (some x)
  | some a, none => s a ≠ none ∧ t = Function.update s a none
  | none, some b => ∃ x, t = Function.update s b (some x)
  | none, none => t = s

def Holds : Option File → Except Err (Except Err LsBackup) → Prop
  | some (.record r), res => res = .ok (.ok r)
  | some .garbled, res => ∃ err, res = .ok (.error err)
  | none, _ => False

/-- `os.ReadDir`: the entries of the directory, sorted by name. -/
structure Lists (s : Store) (entries : List DirEntry) : Prop where
  sorted : entries.Pairwise (fun a b => a.name < b.name)
  mem_iff : ∀ name, s name ≠ none ↔ ∃ entry ∈ entries, entry.name = name
  file : ∀ entry ∈ entries, entry.isDir = false ∧ entry.info = none ∧
    Holds (s entry.name) entry.file

/-- The backup directory of calls that nobody disturbs. A call that succeeds has
done what it says, at the place that its path leads to; `os.Remove` and `os.Rename`
do not succeed on a file that does not exist. -/
def directory (f : Flags) : World Store Ev where
  step s
    | .main (.reply (.act (.osCreate name)) none), t => t = put s (entryOf f name) (some .garbled)
    | .main (.reply (.act (.fileWrite name r)) none), t =>
      t = put s (entryOf f name) (some (.record r))
    | .main (.reply (.act (.fileWrite name r)) (some _)), t =>
      t = put s (entryOf f name) (some .garbled) ∨ t = put s (entryOf f name) (some (.record r))
    | .main (.reply (.act (.osRemove name)) none), t =>
      (∀ entry, entryOf f name = some entry → s entry ≠ none) ∧ t = put s (entryOf f name) none
    | .main (.reply (.act (.osRename name newName)) none), t =>
      Moved s t (entryOf f name) (entryOf f newName)
    | .main (.reply (.act .readDir) (.ok entries)), t => Lists s entries ∧ t = s
    | _, t => t = s

/-- The directory after a sequence of successful calls on an empty one. -/
inductive Performed (pk : Packages) (f : Flags) : List (Op String LsBackup) → Store → Prop
  | nil : Performed pk f [] (fun _ => none)
  | snoc {ops : List (Op String LsBackup)} {op : Op String LsBackup} {s t : Store} {tr : List Ev} :
      Performed pk f ops s → Run (sem pk) (perform f op) tr none → (directory f).Path s tr t →
      Performed pk f (ops ++ [op]) t

/-- A name as `GenFilename` makes them. -/
structure FileName (name : String) : Prop where
  json : hasSuffix name ".json" = true
  visible : startsWith name "." = false
  component : '/' ∉ name.toList

def HasInfo : Op String LsBackup → Prop
  | .write _ r => r.info ≠ none
  | _ => True

theorem hided_toList (name : String) : (hided name).toList = '.' :: name.toList := by
  simp [hided]

theorem startsWith_hided (name : String) : startsWith (hided name) "." = true := by
  simp [startsWith, hided_toList]

theorem hided_injective : Function.Injective hided := by
  intro a b h
  have hlist := congrArg String.toList h
  rw [hided_toList, hided_toList, List.cons.injEq] at hlist
  exact String.toList_inj.mp hlist.2

namespace FileName

variable {name : String} (h : FileName name)

include h in
theorem ne_hided (other : String) : name ≠ hided other := by
  rintro rfl
  have := h.visible
  rw [startsWith_hided] at this
  cases this

end FileName

theorem entryOf_component (f : Flags) {c : String} (hc : '/' ∉ c.toList)
    (hj : hasSuffix c ".json" = true) : entryOf f c = some c := by
  have hcomponents : components c = [c] := by
    rw [components, List.splitOn_eq_singleton hc]
    simp
  have hne : ∀ d : String, hasSuffix d ".json" = false → c ≠ d := by
    rintro d hd rfl
    rw [hj] at hd
    cases hd
  have hwalk : walk (backupDirPath f) c = backupDirPath f ++ [c] := by
    rw [walk, if_neg, if_neg (hne ".." (by decide))]
    rintro (h | h)
    · exact hne "" (by decide) h
    · exact hne "." (by decide) h
  simp [entryOf, hcomponents, hwalk]

theorem entryOf_name (f : Flags) {name : String} (h : FileName name) : entryOf f name = some name :=
  entryOf_component f h.component h.json

theorem hasSuffix_hided {name : String} (h : hasSuffix name ".json" = true) :
    hasSuffix (hided name) ".json" = true := by
  rw [hasSuffix, List.isSuffixOf_iff_suffix] at h ⊢
  rw [hided_toList]
  exact h.trans (List.suffix_cons _ _)

theorem entryOf_hided (f : Flags) {name : String} (h : FileName name) :
    entryOf f (hided name) = some (hided name) := by
  refine entryOf_component f ?_ (hasSuffix_hided h.json)
  rw [hided_toList, List.mem_cons, not_or]
  exact ⟨by decide, h.component⟩

/-- The directory holds the visible and the hidden record of every name, and
nothing else. -/
structure Represents (m : String → Slot LsBackup) (s : Store) : Prop where
  seen : ∀ name, FileName name → s name = (m name).seen.map .record
  hidden : ∀ name, FileName name → s (hided name) = (m name).hidden.map .record
  only : ∀ key, s key ≠ none → ∃ name, FileName name ∧ (key = name ∨ key = hided name)
  fileName : ∀ name r, (m name).seen = some r → FileName name ∧ r.info ≠ none

theorem represents_empty : Represents (fun _ => ⟨none, none⟩) (fun _ => none) :=
  ⟨fun _ _ => rfl, fun _ _ => rfl, fun _ h => absurd rfl h, fun _ _ h => nomatch h⟩

def putSlot (s : Store) (name : String) (x : Slot LsBackup) : Store :=
  Function.update (Function.update s (hided name) (x.hidden.map .record)) name (x.seen.map .record)

theorem represents_putSlot {m : String → Slot LsBackup} {s : Store} (h : Represents m s)
    {name : String} (hname : FileName name) {x : Slot LsBackup}
    (hx : ∀ r, x.seen = some r → r.info ≠ none) :
    Represents (Function.update m name x) (putSlot s name x) := by
  refine ⟨fun other hother => ?_, fun other hother => ?_, fun key hkey => ?_, fun other r hr => ?_⟩
  · by_cases heq : other = name
    · subst heq
      simp [putSlot]
    · rw [putSlot, Function.update_of_ne heq, Function.update_of_ne (hother.ne_hided name),
        Function.update_of_ne heq]
      exact h.seen other hother
  · rw [putSlot, Function.update_of_ne (hname.ne_hided other).symm]
    by_cases heq : other = name
    · subst heq
      simp
    · rw [Function.update_of_ne (fun he => heq (hided_injective he)), Function.update_of_ne heq]
      exact h.hidden other hother
  · by_cases heq : key = name
    · exact ⟨name, hname, Or.inl heq⟩
    · rw [putSlot, Function.update_of_ne heq] at hkey
      by_cases hh : key = hided name
      · exact ⟨name, hname, Or.inr hh⟩
      · rw [Function.update_of_ne hh] at hkey
        exact h.only key hkey
  · by_cases heq : other = name
    · subst heq
      rw [Function.update_self] at hr
      exact ⟨hname, hx r hr⟩
    · rw [Function.update_of_ne heq] at hr
      exact h.fileName other r hr

section Step

variable {pk : Packages} {f : Flags} {m : String → Slot LsBackup} {s t : Store} {name : String}
  {tr : List Ev} (h : Represents m s) (hname : FileName name)

include h hname in
theorem seen_only (x : Option LsBackup) :
    Function.update s name (x.map .record) = putSlot s name ⟨x, (m name).hidden⟩ := by
  rw [putSlot, ← h.hidden name hname, Function.update_eq_self]

include h hname in
theorem writeByJSON_puts {r : LsBackup} (hrun : Run (sem pk) (writeByJSON f name r) tr none)
    (hp : (directory f).Path s tr t) : t = putSlot s name ⟨some r, (m name).hidden⟩ := by
  obtain ⟨-, rfl⟩ := writeByJSON_inv hrun
  obtain ⟨_, rfl, _, rfl, _, rfl, _, rfl, rfl⟩ := hp
  simp only [entryOf_name f hname, put, Function.update_idem]
  exact seen_only h hname (some r)

include h hname in
theorem hideByName_puts (hrun : Run (sem pk) (hideByName name) tr none)
    (hp : (directory f).Path s tr t) : t = putSlot s name ⟨none, (m name).seen⟩ := by
  rw [hideByName_inv hrun] at hp
  obtain ⟨_, rfl, _, hmoved, rfl⟩ := hp
  simp only [directory, entryOf_name f hname, entryOf_hided f hname, Moved] at hmoved
  obtain ⟨x, hx, rfl⟩ := hmoved
  rw [putSlot, ← h.seen name hname, hx, Function.update_comm (hname.ne_hided name).symm]
  rfl

include h hname in
theorem deleteByName_puts (hrun : Run (sem pk) (inMain (deleteByName name)) tr none)
    (hp : (directory f).Path s tr t) : t = putSlot s name ⟨none, (m name).hidden⟩ := by
  rw [deleteByName_inv hrun] at hp
  obtain ⟨_, rfl, _, ⟨-, rfl⟩, rfl⟩ := hp
  rw [entryOf_name f hname]
  exact seen_only h hname none

include h hname in
theorem deleteByHidedName_puts (hrun : Run (sem pk) (deleteByHidedName name) tr none)
    (hp : (directory f).Path s tr t) : t = putSlot s name ⟨(m name).seen, none⟩ := by
  rw [deleteByName_inv hrun] at hp
  obtain ⟨_, rfl, _, ⟨-, rfl⟩, rfl⟩ := hp
  rw [entryOf_hided f hname, putSlot, ← h.seen name hname, Function.update_comm
    (hname.ne_hided name).symm, Function.update_eq_self]
  rfl

end Step

theorem perform_puts {pk : Packages} {f : Flags} {m : String → Slot LsBackup} {s t : Store}
    {tr : List Ev} (h : Represents m s) {op : Op String LsBackup} (hname : FileName op.key)
    (hrun : Run (sem pk) (perform f op) tr none) (hp : (directory f).Path s tr t) :
    t = putSlot s op.key (op.change (m op.key)) := by
  cases op with
  | write name r => exact writeByJSON_puts h hname hrun hp
  | hide name => exact hideByName_puts h hname hrun hp
  | delete name => exact deleteByName_puts h hname hrun hp
  | deleteHided name => exact deleteByHidedName_puts h hname hrun hp

theorem change_info {m : String → Slot LsBackup} {s : Store} (h : Represents m s)
    {op : Op String LsBackup} (hop : HasInfo op) {r : LsBackup}
    (hr : (op.change (m op.key)).seen = some r) : r.info ≠ none := by
  cases op with
  | write name r' =>
    cases hr
    exact hop
  | hide name => cases hr
  | delete name => cases hr
  | deleteHided name => exact (h.fileName name r hr).2

theorem performed_represents {pk : Packages} {f : Flags} {ops : List (Op String LsBackup)} {s : Store}
    (h : Performed pk f ops s) (hops : ∀ op ∈ ops, FileName op.key ∧ HasInfo op) :
    Represents (Op.result ops) s := by
  induction h with
  | nil => exact represents_empty
  | @snoc ops op s t tr _ hrun hp ih =>
    have hs := ih (fun op hop => hops op (List.mem_append_left _ hop))
    obtain ⟨hname, hinfo⟩ := hops op (by simp)
    rw [Op.result_concat, perform_puts hs hname hrun hp]
    exact represents_putSlot hs hname (fun r hr => change_info hs hinfo hr)

theorem listed_record {m : String → Slot LsBackup} {s : Store} (h : Represents m s)
    {entries : List DirEntry} (hl : Lists s entries) {entry : DirEntry} (hentry : entry ∈ entries)
    (hv : visible entry = true) :
    ∃ r, (m entry.name).seen = some r ∧ recordOf entry = some (named entry.name r) := by
  obtain ⟨-, -, hfile⟩ := hl.file entry hentry
  have hne : s entry.name ≠ none := (hl.mem_iff _).mpr ⟨entry, hentry, rfl⟩
  obtain ⟨name, hname, rfl | heq⟩ := h.only entry.name hne
  · rw [h.seen _ hname] at hfile
    cases hseen : (m entry.name).seen with
    | none =>
      rw [hseen] at hfile
      exact hfile.elim
    | some r =>
      rw [hseen] at hfile
      obtain ⟨info, hinfo⟩ := Option.ne_none_iff_exists'.mp (h.fileName _ r hseen).2
      refine ⟨r, rfl, recordOf_eq_some.mpr ⟨hv, hname.json, r, info, hfile, hinfo, ?_⟩⟩
      simp [named, hinfo]
  · simp [visible, heq, startsWith_hided] at hv

theorem listed_shows {m : String → Slot LsBackup} {s : Store} (h : Represents m s)
    {entries : List DirEntry} (hl : Lists s entries) :
    (∀ entry ∈ entries, Fine entry) ∧ Shows m (entries.filterMap recordOf) := by
  refine ⟨fun entry hentry hv => ?_, ?_, fun b => ?_⟩
  · obtain ⟨r, -, hrec⟩ := listed_record h hl hentry hv
    refine ⟨(hl.file entry hentry).2.1, fun _ => ?_⟩
    rw [hrec]
    rfl
  · refine List.Pairwise.filterMap recordOf (fun a b hlt x hx y hy => ?_) hl.sorted
    exact ⟨a.name, b.name, recordOf_fileName hx, recordOf_fileName hy, hlt⟩
  · rw [List.mem_filterMap]
    constructor
    · rintro ⟨entry, hentry, hrec⟩
      obtain ⟨r, hseen, hrec'⟩ := listed_record h hl hentry (recordOf_eq_some.mp hrec).1
      cases hrec.symm.trans hrec'
      exact ⟨entry.name, r, hseen, rfl⟩
    · rintro ⟨name, r, hseen, rfl⟩
      have hname := (h.fileName name r hseen).1
      have hstored : s name = some (.record r) := by
        rw [h.seen name hname, hseen]
        rfl
      obtain ⟨entry, hentry, rfl⟩ := (hl.mem_iff name).mp (by simp [hstored])
      have hv : visible entry = true := by
        simp [visible, (hl.file entry hentry).1, hname.visible]
      obtain ⟨r', hseen', hrec⟩ := listed_record h hl hentry hv
      cases hseen.symm.trans hseen'
      exact ⟨entry, hentry, hrec⟩

theorem finite_update {K V : Type} [DecidableEq K] {s : K → Option V}
    (h : {key | s key ≠ none}.Finite) (name : K) (x : Option V) :
    {key | Function.update s name x key ≠ none}.Finite := by
  refine (h.insert name).subset (fun key hkey => ?_)
  by_cases heq : key = name
  · exact Or.inl heq
  · rw [Set.mem_ofPred_eq, Function.update_of_ne heq] at hkey
    exact Or.inr hkey

theorem performed_finite {pk : Packages} {f : Flags} {ops : List (Op String LsBackup)} {s : Store}
    (h : Performed pk f ops s) (hops : ∀ op ∈ ops, FileName op.key ∧ HasInfo op) :
    {key | s key ≠ none}.Finite := by
  induction h with
  | nil => simp
  | @snoc ops op s t tr hperf hrun hp ih =>
    have hprev := fun op hop => hops op (List.mem_append_left _ hop)
    rw [perform_puts (performed_represents hperf hprev) (hops op (by simp)).1 hrun hp]
    exact finite_update (finite_update (ih hprev) _ _) _ _

def fileOf : Option File → Except Err (Except Err LsBackup)
  | some (.record r) => .ok (.ok r)
  | some .garbled => .ok (.error "unexpected end of JSON input")
  | none => .error "no such file or directory"

theorem lists_exists {s : Store} (h : {key | s key ≠ none}.Finite) : ∃ entries, Lists s entries := by
  refine ⟨h.toFinset.sort.map (fun key => ⟨key, false, none, fileOf (s key)⟩), ?_, ?_, ?_⟩
  · exact List.pairwise_map.mpr (Finset.sortedLT_sort h.toFinset).pairwise
  · intro name
    simp
  · intro entry hentry
    obtain ⟨key, hkey, rfl⟩ := List.mem_map.mp hentry
    have hne : s key ≠ none := by simpa using hkey
    refine ⟨rfl, rfl, ?_⟩
    rcases hs : s key with _ | (_ | r)
    · exact absurd hs hne
    · exact ⟨_, rfl⟩
    · rfl

def Unfailing (tr : List Ev) : Prop := ∀ err, .main (.reply (.act .readDir) (.error err)) ∉ tr

theorem shows_unique {m : String → Slot LsBackup} {list list' : List LsBackup} (h : Shows m list)
    (h' : Shows m list') : list = list' := by
  have hnodup : ∀ {l : List LsBackup}, Shows m l → l.Nodup := by
    intro l hl
    refine hl.sorted.imp ?_
    rintro a _ ⟨n, n', hn, hn', hlt⟩ rfl
    cases hn.symm.trans hn'
    exact lt_irrefl _ hlt
  have hperm : list.Perm list' :=
    (List.perm_ext_iff_of_nodup (hnodup h) (hnodup h')).mpr
      (fun b => (h.mem_iff b).trans (h'.mem_iff b).symm)
  refine hperm.eq_of_pairwise ?_ h.sorted h'.sorted
  rintro a b - - ⟨n, n', hn, hn', hlt⟩ ⟨k, k', hk, hk', hlt'⟩
  cases hn.symm.trans hk'
  cases hn'.symm.trans hk
  exact absurd hlt (lt_asymm hlt')

theorem readAll_shows {pk : Packages} {f : Flags} {m : String → Slot LsBackup} {s t : Store}
    (hs : Represents m s) {tr : List Ev} {res : Except Err (List LsBackup)}
    (h : Run (sem pk) (readAll f) tr res) (hp : (directory f).Path s tr t) (hok : Unfailing tr) :
    ∃ list, Shows m list ∧ res = .ok list := by
  obtain ⟨r, tr', h', rfl⟩ := run_act_inv h
  cases r with
  | error err => exact absurd (by simp [did, whole]) (hok err)
  | ok entries =>
    obtain ⟨_, rfl, _, ⟨hl, rfl⟩, -⟩ := hp
    obtain ⟨hfine, hshows⟩ := listed_shows hs hl
    have hret : Run (sem pk) (readEntries f entries []) tr' res := h'
    rw [readEntries_eq f hfine] at hret
    exact ⟨_, hshows, (run_ret.mp hret).2⟩

/-- The store is a map with hidden entries: what is read is what was written last and
is neither hidden nor deleted, in the order of the names. -/
theorem store_refines_map {pk : Packages} {f : Flags} {ops : List (Op String LsBackup)} {s : Store}
    (h : Performed pk f ops s) (hops : ∀ op ∈ ops, FileName op.key ∧ HasInfo op) :
    ∃ list, Shows (Op.result ops) list ∧
      (∃ tr, Run (sem pk) (readAll f) tr (.ok list) ∧ (directory f).Path s tr s ∧ Unfailing tr) ∧
      ∀ tr t, (directory f).Path s tr t → Unfailing tr →
        (∀ res, Run (sem pk) (readAll f) tr res → res = .ok list) ∧
        (∀ csn res, Run (sem pk) (readAllByCSN f csn) tr res →
          res = .ok (list.filter (fun v => decide (v.info.map (·.csn) = some csn)))) ∧
        ∀ id res, Run (sem pk) (readByID f id) tr res → res = firstByID list id := by
  have hs := performed_represents h hops
  obtain ⟨entries, hl⟩ := lists_exists (performed_finite h hops)
  obtain ⟨hfine, hshows⟩ := listed_shows hs hl
  refine ⟨entries.filterMap recordOf, hshows, ⟨did .readDir (.ok entries),
    readAll_run.mpr ⟨entries, rfl, hfine, rfl⟩, ⟨s, rfl, s, ⟨hl, rfl⟩, rfl⟩, ?_⟩, ?_⟩
  · simp [Unfailing, did, whole]
  · intro tr t hp hok
    have hall : ∀ {tr' r}, tr' <+: tr → Run (sem pk) (readAll f) tr' r →
        r = .ok (entries.filterMap recordOf) := by
      intro tr' r hpre hread
      obtain ⟨u, hu⟩ := World.path_prefix hpre hp
      have hok' : Unfailing tr' := fun err hm => hok err (hpre.subset hm)
      obtain ⟨list, hlist, rfl⟩ := readAll_shows hs hread hu hok'
      rw [shows_unique hlist hshows]
    exact ⟨fun res hread => hall (List.prefix_refl tr) hread,
      fun csn res hread => readAllByCSN_of_readAll hread hall,
      fun id res hread => readByID_first hread hall⟩

section Histories

variable {pk : Packages} {f : Flags} {m : String → Slot LsBackup} {s : Store} {name : String}

theorem writeByJSON_done (pk : Packages) (f : Flags) (s : Store)
    (hname : hasSuffix name ".json" = true) (r : LsBackup) :
    ∃ tr, Run (sem pk) (writeByJSON f name r) tr none ∧ (directory f).Path s tr
      (put (put s (entryOf f name) (some .garbled)) (entryOf f name) (some (.record r))) := by
  have hrun : Run (sem pk) (writeByJSON f name r)
      (did (.osCreate name) none ++ (did (.fileWrite name r) none ++ [])) none := by
    rw [writeByJSON, if_pos hname]
    exact run_act (run_act (.ret _))
  exact ⟨_, hrun, _, rfl, _, rfl, _, rfl, _, rfl, rfl⟩

theorem hideByName_done (hname : FileName name) {x : File} (hx : s name = some x) :
    ∃ tr t, Run (sem pk) (hideByName name) tr none ∧ (directory f).Path s tr t := by
  have hrun : Run (sem pk) (hideByName name) (did (.osRename name (hided name)) none ++ []) none :=
    run_act (.ret _)
  have hmoved : Moved s (Function.update (Function.update s name none) (hided name) (some x))
      (entryOf f name) (entryOf f (hided name)) := by
    rw [entryOf_name f hname, entryOf_hided f hname]
    exact ⟨x, hx, rfl⟩
  exact ⟨_, _, hrun, _, rfl, _, hmoved, rfl⟩

theorem deleteByName_done {file entry : String} (hentry : entryOf f file = some entry)
    (hx : s entry ≠ none) :
    ∃ tr t, Run (sem pk) (inMain (deleteByName file)) tr none ∧ (directory f).Path s tr t := by
  have hrun : Run (sem pk) (inMain (deleteByName file)) (did (.osRemove file) none ++ []) none :=
    run_act (.ret _)
  have hthere : ∀ entry', entryOf f file = some entry' → s entry' ≠ none := by
    intro entry' hentry'
    cases hentry.symm.trans hentry'
    exact hx
  exact ⟨_, _, hrun, _, rfl, _, ⟨hthere, rfl⟩, rfl⟩

theorem perform_done (pk : Packages) (f : Flags) (h : Represents m s) {op : Op String LsBackup}
    (hname : FileName op.key) (he : op.enabled (m op.key) = true) :
    ∃ tr t, Run (sem pk) (perform f op) tr none ∧ (directory f).Path s tr t := by
  cases op with
  | write name r =>
    obtain ⟨tr, hrun, hpath⟩ := writeByJSON_done pk f s hname.json r
    exact ⟨tr, _, hrun, hpath⟩
  | hide name =>
    obtain ⟨r, hr⟩ : ∃ r, (m name).seen = some r := Option.isSome_iff_exists.mp he
    exact hideByName_done hname (by rw [h.seen name hname, hr, Option.map_some])
  | delete name =>
    obtain ⟨r, hr⟩ : ∃ r, (m name).seen = some r := Option.isSome_iff_exists.mp he
    exact deleteByName_done (entryOf_name f hname) (by simp [h.seen name hname, hr])
  | deleteHided name =>
    obtain ⟨r, hr⟩ : ∃ r, (m name).hidden = some r := Option.isSome_iff_exists.mp he
    exact deleteByName_done (entryOf_hided f hname) (by simp [h.hidden name hname, hr])

/-- Every history in which nothing is hidden or deleted that is not there can be performed. -/
theorem performed_exists {pre ops : List (Op String LsBackup)} (h : Performed pk f pre s)
    (hops : ∀ op ∈ pre ++ ops, FileName op.key ∧ HasInfo op)
    (hp : Op.possible (Op.result pre) ops = true) : ∃ t, Performed pk f (pre ++ ops) t := by
  induction ops generalizing pre s with
  | nil => exact ⟨s, by rwa [List.append_nil]⟩
  | cons op ops ih =>
    obtain ⟨he, hrest⟩ := Bool.and_eq_true_iff.mp hp
    have hm := performed_represents h (fun o ho => hops o (List.mem_append_left _ ho))
    obtain ⟨tr, t, hrun, hpath⟩ := perform_done pk f hm (hops op (by simp)).1 he
    rw [← Op.result_concat] at hrest
    rw [List.append_cons] at hops ⊢
    exact ih (h.snoc hrun hpath) hops hrest

end Histories

def bareRecord (id csn : String) : LsBackup :=
  { info := some
      { id := id, csn := csn, backupMode := ⟨"FULL"⟩, startTime := "", endTime := "",
        fileName := "" }
    dnList := []
    ssBackup := none }

/-- A name is written again when it is hidden, and hidden over the file that is hidden
already; other names are written over, deleted, and deleted when hidden. -/
def mixedHistory : List (Op String LsBackup) :=
  [.write "a.json" (bareRecord "1" "10"), .hide "a.json", .write "a.json" (bareRecord "2" "10"),
   .hide "a.json", .write "c.json" (bareRecord "3" "20"), .write "b.json" (bareRecord "4" "10"),
   .delete "c.json", .write "d.json" (bareRecord "5" "20"), .hide "d.json",
   .deleteHided "d.json", .write "a.json" (bareRecord "6" "20"),
   .write "b.json" (bareRecord "7" "10")]

theorem mixedHistory_seen (name : String) : (Op.result mixedHistory name).seen =
    if name = "a.json" then some (bareRecord "6" "20")
    else if name = "b.json" then some (bareRecord "7" "10") else none := by
  by_cases ha : name = "a.json"
  · subst ha
    rfl
  by_cases hb : name = "b.json"
  · subst hb
    rfl
  by_cases hc : name = "c.json"
  · subst hc
    rfl
  by_cases hd : name = "d.json"
  · subst hd
    rfl
  simp [Op.result, mixedHistory, Op.apply, Op.key, ha, hb, hc, hd]

theorem mixedHistory_shows : Shows (Op.result mixedHistory)
    [named "a.json" (bareRecord "6" "20"), named "b.json" (bareRecord "7" "10")] := by
  refine ⟨List.pairwise_pair.mpr ⟨"a.json", "b.json", rfl, rfl, by decide⟩, fun b => ?_⟩
  constructor
  · intro hb
    obtain rfl | rfl : b = _ ∨ b = _ := by simpa using hb
    · exact ⟨"a.json", _, rfl, rfl⟩
    · exact ⟨"b.json", _, rfl, rfl⟩
  · rintro ⟨name, r, hr, rfl⟩
    rw [mixedHistory_seen] at hr
    split at hr
    · rename_i ha
      cases hr
      simp [ha]
    split at hr
    · rename_i hb
      cases hr
      simp [hb]
    · cases hr

theorem mixedHistory_refines :
    ∃ s, Performed .documented .sample mixedHistory s ∧
      (∃ tr, Run (sem .documented) (readAll .sample) tr
        (.ok [named "a.json" (bareRecord "6" "20"), named "b.json" (bareRecord "7" "10")]) ∧
        (directory .sample).Path s tr s) ∧
      ∀ tr t, (directory .sample).Path s tr t → Unfailing tr →
        (∀ res, Run (sem .documented) (readAllByCSN .sample "20") tr res →
          res = .ok [named "a.json" (bareRecord "6" "20")]) ∧
        (∀ res, Run (sem .documented) (readByID .sample "7") tr res →
          res = .ok (named "b.json" (bareRecord "7" "10"))) ∧
        ∀ res, Run (sem .documented) (readByID .sample "2") tr res → res = .error "Not found" := by
  have hops : ∀ op ∈ mixedHistory, FileName op.key ∧ HasInfo op := by
    intro op hop
    simp only [mixedHistory, List.mem_cons, List.not_mem_nil, or_false] at hop
    obtain rfl | rfl | rfl | rfl | rfl | rfl | rfl | rfl | rfl | rfl | rfl | rfl := hop <;>
      exact ⟨⟨by decide, by decide, by decide⟩, by simp [HasInfo, bareRecord]⟩
  obtain ⟨s, hperf⟩ : ∃ s, Performed .documented .sample mixedHistory s :=
    performed_exists .nil hops (by decide)
  obtain ⟨list, hshows, ⟨tr, hread, hpath, -⟩, hall⟩ := store_refines_map hperf hops
  cases shows_unique hshows mixedHistory_shows
  refine ⟨s, hperf, ⟨tr, hread, hpath⟩, fun tr t hp hok => ?_⟩
  obtain ⟨-, hcsn, hid⟩ := hall tr t hp hok
  exact ⟨fun res h => hcsn _ res h, fun res h => hid _ res h, fun res h => hid _ res h⟩

/-- A name that begins with a slash leads to a file of another name. -/
theorem not_all_names_refine :
    ¬∀ (pk : Packages) (f : Flags) (ops : List (Op String LsBackup)) (s : Store),
      Performed pk f ops s →
      (∀ op ∈ ops, hasSuffix op.key ".json" = true ∧ startsWith op.key "." = false ∧ HasInfo op) →
      ∀ tr t list, (directory f).Path s tr t → Run (sem pk) (readAll f) tr (.ok list) →
        Shows (Op.result ops) list := by
  intro h
  have hentry : entryOf .sample "/a.json" = some "a.json" := by decide
  have hjson : hasSuffix "/a.json" ".json" = true := by decide
  obtain ⟨tr, hrun, hput⟩ :=
    writeByJSON_done .documented .sample (fun _ => none) hjson (bareRecord "1" "")
  have hperf : Performed .documented .sample [.write "/a.json" (bareRecord "1" "")] _ :=
    .snoc .nil hrun hput
  rw [hentry] at hperf
  -- the directory has the file a.json
  have hlists : Lists (put (put (fun _ => none) (some "a.json") (some .garbled)) (some "a.json")
      (some (.record (bareRecord "1" "")))) [⟨"a.json", false, none, .ok (.ok (bareRecord "1" ""))⟩] := by
    refine ⟨List.pairwise_singleton _ _, fun name => ?_, ?_⟩
    · by_cases hname : name = "a.json"
      · simp [put, hname]
      · simp [put, Function.update_of_ne hname, Ne.symm hname]
    · intro entry hentry
      rw [List.mem_singleton.mp hentry]
      exact ⟨rfl, rfl, by simp [put, Holds]⟩
  have hread : Run (sem .documented) (readAll .sample)
      (did .readDir (.ok [⟨"a.json", false, none, .ok (.ok (bareRecord "1" ""))⟩]))
      (.ok [named "a.json" (bareRecord "1" "")]) := by
    refine readAll_run.mpr ⟨_, rfl, ?_, rfl⟩
    intro entry hentry
    rw [List.mem_singleton.mp hentry]
    exact fun _ => ⟨rfl, fun _ => rfl⟩
  have hpath : (directory .sample).Path _
      (did .readDir (.ok [⟨"a.json", false, none, .ok (.ok (bareRecord "1" ""))⟩])) _ :=
    ⟨_, rfl, _, ⟨hlists, rfl⟩, rfl⟩
  have hops : ∀ op ∈ [Op.write "/a.json" (bareRecord "1" "")],
      hasSuffix op.key ".json" = true ∧ startsWith op.key "." = false ∧ HasInfo op := by
    intro op hop
    rw [List.mem_singleton.mp hop]
    exact ⟨by decide, by decide, by simp [HasInfo, bareRecord]⟩
  have hshows := h _ _ _ _ hperf hops _ _ _ hpath hread
  have hmem := (hshows.mem_iff (named "/a.json" (bareRecord "1" ""))).mpr
    ⟨"/a.json", bareRecord "1" "", by simp [Op.result, Op.apply, Op.key, Op.change], rfl⟩
  rw [List.mem_singleton] at hmem
  have hname : "/a.json" = "a.json" := by
    simpa [named, bareRecord] using congrArg (fun b => b.info.map (·.fileName)) hmem
  exact absurd hname (by decide)

end ShardingOnCloud.Pitr.RecordMap
