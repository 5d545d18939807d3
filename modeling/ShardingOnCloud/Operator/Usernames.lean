import ShardingOnCloud.Lib.RustText
import ShardingOnCloud.Lib.Runs
import ShardingOnCloud.Operator.Rds

namespace ShardingOnCloud.Operator.Usernames

open ShardingOnCloud.Lib.JsonBytes ShardingOnCloud.Lib.RustText ShardingOnCloud.Lib.Runs
open ShardingOnCloud.Operator.StorageNodeTypes
open ShardingOnCloud.Operator.Rds hiding validateusername

section Bytes

def underscore : UInt8 := 95

def hyphen : UInt8 := 45

/-- Whether `^[a-zA-Z0-9_-]+$` matches. A byte that is not part of a character is matched as the
character that replaces it. -/
def matched (str : List UInt8) : Bool :=
  let cs := runes str.length str
  !cs.isEmpty && cs.all usernameChar

/-- The function on the bytes of a string, which need not be those of characters. -/
def validateusername (str : List UInt8) : Except Err (List UInt8) :=
  if str.length > 16 then .error "username length should be less than 16"
  else if matched str then
    let str := replaceRuns underscore str.length str
    .ok (replaceRuns hyphen str.length str)
  else .error "username contains invalid characters"

end Bytes

section Matching

def IsUsernameByte (b : UInt8) : Prop :=
  97 ≤ b.toNat ∧ b.toNat ≤ 122 ∨ 65 ≤ b.toNat ∧ b.toNat ≤ 90 ∨ 48 ≤ b.toNat ∧ b.toNat ≤ 57 ∨
    b = underscore ∨ b = hyphen

theorem usernameChar_iff {c : Char} :
    usernameChar c = true ↔ 97 ≤ c.toNat ∧ c.toNat ≤ 122 ∨ 65 ≤ c.toNat ∧ c.toNat ≤ 90 ∨
      48 ≤ c.toNat ∧ c.toNat ≤ 57 ∨ c.toNat = 95 ∨ c.toNat = 45 := by
  have hchar : ∀ d : Char, c = d ↔ c.toNat = d.toNat := fun d => Char.toNat_inj.symm
  simp only [usernameChar, Bool.or_eq_true, Bool.and_eq_true, decide_eq_true_eq, beq_iff_eq, hchar,
    Char.le_def, UInt32.le_iff_toNat_le, or_assoc]
  rfl

theorem usernameChar_large {n : ℕ} (h : 128 ≤ n) : usernameChar (Char.ofNat n) = false := by
  rw [← Bool.not_eq_true, usernameChar_iff]
  have hn : (Char.ofNat n).toNat = n ∨ (Char.ofNat n).toNat = 0 := by
    by_cases hvalid : n.isValidChar
    · rw [Char.ofNat, dif_pos hvalid]
      exact Or.inl rfl
    · rw [Char.ofNat, dif_neg hvalid]
      exact Or.inr rfl
  omega

theorem decodeRune_ascii {a : UInt8} (ha : a.toNat < 128) (bs : List UInt8) :
    decodeRune a bs = (Char.ofNat a.toNat, 0) := by
  rw [decodeRune]
  exact announced_ascii ha

/-- The first character is a letter, a digit or a mark if and only if the first byte is. -/
theorem usernameChar_decodeRune (a : UInt8) (bs : List UInt8) :
    usernameChar (decodeRune a bs).1 = true ↔ IsUsernameByte a := by
  have hbyte : ∀ b : UInt8, a = b ↔ a.toNat = b.toNat := fun b => UInt8.toNat_inj.symm
  by_cases ha : a.toNat < 128
  · have hvalid : a.toNat.isValidChar := Or.inl (by omega)
    have hchar : (Char.ofNat a.toNat).toNat = a.toNat := by
      rw [Char.ofNat, dif_pos hvalid]
      rfl
    rw [decodeRune_ascii ha, usernameChar_iff, hchar, IsUsernameByte, hbyte, hbyte]
    rfl
  · obtain ⟨n, hn, hchar⟩ := decodeRune_large (not_lt.mp ha) bs
    rw [hchar, usernameChar_large hn, IsUsernameByte, hbyte, hbyte]
    refine iff_of_false (by simp) (fun hx => ?_)
    have hmarks : underscore.toNat = 95 ∧ hyphen.toNat = 45 := ⟨rfl, rfl⟩
    omega

theorem IsUsernameByte.lt {b : UInt8} (h : IsUsernameByte b) : b.toNat < 128 := by
  obtain h | h | h | rfl | rfl := h
  · omega
  · omega
  · omega
  · decide
  · decide

theorem runes_usernames {n : ℕ} {str : List UInt8} (h : str.length ≤ n) :
    (runes n str).all usernameChar = true ↔ ∀ b ∈ str, IsUsernameByte b := by
  induction n generalizing str with
  | zero =>
    obtain rfl := List.length_eq_zero_iff.mp (Nat.le_zero.mp h)
    simp [runes]
  | succ n ih =>
    cases str with
    | nil => simp [runes]
    | cons a str =>
      rw [runes, List.all_cons, Bool.and_eq_true, usernameChar_decodeRune, List.forall_mem_cons]
      refine and_congr_right (fun ha => ?_)
      rw [decodeRune_ascii ha.lt, List.drop_zero]
      exact ih (Nat.le_of_succ_le_succ h)

theorem matched_iff {str : List UInt8} :
    matched str = true ↔ str ≠ [] ∧ ∀ b ∈ str, IsUsernameByte b := by
  rw [matched, Bool.and_eq_true, runes_usernames le_rfl]
  refine and_congr_left' ?_
  cases str <;> simp [runes]

end Matching

section Normalisation

def marks : List UInt8 := [underscore, hyphen]

theorem replaceRuns_marks (str : List UInt8) :
    replaceRuns hyphen (replaceRuns underscore str.length str).length
      (replaceRuns underscore str.length str) = shortened marks str := by
  rw [replaceRuns_eq hyphen le_rfl, replaceRuns_eq underscore le_rfl, shortened_shortened]
  rfl

theorem validateusername_ok_iff {str str' : List UInt8} :
    validateusername str = .ok str' ↔
      str.length ≤ 16 ∧ str ≠ [] ∧ (∀ b ∈ str, IsUsernameByte b) ∧ str' = shortened marks str := by
  unfold validateusername
  by_cases hlength : str.length > 16
  · rw [if_pos hlength]
    exact iff_of_false (by simp) (fun hx => absurd hx.1 (by omega))
  · rw [if_neg hlength]
    by_cases hmatched : matched str = true
    · obtain ⟨hne, hall⟩ := matched_iff.mp hmatched
      rw [if_pos hmatched]
      simp only [replaceRuns_marks, Except.ok.injEq]
      exact ⟨fun hx => ⟨by omega, hne, hall, hx.symm⟩, fun hx => hx.2.2.2.symm⟩
    · rw [if_neg hmatched]
      refine iff_of_false (by simp) (fun hx => hmatched ?_)
      exact matched_iff.mpr ⟨hx.2.1, hx.2.2.1⟩

end Normalisation

/-- A username is accepted by its bytes, and comes out in a normal form. -/
theorem username_normalised (str : List UInt8) :
    ((∃ str', validateusername str = .ok str') ↔
        1 ≤ str.length ∧ str.length ≤ 16 ∧ ∀ b ∈ str, IsUsernameByte b) ∧
      ∀ str', validateusername str = .ok str' →
        str' = shortened [underscore, hyphen] str ∧ str' ≠ [] ∧
          ¬[underscore, underscore] <:+: str' ∧ ¬[hyphen, hyphen] <:+: str' ∧
            validateusername str' = .ok str' := by
  constructor
  · simp only [validateusername_ok_iff, exists_and_left, exists_eq, and_true]
    rw [Nat.one_le_iff_ne_zero, ne_eq, ne_eq, List.length_eq_zero_iff]
    exact and_left_comm
  · intro str' hstr'
    obtain ⟨hlength, hne, hall, rfl⟩ := validateusername_ok_iff.mp hstr'
    have hsub := shortened_sublist marks str
    have hspaced := spaced_shortened marks str
    have hne' : shortened marks str ≠ [] := by
      intro hx
      have hhead := congrArg List.head? hx
      rw [head?_shortened] at hhead
      exact hne (List.head?_eq_none_iff.mp hhead)
    refine ⟨rfl, hne', not_infix_of_spaced hspaced (by decide),
      not_infix_of_spaced hspaced (by decide), validateusername_ok_iff.mpr ⟨?_, hne', ?_, ?_⟩⟩
    · exact hsub.length_le.trans hlength
    · exact fun b hb => hall b (hsub.subset hb)
    · exact (shortened_of_spaced hspaced).symm

section Strings

/-- A character is a letter, a digit or a mark if and only if all its bytes are. -/
theorem usernameChar_bytes (c : Char) :
    (∀ b ∈ String.utf8EncodeChar c, IsUsernameByte b) ↔ usernameChar c = true := by
  by_cases hc : c.toNat < 128
  · have hle : c.val.toNat ≤ 0x7f := Nat.le_of_lt_succ hc
    have hbytes : String.utf8EncodeChar c = [UInt8.ofNat c.toNat] := if_pos hle
    have hfirst := usernameChar_decodeRune (UInt8.ofNat c.toNat) []
    rw [decodeRune_ascii (by rw [toNat_ascii hc]; exact hc), toNat_ascii hc, Char.ofNat_toNat]
      at hfirst
    rw [hbytes, hfirst, List.forall_mem_singleton]
  · have hlarge : usernameChar c = false := by
      rw [← Char.ofNat_toNat c]
      exact usernameChar_large (not_lt.mp hc)
    rw [hlarge]
    refine iff_of_false (fun hall => ?_) (by simp)
    have hlast : UInt8.ofNat (c.val.toNat % 64 + 128) ∈ String.utf8EncodeChar c := by
      have hle : ¬c.val.toNat ≤ 0x7f := fun hx => hc (Nat.lt_succ_of_le hx)
      unfold String.utf8EncodeChar
      dsimp only
      rw [if_neg hle]
      split
      · simp
      split <;> simp
    have hbyte := (hall _ hlast).lt
    rw [UInt8.toNat_ofNat'] at hbyte
    omega

theorem matched_toUtf8 (cs : List Char) :
    matched (toUtf8 cs) = true ↔ cs ≠ [] ∧ cs.all usernameChar = true := by
  have hne : toUtf8 cs ≠ [] ↔ cs ≠ [] := by
    cases cs with
    | nil => exact iff_of_false (fun hx => hx rfl) (fun hx => hx rfl)
    | cons c cs => simp [toUtf8]
  have hall : (∀ b ∈ toUtf8 cs, IsUsernameByte b) ↔ ∀ c ∈ cs, usernameChar c = true := by
    simp only [toUtf8, List.mem_flatMap, forall_exists_index, and_imp]
    constructor
    · intro h c hc
      exact (usernameChar_bytes c).mp (fun b hb => h b c hc hb)
    · intro h b c hc hb
      exact (usernameChar_bytes c).mpr (h c hc) b hb
  rw [matched_iff, hne, hall, List.all_eq_true]

theorem squeeze_cons {a c : Char} {cs : List Char} (h : ¬(a = c ∧ cs.head? = some c)) :
    squeeze c (a :: cs) = a :: squeeze c cs := by
  cases cs with
  | nil => rfl
  | cons b cs => exact if_neg (fun hx => h ⟨hx.1, congrArg some hx.2⟩)

theorem squeeze_run {a c : Char} {rest : List Char} (h : rest.head? ≠ some a) (k : ℕ) :
    squeeze c (List.replicate (k + 1) a ++ rest) = kept [c] k a ++ squeeze c rest := by
  by_cases ha : a = c
  · subst ha
    have hkept : kept [a] k a = [a] := if_pos List.mem_cons_self
    rw [hkept]
    induction k with
    | zero => exact squeeze_cons (fun hx => h hx.2)
    | succ k ih => exact (if_pos ⟨rfl, rfl⟩).trans (ih (if_pos List.mem_cons_self))
  · have hkept : kept [c] k a = List.replicate (k + 1) a :=
      if_neg (fun hx => ha (List.mem_singleton.mp hx))
    rw [hkept]
    induction k + 1 with
    | zero => rfl
    | succ k ih => exact (squeeze_cons (fun hx => ha hx.1)).trans (congrArg (a :: ·) ih)

theorem squeeze_eq (c : Char) (cs : List Char) : squeeze c cs = shortened [c] cs := by
  induction cs using runs_induction with
  | nil => rfl
  | run k a rest hhead ih => rw [squeeze_run hhead, shortened_run hhead, ih]

theorem toUtf8_normalize {str : String} (h : str.toList.all usernameChar = true) :
    toUtf8 (normalize str).toList = shortened marks (toUtf8 str.toList) := by
  have hascii : ∀ c ∈ str.toList, c.toNat < 128 := by
    intro c hc
    have hchar := usernameChar_iff.mp (List.all_eq_true.mp h c hc)
    omega
  have hnormal : (normalize str).toList = shortened ['_', '-'] str.toList := by
    rw [Rds.normalize, String.toList_ofList, squeeze_eq, squeeze_eq, shortened_shortened]
    rfl
  have hsub := shortened_sublist ['_', '-'] str.toList
  have hmarks : marks = ['_', '-'].map (fun c => UInt8.ofNat c.toNat) := rfl
  rw [hnormal, toUtf8_ascii hascii, toUtf8_ascii (fun c hc => hascii c (hsub.subset hc)), ascii,
    ascii, hmarks]
  refine (shortened_map ?_).symm
  have hmore : ∀ c ∈ ['_', '-'] ++ str.toList, c.toNat < 128 := by
    intro c hc
    obtain hc | hc := List.mem_append.mp hc
    · obtain rfl | hc := List.mem_cons.mp hc
      · decide
      · rw [List.mem_singleton.mp hc]
        decide
    · exact hascii c hc
  intro c hc d hd hcd
  have hnat := congrArg UInt8.toNat hcd
  rw [toNat_ascii (hmore c hc), toNat_ascii (hmore d hd)] at hnat
  exact Char.toNat_inj.mp hnat

theorem length_toUtf8 (str : String) : (toUtf8 str.toList).length = str.utf8ByteSize := by
  have hsize : str.toByteArray = str.toList.utf8Encode := by
    rw [← String.toByteArray_ofList, String.ofList_toList]
  rw [← String.size_toByteArray, hsize, List.utf8Encode, List.size_toByteArray]
  rfl

theorem validateusername_string (str : String) :
    validateusername (toUtf8 str.toList) =
      (Rds.validateusername str).map (fun s => toUtf8 s.toList) := by
  unfold validateusername Rds.validateusername
  rw [length_toUtf8]
  by_cases hlength : str.utf8ByteSize > 16
  · rw [if_pos hlength, if_pos hlength]
    rfl
  · rw [if_neg hlength, if_neg hlength]
    by_cases hchars : str.toList ≠ [] ∧ str.toList.all usernameChar = true
    · rw [if_pos hchars, if_pos ((matched_toUtf8 str.toList).mpr hchars), Except.map,
        toUtf8_normalize hchars.2]
      exact congrArg Except.ok (length_toUtf8 str ▸ replaceRuns_marks (toUtf8 str.toList))
    · rw [if_neg hchars, if_neg (mt (matched_toUtf8 str.toList).mp hchars)]
      rfl

end Strings

end ShardingOnCloud.Operator.Usernames
