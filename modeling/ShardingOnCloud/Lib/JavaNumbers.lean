import Mathlib.Data.Nat.Digits.Defs
import ShardingOnCloud.Lib.Strconv

namespace ShardingOnCloud.Lib.JavaNumbers

open ShardingOnCloud.Lib.Strconv

section Definitions

/-- What reading and formatting numbers depends on: the digits that `Character.digit` knows among
the code units, and the zero of the locale. -/
structure Numerals where
  digit : UInt16 → Option ℕ
  zero : UInt16
  digit_ascii : ∀ d < 10, digit (UInt16.ofNat (48 + d)) = some d
  digit_locale : ∀ d < 10, digit (zero + UInt16.ofNat d) = some d
  digit_plus : digit 43 = none
  digit_minus : digit 45 = none

variable (D : Numerals)

def natural (t : List UInt16) : Option ℕ :=
  if t = [] then none else (t.mapM D.digit).map (fun ds => ds.foldl (fun n d => 10 * n + d) 0)

/-- `new BigInteger`: the digits may come after a sign. -/
def bigInteger : List UInt16 → Option ℤ
  | [] => none
  | u :: t =>
    if u = 45 then (natural D t).map (fun n => -(n : ℤ))
    else if u = 43 then (natural D t).map (fun n => (n : ℤ))
    else (natural D (u :: t)).map (fun n => (n : ℤ))

/-- `Integer.parseInt`. -/
def parseInt (t : List UInt16) : Option ℤ :=
  (bigInteger D t).filter (fun n => -2 ^ 31 ≤ n ∧ n < 2 ^ 31)

def decimal (n : ℕ) : List UInt16 := (Nat.toDigits 10 n).map (fun c => UInt16.ofNat c.toNat)

/-- `BigInteger.toString`, and that of the other integers. -/
def toText (n : ℤ) : List UInt16 := if n < 0 then 45 :: decimal n.natAbs else decimal n.natAbs

def intValue (n : ℤ) : ℤ := n.bmod (2 ^ 32)

def longValue (n : ℤ) : ℤ := n.bmod (2 ^ 64)

/-- `String.format` with `%0…d`. -/
def format (width : ℕ) (n : ℤ) : List UInt16 :=
  let ds := (Nat.toDigits 10 n.natAbs).map (fun c => D.zero + UInt16.ofNat (c.toNat - 48))
  if n < 0 then 45 :: List.leftpad (width - 1) D.zero ds else List.leftpad width D.zero ds

def asciiNumerals : Numerals where
  digit u := if 48 ≤ u ∧ u ≤ 57 then some (u.toNat - 48) else none
  zero := 48
  digit_ascii := by decide
  digit_locale := by decide
  digit_plus := by decide
  digit_minus := by decide

end Definitions

section Machine

theorem intValue_of_range {n : ℤ} (hlow : -2 ^ 31 ≤ n) (hhigh : n < 2 ^ 31) : intValue n = n := by
  unfold intValue
  rw [Int.bmod_eq_of_le] <;> omega

theorem longValue_of_range {n : ℤ} (hlow : -2 ^ 63 ≤ n) (hhigh : n < 2 ^ 63) :
    longValue n = n := by
  unfold longValue
  rw [Int.bmod_eq_of_le] <;> omega

/-- A difference is cut down to an `int` alike before and after its terms are cut down to a
`long`. -/
theorem intValue_longValue_sub (m n : ℤ) :
    intValue (longValue m - longValue n) = intValue (m - n) := by
  have hdvd : (2 ^ 32 : ℕ) ∣ 2 ^ 64 := ⟨2 ^ 32, rfl⟩
  unfold intValue longValue
  rw [← Int.bmod_bmod_of_dvd hdvd, Int.bmod_sub_bmod, Int.sub_bmod_bmod,
    Int.bmod_bmod_of_dvd hdvd]

end Machine

section Reading

variable {D : Numerals}

theorem mapM_digit {ds : List ℕ} {f : ℕ → UInt16} (hds : ∀ d ∈ ds, d < 10)
    (hf : ∀ d < 10, D.digit (f d) = some d) : (ds.map f).mapM D.digit = some ds := by
  induction ds with
  | nil => rfl
  | cons d ds ih =>
    obtain ⟨hd, hds⟩ := List.forall_mem_cons.mp hds
    rw [List.map_cons, List.mapM_cons, hf d hd, ih hds]
    rfl

def digitsOf (n : ℕ) : List ℕ := (Nat.toDigits 10 n).map (fun c => c.toNat - 48)

theorem toNat_digit {n : ℕ} {c : Char} (h : c ∈ Nat.toDigits 10 n) :
    48 ≤ c.toNat ∧ c.toNat ≤ 57 := by
  have hdigit := Nat.isDigit_of_mem_toDigits (by decide) (by decide) h
  simp only [Char.isDigit, Bool.and_eq_true, decide_eq_true_eq, UInt32.le_iff_toNat_le] at hdigit
  exact hdigit

theorem digitsOf_lt (n : ℕ) : ∀ d ∈ digitsOf n, d < 10 := by
  intro d hd
  obtain ⟨c, hc, rfl⟩ := List.mem_map.mp hd
  have hbounds := toNat_digit hc
  omega

theorem foldl_digitsOf (n : ℕ) : (digitsOf n).foldl (fun n d => 10 * n + d) 0 = n := by
  rw [digitsOf, List.foldl_map]
  exact digitsFrom_toDigits n

theorem decimal_eq (n : ℕ) : decimal n = (digitsOf n).map (fun d => UInt16.ofNat (48 + d)) := by
  rw [decimal, digitsOf, List.map_map]
  refine List.map_congr_left (fun c hc => ?_)
  have hbounds := toNat_digit hc
  have hcode : 48 + (c.toNat - 48) = c.toNat := by omega
  exact congrArg UInt16.ofNat hcode.symm

theorem natural_map {ds : List ℕ} {f : ℕ → UInt16} (hne : ds ≠ []) (hds : ∀ d ∈ ds, d < 10)
    (hf : ∀ d < 10, D.digit (f d) = some d) :
    natural D (ds.map f) = some (ds.foldl (fun n d => 10 * n + d) 0) := by
  rw [natural, if_neg (by simpa using hne), mapM_digit hds hf]
  rfl

theorem natural_decimal (n : ℕ) : natural D (decimal n) = some n := by
  rw [decimal_eq, natural_map (by simp [digitsOf]) (digitsOf_lt n) D.digit_ascii, foldl_digitsOf]

theorem bigInteger_decimal (n : ℕ) : bigInteger D (decimal n) = some (n : ℤ) := by
  have hread := natural_decimal (D := D) n
  cases hdecimal : decimal n with
  | nil =>
    rw [hdecimal] at hread
    cases hread
  | cons u t =>
    rw [hdecimal] at hread
    have hdigit : D.digit u ≠ none := by
      intro hx
      rw [natural, if_neg (List.cons_ne_nil u t), List.mapM_cons, hx] at hread
      cases hread
    have hminus : u ≠ 45 := fun hx => hdigit (hx ▸ D.digit_minus)
    have hplus : u ≠ 43 := fun hx => hdigit (hx ▸ D.digit_plus)
    rw [bigInteger, if_neg hminus, if_neg hplus, hread]
    rfl

theorem bigInteger_toText (n : ℤ) : bigInteger D (toText n) = some n := by
  unfold toText
  split
  · have habs : -(n.natAbs : ℤ) = n := by omega
    rw [bigInteger, if_pos rfl, natural_decimal]
    exact congrArg some habs
  · have habs : (n.natAbs : ℤ) = n := by omega
    rw [bigInteger_decimal, habs]

theorem parseInt_toText {n : ℤ} (hlow : -2 ^ 31 ≤ n) (hhigh : n < 2 ^ 31) :
    parseInt D (toText n) = some n := by
  rw [parseInt, bigInteger_toText]
  exact Option.filter_some_pos (decide_eq_true ⟨hlow, hhigh⟩)

theorem decimal_injective {m n : ℕ} (h : decimal m = decimal n) : m = n := by
  have hread := congrArg (natural asciiNumerals) h
  rw [natural_decimal, natural_decimal] at hread
  exact Option.some.inj hread

theorem toText_injective {m n : ℤ} (h : toText m = toText n) : m = n := by
  have hread := congrArg (bigInteger asciiNumerals) h
  rw [bigInteger_toText, bigInteger_toText] at hread
  exact Option.some.inj hread

theorem decimal_ne_nil (n : ℕ) : decimal n ≠ [] := by simp [decimal]

theorem decimal_head {n : ℕ} (h : 0 < n) : ∃ u t, decimal n = u :: t ∧ 49 ≤ u ∧ u ≤ 57 := by
  obtain ⟨c, cs, hcs, hne⟩ := toDigits_head h
  have hbounds := toNat_digit (hcs ▸ List.mem_cons_self)
  have hzero : c.toNat ≠ 48 := fun hx => hne (Char.toNat_inj.mp hx)
  have hcode : (UInt16.ofNat c.toNat).toNat = c.toNat :=
    UInt16.toNat_ofNat_of_lt (lt_of_le_of_lt hbounds.2 (by decide))
  refine ⟨UInt16.ofNat c.toNat, cs.map (fun c => UInt16.ofNat c.toNat), ?_, ?_, ?_⟩
  · rw [decimal, hcs, List.map_cons]
  · rw [UInt16.le_iff_toNat_le, hcode]
    exact (by omega : 49 ≤ c.toNat)
  · rw [UInt16.le_iff_toNat_le, hcode]
    exact hbounds.2

end Reading

section Padding

variable {α : Type} {width : ℕ} {p : α} {s t : List α}

/-- The second text is the first one with padding before it, within the width. -/
def Filled (width : ℕ) (p : α) (s t : List α) : Prop :=
  ∃ k, t = List.replicate k p ++ s ∧ t.length ≤ width

theorem Filled.leftpad (h : Filled width p s t) :
    List.leftpad width p s = List.leftpad width p t := by
  obtain ⟨k, rfl, hle⟩ := h
  rw [List.length_append, List.length_replicate] at hle
  have hsplit : width - s.length = width - (k + s.length) + k := by omega
  rw [List.leftpad, List.leftpad, List.length_append, List.length_replicate, hsplit,
    ← List.replicate_append_replicate, List.append_assoc]

theorem filled_of_leftpad (h : List.leftpad width p s = List.leftpad width p t)
    (hlt : s.length < t.length) : Filled width p s t := by
  have hlength := congrArg List.length h
  rw [List.length_leftpad, List.length_leftpad] at hlength
  have hle : t.length ≤ width := by omega
  have hsplit : width - s.length = width - t.length + (t.length - s.length) := by omega
  rw [List.leftpad, List.leftpad, hsplit, ← List.replicate_append_replicate,
    List.append_assoc, List.append_cancel_left_eq] at h
  exact ⟨t.length - s.length, h.symm, hle⟩

theorem leftpad_injective_of_length (h : List.leftpad width p s = List.leftpad width p t)
    (hlength : s.length = t.length) : s = t := by
  rw [List.leftpad, List.leftpad, hlength] at h
  exact List.append_cancel_left h

theorem leftpad_eq_leftpad :
    List.leftpad width p s = List.leftpad width p t ↔
      s = t ∨ Filled width p s t ∨ Filled width p t s := by
  constructor
  · intro h
    obtain hlt | heq | hgt := lt_trichotomy s.length t.length
    · exact Or.inr (Or.inl (filled_of_leftpad h hlt))
    · exact Or.inl (leftpad_injective_of_length h heq)
    · exact Or.inr (Or.inr (filled_of_leftpad h.symm hgt))
  · rintro (rfl | h | h)
    · rfl
    · exact h.leftpad
    · exact h.leftpad.symm

theorem eq_of_filled {width m n : ℕ} {p : UInt16} (hp : ¬(49 ≤ p ∧ p ≤ 57))
    (h : Filled width p (decimal m) (decimal n)) : m = n := by
  obtain ⟨k, hk, -⟩ := h
  cases k with
  | zero => exact (decimal_injective hk).symm
  | succ k =>
    rw [List.replicate_succ, List.cons_append] at hk
    obtain rfl | hpos := Nat.eq_zero_or_pos n
    · have hnil : List.replicate k p ++ decimal m = [] := (List.cons.inj hk).2.symm
      exact absurd (List.append_eq_nil_iff.mp hnil).2 (decimal_ne_nil m)
    · obtain ⟨u, t, hhead, hdigit⟩ := decimal_head hpos
      cases hhead.symm.trans hk
      exact absurd hdigit hp

end Padding

section Formatting

variable {D : Numerals} {width : ℕ} {n : ℕ}

theorem format_eq (D : Numerals) (width n : ℕ) :
    format D width n =
      (List.leftpad width 0 (digitsOf n)).map (fun d => D.zero + UInt16.ofNat d) := by
  have hds : (Nat.toDigits 10 n).map (fun c => D.zero + UInt16.ofNat (c.toNat - 48)) =
      (digitsOf n).map (fun d => D.zero + UInt16.ofNat d) := by
    rw [digitsOf, List.map_map]
    rfl
  rw [format, if_neg (by omega), Int.natAbs_natCast, hds, List.leftpad, List.leftpad,
    List.map_append, List.map_replicate, List.length_map]
  simp

theorem length_format (h : n < 10 ^ width) (hwidth : 0 < width) :
    (format D width n).length = width := by
  have hlength := (Nat.length_toDigits_le_iff (by decide) hwidth).mpr h
  rw [format_eq, List.length_map, List.length_leftpad, digitsOf, List.length_map]
  exact max_eq_left hlength

theorem foldl_leftpad (width : ℕ) (ds : List ℕ) :
    (List.leftpad width 0 ds).foldl (fun n d => 10 * n + d) 0 =
      ds.foldl (fun n d => 10 * n + d) 0 := by
  rw [List.leftpad, List.foldl_append]
  congr 1
  induction width - ds.length with
  | zero => rfl
  | succ k ih => exact ih

theorem natural_format (D : Numerals) (width n : ℕ) : natural D (format D width n) = some n := by
  have hne : List.leftpad width 0 (digitsOf n) ≠ [] := by simp [digitsOf]
  have hlt : ∀ d ∈ List.leftpad width 0 (digitsOf n), d < 10 := by
    intro d hd
    obtain hd | hd := List.mem_append.mp hd
    · rw [List.eq_of_mem_replicate hd]
      decide
    · exact digitsOf_lt n d hd
  rw [format_eq, natural_map hne hlt D.digit_locale, foldl_leftpad, foldl_digitsOf]

theorem format_injective {D : Numerals} {width m n : ℕ} (h : format D width m = format D width n) :
    m = n := by
  have hread := congrArg (natural D) h
  rw [natural_format, natural_format] at hread
  exact Option.some.inj hread

end Formatting

end ShardingOnCloud.Lib.JavaNumbers
