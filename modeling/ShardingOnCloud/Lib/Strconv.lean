import Mathlib.Algebra.Ring.Int.Defs
import Mathlib.Algebra.Ring.Nat
import Mathlib.Tactic.Common

namespace ShardingOnCloud.Lib.Strconv

inductive NumErr
  | errSyntax
  | errRange
  deriving DecidableEq, Repr

def NumErr.text : NumErr → String
  | .errSyntax => "invalid syntax"
  | .errRange => "value out of range"

def digits (cs : List Char) : Option ℕ :=
  if cs ≠ [] ∧ cs.all Char.isDigit then
    some (cs.foldl (fun n c => 10 * n + (c.toNat - '0'.toNat)) 0)
  else none

/-- A signed number of `bits` bits. What does not fit is cut off at the bound. -/
def clamp (bits : ℕ) (n : Int) : Int × Option NumErr :=
  if 2 ^ (bits - 1) ≤ n then (2 ^ (bits - 1) - 1, some .errRange)
  else if n < -2 ^ (bits - 1) then (-2 ^ (bits - 1), some .errRange)
  else (n, none)

/-- The loop of `strconv.ParseUint` for base 10. It stops at the first character that is not a
digit, and as soon as the number does not fit. -/
def readUint (maxVal : ℕ) : List Char → ℕ → Except NumErr ℕ
  | [], n => .ok n
  | c :: cs, n =>
    if c.isDigit then
      let n' := 10 * n + (c.toNat - '0'.toNat)
      if maxVal < n' then .error .errRange else readUint maxVal cs n'
    else .error .errSyntax

/-- The sign of a number, and what comes after it. -/
def sign (s : String) : Bool × List Char :=
  match s.toList with
  | '-' :: cs => (true, cs)
  | '+' :: cs => (false, cs)
  | cs => (false, cs)

def signed (neg : Bool) (n : ℕ) : Int := if neg then -(n : Int) else n

/-- `strconv.ParseInt` for base 10: the value comes with every error. -/
def parseInt (bits : ℕ) (s : String) : Int × Option NumErr :=
  let (neg, cs) := sign s
  if cs = [] then (0, some .errSyntax)
  else
    match readUint (2 ^ bits - 1) cs 0 with
    | .error .errSyntax => (0, some .errSyntax)
    | .error .errRange => clamp bits (signed neg (2 ^ bits - 1))
    | .ok n => clamp bits (signed neg n)

/-- The integer that decimal digits denote, after an optional sign. -/
def numeral (s : String) : Option Int := (digits (sign s).2).map (signed (sign s).1)

def atoi (s : String) : Int × Option NumErr := parseInt 64 s

def numError (fn s : String) (e : NumErr) : String :=
  "strconv." ++ fn ++ ": parsing " ++ s.quote ++ ": " ++ e.text

def parseBool (s : String) : Bool × Option NumErr :=
  if s ∈ ["1", "t", "T", "true", "TRUE", "True"] then (true, none)
  else if s ∈ ["0", "f", "F", "false", "FALSE", "False"] then (false, none)
  else (false, some .errSyntax)

/-- `strconv.FormatInt` for base 10. -/
def formatInt (n : Int) : String := toString n

section Parsing

def digitsFrom (n : ℕ) (cs : List Char) : ℕ :=
  cs.foldl (fun n c => 10 * n + (c.toNat - '0'.toNat)) n

theorem le_digitsFrom (n : ℕ) (cs : List Char) : n ≤ digitsFrom n cs := by
  induction cs generalizing n with
  | nil => exact le_rfl
  | cons c cs ih =>
    have hstep : n ≤ 10 * n + (c.toNat - '0'.toNat) := by omega
    exact le_trans hstep (ih _)

theorem readUint_ok {maxVal m : ℕ} {cs : List Char} (hm : m ≤ maxVal) (n : ℕ) :
    readUint maxVal cs m = .ok n ↔
      cs.all Char.isDigit = true ∧ digitsFrom m cs = n ∧ n ≤ maxVal := by
  induction cs generalizing m with
  | nil =>
    simp only [readUint, digitsFrom, List.foldl_nil, Except.ok.injEq, List.all_nil, true_and]
    constructor
    · rintro rfl
      exact ⟨rfl, hm⟩
    · exact fun h => h.1
  | cons c cs ih =>
    rw [readUint, List.all_cons, Bool.and_eq_true]
    by_cases hc : c.isDigit = true
    · rw [if_pos hc]
      dsimp only
      by_cases hmax : maxVal < 10 * m + (c.toNat - '0'.toNat)
      · rw [if_pos hmax]
        refine iff_of_false (by simp) ?_
        rintro ⟨-, hfrom, hle⟩
        have hvalue : digitsFrom (10 * m + (c.toNat - '0'.toNat)) cs = n := hfrom
        have hmore := le_digitsFrom (10 * m + (c.toNat - '0'.toNat)) cs
        omega
      · rw [if_neg hmax, ih (not_lt.mp hmax)]
        simp only [hc, true_and]
        rfl
    · rw [if_neg hc]
      exact iff_of_false (by simp) (fun h => hc h.1.1)

theorem digits_eq_some {cs : List Char} {n : ℕ} :
    digits cs = some n ↔ cs ≠ [] ∧ cs.all Char.isDigit = true ∧ digitsFrom 0 cs = n := by
  unfold digits
  split
  · rename_i h
    simp only [h.1, h.2, ne_eq, not_false_eq_true, true_and, Option.some.injEq]
    rfl
  · rename_i h
    exact iff_of_false (by simp) (fun hx => h ⟨hx.1, hx.2.1⟩)

theorem clamp_eq_none {bits : ℕ} {m n : Int} :
    clamp bits m = (n, none) ↔ m = n ∧ -2 ^ (bits - 1) ≤ n ∧ n < 2 ^ (bits - 1) := by
  unfold clamp
  split
  · rename_i h
    refine iff_of_false (by simp) ?_
    rintro ⟨rfl, -, hlt⟩
    omega
  · split
    · rename_i h
      refine iff_of_false (by simp) ?_
      rintro ⟨rfl, hle, -⟩
      omega
    · simp only [Prod.mk.injEq, and_true]
      constructor
      · rintro rfl
        omega
      · exact fun h => h.1

theorem pow_pred {bits : ℕ} (hbits : 1 < bits) :
    2 ^ bits = 2 * 2 ^ (bits - 1) ∧ 2 ≤ 2 ^ (bits - 1) := by
  obtain ⟨b, rfl⟩ : ∃ b, bits = b + 2 := ⟨bits - 2, by omega⟩
  have hb : 1 ≤ 2 ^ b := Nat.one_le_two_pow
  rw [show b + 2 - 1 = b + 1 from rfl, pow_succ, pow_succ]
  omega

/-- What does not even fit as an unsigned number is out of range. -/
theorem clamp_signed {bits : ℕ} (hbits : 1 < bits) (neg : Bool) (k : ℕ) {n : Int}
    (h : clamp bits (signed neg k) = (n, none)) : k < 2 ^ bits - 1 := by
  obtain ⟨rfl, hle, hlt⟩ := clamp_eq_none.mp h
  obtain ⟨hpow, htwo⟩ := pow_pred hbits
  have hcast : ((2 ^ (bits - 1) : ℕ) : Int) = 2 ^ (bits - 1) := by push_cast; rfl
  rw [← hcast] at hle hlt
  unfold signed at hle hlt
  split at hle
  · rename_i hneg
    omega
  · rename_i hneg
    rw [if_neg hneg] at hlt
    omega

theorem parseInt_eq_none {bits : ℕ} (hbits : 1 < bits) (s : String) (n : Int) :
    parseInt bits s = (n, none) ↔
      numeral s = some n ∧ -2 ^ (bits - 1) ≤ n ∧ n < 2 ^ (bits - 1) := by
  have hread : ∀ k, clamp bits (signed (sign s).1 k) = (n, none) → (sign s).2 ≠ [] →
      (digits (sign s).2 = some k ↔ readUint (2 ^ bits - 1) (sign s).2 0 = .ok k) := by
    intro k hk hne
    rw [digits_eq_some, readUint_ok (Nat.zero_le _)]
    have hlt := clamp_signed hbits _ k hk
    constructor
    · rintro ⟨-, hall, hval⟩
      exact ⟨hall, hval, le_of_lt hlt⟩
    · rintro ⟨hall, hval, -⟩
      exact ⟨hne, hall, hval⟩
  have hnumeral : (numeral s = some n ∧ -2 ^ (bits - 1) ≤ n ∧ n < 2 ^ (bits - 1)) ↔
      ∃ k, digits (sign s).2 = some k ∧ clamp bits (signed (sign s).1 k) = (n, none) := by
    simp only [numeral, Option.map_eq_some_iff, clamp_eq_none]
    constructor
    · rintro ⟨⟨k, hk, hn⟩, hrange⟩
      exact ⟨k, hk, hn, hrange⟩
    · rintro ⟨k, hk, hn, hrange⟩
      exact ⟨⟨k, hk, hn⟩, hrange⟩
  rw [hnumeral]
  unfold parseInt
  by_cases hne : (sign s).2 = []
  · simp [hne, digits]
  · simp only [if_neg hne]
    constructor
    · intro h
      split at h
      · simp at h
      · exact absurd (clamp_signed hbits _ _ h) (lt_irrefl _)
      · rename_i k hk
        exact ⟨k, (hread k h hne).mpr hk, h⟩
    · rintro ⟨k, hk, hclamp⟩
      rw [(hread k hclamp hne).mp hk]
      exact hclamp

theorem sign_cases (s : String) :
    (∃ cs, s.toList = '-' :: cs ∧ sign s = (true, cs)) ∨
      (∃ cs, s.toList = '+' :: cs ∧ sign s = (false, cs)) ∨
      s.toList.head? ≠ some '-' ∧ s.toList.head? ≠ some '+' ∧ sign s = (false, s.toList) := by
  unfold sign
  split
  · rename_i cs hs
    exact .inl ⟨cs, hs, rfl⟩
  · rename_i cs hs
    exact .inr (.inl ⟨cs, hs, rfl⟩)
  · rename_i hminus hplus
    refine .inr (.inr ⟨?_, ?_, rfl⟩)
    · intro h
      obtain ⟨cs, hcs⟩ := List.head?_eq_some_iff.mp h
      exact hminus cs hcs
    · intro h
      obtain ⟨cs, hcs⟩ := List.head?_eq_some_iff.mp h
      exact hplus cs hcs

theorem head_of_digits {cs : List Char} {n : ℕ} (h : digits cs = some n) :
    ∀ c, cs.head? = some c → c.isDigit = true := by
  obtain ⟨-, hall, -⟩ := digits_eq_some.mp h
  intro c hc
  exact List.all_eq_true.mp hall c (List.mem_of_mem_head? hc)

theorem numeral_of_digits {s : String} {n : ℕ} (h : digits s.toList = some n) :
    numeral s = some (n : Int) := by
  have hhead := head_of_digits h
  obtain ⟨cs, hs, -⟩ | ⟨cs, hs, -⟩ | ⟨-, -, hsign⟩ := sign_cases s
  · exact absurd (hhead '-' (by rw [hs]; rfl)) (by decide)
  · exact absurd (hhead '+' (by rw [hs]; rfl)) (by decide)
  · rw [numeral, hsign, h]
    rfl

theorem digitsFrom_toDigits (v : ℕ) : digitsFrom 0 (Nat.toDigits 10 v) = v := by
  have hvalue : digitsFrom 0 (Nat.toDigits 10 v) = Nat.ofDigitChars 10 (Nat.toDigits 10 v) 0 := by
    rw [Nat.ofDigitChars_eq_foldl]
    rfl
  rw [hvalue]
  simp

theorem toDigits_head {n : ℕ} (h : 0 < n) : ∃ c cs, Nat.toDigits 10 n = c :: cs ∧ c ≠ '0' := by
  induction n using Nat.strongRecOn with
  | ind n ih =>
    by_cases hlt : n < 10
    · have hall : ∀ k : Fin 10, 0 < k.1 → k.1.digitChar ≠ '0' := by decide
      exact ⟨n.digitChar, [], Nat.toDigits_of_lt_base hlt, hall ⟨n, hlt⟩ h⟩
    · obtain ⟨c, cs, hcs, hc⟩ := ih (n / 10) (by omega) (by omega)
      rw [Nat.toDigits_of_base_le (by decide) (by omega), hcs]
      exact ⟨c, _, rfl, hc⟩

end Parsing

theorem natRepr_injective {m n : ℕ} (h : m.repr = n.repr) : m = n := by
  have hd := congrArg String.toList h
  rw [Nat.toList_repr, Nat.toList_repr] at hd
  have hv := congrArg (fun cs => Nat.ofDigitChars 10 cs 0) hd
  simpa using hv

theorem natRepr_ne_neg {n : ℕ} {s : String} : n.repr ≠ "-" ++ s := by
  intro h
  have hd := congrArg String.toList h
  rw [Nat.toList_repr, String.toList_append] at hd
  have hmem : '-' ∈ Nat.toDigits 10 n := by
    rw [hd]
    exact List.mem_append_left _ (by decide)
  exact absurd (Nat.isDigit_of_mem_toDigits (by decide) (by decide) hmem) (by decide)

theorem formatInt_injective : Function.Injective formatInt := by
  intro a b h
  rw [formatInt, formatInt, Int.toString_eq_repr, Int.toString_eq_repr, Int.repr_eq_if,
    Int.repr_eq_if] at h
  split at h <;> split at h
  · have hn := natRepr_injective h
    omega
  · exact absurd h natRepr_ne_neg
  · exact absurd h.symm natRepr_ne_neg
  · have hn := natRepr_injective ((String.append_right_inj "-").mp h)
    omega

/-- The conversion to `int32`. -/
def int32 (n : Int) : Int := n.bmod (2 ^ 32)

/-- The conversion of a signed number to `uint`. -/
def uint (n : Int) : ℕ := (n % 2 ^ 64).toNat

end ShardingOnCloud.Lib.Strconv
