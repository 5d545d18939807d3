import Mathlib.Data.List.Basic
import Mathlib.Tactic.Common

namespace ShardingOnCloud.Lib.Base64

def digitChar (n : ℕ) : Char :=
  if n < 26 then Char.ofNat ('A'.toNat + n)
  else if n < 52 then Char.ofNat ('a'.toNat + (n - 26))
  else if n < 62 then Char.ofNat ('0'.toNat + (n - 52))
  else if n = 62 then '+' else '/'

def digitValue (c : Char) : Option ℕ :=
  if 'A' ≤ c ∧ c ≤ 'Z' then some (c.toNat - 'A'.toNat)
  else if 'a' ≤ c ∧ c ≤ 'z' then some (c.toNat - 'a'.toNat + 26)
  else if '0' ≤ c ∧ c ≤ '9' then some (c.toNat - '0'.toNat + 52)
  else if c = '+' then some 62
  else if c = '/' then some 63
  else none

/-- The standard encoding, with padding: four digits for three bytes. -/
def encode : List UInt8 → List Char
  | [] => []
  | [a] => [digitChar (a.toNat / 4), digitChar (a.toNat % 4 * 16), '=', '=']
  | [a, b] =>
    [digitChar (a.toNat / 4), digitChar (a.toNat % 4 * 16 + b.toNat / 16),
      digitChar (b.toNat % 16 * 4), '=']
  | a :: b :: c :: bs =>
    digitChar (a.toNat / 4) :: digitChar (a.toNat % 4 * 16 + b.toNat / 16) ::
      digitChar (b.toNat % 16 * 4 + c.toNat / 64) :: digitChar (c.toNat % 64) :: encode bs

/-- The bits of a last digit that belong to no byte are not looked at. -/
def decodeGroups : List Char → Option (List UInt8)
  | [] => some []
  | w :: x :: y :: z :: cs => do
    let w ← digitValue w
    let x ← digitValue x
    let first := UInt8.ofNat (w * 4 + x / 16)
    if y = '=' then
      if z = '=' ∧ cs = [] then return [first] else none
    else do
      let y ← digitValue y
      let second := UInt8.ofNat (x % 16 * 16 + y / 4)
      if z = '=' then
        if cs = [] then return [first, second] else none
      else do
        let z ← digitValue z
        let bs ← decodeGroups cs
        return first :: second :: UInt8.ofNat (y % 4 * 64 + z) :: bs
  | _ => none

/-- `base64.StdEncoding.DecodeString`, which ignores the ends of lines. -/
def decode (cs : List Char) : Option (List UInt8) :=
  decodeGroups (cs.filter (fun c => c != '\n' && c != '\r'))

theorem digitValue_digitChar {n : ℕ} (h : n < 64) : digitValue (digitChar n) = some n := by
  have hall : ∀ k : Fin 64, digitValue (digitChar k) = some k.1 := by decide
  exact hall ⟨n, h⟩

theorem digitChar_plain {n : ℕ} (h : n < 64) :
    digitChar n ≠ '=' ∧ digitChar n ≠ '\n' ∧ digitChar n ≠ '\r' := by
  have hall : ∀ k : Fin 64,
      digitChar k ≠ '=' ∧ digitChar k ≠ '\n' ∧ digitChar k ≠ '\r' := by decide
  exact hall ⟨n, h⟩

theorem decodeGroups_encode (bs : List UInt8) : decodeGroups (encode bs) = some bs := by
  fun_induction encode bs with
  | case1 => rfl
  | case2 a =>
    have ha := a.toNat_lt
    have h0 : a.toNat / 4 < 64 := by omega
    have h1 : a.toNat % 4 * 16 < 64 := by omega
    have hfirst : a.toNat / 4 * 4 + a.toNat % 4 * 16 / 16 = a.toNat := by omega
    simp only [decodeGroups, digitValue_digitChar h0, digitValue_digitChar h1, Option.bind_eq_bind,
      Option.bind_some, and_self, if_true, hfirst, UInt8.ofNat_toNat]
    rfl
  | case3 a b =>
    have ha := a.toNat_lt
    have hb := b.toNat_lt
    have h0 : a.toNat / 4 < 64 := by omega
    have h1 : a.toNat % 4 * 16 + b.toNat / 16 < 64 := by omega
    have h2 : b.toNat % 16 * 4 < 64 := by omega
    have hfirst : a.toNat / 4 * 4 + (a.toNat % 4 * 16 + b.toNat / 16) / 16 = a.toNat := by omega
    have hsecond : (a.toNat % 4 * 16 + b.toNat / 16) % 16 * 16 + b.toNat % 16 * 4 / 4 =
        b.toNat := by omega
    simp only [decodeGroups, digitValue_digitChar h0, digitValue_digitChar h1,
      digitValue_digitChar h2, Option.bind_eq_bind, Option.bind_some, if_neg (digitChar_plain h2).1,
      if_true, hfirst, hsecond, UInt8.ofNat_toNat]
    rfl
  | case4 a b c bs ih =>
    have ha := a.toNat_lt
    have hb := b.toNat_lt
    have hc := c.toNat_lt
    have h0 : a.toNat / 4 < 64 := by omega
    have h1 : a.toNat % 4 * 16 + b.toNat / 16 < 64 := by omega
    have h2 : b.toNat % 16 * 4 + c.toNat / 64 < 64 := by omega
    have h3 : c.toNat % 64 < 64 := by omega
    have hfirst : a.toNat / 4 * 4 + (a.toNat % 4 * 16 + b.toNat / 16) / 16 = a.toNat := by omega
    have hsecond : (a.toNat % 4 * 16 + b.toNat / 16) % 16 * 16 +
        (b.toNat % 16 * 4 + c.toNat / 64) / 4 = b.toNat := by omega
    have hthird : (b.toNat % 16 * 4 + c.toNat / 64) % 4 * 64 + c.toNat % 64 = c.toNat := by omega
    simp only [decodeGroups, digitValue_digitChar h0, digitValue_digitChar h1,
      digitValue_digitChar h2, digitValue_digitChar h3, Option.bind_eq_bind, Option.bind_some,
      if_neg (digitChar_plain h2).1, if_neg (digitChar_plain h3).1, hfirst, hsecond, hthird, ih,
      UInt8.ofNat_toNat]
    rfl

theorem mem_encode {bs : List UInt8} {d : Char} (h : d ∈ encode bs) :
    d = '=' ∨ ∃ n < 64, d = digitChar n := by
  fun_induction encode bs with
  | case1 => cases h
  | case2 a =>
    have ha := a.toNat_lt
    simp only [List.mem_cons, List.not_mem_nil, or_false] at h
    rcases h with rfl | rfl | rfl | rfl
    · exact Or.inr ⟨_, by omega, rfl⟩
    · exact Or.inr ⟨_, by omega, rfl⟩
    · exact Or.inl rfl
    · exact Or.inl rfl
  | case3 a b =>
    have ha := a.toNat_lt
    have hb := b.toNat_lt
    simp only [List.mem_cons, List.not_mem_nil, or_false] at h
    rcases h with rfl | rfl | rfl | rfl
    · exact Or.inr ⟨_, by omega, rfl⟩
    · exact Or.inr ⟨_, by omega, rfl⟩
    · exact Or.inr ⟨_, by omega, rfl⟩
    · exact Or.inl rfl
  | case4 a b c bs ih =>
    have ha := a.toNat_lt
    have hb := b.toNat_lt
    have hc := c.toNat_lt
    simp only [List.mem_cons] at h
    rcases h with rfl | rfl | rfl | rfl | h
    · exact Or.inr ⟨_, by omega, rfl⟩
    · exact Or.inr ⟨_, by omega, rfl⟩
    · exact Or.inr ⟨_, by omega, rfl⟩
    · exact Or.inr ⟨_, by omega, rfl⟩
    · exact ih h

theorem decode_encode (bs : List UInt8) : decode (encode bs) = some bs := by
  have hall : ∀ c ∈ encode bs, (c != '\n' && c != '\r') = true := by
    intro c hc
    rcases mem_encode hc with rfl | ⟨n, hn, rfl⟩
    · rfl
    · simpa using (digitChar_plain hn).2
  rw [decode, List.filter_eq_self.mpr hall, decodeGroups_encode]

end ShardingOnCloud.Lib.Base64
