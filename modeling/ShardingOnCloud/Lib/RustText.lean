import ShardingOnCloud.Lib.JsonBytes
import ShardingOnCloud.Lib.Strconv

namespace ShardingOnCloud.Lib.RustText

open ShardingOnCloud.Lib.JsonBytes ShardingOnCloud.Lib.Strconv

section Utf8

/-- How many of the bytes after the first one can belong to the same character. -/
def belonging (a : UInt8) : List UInt8 → ℕ
  | [] => 0
  | b :: bs => if second a b then 1 + (bs.takeWhile continues).length else 0

/-- The first character of a text, and how many bytes after the first one belong to it. The
beginning of a character that breaks off is replaced as a whole. -/
def decodeLossy (a : UInt8) (bs : List UInt8) : Char × ℕ :=
  let n := min (belonging a bs) (announced a - 1)
  if announced a = n + 1 then decodeRune a bs else ('\uFFFD', n)

def lossy : ℕ → List UInt8 → List Char
  | 0, _ => []
  | _, [] => []
  | n + 1, a :: bs => (decodeLossy a bs).1 :: lossy n (bs.drop (decodeLossy a bs).2)

/-- `String::from_utf8_lossy`. -/
def fromUtf8Lossy (bytes : List UInt8) : List Char := lossy bytes.length bytes

def toUtf8 (cs : List Char) : List UInt8 := cs.flatMap String.utf8EncodeChar

/-- The bytes of a text whose characters have one each. -/
def ascii (cs : List Char) : List UInt8 := cs.map (fun c => UInt8.ofNat c.toNat)

end Utf8

/-- `str::parse::<u8>`. -/
def parseU8 (cs : List Char) : Option ℕ :=
  let ds := match cs with
    | '+' :: ds => ds
    | ds => ds
  if ds = [] then none else (readUint 255 ds 0).toOption

section Ascii

theorem toNat_ascii {c : Char} (h : c.toNat < 128) : (UInt8.ofNat c.toNat).toNat = c.toNat := by
  rw [UInt8.toNat_ofNat']
  exact Nat.mod_eq_of_lt (by omega)

theorem announced_ascii {a : UInt8} (h : a.toNat < 128) : announced a = 1 := by
  have ha : a < 0x80 := UInt8.lt_iff_toNat_lt.mpr h
  rw [announced, if_pos ha]

theorem second_bounds {a b : UInt8} (h : second a b = true) :
    128 ≤ b.toNat ∧ b.toNat ≤ 191 ∧ (a.toNat = 224 → 160 ≤ b.toNat) ∧
      (a.toNat = 240 → 144 ≤ b.toNat) := by
  unfold second continues at h
  simp only [UInt8.le_iff_toNat_le, ← UInt8.toNat_inj] at h
  split_ifs at h <;> simp at * <;> omega

theorem announced_bounds {a : UInt8} (ha : 128 ≤ a.toNat) :
    announced a ≠ 1 ∧ (announced a = 2 → 194 ≤ a.toNat ∧ a.toNat ≤ 223) ∧
      (announced a = 3 → 224 ≤ a.toNat ∧ a.toNat ≤ 239) ∧
        (announced a = 4 → 240 ≤ a.toNat ∧ a.toNat ≤ 244) := by
  unfold announced
  simp only [UInt8.lt_iff_toNat_lt, UInt8.le_iff_toNat_le]
  split_ifs <;> simp at * <;> omega

theorem decodeRune_large {a : UInt8} (ha : 128 ≤ a.toNat) (bs : List UInt8) :
    ∃ n, 128 ≤ n ∧ (decodeRune a bs).1 = Char.ofNat n := by
  obtain ⟨hone, htwo, hthree, hfour⟩ := announced_bounds ha
  unfold decodeRune
  split
  · rename_i h
    exact absurd h hone
  · rename_i b bs h
    have hbounds := htwo h
    split
    · exact ⟨_, by omega, rfl⟩
    · exact ⟨0xFFFD, by decide, rfl⟩
  · rename_i b c bs h
    have hbounds := hthree h
    split
    · rename_i hcont
      rw [Bool.and_eq_true] at hcont
      have hsecond := second_bounds hcont.1
      refine ⟨_, ?_, rfl⟩
      unfold low
      omega
    · exact ⟨0xFFFD, by decide, rfl⟩
  · rename_i b c d bs h
    have hbounds := hfour h
    split
    · rename_i hcont
      rw [Bool.and_eq_true, Bool.and_eq_true] at hcont
      have hsecond := second_bounds hcont.1.1
      refine ⟨_, ?_, rfl⟩
      unfold low
      omega
    · exact ⟨0xFFFD, by decide, rfl⟩
  · exact ⟨0xFFFD, by decide, rfl⟩

theorem decodeLossy_ascii {c : Char} (h : c.toNat < 128) (bs : List UInt8) :
    decodeLossy (UInt8.ofNat c.toNat) bs = (c, 0) := by
  have hannounced : announced (UInt8.ofNat c.toNat) = 1 := by
    apply announced_ascii
    rw [toNat_ascii h]
    exact h
  have hchar : decodeRune (UInt8.ofNat c.toNat) bs = (c, 0) := by
    rw [decodeRune, toNat_ascii h, Char.ofNat_toNat]
    exact hannounced
  simp [decodeLossy, hannounced, hchar]

theorem fromUtf8Lossy_ascii {cs : List Char} (h : ∀ c ∈ cs, c.toNat < 128) :
    fromUtf8Lossy (ascii cs) = cs := by
  induction cs with
  | nil => rfl
  | cons c cs ih =>
    obtain ⟨hc, hcs⟩ := List.forall_mem_cons.mp h
    change (decodeLossy (UInt8.ofNat c.toNat) (ascii cs)).1 :: lossy (ascii cs).length
      ((ascii cs).drop (decodeLossy (UInt8.ofNat c.toNat) (ascii cs)).2) = _
    rw [decodeLossy_ascii hc, List.drop_zero]
    exact congrArg (c :: ·) (ih hcs)

example : fromUtf8Lossy ("Hello ".toUTF8.toList ++ [0xF0, 0x90, 0x80] ++ "World".toUTF8.toList) =
    "Hello \uFFFDWorld".toList := by decide +kernel

theorem toUtf8_ascii {cs : List Char} (h : ∀ c ∈ cs, c.toNat < 128) : toUtf8 cs = ascii cs := by
  induction cs with
  | nil => rfl
  | cons c cs ih =>
    obtain ⟨hc, hcs⟩ := List.forall_mem_cons.mp h
    have hle : c.val.toNat ≤ 0x7f := Nat.le_of_lt_succ hc
    have hchar : String.utf8EncodeChar c = [UInt8.ofNat c.toNat] := if_pos hle
    rw [toUtf8, List.flatMap_cons, hchar]
    exact congrArg (UInt8.ofNat c.toNat :: ·) (ih hcs)

end Ascii

section Numbers

theorem parseU8_digits {ds : List Char} (hne : ds ≠ []) (hds : ds.all Char.isDigit = true) (n : ℕ) :
    parseU8 ds = some n ↔ digitsFrom 0 ds = n ∧ n ≤ 255 := by
  obtain ⟨c, cs, rfl⟩ := List.exists_cons_of_ne_nil hne
  have hplus : c ≠ '+' := by
    rintro rfl
    cases hds
  have hparse : parseU8 (c :: cs) = (readUint 255 (c :: cs) 0).toOption := by
    simp [parseU8, hplus]
  have hok : readUint 255 (c :: cs) 0 = .ok n ↔ _ := readUint_ok (Nat.zero_le 255) n
  rw [and_iff_right hds] at hok
  rw [hparse, ← hok]
  cases readUint 255 (c :: cs) 0 <;> simp [Except.toOption]

theorem parseU8_toDigits (v : ℕ) :
    parseU8 (Nat.toDigits 10 v) = if v ≤ 255 then some v else none := by
  have hdigits : (Nat.toDigits 10 v).all Char.isDigit = true := by
    rw [List.all_eq_true]
    intro c hc
    exact Nat.isDigit_of_mem_toDigits (by decide) (by decide) hc
  have hparse := parseU8_digits (by simp) hdigits
  rw [digitsFrom_toDigits] at hparse
  split
  · rename_i hv
    exact (hparse v).mpr ⟨rfl, hv⟩
  · rename_i hv
    refine Option.eq_none_iff_forall_ne_some.mpr (fun n hn => hv ?_)
    obtain ⟨rfl, hle⟩ := (hparse n).mp hn
    exact hle

theorem take_toDigits {v k : ℕ} (h : k < (Nat.toDigits 10 v).length) :
    (Nat.toDigits 10 v).take ((Nat.toDigits 10 v).length - k) = Nat.toDigits 10 (v / 10 ^ k) := by
  induction k generalizing v with
  | zero => simp
  | succ k ih =>
    by_cases hv : v < 10
    · rw [Nat.toDigits_of_lt_base hv] at h
      simp at h
    · have hdigits := Nat.toDigits_of_base_le (b := 10) (n := v) (by decide) (by omega)
      rw [hdigits, List.length_append, List.length_singleton] at h
      have hlength : (Nat.toDigits 10 v).length - (k + 1) =
          (Nat.toDigits 10 (v / 10)).length - k := by
        rw [hdigits, List.length_append, List.length_singleton]
        omega
      rw [hlength, hdigits, List.take_append_of_le_length (by omega), ih (by omega),
        Nat.div_div_eq_div_mul, Nat.pow_succ']

end Numbers

end ShardingOnCloud.Lib.RustText
