import Mathlib.Data.Nat.Count
import ShardingOnCloud.Wasm.Crc32

namespace ShardingOnCloud.Wasm.Crc32Texts

open ShardingOnCloud.Wasm.Crc32
open ShardingOnCloud.Wasm.Sharding (Text)

section Texts

def utf16Char (c : Char) : Text :=
  if c.toNat < 0x10000 then [UInt16.ofNat c.toNat]
  else [UInt16.ofNat (0xD800 + (c.toNat - 0x10000) / 1024),
    UInt16.ofNat (0xDC00 + (c.toNat - 0x10000) % 1024)]

def utf16 (cs : List Char) : Text := cs.flatMap utf16Char

/-- The code point at the first unit, by the units after it. -/
def codePointAt (u : UInt16) : Text → ℕ
  | [] => u.toNat
  | v :: _ =>
    if (0xD800 ≤ u.toNat ∧ u.toNat < 0xDC00) ∧ 0xDC00 ≤ v.toNat ∧ v.toNat < 0xE000 then
      (u.toNat - 0xD800) * 1024 + (v.toNat - 0xDC00) + 0x10000
    else u.toNat

def textToArrayBuffer : Text → List ℕ
  | [] => []
  | u :: s =>
    let c := codePointAt u s
    if c < 128 then c :: textToArrayBuffer s
    else if 127 < c ∧ c < 2048 then
      [(c >>> 6) ||| 192, (c &&& 63) ||| 128] ++ textToArrayBuffer s
    else if 2047 < c ∧ c < 65536 then
      [(c >>> 12) ||| 224, ((c >>> 6) &&& 63) ||| 128, (c &&& 63) ||| 128] ++ textToArrayBuffer s
    else
      [(c >>> 18) ||| 240, ((c >>> 12) &&& 63) ||| 128, ((c >>> 6) &&& 63) ||| 128,
        (c &&& 63) ||| 128] ++ textToArrayBuffer s.tail
termination_by s => s.length
decreasing_by
  all_goals simp only [List.length_cons, List.length_tail]; omega

theorem or_of_lt {j x : ℕ} (k : ℕ) (h : x < 2 ^ j) : 2 ^ j * k ||| x = x + 2 ^ j * k := by
  rw [← Nat.two_pow_add_eq_or_of_lt h k, Nat.add_comm]

theorem or_low {i j : ℕ} (k x : ℕ) (h : i ≤ j) :
    2 ^ j * k ||| (x &&& (2 ^ i - 1)) = x % 2 ^ i + 2 ^ j * k := by
  have hlt : x % 2 ^ i < 2 ^ j :=
    Nat.lt_of_lt_of_le (Nat.mod_lt _ (Nat.two_pow_pos i)) (Nat.pow_le_pow_right (by decide) h)
  rw [Nat.and_two_pow_sub_one_eq_mod, or_of_lt k hlt]

theorem tail_byte (x : ℕ) : 128 ||| (x &&& 63) = x % 64 + 128 :=
  or_low (i := 6) (j := 7) 1 x (by decide)

theorem lead_of_two (x : ℕ) : 192 ||| (x &&& 31) = x % 32 + 192 :=
  or_low (i := 5) (j := 6) 3 x (by decide)

theorem lead_of_three (x : ℕ) : 224 ||| (x &&& 15) = x % 16 + 224 :=
  or_low (i := 4) (j := 5) 7 x (by decide)

theorem lead_of_four (x : ℕ) : 240 ||| (x &&& 7) = x % 8 + 240 :=
  or_low (i := 3) (j := 4) 15 x (by decide)

theorem shared_byte (c d : ℕ) :
    128 ||| ((d >>> 6) &&& 15) ||| ((c &&& 3) <<< 4) = d / 64 % 16 + 16 * (c % 4) + 128 := by
  have hd : (d >>> 6) &&& 15 = d / 64 % 16 := by
    rw [Nat.shiftRight_eq_div_pow]
    exact Nat.and_two_pow_sub_one_eq_mod (d / 64) 4
  have hc : (c &&& 3) <<< 4 = 2 ^ 4 * (c % 4) := by
    rw [Nat.shiftLeft_eq, Nat.mul_comm]
    exact congrArg (2 ^ 4 * ·) (Nat.and_two_pow_sub_one_eq_mod c 2)
  have hlow : d / 64 % 16 < 2 ^ 4 := Nat.mod_lt _ (by decide)
  rw [hd, hc, Nat.or_assoc, Nat.or_comm (d / 64 % 16), or_of_lt (c % 4) hlow]
  exact or_of_lt (j := 7) 1 (by omega)

theorem low_ten (x : ℕ) : x &&& 1023 = x % 1024 := Nat.and_two_pow_sub_one_eq_mod x 10

theorem toNat_ofNat_lt {n : ℕ} (h : n < 256) : (UInt8.ofNat n).toNat = n := by
  rw [UInt8.toNat_ofNat']
  exact Nat.mod_eq_of_lt h

theorem takeByte_ofNat (C : Word) {n : ℕ} (h : n < 256) :
    takeByte C (UInt8.ofNat n) = take C n := by
  rw [takeByte, toNat_ofNat_lt h]

theorem toNat_unit {n : ℕ} (h : n < 65536) : (UInt16.ofNat n).toNat = n := by
  rw [UInt16.toNat_ofNat']
  exact Nat.mod_eq_of_lt h

theorem scalar (c : Char) : c.toNat < 55296 ∨ 57343 < c.toNat ∧ c.toNat < 1114112 := c.valid

theorem crc32StrLoop_char (C : Word) (c : Char) (s : Text) :
    crc32StrLoop C (utf16Char c ++ s) =
      crc32StrLoop ((String.utf8EncodeChar c).foldl takeByte C) s := by
  have hscalar := scalar c
  have hval : c.val.toNat = c.toNat := rfl
  unfold utf16Char String.utf8EncodeChar
  generalize hn : c.toNat = n at *
  simp only [hval]
  by_cases h1 : n < 128
  · rw [if_pos (by omega), if_pos (by omega), List.cons_append, List.nil_append,
      crc32StrLoop.eq_def]
    simp only [toNat_unit (show n < 65536 by omega)]
    rw [if_pos h1, List.foldl_cons, List.foldl_nil, takeByte_ofNat C (by omega)]
  · by_cases h2 : n < 2048
    · rw [if_pos (by omega), if_neg (by omega), if_pos (by omega), List.cons_append,
        List.nil_append, crc32StrLoop.eq_def]
      simp only [toNat_unit (show n < 65536 by omega)]
      rw [if_neg h1, if_pos h2, lead_of_two, tail_byte, Nat.shiftRight_eq_div_pow,
        List.foldl_cons, List.foldl_cons, List.foldl_nil, takeByte_ofNat _ (by omega),
        takeByte_ofNat _ (by omega)]
    · by_cases h3 : n < 65536
      · rw [if_pos (by omega), if_neg (by omega), if_neg (by omega), if_pos (by omega),
          List.cons_append, List.nil_append, crc32StrLoop.eq_def]
        simp only [toNat_unit h3]
        rw [if_neg h1, if_neg h2, if_neg (by omega), lead_of_three, tail_byte,
          tail_byte, Nat.shiftRight_eq_div_pow, Nat.shiftRight_eq_div_pow, List.foldl_cons,
          List.foldl_cons, List.foldl_cons, List.foldl_nil, takeByte_ofNat _ (by omega),
          takeByte_ofNat _ (by omega), takeByte_ofNat _ (by omega)]
      · have hhigh : (0xD800 + (n - 0x10000) / 1024) % 1024 + 64 = n / 1024 := by omega
        have hlow : (0xDC00 + (n - 0x10000) % 1024) % 1024 = n % 1024 := by omega
        have hshared : n % 1024 / 64 % 16 + 16 * (n / 1024 % 4) = n / 64 % 64 := by omega
        have hlast : n % 1024 % 64 = n % 64 := by omega
        rw [if_neg h3, if_neg (by omega), if_neg (by omega), if_neg (by omega), List.cons_append,
          List.cons_append, List.nil_append, crc32StrLoop, toNat_unit (by omega),
          if_neg (by omega), if_neg (by omega), if_pos (by omega)]
        rw [toNat_unit (by omega), low_ten, low_ten, hhigh, hlow, takePair, lead_of_four, tail_byte,
          shared_byte, tail_byte, hshared, hlast, Nat.shiftRight_eq_div_pow,
          Nat.shiftRight_eq_div_pow, Nat.div_div_eq_div_mul, Nat.div_div_eq_div_mul,
          List.foldl_cons, List.foldl_cons, List.foldl_cons, List.foldl_cons, List.foldl_nil,
          takeByte_ofNat _ (by omega), takeByte_ofNat _ (by omega), takeByte_ofNat _ (by omega),
          takeByte_ofNat _ (by omega)]

theorem crc32StrLoop_utf16 (C : Word) (cs : List Char) :
    crc32StrLoop C (utf16 cs) = (cs.flatMap String.utf8EncodeChar).foldl takeByte C := by
  induction cs generalizing C with
  | nil => rfl
  | cons c cs ih =>
    have hstep := crc32StrLoop_char C c (utf16 cs)
    rw [utf16, List.flatMap_cons, List.flatMap_cons, List.foldl_append, ← ih]
    exact hstep

theorem codePointAt_single {u : UInt16} (h : ¬(0xD800 ≤ u.toNat ∧ u.toNat < 0xDC00)) (s : Text) :
    codePointAt u s = u.toNat := by
  cases s with
  | nil => rfl
  | cons v s => exact if_neg (fun hpair => h hpair.1)

theorem codePointAt_pair {n : ℕ} (h : 65536 ≤ n) (h' : n < 1114112) (s : Text) :
    codePointAt (UInt16.ofNat (0xD800 + (n - 0x10000) / 1024))
      (UInt16.ofNat (0xDC00 + (n - 0x10000) % 1024) :: s) = n := by
  rw [codePointAt, toNat_unit (by omega), toNat_unit (by omega), if_pos (by omega)]
  omega

theorem textToArrayBuffer_char (c : Char) (s : Text) :
    textToArrayBuffer (utf16Char c ++ s) =
      (String.utf8EncodeChar c).map UInt8.toNat ++ textToArrayBuffer s := by
  have hscalar := scalar c
  have hval : c.val.toNat = c.toNat := rfl
  unfold utf16Char String.utf8EncodeChar
  generalize hn : c.toNat = n at *
  simp only [hval]
  by_cases h3 : n < 65536
  · have hpoint : codePointAt (UInt16.ofNat n) s = n := by
      rw [codePointAt_single, toNat_unit h3]
      rw [toNat_unit h3]
      omega
    rw [if_pos h3, List.cons_append, List.nil_append, textToArrayBuffer, hpoint]
    by_cases h1 : n < 128
    · rw [if_pos h1, if_pos (by omega), List.map_singleton, toNat_ofNat_lt (by omega)]
      rfl
    · by_cases h2 : n < 2048
      · have hlead : n >>> 6 ||| 192 = n / 64 % 32 + 192 := by
          rw [Nat.or_comm, Nat.shiftRight_eq_div_pow, Nat.mod_eq_of_lt (by omega)]
          exact or_of_lt (j := 6) 3 (by omega)
        rw [if_neg h1, if_pos (by omega), if_neg (by omega), if_pos (by omega), List.map_cons,
          List.map_singleton, toNat_ofNat_lt (by omega), toNat_ofNat_lt (by omega), hlead,
          Nat.or_comm, tail_byte]
      · have hlead : n >>> 12 ||| 224 = n / 4096 % 16 + 224 := by
          rw [Nat.or_comm, Nat.shiftRight_eq_div_pow, Nat.mod_eq_of_lt (by omega)]
          exact or_of_lt (j := 5) 7 (by omega)
        rw [if_neg h1, if_neg (by omega), if_pos (by omega), if_neg (by omega), if_neg (by omega),
          if_pos (by omega), List.map_cons, List.map_cons, List.map_singleton,
          toNat_ofNat_lt (by omega), toNat_ofNat_lt (by omega), toNat_ofNat_lt (by omega), hlead,
          Nat.or_comm (n >>> 6 &&& 63), tail_byte, Nat.or_comm (n &&& 63), tail_byte,
          Nat.shiftRight_eq_div_pow]
  · have hlead : n >>> 18 ||| 240 = n / 262144 % 8 + 240 := by
      rw [Nat.or_comm, Nat.shiftRight_eq_div_pow, Nat.mod_eq_of_lt (by omega)]
      exact or_of_lt (j := 4) 15 (by omega)
    rw [if_neg h3, List.cons_append, List.cons_append, List.nil_append, textToArrayBuffer,
      codePointAt_pair (by omega) (by omega), if_neg (by omega), if_neg (by omega),
      if_neg (by omega), if_neg (by omega), if_neg (by omega), if_neg (by omega), List.map_cons,
      List.map_cons, List.map_cons, List.map_singleton, toNat_ofNat_lt (by omega),
      toNat_ofNat_lt (by omega), toNat_ofNat_lt (by omega), toNat_ofNat_lt (by omega), hlead,
      Nat.or_comm (n >>> 12 &&& 63), tail_byte, Nat.or_comm (n >>> 6 &&& 63), tail_byte,
      Nat.or_comm (n &&& 63), tail_byte, Nat.shiftRight_eq_div_pow, Nat.shiftRight_eq_div_pow]
    rfl

theorem textToArrayBuffer_utf16 (cs : List Char) :
    textToArrayBuffer (utf16 cs) = (cs.flatMap String.utf8EncodeChar).map UInt8.toNat := by
  induction cs with
  | nil => rw [utf16, List.flatMap_nil, textToArrayBuffer]; rfl
  | cons c cs ih =>
    have hstep := textToArrayBuffer_char c (utf16 cs)
    rw [List.flatMap_cons, List.map_append, ← ih]
    exact hstep

theorem crc32Str_utf8 (cs : List Char) (seed : Word) :
    textToArrayBuffer (utf16 cs) = (cs.flatMap String.utf8EncodeChar).map UInt8.toNat ∧
      crc32Str (utf16 cs) seed = crc32Buf (cs.flatMap String.utf8EncodeChar) seed ∧
      shardingCrc32Buf (cs.flatMap String.utf8EncodeChar) seed =
        if 16 ≤ (cs.map Char.utf8Size).sum then none else some (crc32Str (utf16 cs) seed) := by
  have hstr : crc32Str (utf16 cs) seed =
      ~~~((cs.flatMap String.utf8EncodeChar).foldl takeByte (seed ^^^ minusOne)) := by
    rw [crc32Str, crc32StrLoop_utf16]
  have hlen : (cs.flatMap String.utf8EncodeChar).length = (cs.map Char.utf8Size).sum := by
    simp [List.length_flatMap]
  refine ⟨textToArrayBuffer_utf16 cs, hstr.trans (crc32Buf_eq _ _).symm, ?_⟩
  rw [shardingCrc32Buf, hlen, hstr]
  rfl

end Texts

section Shards

/-- The remainder, which is not a number for a zero. -/
def remainder (a b : ℤ) : Option ℤ := if b = 0 then none else some (a.tmod b)

/-- Nothing is less or greater than what is not a number. -/
def shardOf : Option ℤ → ℕ
  | none => 3
  | some m => if m < 256 then 0 else if m < 512 then 1 else if m < 768 then 2 else 3

def pisaCrc32 (str : Text) (mod : ℤ) : ℕ := shardOf (remainder (crc32Str str 0#32).toInt mod)

theorem shardOf_small {n : ℕ} (h : n < 2 ^ 31) :
    shardOf (remainder (BitVec.ofNat 32 n).toInt 1024) = n % 1024 / 256 := by
  have hnat : (BitVec.ofNat 32 n).toNat = n := by
    rw [BitVec.toNat_ofNat]
    omega
  have hint : (BitVec.ofNat 32 n).toInt = n := by
    rw [BitVec.toInt_eq_toNat_of_lt (by omega), hnat]
  rw [hint, remainder, if_neg (by decide), Int.tmod_eq_emod_of_nonneg (by omega), shardOf]
  by_cases h1 : (n : ℤ) % 1024 < 256
  · rw [if_pos h1]
    omega
  · by_cases h2 : (n : ℤ) % 1024 < 512
    · rw [if_neg h1, if_pos h2]
      omega
    · by_cases h3 : (n : ℤ) % 1024 < 768
      · rw [if_neg h1, if_neg h2, if_pos h3]
        omega
      · rw [if_neg h1, if_neg h2, if_neg h3]
        omega

theorem shardOf_negative {c : Word} (h : c.toInt < 0) : shardOf (remainder c.toInt 1024) = 0 := by
  have hneg : c.toInt.tmod 1024 ≤ 0 := by
    have hpos := Int.tmod_nonneg 1024 (show 0 ≤ -c.toInt by omega)
    rw [Int.neg_tmod] at hpos
    omega
  rw [remainder, if_neg (by decide), shardOf, if_pos (by omega)]

theorem shardOf_large {n : ℕ} (h : n < 2 ^ 31) :
    shardOf (remainder (BitVec.ofNat 32 (2 ^ 31 + n)).toInt 1024) = 0 := by
  apply shardOf_negative
  have hnat : (BitVec.ofNat 32 (2 ^ 31 + n)).toNat = 2 ^ 31 + n := by
    rw [BitVec.toNat_ofNat]
    omega
  rw [BitVec.toInt_neg_iff, hnat]
  omega

theorem count_congr {p q : ℕ → Prop} [DecidablePred p] [DecidablePred q] {m : ℕ}
    (h : ∀ n < m, p n ↔ q n) : Nat.count p m = Nat.count q m := by
  rw [Nat.count_eq_card_filter_range, Nat.count_eq_card_filter_range,
    Finset.filter_congr (fun n hn => h n (Finset.mem_range.mp hn))]

theorem count_periodic {p : ℕ → Prop} [DecidablePred p] {a : ℕ} (h : ∀ n, p (a + n) ↔ p n)
    (q : ℕ) :
    Nat.count p (a * q) = q * Nat.count p a := by
  induction q with
  | zero => simp
  | succ q ih =>
    rw [Nat.mul_succ, Nat.add_comm, Nat.count_add, count_congr (fun n _ => h n), ih,
      Nat.succ_mul, Nat.add_comm]

/-- Half of the checksums are negative, and go to the first shard with a quarter of the rest. -/
theorem pisaCrc32_skew :
    (∀ str, (crc32Str str 0#32).toInt < 0 → pisaCrc32 str 1024 = 0) ∧
      ∀ k < 4, Nat.count (fun n => shardOf (remainder (BitVec.ofNat 32 n).toInt 1024) = k)
        (2 ^ 32) = if k = 0 then 2 ^ 31 + 2 ^ 29 else 2 ^ 29 := by
  refine ⟨fun str h => shardOf_negative h, fun k hk => ?_⟩
  have hquarter : ∀ k < 4, Nat.count (fun n => n % 1024 / 256 = k) 1024 = 256 := by
    decide +kernel
  have hlow : Nat.count (fun n => shardOf (remainder (BitVec.ofNat 32 n).toInt 1024) = k) (2 ^ 31) =
      2 ^ 21 * 256 := by
    have hhalf : (2 : ℕ) ^ 31 = 1024 * 2 ^ 21 := by omega
    rw [count_congr (fun n hn => by rw [shardOf_small hn]), hhalf,
      count_periodic (fun n => by rw [Nat.add_mod_left]), hquarter k hk]
  have hhigh : Nat.count (fun n => shardOf (remainder (BitVec.ofNat 32 (2 ^ 31 + n)).toInt 1024) = k)
      (2 ^ 31) = if k = 0 then 2 ^ 31 else 0 := by
    rw [count_congr (fun n hn => by rw [shardOf_large hn])]
    by_cases hzero : k = 0
    · rw [if_pos hzero, Nat.count_of_forall (fun _ _ => hzero.symm)]
    · rw [if_neg hzero, Nat.count_of_forall_not (fun _ _ => Ne.symm hzero)]
  have hall : (2 : ℕ) ^ 32 = 2 ^ 31 + 2 ^ 31 := by omega
  rw [hall, Nat.count_add, hlow, hhigh]
  split
  · omega
  · omega

end Shards

end ShardingOnCloud.Wasm.Crc32Texts
