import ShardingOnCloud.Lib.ReflectedCrc
import ShardingOnCloud.Wasm.Sharding

namespace ShardingOnCloud.Wasm.Crc32

open ShardingOnCloud.Lib.ReflectedCrc
open ShardingOnCloud.Wasm.Sharding hiding slice

section Tables

/-- What the bitwise operators work on. -/
abbrev Word := BitVec 32

/-- An `Int32Array`, by its indices. -/
abbrev Table := ℕ → Word

def polynomial : Word := BitVec.ofInt 32 (-306674912)

def tableStep (c : Word) : Word :=
  if c &&& 1#32 ≠ 0#32 then polynomial ^^^ (c >>> 1) else c >>> 1

def signedCrcTable : Table := fun n => tableStep^[8] (BitVec.ofNat 32 n)

def tableAt (T : Table) (i : Word) : Word := T i.toNat

/-- The loop over the first part of the large table. -/
def copied (T table : Table) : Table :=
  (List.range 256).foldl (fun table n => Function.update table n (T n)) table

def columnStep (T : Table) (s : Word × Table) (c : ℕ) : Word × Table :=
  let v := (s.1 >>> 8) ^^^ tableAt T (s.1 &&& 255#32)
  (v, Function.update s.2 c v)

/-- The inner loop, over the indices from `256 + n` on. -/
def column (T table : Table) (n : ℕ) : Table :=
  (((List.range 15).map (fun k => 256 + n + 256 * k)).foldl (columnStep T) (T n, table)).2

def largeTable (T : Table) : Table := (List.range 256).foldl (column T) (copied T (fun _ => 0#32))

def sliceBy16Tables (T : Table) (n : ℕ) : Table := fun i => largeTable T ((n + 1) * 256 + i)

def T0 : Table := signedCrcTable

def TT : ℕ → Table := sliceBy16Tables T0

end Tables

section Checksums

def take (C : Word) (c : ℕ) : Word :=
  (C >>> 8) ^^^ tableAt T0 ((C ^^^ BitVec.ofNat 32 c) &&& 255#32)

def minusOne : Word := BitVec.ofInt 32 (-1)

def crc32Bstr (bstr : Text) (seed : Word) : Word :=
  ~~~(bstr.foldl (fun C u => take C u.toNat) (seed ^^^ minusOne))

/-- Sixteen bytes at a time, of which `b` has the ones from the index of the loop on. -/
def takeBlock (C : Word) (b : ℕ → UInt8) : Word :=
  let w := fun i => BitVec.ofNat 32 (b i).toNat
  tableAt (TT 14) (w 0 ^^^ (C &&& 255#32)) ^^^
    tableAt (TT 13) (w 1 ^^^ (C.sshiftRight 8 &&& 255#32)) ^^^
    tableAt (TT 12) (w 2 ^^^ (C.sshiftRight 16 &&& 255#32)) ^^^
    tableAt (TT 11) (w 3 ^^^ (C >>> 24)) ^^^
    tableAt (TT 10) (w 4) ^^^ tableAt (TT 9) (w 5) ^^^
    tableAt (TT 8) (w 6) ^^^ tableAt (TT 7) (w 7) ^^^
    tableAt (TT 6) (w 8) ^^^ tableAt (TT 5) (w 9) ^^^
    tableAt (TT 4) (w 10) ^^^ tableAt (TT 3) (w 11) ^^^
    tableAt (TT 2) (w 12) ^^^ tableAt (TT 1) (w 13) ^^^
    tableAt (TT 0) (w 14) ^^^ tableAt T0 (w 15)

def bufLoop (C : Word) (B : List UInt8) : Word × List UInt8 :=
  if 16 ≤ B.length then bufLoop (takeBlock C (fun i => B.getD i 0)) (B.drop 16) else (C, B)
termination_by B.length
decreasing_by
  rw [List.length_drop]
  omega

def crc32Buf (B : List UInt8) (seed : Word) : Word :=
  let s := bufLoop (seed ^^^ minusOne) B
  ~~~(s.2.foldl (fun C b => take C b.toNat) s.1)

/-- The same function in `sharding.js`, where the tables but the first one are not defined. -/
def shardingCrc32Buf (B : List UInt8) (seed : Word) : Option Word :=
  if 16 ≤ B.length then none
  else some (~~~(B.foldl (fun C b => take C b.toNat) (seed ^^^ minusOne)))

def takePair (C : Word) (c d : ℕ) : Word :=
  take (take (take (take C (240 ||| ((c >>> 8) &&& 7))) (128 ||| ((c >>> 2) &&& 63)))
    (128 ||| ((d >>> 6) &&& 15) ||| ((c &&& 3) <<< 4))) (128 ||| (d &&& 63))

def crc32StrLoop (C : Word) : Text → Word
  | [] => C
  | u :: str =>
    let c := u.toNat
    if c < 0x80 then crc32StrLoop (take C c) str
    else if c < 0x800 then
      crc32StrLoop (take (take C (192 ||| ((c >>> 6) &&& 31))) (128 ||| (c &&& 63))) str
    else if 0xD800 ≤ c ∧ c < 0xE000 then
      match str with
      | [] => takePair C ((c &&& 1023) + 64) 0
      | v :: str => crc32StrLoop (takePair C ((c &&& 1023) + 64) (v.toNat &&& 1023)) str
    else crc32StrLoop (take (take (take C (224 ||| ((c >>> 12) &&& 15)))
      (128 ||| ((c >>> 6) &&& 63))) (128 ||| (c &&& 63))) str

def crc32Str (str : Text) (seed : Word) : Word := ~~~(crc32StrLoop (seed ^^^ minusOne) str)

end Checksums

section Steps

theorem tableStep_eq : tableStep = shift polynomial := by
  funext c
  have hlow : c &&& 1#32 ≠ 0#32 ↔ c.getLsbD 0 = true := by
    rw [BitVec.and_one_eq_setWidth_ofBool_getLsbD]
    cases c.getLsbD 0 <;> decide
  simp only [tableStep, shift, hlow]

theorem getLsbD_255 (i : ℕ) : (255#32).getLsbD i = decide (i < 8) := by
  rw [BitVec.getLsbD_ofNat, show 255 = 2 ^ 8 - 1 from rfl, Nat.testBit_two_pow_sub_one]
  by_cases hi : i < 8
  · simp [hi, show i < 32 by omega]
  · simp [hi]

theorem getLsbD_low (c : Word) (i : ℕ) :
    (c &&& 255#32).getLsbD i = (c.getLsbD i && decide (i < 8)) := by
  rw [BitVec.getLsbD_and, getLsbD_255]

theorem tableAt_T0 (i : Word) : tableAt T0 i = shifts polynomial 8 i := by
  rw [tableAt, T0, signedCrcTable, tableStep_eq, BitVec.ofNat_toNat, BitVec.setWidth_eq, shifts]

theorem shifts_eight (c : Word) :
    shifts polynomial 8 c = (c >>> 8) ^^^ shifts polynomial 8 (c &&& 255#32) := by
  apply shifts_split
  · intro i hi
    rw [getLsbD_low, decide_eq_true hi, Bool.and_true]
  · intro i hi
    rw [getLsbD_low, decide_eq_false (by omega), Bool.and_false]

theorem take_eq (C : Word) (c : ℕ) :
    take C c = shifts polynomial 8 (C ^^^ (BitVec.ofNat 32 c &&& 255#32)) := by
  have hout : (BitVec.ofNat 32 c &&& 255#32) >>> 8 = 0#32 := by
    apply BitVec.eq_of_getLsbD_eq
    intro i hi
    rw [BitVec.getLsbD_ushiftRight, getLsbD_low, decide_eq_false (by omega), Bool.and_false,
      BitVec.getLsbD_zero]
  have hlow : (C ^^^ (BitVec.ofNat 32 c &&& 255#32)) &&& 255#32 =
      (C ^^^ BitVec.ofNat 32 c) &&& 255#32 := by
    apply BitVec.eq_of_getLsbD_eq
    intro i hi
    rw [getLsbD_low, getLsbD_low, BitVec.getLsbD_xor, BitVec.getLsbD_xor, getLsbD_low]
    cases decide (i < 8) <;> simp
  rw [shifts_eight, BitVec.ushiftRight_xor_distrib, hout, BitVec.xor_zero, hlow, take, tableAt_T0]

def byteBits (c : ℕ) : List Bool := bitsOf 8 (BitVec.ofNat 32 c)

theorem length_byteBits (c : ℕ) : (byteBits c).length = 8 := by
  rw [byteBits, bitsOf, List.length_map, List.length_range]

theorem length_flatMap_byteBits (cs : List ℕ) : (cs.flatMap byteBits).length = 8 * cs.length := by
  induction cs with
  | nil => rfl
  | cons c cs ih =>
    rw [List.flatMap_cons, List.length_append, length_byteBits, ih, List.length_cons]
    omega

theorem foldl_byteBits (C : Word) (c : ℕ) : (byteBits c).foldl (feed polynomial) C = take C c := by
  have hbits : byteBits c = bitsOf 8 (BitVec.ofNat 32 c &&& 255#32) := by
    unfold byteBits bitsOf
    refine List.map_congr_left (fun i hi => ?_)
    rw [getLsbD_low, decide_eq_true (List.mem_range.mp hi), Bool.and_true]
  rw [hbits, foldl_feed (by decide), take_eq]
  intro i hi
  rw [getLsbD_low, decide_eq_false (by omega), Bool.and_false]

theorem foldl_take (C : Word) (cs : List ℕ) :
    cs.foldl take C = (cs.flatMap byteBits).foldl (feed polynomial) C := by
  induction cs generalizing C with
  | nil => rfl
  | cons c cs ih =>
    rw [List.foldl_cons, ih, List.flatMap_cons, List.foldl_append, foldl_byteBits]

theorem xor_minusOne (C : Word) : C ^^^ minusOne = ~~~C := by
  rw [show minusOne = BitVec.allOnes 32 from rfl, BitVec.xor_allOnes]

end Steps

section SliceBy16

variable {T : Table}

def nextEntry (T : Table) (v : Word) : Word := (v >>> 8) ^^^ tableAt T (v &&& 255#32)

def columnIndex (n k : ℕ) : ℕ := 256 + n + 256 * k

/-- The inner loop after `m` rounds. -/
def columnLoop (T table : Table) (n m : ℕ) : Word × Table :=
  ((List.range m).map (columnIndex n)).foldl (columnStep T) (T n, table)

theorem columnLoop_succ (table : Table) (n m : ℕ) :
    columnLoop T table n (m + 1) = columnStep T (columnLoop T table n m) (columnIndex n m) := by
  unfold columnLoop
  rw [List.range_succ, List.map_append, List.foldl_append]
  rfl

theorem columnLoop_fst (table : Table) (n m : ℕ) :
    (columnLoop T table n m).1 = (nextEntry T)^[m] (T n) := by
  induction m with
  | zero => rfl
  | succ m ih => rw [columnLoop_succ, Function.iterate_succ_apply', ← ih]; rfl

theorem columnLoop_snd (table : Table) (n m i : ℕ) :
    (columnLoop T table n (m + 1)).2 i =
      if i = columnIndex n m then (nextEntry T)^[m + 1] (T n)
      else (columnLoop T table n m).2 i := by
  rw [columnLoop_succ, Function.iterate_succ_apply', ← columnLoop_fst table n m]
  exact Function.update_apply _ _ _ _

theorem columnLoop_hit (table : Table) {n m k : ℕ} (hk : k < m) :
    (columnLoop T table n m).2 (columnIndex n k) = (nextEntry T)^[k + 1] (T n) := by
  induction m with
  | zero => omega
  | succ m ih =>
    rw [columnLoop_snd]
    by_cases hlast : k = m
    · rw [hlast, if_pos rfl]
    · rw [if_neg (by unfold columnIndex; omega), ih (by omega)]

theorem columnLoop_miss (table : Table) {n m i : ℕ} (hi : ∀ k, i ≠ columnIndex n k) :
    (columnLoop T table n m).2 i = table i := by
  induction m with
  | zero => rfl
  | succ m ih => rw [columnLoop_snd, if_neg (hi m), ih]

theorem columns_entry (table : Table) {m n k : ℕ} (hm : m ≤ 256) (hn : n < m) (hk : k < 15) :
    ((List.range m).foldl (column T) table) (columnIndex n k) = (nextEntry T)^[k + 1] (T n) := by
  induction m with
  | zero => omega
  | succ m ih =>
    rw [List.range_succ, List.foldl_append, List.foldl_cons, List.foldl_nil]
    by_cases hlast : n = m
    · rw [hlast]
      exact columnLoop_hit _ hk
    · refine (columnLoop_miss _ (fun j => ?_)).trans (ih (by omega) (by omega))
      unfold columnIndex
      omega

theorem sliceBy16Tables_entry {n k : ℕ} (hn : n < 256) (hk : k < 15) :
    sliceBy16Tables T k n = (nextEntry T)^[k + 1] (T n) := by
  have hindex : (k + 1) * 256 + n = columnIndex n k := by
    unfold columnIndex
    omega
  rw [sliceBy16Tables, hindex]
  exact columns_entry _ (Nat.le_refl 256) hn hk

theorem nextEntry_T0 : nextEntry T0 = shifts polynomial 8 := by
  funext v
  rw [nextEntry, tableAt_T0, ← shifts_eight]

/-- A table entry is a byte with as many more bytes of zeros after it. -/
theorem tableAt_TT {i : Word} {k : ℕ} (hi : i.toNat < 256) (hk : k < 15) :
    tableAt (TT k) i = shifts polynomial (8 * (k + 2)) i := by
  have hiter : ∀ m, (shifts polynomial 8)^[m] (shifts polynomial 8 i) =
      shifts polynomial (8 * (m + 1)) i := by
    intro m
    induction m with
    | zero => rfl
    | succ m ih =>
      rw [Function.iterate_succ_apply', ih, ← shifts_add]
      congr 1
      omega
  have hfirst : T0 i.toNat = shifts polynomial 8 i := tableAt_T0 i
  rw [tableAt, TT, sliceBy16Tables_entry hi hk, nextEntry_T0, hfirst, hiter]

/-- The bytes' share of the register, where the last one is followed by none. -/
def mix : List UInt8 → Word
  | [] => 0#32
  | b :: bs => shifts polynomial (8 * (bs.length + 1)) (BitVec.ofNat 32 b.toNat) ^^^ mix bs

def takeByte (C : Word) (b : UInt8) : Word := take C b.toNat

theorem toNat_byte (b : UInt8) : (BitVec.ofNat 32 b.toNat).toNat < 256 := by
  have hb := b.toNat_lt
  rw [BitVec.toNat_ofNat]
  omega

theorem takeByte_eq (C : Word) (b : UInt8) :
    takeByte C b = shifts polynomial 8 (C ^^^ BitVec.ofNat 32 b.toNat) := by
  have hlow : BitVec.ofNat 32 b.toNat &&& 255#32 = BitVec.ofNat 32 b.toNat := by
    apply BitVec.eq_of_toNat_eq
    rw [BitVec.toNat_and, BitVec.toNat_ofNat 255 32,
      show 255 % 2 ^ 32 = 2 ^ 8 - 1 from rfl, Nat.and_two_pow_sub_one_eq_mod]
    exact Nat.mod_eq_of_lt (toNat_byte b)
  rw [takeByte, take_eq, hlow]

theorem foldl_takeByte (C : Word) (bs : List UInt8) :
    bs.foldl takeByte C = shifts polynomial (8 * bs.length) C ^^^ mix bs := by
  induction bs generalizing C with
  | nil => exact (BitVec.xor_zero).symm
  | cons b bs ih =>
    rw [List.foldl_cons, ih, takeByte_eq, ← shifts_add, shifts_xor, BitVec.xor_assoc]
    rfl

theorem takeBlock_low (b : UInt8) (C : Word) :
    (BitVec.ofNat 32 b.toNat ^^^ (C &&& 255#32)).toNat < 256 := by
  have hlow : (C &&& 255#32).toNat < 256 := by
    rw [BitVec.toNat_and]
    exact Nat.lt_of_le_of_lt Nat.and_le_right (by decide)
  rw [BitVec.toNat_xor]
  exact Nat.xor_lt_two_pow (n := 8) (toNat_byte b) hlow

theorem sshiftRight_low (C : Word) {n : ℕ} (hn : n ≤ 24) :
    C.sshiftRight n &&& 255#32 = C >>> n &&& 255#32 := by
  apply BitVec.eq_of_getLsbD_eq
  intro i hi
  rw [getLsbD_low, getLsbD_low, BitVec.getLsbD_sshiftRight, BitVec.getLsbD_ushiftRight]
  by_cases hi8 : i < 8
  · simp [hi8, show n + i < 32 by omega, hi]
  · simp [hi8]

theorem ushiftRight_low (C : Word) : C >>> 24 &&& 255#32 = C >>> 24 := by
  apply BitVec.eq_of_getLsbD_eq
  intro i hi
  rw [getLsbD_low, BitVec.getLsbD_ushiftRight]
  by_cases hi8 : i < 8
  · simp [hi8]
  · rw [BitVec.getLsbD_of_ge C _ (by omega), Bool.false_and]

theorem shifts_register (C : Word) :
    shifts polynomial 128 C = shifts polynomial 128 (C &&& 255#32) ^^^
      shifts polynomial 120 (C >>> 8 &&& 255#32) ^^^
      shifts polynomial 112 (C >>> 16 &&& 255#32) ^^^ shifts polynomial 104 (C >>> 24) := by
  have hpeel : ∀ m (D : Word), shifts polynomial (m + 8) D =
      shifts polynomial (m + 8) (D &&& 255#32) ^^^ shifts polynomial m (D >>> 8) := by
    intro m D
    rw [shifts_add, shifts_eight, shifts_xor, BitVec.xor_comm, ← shifts_add]
  rw [hpeel 120, hpeel 112, hpeel 104, ← BitVec.shiftRight_add, ← BitVec.shiftRight_add,
    BitVec.xor_assoc, BitVec.xor_assoc]

theorem tableAt_TT_byte (b : UInt8) {k : ℕ} (hk : k < 15) :
    tableAt (TT k) (BitVec.ofNat 32 b.toNat) =
      shifts polynomial (8 * (k + 2)) (BitVec.ofNat 32 b.toNat) :=
  tableAt_TT (toNat_byte b) hk

theorem tableAt_TT_low (b : UInt8) (C : Word) {k : ℕ} (hk : k < 15) :
    tableAt (TT k) (BitVec.ofNat 32 b.toNat ^^^ (C &&& 255#32)) =
      shifts polynomial (8 * (k + 2)) (BitVec.ofNat 32 b.toNat) ^^^
        shifts polynomial (8 * (k + 2)) (C &&& 255#32) := by
  rw [tableAt_TT (takeBlock_low b C) hk, shifts_xor]

theorem takeBlock_eq (C : Word) (b : ℕ → UInt8) :
    takeBlock C b = ((List.range 16).map b).foldl takeByte C := by
  rw [foldl_takeByte, List.length_map, List.length_range, shifts_register, takeBlock,
    ← ushiftRight_low]
  simp (disch := decide) only [sshiftRight_low, tableAt_T0, tableAt_TT_low, tableAt_TT_byte]
  simp only [List.range, List.range.loop, List.map_cons, List.map_nil, mix, List.length_cons,
    List.length_nil, BitVec.xor_zero, Nat.reduceAdd, Nat.reduceMul]
  ac_rfl

theorem bufLoop_eq (C : Word) (B : List UInt8) :
    (bufLoop C B).2.foldl takeByte (bufLoop C B).1 = B.foldl takeByte C := by
  induction C, B using bufLoop.induct with
  | case1 C B hlen ih =>
    have htake : (List.range 16).map (fun i => B.getD i 0) = B.take 16 := by
      apply List.ext_getElem
      · simp [hlen]
      · intro i hi hi'
        simp only [List.length_map, List.length_range] at hi
        simp [show i < B.length by omega]
    rw [bufLoop, if_pos hlen, ih, takeBlock_eq, htake, ← List.foldl_append, List.take_append_drop]
  | case2 C B hlen => rw [bufLoop, if_neg hlen]

theorem crc32Buf_eq (B : List UInt8) (seed : Word) :
    crc32Buf B seed = ~~~(B.foldl takeByte (seed ^^^ minusOne)) :=
  congrArg (fun C => ~~~C) (bufLoop_eq (seed ^^^ minusOne) B)

/-- Sixteen bytes at a time give what one byte at a time gives. -/
theorem crc32Buf_agrees (B : List UInt8) (seed : Word) :
    crc32Buf B seed = crc32Bstr (B.map UInt8.toUInt16) seed := by
  rw [crc32Buf_eq, crc32Bstr, List.foldl_map]
  rfl

end SliceBy16

section Remainders

open Polynomial

noncomputable def crc32Polynomial : (ZMod 2)[X] :=
  X ^ 32 + X ^ 26 + X ^ 23 + X ^ 22 + X ^ 16 + X ^ 12 + X ^ 11 + X ^ 10 + X ^ 8 + X ^ 7 + X ^ 5 +
    X ^ 4 + X ^ 2 + X + 1

theorem generator_polynomial : generator polynomial = crc32Polynomial := by
  have hbits : ∀ i < 32, polynomial.getMsbD i =
      ([0, 1, 2, 4, 5, 7, 8, 10, 11, 12, 16, 22, 23, 26].contains i) := by
    decide
  have hsum : poly polynomial = ∑ i ∈ Finset.range 32,
      if [0, 1, 2, 4, 5, 7, 8, 10, 11, 12, 16, 22, 23, 26].contains i then X ^ i else 0 := by
    refine Finset.sum_congr rfl (fun i hi => ?_)
    rw [hbits i (Finset.mem_range.mp hi)]
  rw [generator, hsum, crc32Polynomial]
  simp [Finset.sum_range_succ]
  ring

theorem poly_foldl_take (C : Word) (cs : List ℕ) :
    poly (cs.foldl take C) =
      (X ^ (8 * cs.length) * poly C + X ^ 32 * message (cs.flatMap byteBits)) %ₘ
        crc32Polynomial := by
  rw [foldl_take, poly_foldl_feed (by decide), length_flatMap_byteBits, generator_polynomial]

/-- The checksum is the remainder of the text's bytes, but for the complements. -/
theorem crc32Bstr_remainder (bstr : Text) (seed : Word) :
    poly (~~~(crc32Bstr bstr seed)) =
      (X ^ (8 * bstr.length) * poly (~~~seed) +
        X ^ 32 * message (bstr.flatMap (fun u => byteBits u.toNat))) %ₘ crc32Polynomial := by
  have hfold : bstr.foldl (fun C u => take C u.toNat) (seed ^^^ minusOne) =
      (bstr.map UInt16.toNat).foldl take (~~~seed) := by
    rw [List.foldl_map, xor_minusOne]
  rw [crc32Bstr, BitVec.not_not, hfold, poly_foldl_take, List.length_map, List.flatMap_map]

end Remainders

section Bursts

theorem byteBits_injective (a b : UInt8) (h : byteBits a.toNat = byteBits b.toNat) : a = b := by
  have hbit : ∀ i < 8, (BitVec.ofNat 32 a.toNat).getLsbD i = (BitVec.ofNat 32 b.toNat).getLsbD i :=
    fun i hi => List.map_inj_left.mp h i (List.mem_range.mpr hi)
  apply UInt8.toNat_inj.mp
  apply Nat.eq_of_testBit_eq
  intro i
  by_cases hi : i < 8
  · have hget := hbit i hi
    rw [BitVec.getLsbD_ofNat, BitVec.getLsbD_ofNat, decide_eq_true (by omega : i < 32)] at hget
    exact hget
  · have hle : 2 ^ 8 ≤ 2 ^ i := Nat.pow_le_pow_right (by decide) (by omega)
    rw [Nat.testBit_lt_two_pow (Nat.lt_of_lt_of_le a.toNat_lt hle),
      Nat.testBit_lt_two_pow (Nat.lt_of_lt_of_le b.toNat_lt hle)]

def bufBits (B : List UInt8) : List Bool := B.flatMap (fun b => byteBits b.toNat)

theorem length_bufBits (B : List UInt8) : (bufBits B).length = 8 * B.length := by
  rw [bufBits, ← List.flatMap_map UInt8.toNat, length_flatMap_byteBits, List.length_map]

theorem bufBits_injective {B B' : List UInt8} (h : bufBits B = bufBits B') : B = B' := by
  have hlen : B.length = B'.length := by
    have hbits := congrArg List.length h
    rw [length_bufBits, length_bufBits] at hbits
    omega
  induction B generalizing B' with
  | nil => exact (List.length_eq_zero_iff.mp hlen.symm).symm
  | cons b B ih =>
    cases B' with
    | nil => exact absurd hlen (Nat.succ_ne_zero _)
    | cons b' B' =>
      unfold bufBits at h
      rw [List.flatMap_cons, List.flatMap_cons] at h
      obtain ⟨hb, hB⟩ := List.append_inj h (by rw [length_byteBits, length_byteBits])
      rw [byteBits_injective b b' hb, ih hB (Nat.succ.inj hlen)]

theorem crc32Buf_bits (B : List UInt8) (seed : Word) :
    crc32Buf B seed = ~~~((bufBits B).foldl (feed polynomial) (seed ^^^ minusOne)) := by
  have hfold : B.foldl takeByte (seed ^^^ minusOne) =
      (B.map UInt8.toNat).foldl take (seed ^^^ minusOne) := by
    rw [List.foldl_map]
    rfl
  rw [crc32Buf_eq, hfold, foldl_take, List.flatMap_map]
  rfl

/-- Buffers that differ within 32 bits in a row never have the same checksum. -/
theorem crc32Buf_burst {B B' : List UInt8} {seed : Word} {k : ℕ} (hlen : B.length = B'.length)
    (hwindow : ∀ i, (bufBits B)[i]? ≠ (bufBits B')[i]? → k ≤ i ∧ i < k + 32) :
    crc32Buf B seed = crc32Buf B' seed ↔ B = B' := by
  constructor
  · intro h
    have hbefore : (bufBits B).take k = (bufBits B').take k := by
      apply List.ext_getElem?
      intro i
      rw [List.getElem?_take, List.getElem?_take]
      by_cases hi : i < k
      · rw [if_pos hi, if_pos hi]
        by_contra hne
        exact absurd (hwindow i hne).1 (by omega)
      · rw [if_neg hi, if_neg hi]
    have hafter : (bufBits B).drop (k + 32) = (bufBits B').drop (k + 32) := by
      apply List.ext_getElem?
      intro i
      rw [List.getElem?_drop, List.getElem?_drop]
      by_contra hne
      exact absurd (hwindow _ hne).2 (by omega)
    have hparts : ∀ bs : List Bool,
        bs = bs.take k ++ (bs.drop k).take 32 ++ bs.drop (k + 32) := by
      intro bs
      rw [List.append_assoc, ← List.drop_drop, List.take_append_drop, List.take_append_drop]
    rw [crc32Buf_bits, crc32Buf_bits, BitVec.not_inj, hparts (bufBits B), hparts (bufBits B'),
      hbefore, hafter] at h
    apply bufBits_injective
    rw [hparts (bufBits B), hparts (bufBits B'), hbefore, hafter,
      foldl_feed_burst (by decide) (by decide) ?_ ?_ h]
    · simp [length_bufBits, hlen]
    · simp
  · rintro rfl
    rfl

/-- The buffers have 160 bits, and the 32 bits begin and end within a byte. -/
theorem crc32Buf_burst_pair :
    crc32Buf (List.replicate 20 0x41) 0#32 ≠
      crc32Buf (List.replicate 7 0x41 ++ [0x91, 2, 3, 4, 0x4e] ++ List.replicate 8 0x41) 0#32 := by
  have hwindow : ∀ i < 160, (bufBits (List.replicate 20 0x41))[i]? ≠
      (bufBits (List.replicate 7 0x41 ++ [0x91, 2, 3, 4, 0x4e] ++ List.replicate 8 0x41))[i]? →
      60 ≤ i ∧ i < 60 + 32 := by
    decide +kernel
  intro heq
  refine absurd ((crc32Buf_burst (k := 60) (by decide) (fun i hi => ?_)).mp heq) (by decide)
  by_cases hlt : i < 160
  · exact hwindow i hlt hi
  · refine absurd ?_ hi
    rw [List.getElem?_eq_none, List.getElem?_eq_none]
    · simp only [length_bufBits, List.length_append, List.length_replicate, List.length_cons,
        List.length_nil]
      omega
    · simp only [length_bufBits, List.length_replicate]
      omega

end Bursts

end ShardingOnCloud.Wasm.Crc32
