import Mathlib

namespace ShardingOnCloud.Lib.ReflectedCrc

variable {w : ℕ}

section Register

/-- One step of a shift register, whose lowest bit leaves it. -/
def shift (P c : BitVec w) : BitVec w := if c.getLsbD 0 then P ^^^ (c >>> 1) else c >>> 1

def shifts (P : BitVec w) (n : ℕ) : BitVec w → BitVec w := (shift P)^[n]

def bit (b : Bool) : BitVec w := (BitVec.ofBool b).setWidth w

def feed (P c : BitVec w) (b : Bool) : BitVec w := shift P (c ^^^ bit b)

variable {P : BitVec w}

theorem xor_xor_xor (p a b : BitVec w) : (p ^^^ a) ^^^ (p ^^^ b) = a ^^^ b := by
  rw [BitVec.xor_assoc, BitVec.xor_comm a, BitVec.xor_assoc, BitVec.xor_comm b,
    ← BitVec.xor_assoc p, BitVec.xor_self, BitVec.zero_xor]

theorem shift_xor (a b : BitVec w) : shift P (a ^^^ b) = shift P a ^^^ shift P b := by
  unfold shift
  rw [BitVec.getLsbD_xor, BitVec.ushiftRight_xor_distrib]
  cases a.getLsbD 0 <;> cases b.getLsbD 0
  · rfl
  · simp [← BitVec.xor_assoc, BitVec.xor_comm P]
  · simp [BitVec.xor_assoc]
  · simp [xor_xor_xor]

theorem shifts_succ (n : ℕ) (c : BitVec w) : shifts P (n + 1) c = shift P (shifts P n c) :=
  Function.iterate_succ_apply' (shift P) n c

theorem shifts_add (m n : ℕ) (c : BitVec w) : shifts P (m + n) c = shifts P m (shifts P n c) :=
  Function.iterate_add_apply (shift P) m n c

theorem shifts_xor (n : ℕ) (a b : BitVec w) :
    shifts P n (a ^^^ b) = shifts P n a ^^^ shifts P n b := by
  induction n with
  | zero => rfl
  | succ n ih => rw [shifts_succ, ih, shift_xor, shifts_succ, shifts_succ]

theorem shifts_of_low {c : BitVec w} {n : ℕ} (h : ∀ i < n, c.getLsbD i = false) :
    shifts P n c = c >>> n := by
  induction n with
  | zero => exact (BitVec.ushiftRight_zero c).symm
  | succ n ih =>
    have hlow : (c >>> n).getLsbD 0 = false := by
      rw [BitVec.getLsbD_ushiftRight]
      exact h n (Nat.lt_succ_self n)
    rw [shifts_succ, ih (fun i hi => h i (Nat.lt_succ_of_lt hi)), shift, hlow,
      if_neg Bool.false_ne_true, BitVec.shiftRight_add]

theorem shifts_split {c d : BitVec w} {n : ℕ} (hlow : ∀ i < n, c.getLsbD i = d.getLsbD i)
    (hhigh : ∀ i, n ≤ i → d.getLsbD i = false) : shifts P n c = (c >>> n) ^^^ shifts P n d := by
  have hsplit : c = (c ^^^ d) ^^^ d := by
    rw [BitVec.xor_assoc, BitVec.xor_self, BitVec.xor_zero]
  have hzero : ∀ i < n, (c ^^^ d).getLsbD i = false := by
    intro i hi
    rw [BitVec.getLsbD_xor, hlow i hi, Bool.xor_self]
  have hout : d >>> n = 0#w := by
    apply BitVec.eq_of_getLsbD_eq
    intro i hi
    rw [BitVec.getLsbD_ushiftRight, hhigh _ (Nat.le_add_right n i), BitVec.getLsbD_zero]
  nth_rewrite 1 [hsplit]
  rw [shifts_xor, shifts_of_low hzero, BitVec.ushiftRight_xor_distrib, hout, BitVec.xor_zero]

theorem shift_zero_of_top (hP : P.msb = true) {c : BitVec w} (h : shift P c = 0#w) : c = 0#w := by
  have hrest : c.getLsbD 0 = false := by
    by_contra hlow
    have hmsb := congrArg BitVec.msb h
    rw [shift, if_pos (by simpa using hlow), BitVec.msb_xor, hP, BitVec.msb_ushiftRight] at hmsb
    simp at hmsb
  rw [shift, hrest, if_neg Bool.false_ne_true] at h
  apply BitVec.eq_of_getLsbD_eq
  intro i hi
  rw [BitVec.getLsbD_zero]
  cases i with
  | zero => exact hrest
  | succ i =>
    have hbit := congrArg (fun d => BitVec.getLsbD d i) h
    rw [BitVec.getLsbD_ushiftRight, BitVec.getLsbD_zero, Nat.add_comm] at hbit
    exact hbit

theorem shifts_injective (hP : P.msb = true) (n : ℕ) : Function.Injective (shifts P n) := by
  refine Function.Injective.iterate ?_ n
  intro a b h
  have hzero : shift P (a ^^^ b) = 0#w := by
    rw [shift_xor, h, BitVec.xor_self]
  exact BitVec.xor_eq_zero_iff.mp (shift_zero_of_top hP hzero)

end Register

section Words

variable {P : BitVec w}

/-- The lowest bits of a word, from the lowest on. -/
def bitsOf (n : ℕ) (m : BitVec w) : List Bool := (List.range n).map m.getLsbD

theorem bitsOf_succ (n : ℕ) (m : BitVec w) :
    bitsOf (n + 1) m = m.getLsbD 0 :: bitsOf n (m >>> 1) := by
  unfold bitsOf
  rw [List.range_succ_eq_map, List.map_cons, List.map_map]
  congr 1
  refine List.map_congr_left (fun i _ => ?_)
  rw [BitVec.getLsbD_ushiftRight, Nat.add_comm]
  rfl

theorem getLsbD_bit (hw : 0 < w) (b : Bool) (i : ℕ) :
    (bit b : BitVec w).getLsbD i = (decide (i = 0) && b) := by
  rw [bit, BitVec.getLsbD_setWidth, BitVec.getLsbD_ofBool]
  by_cases hi : i = 0
  · simp [hi, hw]
  · simp [hi]

theorem shift_word (hw : 0 < w) (c m : BitVec w) :
    shift P (c ^^^ m) = feed P c (m.getLsbD 0) ^^^ (m >>> 1) := by
  have hlow : (bit (m.getLsbD 0) ^^^ m).getLsbD 0 = false := by
    rw [BitVec.getLsbD_xor, getLsbD_bit hw]
    simp
  have hshift : shift P (bit (m.getLsbD 0) ^^^ m) = m >>> 1 := by
    rw [shift, hlow, if_neg Bool.false_ne_true, BitVec.ushiftRight_xor_distrib]
    have hbit : (bit (m.getLsbD 0) : BitVec w) >>> 1 = 0#w := by
      apply BitVec.eq_of_getLsbD_eq
      intro i hi
      rw [BitVec.getLsbD_ushiftRight, getLsbD_bit hw, BitVec.getLsbD_zero]
      simp
    rw [hbit, BitVec.zero_xor]
  have hsplit : c ^^^ m = (c ^^^ bit (m.getLsbD 0)) ^^^ (bit (m.getLsbD 0) ^^^ m) := by
    rw [BitVec.xor_assoc, ← BitVec.xor_assoc (bit (m.getLsbD 0)), BitVec.xor_self,
      BitVec.zero_xor]
  rw [hsplit, shift_xor, hshift, feed]

theorem foldl_feed (hw : 0 < w) (n : ℕ) (c m : BitVec w) (h : ∀ i, n ≤ i → m.getLsbD i = false) :
    (bitsOf n m).foldl (feed P) c = shifts P n (c ^^^ m) := by
  induction n generalizing c m with
  | zero =>
    have hzero : m = 0#w := by
      apply BitVec.eq_of_getLsbD_eq
      intro i hi
      rw [h i (Nat.zero_le i), BitVec.getLsbD_zero]
    rw [hzero, BitVec.xor_zero]
    rfl
  | succ n ih =>
    have hrest : ∀ i, n ≤ i → (m >>> 1).getLsbD i = false := by
      intro i hi
      rw [BitVec.getLsbD_ushiftRight]
      exact h (1 + i) (by omega)
    rw [bitsOf_succ, List.foldl_cons, ih _ _ hrest, ← shift_word hw]
    rfl

theorem feed_injective (hP : P.msb = true) (b : Bool) : Function.Injective (feed P · b) := by
  intro c d h
  exact (BitVec.xor_left_inj (bit b)).mp (shifts_injective hP 1 h)

theorem foldl_feed_injective (hP : P.msb = true) (bs : List Bool) :
    Function.Injective (bs.foldl (feed P)) := by
  induction bs with
  | nil => exact Function.injective_id
  | cons b bs ih => exact ih.comp (feed_injective hP b)

theorem exists_word (bs : List Bool) (h : bs.length ≤ w) :
    ∃ m : BitVec w, bitsOf bs.length m = bs ∧ ∀ i, bs.length ≤ i → m.getLsbD i = false := by
  refine ⟨(BitVec.ofBoolListLE bs).setWidth w, ?_, ?_⟩
  · apply List.ext_getElem
    · simp [bitsOf]
    · intro i hi hi'
      have hiw : i < w := by omega
      have hbit : (bitsOf bs.length ((BitVec.ofBoolListLE bs).setWidth w)).get ⟨i, hi⟩ =
          (BitVec.ofBoolListLE bs).getLsbD i := by
        simp [bitsOf, hiw]
      rw [List.get_eq_getElem] at hbit
      rw [hbit, BitVec.getLsbD_ofBoolListLE]
      simp [hi']
  · intro i hi
    simp [hi]

theorem foldl_feed_burst (hw : 0 < w) (hP : P.msb = true) {p a b s : List Bool} {c : BitVec w}
    (hlen : a.length = b.length) (ha : a.length ≤ w)
    (h : (p ++ a ++ s).foldl (feed P) c = (p ++ b ++ s).foldl (feed P) c) : a = b := by
  obtain ⟨m, hm, hmz⟩ := exists_word a ha
  obtain ⟨m', hm', hmz'⟩ := exists_word b (hlen ▸ ha)
  rw [List.foldl_append, List.foldl_append, List.foldl_append, List.foldl_append] at h
  have hword := foldl_feed_injective hP s h
  rw [← hm, ← hm', foldl_feed hw _ _ _ hmz, foldl_feed hw _ _ _ hmz', hlen] at hword
  have heq : m = m' := (BitVec.xor_right_inj _).mp (shifts_injective hP _ hword)
  rw [← hm, ← hm', heq, hlen]

end Words

section Polynomials

open Polynomial

/-- The polynomial of a word, whose highest bit is the lowest coefficient. -/
noncomputable def poly (c : BitVec w) : (ZMod 2)[X] :=
  ∑ i ∈ Finset.range w, if c.getMsbD i then X ^ i else 0

noncomputable def generator (P : BitVec w) : (ZMod 2)[X] := X ^ w + poly P

/-- The polynomial of a message, whose first bit is the highest coefficient. -/
noncomputable def message (bs : List Bool) : (ZMod 2)[X] :=
  bs.foldl (fun p b => X * p + if b then 1 else 0) 0

theorem coeff_poly (c : BitVec w) (i : ℕ) :
    (poly c).coeff i = if c.getMsbD i then 1 else 0 := by
  rw [poly, Polynomial.finsetSum_coeff]
  by_cases hi : i < w
  · rw [Finset.sum_eq_single i]
    · split <;> simp
    · intro j _ hj
      split <;> simp [coeff_X_pow, Ne.symm hj]
    · exact fun hx => absurd (Finset.mem_range.mpr hi) hx
  · rw [BitVec.getMsbD_of_ge c i (by omega)]
    refine Finset.sum_eq_zero (fun j hj => ?_)
    have hne : i ≠ j := by
      have := Finset.mem_range.mp hj
      omega
    split <;> simp [coeff_X_pow, hne]

theorem poly_xor (a b : BitVec w) : poly (a ^^^ b) = poly a + poly b := by
  ext i
  rw [coeff_add, coeff_poly, coeff_poly, coeff_poly, BitVec.getMsbD_xor]
  cases a.getMsbD i <;> cases b.getMsbD i
  · decide
  · decide
  · decide
  · decide

theorem degree_poly_lt (c : BitVec w) : (poly c).degree < w := by
  rw [degree_lt_iff_coeff_zero]
  intro i hi
  rw [coeff_poly, BitVec.getMsbD_of_ge c i hi]
  rfl

theorem monic_generator (P : BitVec w) : (generator P).Monic :=
  monic_X_pow_add (degree_poly_lt P)

theorem degree_generator (P : BitVec w) : (generator P).degree = w := by
  rw [generator, degree_add_eq_left_of_degree_lt, degree_X_pow]
  rw [degree_X_pow]
  exact degree_poly_lt P

theorem X_mul_poly (c : BitVec w) :
    X * poly c = poly (c >>> 1) + if c.getLsbD 0 then X ^ w else 0 := by
  have hlast : ∀ i, (if c.getLsbD 0 = true then (X ^ w : (ZMod 2)[X]) else 0).coeff i =
      if i = w ∧ c.getLsbD 0 = true then 1 else 0 := by
    intro i
    by_cases hlow : c.getLsbD 0 = true
    · simp [hlow, coeff_X_pow]
    · simp [hlow]
  ext i
  rw [coeff_add, coeff_poly, hlast, BitVec.getMsbD_ushiftRight]
  cases i with
  | zero =>
    have hnone : ¬(0 = w ∧ c.getLsbD 0 = true) := by
      rintro ⟨rfl, hlow⟩
      simp at hlow
    rw [mul_coeff_zero, coeff_X_zero, zero_mul, if_neg hnone]
    simp
  | succ i =>
    rw [coeff_X_mul, coeff_poly]
    by_cases hlt : i + 1 < w
    · have hne : i + 1 ≠ w := by omega
      simp [hlt, hne]
    · by_cases heq : i + 1 = w
      · have hlow : c.getMsbD i = c.getLsbD 0 := by
          rw [BitVec.getMsbD_eq_getLsbD]
          have hzero : w - 1 - i = 0 := by omega
          simp [hzero, show i < w by omega]
        simp [hlow, heq]
      · rw [BitVec.getMsbD_of_ge c i (by omega)]
        simp [hlt, heq]

theorem poly_shift (P c : BitVec w) :
    poly (shift P c) = X * poly c + generator P * if c.getLsbD 0 then 1 else 0 := by
  rw [X_mul_poly, shift, generator]
  cases c.getLsbD 0 with
  | false => simp
  | true =>
    have htwice : (X : (ZMod 2)[X]) ^ w + X ^ w = 0 := CharTwo.add_self_eq_zero _
    rw [if_pos rfl, if_pos rfl, if_pos rfl, poly_xor, mul_one, ← add_assoc,
      add_assoc (poly (c >>> 1)), htwice, add_zero, add_comm]

theorem poly_bit (hw : 0 < w) (b : Bool) :
    poly (bit b : BitVec w) = if b then X ^ (w - 1) else 0 := by
  ext i
  rw [coeff_poly, BitVec.getMsbD_eq_getLsbD, getLsbD_bit hw]
  cases b with
  | false => simp
  | true =>
    rw [if_pos rfl, coeff_X_pow]
    by_cases hi : i = w - 1
    · simp [hi, hw]
    · have hne : ¬(i < w ∧ w - 1 - i = 0) := by omega
      simp [hi, hne]

theorem message_concat (bs : List Bool) (b : Bool) :
    message (bs ++ [b]) = X * message bs + if b then 1 else 0 := by
  unfold message
  rw [List.foldl_append]
  rfl

theorem exists_quotient (hw : 0 < w) (P c : BitVec w) (bs : List Bool) :
    ∃ q, poly (bs.foldl (feed P) c) =
      X ^ bs.length * poly c + X ^ w * message bs + generator P * q := by
  induction bs using List.reverseRecOn with
  | nil => exact ⟨0, by simp [message]⟩
  | append_singleton bs b ih =>
    obtain ⟨q, hq⟩ := ih
    have htop : (X : (ZMod 2)[X]) * X ^ (w - 1) = X ^ w := by
      rw [← pow_succ', Nat.sub_add_cancel hw]
    have hbit : X * poly (bit b : BitVec w) = X ^ w * if b then 1 else 0 := by
      rw [poly_bit hw]
      split <;> simp [htop]
    rw [List.foldl_append, List.foldl_cons, List.foldl_nil, feed, poly_shift, poly_xor, hq,
      mul_add, hbit, message_concat, List.length_append, List.length_singleton]
    refine ⟨X * q + if ((bs.foldl (feed P) c) ^^^ bit b).getLsbD 0 then 1 else 0, ?_⟩
    ring

theorem poly_foldl_feed (hw : 0 < w) (P c : BitVec w) (bs : List Bool) :
    poly (bs.foldl (feed P) c) =
      (X ^ bs.length * poly c + X ^ w * message bs) %ₘ generator P := by
  obtain ⟨q, hq⟩ := exists_quotient hw P c bs
  refine ((div_modByMonic_unique (-q) _ (monic_generator P) ⟨?_, ?_⟩).2).symm
  · rw [hq]
    ring
  · rw [degree_generator]
    exact degree_poly_lt _

end Polynomials

end ShardingOnCloud.Lib.ReflectedCrc
