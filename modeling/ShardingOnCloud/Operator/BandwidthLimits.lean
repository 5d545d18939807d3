import ShardingOnCloud.Operator.ChaosMesh

namespace ShardingOnCloud.Operator.BandwidthLimits

open ShardingOnCloud.Lib.Strconv
open ShardingOnCloud.Operator.ChaosTypes ShardingOnCloud.Operator.ChaosMesh

section Builder

/-- A method of the builder that reads a number. The field stays as it is after an error. -/
def setNumber (bits : ℕ) (put : BandwidthSpec → ℕ → BandwidthSpec) (b : BandwidthSpec)
    (s : String) : BandwidthSpec :=
  match ChaosMesh.parseUint bits s with
  | some n => put b n
  | none => b

def putLimit (b : BandwidthSpec) (n : ℕ) : BandwidthSpec := { b with limit := n }

def putBuffer (b : BandwidthSpec) (n : ℕ) : BandwidthSpec := { b with buffer := n }

def putPeakRate (b : BandwidthSpec) (n : ℕ) : BandwidthSpec := { b with peakrate := some n }

def putMinBurst (b : BandwidthSpec) (n : ℕ) : BandwidthSpec := { b with minburst := some n }

def setRate (b : BandwidthSpec) (s : String) : BandwidthSpec := { b with rate := s }

def setLimit : BandwidthSpec → String → BandwidthSpec := setNumber 32 putLimit

def setBuffer : BandwidthSpec → String → BandwidthSpec := setNumber 32 putBuffer

def setPeakRate : BandwidthSpec → String → BandwidthSpec := setNumber 64 putPeakRate

def setMinBurst : BandwidthSpec → String → BandwidthSpec := setNumber 32 putMinBurst

theorem bandwidthOf_eq (ssChao : Chaos) :
    bandwidthOf ssChao =
      setMinBurst (setPeakRate (setBuffer (setLimit
        (setRate {} (ssChao.annotation annoNetworkBandwidthRate))
        (ssChao.annotation annoNetworkBandwidthLimit))
        (ssChao.annotation annoNetworkBandwidthBuffer))
        (ssChao.annotation annoNetworkBandwidthPeakrate))
        (ssChao.annotation annoNetworkBandwidthMinBurst) := by
  unfold bandwidthOf setMinBurst setPeakRate setBuffer setLimit setNumber
  cases ChaosMesh.parseUint 32 (ssChao.annotation annoNetworkBandwidthLimit) <;>
    cases ChaosMesh.parseUint 32 (ssChao.annotation annoNetworkBandwidthBuffer) <;>
    cases ChaosMesh.parseUint 64 (ssChao.annotation annoNetworkBandwidthPeakrate) <;>
    cases ChaosMesh.parseUint 32 (ssChao.annotation annoNetworkBandwidthMinBurst) <;> rfl

end Builder

section Exact

/-- The field is set to the number that digits stand for, when it fits, and is left alone by every
other text. A plus sign may be taken or not. -/
structure Exact (bits : ℕ) (put : BandwidthSpec → ℕ → BandwidthSpec)
    (set : BandwidthSpec → String → BandwidthSpec) (s : String) : Prop where
  plain : ∀ n, digits s.toList = some n → n < 2 ^ bits → ∀ b, set b s = put b n
  other : (∀ n, digits s.toList = some n → 2 ^ bits ≤ n) → s.toList.head? ≠ some '+' →
    ∀ b, set b s = b
  plus : s.toList.head? = some '+' → ∀ b,
    set b s = b ∨ ∃ n < 2 ^ bits, digits s.toList.tail = some n ∧ set b s = put b n

/-- A text that is no negative number of the signed range, and no number of the upper half of the
unsigned one. -/
structure Unambiguous (bits : ℕ) (s : String) : Prop where
  negative : ∀ cs n, s.toList = '-' :: cs → digits cs = some n → 2 ^ (bits - 1) < n
  large : ∀ n, digits s.toList = some n → n < 2 ^ bits → n < 2 ^ (bits - 1)

variable {bits : ℕ} {put : BandwidthSpec → ℕ → BandwidthSpec} {s : String}

theorem parseUint_eq_some (hbits : 1 < bits) (k : ℕ) :
    ChaosMesh.parseUint bits s = some k ↔
      ∃ n, numeral s = some n ∧ (-2 ^ (bits - 1) ≤ n ∧ n < 2 ^ (bits - 1)) ∧
        (n % 2 ^ bits).toNat = k := by
  have hparse := parseInt_eq_none hbits s
  unfold ChaosMesh.parseUint
  split
  · rename_i n h
    obtain ⟨hn, hrange⟩ := (hparse n).mp h
    simp only [hn, Option.some.injEq, exists_eq_left', hrange, and_self, true_and]
  · rename_i n err h
    refine iff_of_false (by simp) ?_
    rintro ⟨m, hm, hrange, -⟩
    rw [(hparse m).mpr ⟨hm, hrange⟩] at h
    simp at h

theorem cast_pow (b : ℕ) : ((2 ^ b : ℕ) : Int) = 2 ^ b := by
  push_cast
  rfl

theorem parseUint_of_numeral (hbits : 1 < bits) {n : ℕ} (h : numeral s = some (n : Int))
    (hn : n < 2 ^ (bits - 1)) : ChaosMesh.parseUint bits s = some n := by
  obtain ⟨hpow, -⟩ := pow_pred hbits
  refine (parseUint_eq_some hbits n).mpr ⟨n, h, ?_, ?_⟩
  · rw [← cast_pow]
    omega
  · rw [← cast_pow, Int.emod_eq_of_lt (by omega) (by omega)]
    rfl

theorem numeral_minus {cs : List Char} {n : ℕ} (hs : s.toList = '-' :: cs)
    (h : digits cs = some n) : numeral s = some (-(n : Int)) := by
  have hsign : sign s = (true, cs) := by
    unfold sign
    rw [hs]
    rfl
  rw [numeral, hsign, h]
  rfl

theorem digits_minus {cs : List Char} : digits ('-' :: cs) = none := by
  cases h : digits ('-' :: cs) with
  | none => rfl
  | some n => exact absurd (head_of_digits h '-' rfl) (by decide)

theorem setNumber_some {n : ℕ} (h : ChaosMesh.parseUint bits s = some n) (b : BandwidthSpec) :
    setNumber bits put b s = put b n := by
  rw [setNumber, h]

theorem setNumber_none (h : ChaosMesh.parseUint bits s = none) (b : BandwidthSpec) :
    setNumber bits put b s = b := by
  rw [setNumber, h]

theorem unambiguous_of_exact (hbits : 1 < bits) (hput : ∀ n, ∃ b, put b n ≠ b)
    (h : Exact bits put (setNumber bits put) s) : Unambiguous bits s := by
  refine ⟨?_, ?_⟩
  · intro cs n hs hcs
    by_contra hle
    have hdigits : digits s.toList = none := by rw [hs, digits_minus]
    have hsigned : -2 ^ (bits - 1) ≤ -(n : Int) ∧ -(n : Int) < 2 ^ (bits - 1) := by
      obtain ⟨-, htwo⟩ := pow_pred hbits
      rw [← cast_pow]
      omega
    have hread := (parseUint_eq_some hbits _).mpr ⟨_, numeral_minus hs hcs, hsigned, rfl⟩
    obtain ⟨b, hb⟩ := hput ((-(n : Int)) % 2 ^ bits).toNat
    apply hb
    rw [← (setNumber_some hread b : setNumber bits put b s = put b _)]
    refine h.other ?_ ?_ b
    · intro m hm
      rw [hdigits] at hm
      cases hm
    · rw [hs]
      exact fun hx => absurd (Option.some.inj hx) (by decide)
  · intro n hn hlt
    by_contra hle
    have hnone : ChaosMesh.parseUint bits s = none := by
      rw [Option.eq_none_iff_forall_ne_some]
      intro k hk
      obtain ⟨m, hm, hrange, -⟩ := (parseUint_eq_some hbits k).mp hk
      rw [numeral_of_digits hn] at hm
      rw [← Option.some.inj hm, ← cast_pow] at hrange
      omega
    obtain ⟨b, hb⟩ := hput n
    exact hb ((h.plain n hn hlt b).symm.trans (setNumber_none hnone b))

theorem exact_of_unambiguous (hbits : 1 < bits) (h : Unambiguous bits s) :
    Exact bits put (setNumber bits put) s := by
  refine ⟨?_, ?_, ?_⟩
  · intro n hn hlt b
    exact setNumber_some (parseUint_of_numeral hbits (numeral_of_digits hn) (h.large n hn hlt)) b
  · intro hno hplus b
    refine setNumber_none ?_ b
    rw [Option.eq_none_iff_forall_ne_some]
    intro k hk
    obtain ⟨m, hm, hrange, -⟩ := (parseUint_eq_some hbits k).mp hk
    rw [← cast_pow] at hrange
    obtain ⟨hpow, -⟩ := pow_pred hbits
    obtain ⟨cs, hs, hsign⟩ | ⟨cs, hs, -⟩ | ⟨-, -, hsign⟩ := sign_cases s
    · rw [numeral, hsign] at hm
      obtain ⟨n, hn, rfl⟩ := Option.map_eq_some_iff.mp hm
      have hlt := h.negative cs n hs hn
      simp only [signed, if_true] at hrange
      omega
    · rw [hs] at hplus
      exact hplus rfl
    · rw [numeral, hsign] at hm
      obtain ⟨n, hn, rfl⟩ := Option.map_eq_some_iff.mp hm
      have hle := hno n hn
      have hn' : (n : Int) < (2 ^ (bits - 1) : ℕ) := hrange.2
      omega
  · intro hplus b
    cases hk : ChaosMesh.parseUint bits s with
    | none => exact .inl (setNumber_none hk b)
    | some k =>
      obtain ⟨m, hm, hrange, hmod⟩ := (parseUint_eq_some hbits k).mp hk
      obtain ⟨hpow, -⟩ := pow_pred hbits
      obtain ⟨cs, hs, -⟩ | ⟨cs, hs, hsign⟩ | ⟨-, hno, -⟩ := sign_cases s
      · rw [hs] at hplus
        exact absurd (Option.some.inj hplus) (by decide)
      · rw [numeral, hsign] at hm
        obtain ⟨n, hn, rfl⟩ := Option.map_eq_some_iff.mp hm
        rw [← cast_pow] at hrange
        have hn' : (n : Int) < (2 ^ (bits - 1) : ℕ) := hrange.2
        refine .inr ⟨n, by omega, by rw [hs]; exact hn, ?_⟩
        have hread := parseUint_of_numeral (s := s) hbits (by rw [numeral, hsign, hn]; rfl)
          (by omega : n < 2 ^ (bits - 1))
        exact setNumber_some hread b
      · exact absurd hplus hno

theorem exact_iff (hbits : 1 < bits) (hput : ∀ n, ∃ b, put b n ≠ b) :
    Exact bits put (setNumber bits put) s ↔ Unambiguous bits s :=
  ⟨unambiguous_of_exact hbits hput, exact_of_unambiguous hbits⟩

end Exact

/-- Every limit is read exactly when the text is none of the two kinds that the signed parse gets
wrong. -/
theorem limits_exact_iff (s : String) :
    (Exact 32 putLimit setLimit s ↔ Unambiguous 32 s) ∧
    (Exact 32 putBuffer setBuffer s ↔ Unambiguous 32 s) ∧
    (Exact 32 putMinBurst setMinBurst s ↔ Unambiguous 32 s) ∧
    (Exact 64 putPeakRate setPeakRate s ↔ Unambiguous 64 s) := by
  have hbits : 1 < 32 := by decide
  refine ⟨exact_iff hbits ?_, exact_iff hbits ?_, exact_iff hbits ?_, exact_iff (by decide) ?_⟩
  · exact fun n => ⟨{ limit := n + 1 }, by simp [putLimit]⟩
  · exact fun n => ⟨{ buffer := n + 1 }, by simp [putBuffer]⟩
  · exact fun n => ⟨{}, by simp [putMinBurst]⟩
  · exact fun n => ⟨{}, by simp [putPeakRate]⟩

/-- A negative number becomes the largest limit, and a large one is not taken. -/
theorem not_all_limits_exact :
    ¬Exact 32 putLimit setLimit "-1" ∧ ¬Exact 32 putLimit setLimit "3000000000" := by
  refine ⟨?_, ?_⟩
  · intro h
    have hset : setLimit {} "-1" = putLimit {} 4294967295 := by decide
    have hsame : setLimit {} "-1" = {} := h.other (by decide) (by decide) {}
    rw [hset] at hsame
    exact absurd hsame (by decide)
  · intro h
    have hset : setLimit {} "3000000000" = {} := by decide
    have hplain := h.plain 3000000000 (by decide) (by decide) {}
    rw [hset] at hplain
    exact absurd hplain (by decide)

end ShardingOnCloud.Operator.BandwidthLimits
