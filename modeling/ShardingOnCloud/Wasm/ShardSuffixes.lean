import ShardingOnCloud.Wasm.ModSharding

namespace ShardingOnCloud.Wasm.ShardSuffixes

open ShardingOnCloud.Lib.JavaNumbers ShardingOnCloud.Wasm.ModSharding
open ShardingOnCloud.Wasm.Sharding hiding shardingCount doSharding PreciseShardingValue

section Padding

theorem paddingLoop_eq (result k : ℕ) :
    paddingLoop result k = result + (Nat.digits 10 k).length := by
  induction k using Nat.strong_induction_on generalizing result with
  | h k ih =>
    rw [paddingLoop]
    by_cases hk : k = 0
    · subst hk
      simp
    · have hdiv : ((k : ℤ).tdiv 10) = ((k / 10 : ℕ) : ℤ) := by
        rw [Int.tdiv_eq_ediv_of_nonneg (Int.natCast_nonneg k)]
        rfl
      rw [if_neg (by exact_mod_cast hk), hdiv, ih (k / 10) (by omega),
        Nat.digits_def' (by decide) (Nat.pos_of_ne_zero hk), List.length_cons]
      omega

theorem calculateMaxPaddingSize_eq {n : ℤ} (hpos : 1 ≤ n) (hint : n < 2 ^ 31) :
    calculateMaxPaddingSize n = max (Nat.digits 10 (n - 1).toNat).length 1 := by
  have hcount : ((n - 1).toNat : ℤ) = n - 1 := Int.toNat_of_nonneg (by omega)
  rw [calculateMaxPaddingSize, intValue_of_range (by omega) (by omega), ← hcount, paddingLoop_eq,
    Nat.zero_add, Int.toNat_natCast]

theorem remainder_lt {n : ℤ} {r : ℕ} (hint : n < 2 ^ 31) (hr : (r : ℤ) < n) :
    r < 10 ^ calculateMaxPaddingSize n := by
  have hlt : (n - 1).toNat < 10 ^ (Nat.digits 10 (n - 1).toNat).length :=
    Nat.lt_base_pow_length_digits (by decide)
  have hle : 10 ^ (Nat.digits 10 (n - 1).toNat).length ≤ 10 ^ calculateMaxPaddingSize n := by
    rw [calculateMaxPaddingSize_eq (by omega) hint]
    exact Nat.pow_le_pow_right (by decide) (le_max_left _ _)
  omega

theorem length_remainder (D : Numerals) {n : ℤ} {r : ℕ} (hint : n < 2 ^ 31) (hr : (r : ℤ) < n) :
    (format D (calculateMaxPaddingSize n) r).length = calculateMaxPaddingSize n := by
  refine length_format (remainder_lt hint hr) ?_
  rw [calculateMaxPaddingSize_eq (by omega) hint]
  exact lt_of_lt_of_le Nat.zero_lt_one (le_max_right _ _)

end Padding

section Suffixes

variable (D : Numerals)

def suffix (a : ModShardingAlgorithm) (r : ℤ) : Text :=
  if a.zeroPadding then format D a.maxPaddingSize r else toText r

theorem getShardingResultSuffix_eq (a : ModShardingAlgorithm) {r : ℤ} (hlow : 0 ≤ r)
    (hint : r < 2 ^ 31) : getShardingResultSuffix D a (toText r) = .ok (suffix D a r) := by
  unfold getShardingResultSuffix suffix
  split
  · rw [fillZero, parseInt_toText (by omega) hint]
    rfl
  · rfl

end Suffixes

/-- The suffixes with zeros before them have the same length, and are those of different
numbers. -/
theorem padded_suffixes_distinct (D : Numerals) {n : ℤ} (hpos : 1 ≤ n) (hint : n < 2 ^ 31)
    (startOffset stopOffset : ℤ) :
    (configure n startOffset stopOffset true).maxPaddingSize =
        max (Nat.digits 10 (n - 1).toNat).length 1 ∧
      (∀ r : ℕ, (r : ℤ) < n → ∃ t,
        getShardingResultSuffix D (configure n startOffset stopOffset true) (toText r) = .ok t ∧
          t.length = (configure n startOffset stopOffset true).maxPaddingSize ∧
            natural D t = some r) ∧
      ∀ r q : ℕ, (r : ℤ) < n → (q : ℤ) < n → r ≠ q →
        getShardingResultSuffix D (configure n startOffset stopOffset true) (toText r) ≠
          getShardingResultSuffix D (configure n startOffset stopOffset true) (toText q) := by
  have hsuffix : ∀ r : ℕ, (r : ℤ) < n →
      getShardingResultSuffix D (configure n startOffset stopOffset true) (toText r) =
        .ok (format D (calculateMaxPaddingSize n) r) :=
    fun r hr => getShardingResultSuffix_eq D _ (Int.natCast_nonneg r) (by omega)
  have hsize := calculateMaxPaddingSize_eq hpos hint
  refine ⟨hsize, fun r hr => ⟨_, hsuffix r hr, ?_, ?_⟩, fun r q hr hq hne heq => hne ?_⟩
  · exact length_remainder D hint hr
  · exact natural_format D _ r
  · rw [hsuffix r hr, hsuffix q hq] at heq
    exact format_injective (Except.ok.inj heq)

theorem twelve_padded :
    (configure 12 0 0 true).maxPaddingSize = 2 ∧
      ∃ t, getShardingResultSuffix asciiNumerals (configure 12 0 0 true) (toText 7) = .ok t ∧
        t.length = 2 ∧ natural asciiNumerals t = some 7 := by
  obtain ⟨hsize, hsuffix, -⟩ := padded_suffixes_distinct asciiNumerals (n := 12) (by decide)
    (by decide) 0 0
  have htwo : max (Nat.digits 10 11).length 1 = 2 := by simp
  have hsize := hsize.trans htwo
  obtain ⟨t, ht, hlength, hread⟩ := hsuffix 7 (by decide)
  exact ⟨hsize, t, ht, hlength.trans hsize, hread⟩

end ShardingOnCloud.Wasm.ShardSuffixes
