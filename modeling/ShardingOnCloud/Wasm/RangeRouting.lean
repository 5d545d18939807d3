import ShardingOnCloud.Wasm.ShardSuffixes

namespace ShardingOnCloud.Wasm.RangeRouting

open ShardingOnCloud.Lib.JavaNumbers ShardingOnCloud.Wasm.ModSharding
open ShardingOnCloud.Wasm.ShardSuffixes
open ShardingOnCloud.Wasm.Sharding hiding shardingCount doSharding PreciseShardingValue

section Names

variable (D : Numerals) (a : ModShardingAlgorithm) (info : DataNodeInfo)

def targetName (r : ℤ) : Text :=
  info.namePrefix ++ List.leftpad info.suffixMinLength.toNat info.paddingChar (suffix D a r)

def targetOf (n : ℤ) : Text := targetName D a info (n % a.shardingCount)

variable {D a info} {G : Guava}

theorem findMatchedTargetName_eq (names : List Text) (r : ℤ) :
    findMatchedTargetName G names (suffix D a r) info =
      if targetName D a info r ∈ names then some (targetName D a info r) else none := by
  rw [findMatchedTargetName, G.padStart_eq]
  rfl

/-- Two remainders that have one target: the same, or without zeros before them one of them is the
other with the padding of the suffixes before it. -/
def Alike (a : ModShardingAlgorithm) (info : DataNodeInfo) (r q : ℤ) : Prop :=
  r = q ∨ a.zeroPadding = false ∧
    (Filled info.suffixMinLength.toNat info.paddingChar (toText r) (toText q) ∨
      Filled info.suffixMinLength.toNat info.paddingChar (toText q) (toText r))

theorem mem_add {result : List Text} {s t : Text} : t ∈ add result s ↔ t ∈ result ∨ t = s := by
  unfold add
  split
  · rename_i h
    exact ⟨Or.inl, fun hx => hx.elim id (fun hs => hs ▸ h)⟩
  · rw [List.mem_append, List.mem_singleton]

end Names

section Paths

variable {D : Numerals} {G : Guava} {a : ModShardingAlgorithm} {info : DataNodeInfo} {names : List Text}

/-- A sharding count that is an `int` and a divisor, with the size that is padded to. -/
structure Valid (a : ModShardingAlgorithm) : Prop where
  pos : 1 ≤ a.shardingCount
  int : a.shardingCount < 2 ^ 31
  size : a.maxPaddingSize = calculateMaxPaddingSize a.shardingCount

theorem bind_eq_ok {α β : Type} {x : Java α} {f : α → Java β} {y : β} (h : x.bind f = .ok y) :
    ∃ z, x = .ok z ∧ f z = .ok y := by
  cases x with
  | error e => cases h
  | ok z => exact ⟨z, rfl, h⟩

theorem parsed_eq_ok {x : Option ℤ} {n : ℤ} (h : parsed x = .ok n) : x = some n := by
  cases x with
  | none => cases h
  | some m =>
    cases h
    rfl

theorem parseInt_lt {t : Text} {n : ℤ} (h : parseInt D t = some n) : n < 2 ^ 31 :=
  (of_decide_eq_true (Option.filter_eq_some_iff.mp h).2).2

theorem valid_of_init {props : Properties} (h : init D props = .ok a)
    (hpos : 1 ≤ a.shardingCount) : Valid a := by
  have hbind : init D props = (getShardingCount D props).bind (fun n =>
      (getStartOffset D props).bind (fun s => (getStopOffset D props).bind (fun t =>
        .ok (configure n s t (isZeroPadding props))))) := rfl
  rw [hbind] at h
  obtain ⟨n, hn, h⟩ := bind_eq_ok h
  obtain ⟨s, -, h⟩ := bind_eq_ok h
  obtain ⟨t, -, h⟩ := bind_eq_ok h
  cases h
  obtain ⟨text, -, hparse⟩ := Option.bind_eq_some_iff.mp (parsed_eq_ok hn)
  exact ⟨hpos, parseInt_lt hparse, rfl⟩

theorem Valid.mod (ha : Valid a) (n : ℤ) :
    ModSharding.mod n a.shardingCount = .ok (n % a.shardingCount) := by
  have hpos := ha.pos
  exact if_neg (by omega)

theorem Valid.suffix (ha : Valid a) (n : ℤ) :
    getShardingResultSuffix D a (toText (n % a.shardingCount)) =
      .ok (ShardSuffixes.suffix D a (n % a.shardingCount)) := by
  have hpos := ha.pos
  have hint := ha.int
  have hlow := Int.emod_nonneg n (by omega : a.shardingCount ≠ 0)
  have hhigh := Int.emod_lt_of_pos n (by omega : 0 < a.shardingCount)
  exact getShardingResultSuffix_eq D a hlow (by omega)

theorem suffix_unpadded (h : a.zeroPadding = false) (r : ℤ) :
    ShardSuffixes.suffix D a r = toText r := if_neg (by simp [h])

theorem Valid.suffix_padded (ha : Valid a) (h : a.zeroPadding = true) (r : ℤ) :
    ShardSuffixes.suffix D a r = format D (calculateMaxPaddingSize a.shardingCount) r := by
  rw [ShardSuffixes.suffix, if_pos h, ha.size]

theorem Valid.targetName_eq_iff (ha : Valid a) {r q : ℕ} (hr : (r : ℤ) < a.shardingCount)
    (hq : (q : ℤ) < a.shardingCount) :
    targetName D a info r = targetName D a info q ↔ Alike a info r q := by
  rw [targetName, targetName, List.append_cancel_left_eq, Alike]
  cases hzero : a.zeroPadding with
  | false =>
    rw [suffix_unpadded hzero, suffix_unpadded hzero, leftpad_eq_leftpad, and_iff_right rfl]
    exact or_congr_left ⟨toText_injective, congrArg toText⟩
  | true =>
    rw [ha.suffix_padded hzero, ha.suffix_padded hzero]
    constructor
    · intro h
      have hlength := (length_remainder D ha.int hr).trans (length_remainder D ha.int hq).symm
      exact Or.inl (congrArg Nat.cast (format_injective (leftpad_injective_of_length h hlength)))
    · rintro (h | ⟨h, -⟩)
      · rw [h]
      · cases h

theorem Valid.targetOf_eq_iff (ha : Valid a) (D : Numerals) (i n : ℤ) :
    targetOf D a info i = targetOf D a info n ↔
      Alike a info (i % a.shardingCount) (n % a.shardingCount) := by
  have hpos := ha.pos
  have hlt := fun n => Int.emod_lt_of_pos n (by omega : 0 < a.shardingCount)
  obtain ⟨r, hr⟩ := Int.eq_ofNat_of_zero_le (Int.emod_nonneg i (by omega : a.shardingCount ≠ 0))
  obtain ⟨q, hq⟩ := Int.eq_ofNat_of_zero_le (Int.emod_nonneg n (by omega : a.shardingCount ≠ 0))
  rw [targetOf, targetOf, hr, hq]
  exact ha.targetName_eq_iff (hr ▸ hlt i) (hq ▸ hlt n)

theorem doSharding_eq (value : Value) :
    doSharding D G a names ⟨info, value⟩ =
      (cutShardingValue D a value).bind (fun n => (ModSharding.mod n a.shardingCount).bind
        (fun r => (getShardingResultSuffix D a (toText r)).bind
          (fun s => .ok (findMatchedTargetName G names s info)))) := rfl

theorem doSharding_eq_some (ha : Valid a) {value : Value} {target : Text}
    (h : doSharding D G a names ⟨info, value⟩ = .ok (some target)) :
    ∃ n, cutShardingValue D a value = .ok n ∧ targetOf D a info n = target ∧ target ∈ names := by
  rw [doSharding_eq] at h
  obtain ⟨n, hcut, h⟩ := bind_eq_ok h
  rw [ha.mod, Except.bind, ha.suffix, Except.bind, findMatchedTargetName_eq, Except.ok.injEq,
    Option.ite_none_right_eq_some] at h
  obtain ⟨hmem, hname⟩ := h
  have hname := Option.some.inj hname
  exact ⟨n, hcut, hname, hname ▸ hmem⟩

theorem collect_step (ha : Valid a) (left : ℕ) (i : ℤ) (result : List Text) :
    collect D G a names info (left + 1) i result =
      collect D G a names info left (i + 1)
        (if targetOf D a info i ∈ names then add result (targetOf D a info i) else result) := by
  have hbind : collect D G a names info (left + 1) i result =
      (ModSharding.mod i a.shardingCount).bind (fun r =>
        (getShardingResultSuffix D a (toText r)).bind (fun s =>
          (findMatchedTargetName G names s info).elim (collect D G a names info left (i + 1) result)
            (fun target => collect D G a names info left (i + 1) (add result target)))) := by
    rw [collect]
    refine congrArg _ (funext (fun r => congrArg _ (funext (fun s => ?_))))
    cases findMatchedTargetName G names s info <;> rfl
  rw [hbind, ha.mod, Except.bind, ha.suffix, Except.bind, findMatchedTargetName_eq, targetOf]
  by_cases hmem : targetName D a info (i % a.shardingCount) ∈ names
  · rw [if_pos hmem, if_pos hmem, Option.elim_some]
  · rw [if_neg hmem, if_neg hmem, Option.elim_none]

theorem collect_eq (ha : Valid a) (left : ℕ) (i : ℤ) (result : List Text) :
    ∃ result', collect D G a names info left i result = .ok result' ∧
      ∀ t, t ∈ result' ↔ t ∈ result ∨
        t ∈ names ∧ ∃ j, i ≤ j ∧ j < i + left ∧ targetOf D a info j = t := by
  induction left generalizing i result with
  | zero =>
    refine ⟨result, rfl, fun t => ⟨Or.inl, ?_⟩⟩
    rintro (ht | ⟨-, j, hlow, hhigh, -⟩)
    · exact ht
    · omega
  | succ left ih =>
    obtain ⟨result', hrun, hmem⟩ := ih (i + 1)
      (if targetOf D a info i ∈ names then add result (targetOf D a info i) else result)
    have hfirst : ∀ t, t ∈ (if targetOf D a info i ∈ names then add result (targetOf D a info i)
        else result) ↔ t ∈ result ∨ t ∈ names ∧ targetOf D a info i = t := by
      intro t
      split
      · rename_i hname
        rw [mem_add]
        refine or_congr_right ⟨fun hx => ⟨hx ▸ hname, hx.symm⟩, fun hx => hx.2.symm⟩
      · rename_i hname
        exact ⟨Or.inl, fun hx => hx.elim id (fun hy => absurd (hy.2 ▸ hy.1) hname)⟩
    refine ⟨result', by rw [collect_step ha, hrun], fun t => ?_⟩
    rw [hmem, hfirst, or_assoc, ← and_or_left]
    refine or_congr_right (and_congr_right (fun _ => ⟨?_, ?_⟩))
    · rintro (hi | ⟨j, hlow, hhigh, hj⟩)
      · exact ⟨i, le_rfl, by omega, hi⟩
      · exact ⟨j, by omega, by omega, hj⟩
    · rintro ⟨j, hlow, hhigh, hj⟩
      by_cases hij : j = i
      · exact Or.inl (hij ▸ hj)
      · exact Or.inr ⟨j, by omega, by omega, hj⟩

end Paths

section Ranges

variable {D : Numerals} {G : Guava} {a : ModShardingAlgorithm} {info : DataNodeInfo}
  {names : List Text} {l u : ℤ} {b c : BoundType}

def bounded (l u : ℤ) (b c : BoundType) : Range ℤ := ⟨some (l, b), some (u, c)⟩

theorem map_bounded {α : Type} (f : ℤ → α) :
    (bounded l u b c).map f = ⟨some (f l, b), some (f u, c)⟩ := rfl

theorem getAvailableTargetNames_eq (ha : Valid a) :
    ∃ result,
      getAvailableTargetNames D G a names ⟨info, (bounded l u b c).map .number⟩ = .ok result ∧
        ∀ t, t ∈ result ↔ t ∈ names ∧ ∃ j, l ≤ j ∧ j ≤ u ∧ targetOf D a info j = t := by
  have hbind : getAvailableTargetNames D G a names ⟨info, (bounded l u b c).map .number⟩ =
      (parsed (bigInteger D (toText l))).bind (fun lower =>
        (parsed (bigInteger D (toText u))).bind (fun upper =>
          collect D G a names info (upper + 1 - lower).toNat lower [])) := by
    rw [getAvailableTargetNames]
    dsimp only
    rw [map_bounded, G.lowerEndpoint_some, G.upperEndpoint_some]
    rfl
  obtain ⟨result, hrun, hmem⟩ := @collect_eq D G a info names ha (u + 1 - l).toNat l []
  refine ⟨result, ?_, fun t => ?_⟩
  · rw [hbind, bigInteger_toText, bigInteger_toText]
    exact hrun
  · rw [hmem, or_iff_right List.not_mem_nil]
    refine and_congr_right (fun _ => exists_congr (fun j => and_congr_right (fun hlow => ?_)))
    exact and_congr_left (fun _ => by omega)

theorem containsAllTargets_eq (ha : Valid a) :
    containsAllTargets D G a ((bounded l u b c).map .number) =
      .ok (decide (a.shardingCount - 1 ≤ intValue (u - l))) := by
  have hpos := ha.pos
  have hint := ha.int
  have hcount := intValue_of_range (by omega : -2 ^ 31 ≤ a.shardingCount - 1) (by omega)
  have hall : containsAllTargets D G a ((bounded l u b c).map .number) =
      .ok (decide (intValue (a.shardingCount - 1) ≤ intValue (longValue u - longValue l))) := by
    rw [containsAllTargets, map_bounded, G.hasUpperBound_eq, G.hasLowerBound_eq,
      G.lowerEndpoint_some, G.upperEndpoint_some]
    rfl
  rw [hall, hcount, intValue_longValue_sub]

theorem exists_congruent {m : ℤ} (hm : 0 < m) (n : ℤ) :
    (∃ i, l ≤ i ∧ i ≤ u ∧ i % m = n % m) ↔ (n - l) % m ≤ u - l := by
  constructor
  · rintro ⟨i, hlow, hhigh, hi⟩
    have hmod : (n - l) % m = (i - l) % m := by
      rw [Int.sub_emod, ← hi, ← Int.sub_emod]
    have hle : (i - l) % m ≤ i - l := by
      by_cases hlt : i - l < m
      · exact le_of_eq (Int.emod_eq_of_lt (by omega) hlt)
      · exact le_of_lt (lt_of_lt_of_le (Int.emod_lt_of_pos _ hm) (not_lt.mp hlt))
    omega
  · intro h
    have hlow := Int.emod_nonneg (n - l) (by omega : m ≠ 0)
    refine ⟨l + (n - l) % m, by omega, by omega, ?_⟩
    rw [Int.add_emod_emod]
    congr 1
    omega

theorem exists_of_shortcut (ha : Valid a) (hlu : l ≤ u)
    (h : a.shardingCount - 1 ≤ intValue (u - l)) (n : ℤ) :
    ∃ j, l ≤ j ∧ j ≤ u ∧ targetOf D a info j = targetOf D a info n := by
  have hpos := ha.pos
  have hint := ha.int
  have hspan : a.shardingCount - 1 ≤ u - l := by
    by_cases hsmall : u - l < 2 ^ 31
    · rwa [intValue_of_range (by omega) hsmall] at h
    · omega
  have hlt := Int.emod_lt_of_pos (n - l) (by omega : 0 < a.shardingCount)
  have hle : (n - l) % a.shardingCount ≤ u - l := by omega
  obtain ⟨j, hlow, hhigh, hj⟩ := (exists_congruent (by omega) n).mpr hle
  exact ⟨j, hlow, hhigh, by rw [targetOf, targetOf, hj]⟩

theorem doShardingRange_bounded (ha : Valid a) (hlu : l ≤ u) {n : ℤ}
    (hmem : targetOf D a info n ∈ names) :
    ∃ result, doShardingRange D G a names ⟨info, (bounded l u b c).map .number⟩ = .ok result ∧
      (targetOf D a info n ∈ result ↔
        ∃ j, l ≤ j ∧ j ≤ u ∧ targetOf D a info j = targetOf D a info n) := by
  have hbind : doShardingRange D G a names ⟨info, (bounded l u b c).map .number⟩ =
      (containsAllTargets D G a ((bounded l u b c).map .number)).bind (fun all =>
        if all = true then .ok names
        else getAvailableTargetNames D G a names ⟨info, (bounded l u b c).map .number⟩) := rfl
  rw [hbind, containsAllTargets_eq ha, Except.bind]
  by_cases hall : a.shardingCount - 1 ≤ intValue (u - l)
  · refine ⟨names, if_pos (decide_eq_true hall), ?_⟩
    exact iff_of_true hmem (exists_of_shortcut ha hlu hall n)
  · obtain ⟨result, hrun, hresult⟩ := @getAvailableTargetNames_eq D G a info names l u b c ha
    refine ⟨result, (if_neg (by simpa using hall)).trans hrun, ?_⟩
    rw [hresult, and_iff_right hmem]

theorem doShardingRange_no_upper (lower : Option (ℤ × BoundType)) :
    doShardingRange D G a names ⟨info, (Range.mk lower none).map .number⟩ = .ok names := by
  have hall : containsAllTargets D G a ((Range.mk lower none).map .number) = .ok true := by
    rw [containsAllTargets, G.hasUpperBound_eq]
    rfl
  rw [doShardingRange, hall]
  rfl

theorem doShardingRange_no_lower :
    doShardingRange D G a names ⟨info, (Range.mk none (some (u, c))).map .number⟩ =
      .error .illegalState := by
  have hall : containsAllTargets D G a ((Range.mk none (some (u, c))).map .number) =
      .ok false := by
    rw [containsAllTargets, G.hasUpperBound_eq, G.hasLowerBound_eq]
    rfl
  have hlower : G.lowerEndpoint ((Range.mk none (some (u, c))).map Value.number) =
      .error .illegalState := G.lowerEndpoint_none _
  rw [doShardingRange, hall, getAvailableTargetNames, hlower]
  rfl

theorem between_of_contains {n : ℤ} (h : (bounded l u b c).Contains n) : l ≤ n ∧ n ≤ u := by
  obtain ⟨hlow, hhigh⟩ := h
  refine ⟨?_, ?_⟩
  · cases b with
    | opened => exact le_of_lt hlow
    | closed => exact hlow
  · cases c with
    | opened => exact le_of_lt hhigh
    | closed => exact hhigh

end Ranges

section Coverage

variable {D : Numerals} {a : ModShardingAlgorithm} {info : DataNodeInfo} {range : Range ℤ} {v : ℤ}

/-- The range has no upper bound, or it has both bounds and between them there is an integer with
a remainder like that of the number which is cut out of the value. -/
def Reached (D : Numerals) (a : ModShardingAlgorithm) (info : DataNodeInfo) (range : Range ℤ)
    (v : ℤ) : Prop :=
  range.upper = none ∨ ∃ l u b c, range = bounded l u b c ∧ ∃ i n, l ≤ i ∧ i ≤ u ∧
    cutShardingValue D a (.number v) = .ok n ∧
      Alike a info (i % a.shardingCount) (n % a.shardingCount)

theorem alike_iff_eq (hpos : 1 ≤ a.shardingCount)
    (hchar : a.zeroPadding = true ∨ ¬(49 ≤ info.paddingChar ∧ info.paddingChar ≤ 57)) (i n : ℤ) :
    Alike a info (i % a.shardingCount) (n % a.shardingCount) ↔
      i % a.shardingCount = n % a.shardingCount := by
  have hnonneg := fun n => Int.emod_nonneg n (by omega : a.shardingCount ≠ 0)
  obtain ⟨r, hr⟩ := Int.eq_ofNat_of_zero_le (hnonneg i)
  obtain ⟨q, hq⟩ := Int.eq_ofNat_of_zero_le (hnonneg n)
  rw [hr, hq]
  refine ⟨?_, Or.inl⟩
  rintro (heq | ⟨hzero, hfilled⟩)
  · exact heq
  · have hchar := hchar.resolve_left (by rw [hzero]; exact Bool.false_ne_true)
    obtain hfilled | hfilled := hfilled
    · exact congrArg Nat.cast (eq_of_filled hchar hfilled)
    · exact congrArg Nat.cast (eq_of_filled hchar hfilled).symm

/-- With zeros before the suffixes, or where they are not padded with one of the other digits, the
remainders decide. -/
theorem reached_iff_remainder (hpos : 1 ≤ a.shardingCount)
    (hchar : a.zeroPadding = true ∨ ¬(49 ≤ info.paddingChar ∧ info.paddingChar ≤ 57)) :
    Reached D a info range v ↔ range.upper = none ∨ ∃ l u b c, range = bounded l u b c ∧
      ∃ n, cutShardingValue D a (.number v) = .ok n ∧ (n - l) % a.shardingCount ≤ u - l := by
  refine or_congr_right (exists_congr (fun l => exists_congr (fun u => exists_congr (fun b =>
    exists_congr (fun c => and_congr_right (fun _ => ?_))))))
  simp only [alike_iff_eq hpos hchar, ← exists_congruent (by omega : 0 < a.shardingCount)]
  constructor
  · rintro ⟨i, n, hlow, hhigh, hcut, hi⟩
    exact ⟨n, hcut, i, hlow, hhigh, hi⟩
  · rintro ⟨n, hcut, i, hlow, hhigh, hi⟩
    exact ⟨i, n, hlow, hhigh, hcut, hi⟩

theorem reached_uncut (hv : range.Contains v) (hoffsets : a.startOffset = 0 ∧ a.stopOffset = 0)
    (hlong : -2 ^ 63 ≤ v ∧ v < 2 ^ 63) :
    Reached D a info range v ↔ range.upper = none ∨ range.lower ≠ none := by
  have hcut : cutShardingValue D a (.number v) = .ok v := by
    rw [cutShardingValue, if_pos hoffsets, getBigInteger, longValue_of_range hlong.1 hlong.2]
  constructor
  · rintro (hupper | ⟨l, u, b, c, rfl, -⟩)
    · exact Or.inl hupper
    · exact Or.inr (Option.some_ne_none _)
  · rintro (hupper | hlower)
    · exact Or.inl hupper
    · obtain ⟨lower, upper⟩ := range
      obtain ⟨⟨l, b⟩, rfl⟩ := Option.ne_none_iff_exists'.mp hlower
      cases upper with
      | none => exact Or.inl rfl
      | some upper =>
        obtain ⟨hlow, hhigh⟩ : l ≤ v ∧ v ≤ upper.1 := between_of_contains hv
        exact Or.inr ⟨l, upper.1, b, upper.2, rfl, v, v, hlow, hhigh, hcut, Or.inl rfl⟩

end Coverage

/-- When the targets of a range contain that of a value in it. -/
theorem range_covers_iff {D : Numerals} {G : Guava} {n startOffset stopOffset : ℤ} {zeroPadding : Bool}
    (hpos : 1 ≤ n) (hint : n < 2 ^ 31) {names : List Text} {info : DataNodeInfo}
    {range : Range ℤ} {v : ℤ} (hv : range.Contains v) {target : Text}
    (h : doSharding D G (configure n startOffset stopOffset zeroPadding) names ⟨info, .number v⟩ =
      .ok (some target)) :
    (∃ result, doShardingRange D G (configure n startOffset stopOffset zeroPadding) names
        ⟨info, range.map .number⟩ = .ok result ∧ target ∈ result) ↔
      Reached D (configure n startOffset stopOffset zeroPadding) info range v := by
  have hvalid : Valid (configure n startOffset stopOffset zeroPadding) := ⟨hpos, hint, rfl⟩
  obtain ⟨m, hcut, rfl, hmem⟩ := doSharding_eq_some hvalid h
  obtain ⟨lower, upper⟩ := range
  cases upper with
  | none => exact iff_of_true ⟨names, doShardingRange_no_upper lower, hmem⟩ (Or.inl rfl)
  | some upper =>
    obtain ⟨u, c⟩ := upper
    cases lower with
    | none =>
      refine iff_of_false ?_ ?_
      · rintro ⟨result, hrun, -⟩
        rw [doShardingRange_no_lower] at hrun
        cases hrun
      · rintro (hx | ⟨l, u', b, c', hx, -⟩)
        · cases hx
        · cases hx
    | some lower =>
      obtain ⟨l, b⟩ := lower
      obtain ⟨hlow, hhigh⟩ : l ≤ v ∧ v ≤ u := between_of_contains hv
      obtain ⟨result, hrun, hiff⟩ :=
        @doShardingRange_bounded D G _ info names l u b c hvalid (hlow.trans hhigh) m hmem
      constructor
      · rintro ⟨result', hrun', hresult⟩
        cases hrun.symm.trans hrun'
        obtain ⟨j, hlow, hhigh, hj⟩ := hiff.mp hresult
        have halike := (hvalid.targetOf_eq_iff D j m).mp hj
        exact Or.inr ⟨l, u, b, c, rfl, j, m, hlow, hhigh, hcut, halike⟩
      · rintro (hx | ⟨l', u', b', c', hx, i, m', hlow, hhigh, hcut', hi⟩)
        · cases hx
        · cases hx
          cases hcut.symm.trans hcut'
          have htarget := (hvalid.targetOf_eq_iff D i m).mpr hi
          exact ⟨result, hrun, hiff.mpr ⟨i, hlow, hhigh, htarget⟩⟩

section Samples

def plainGuava : Guava where
  padStart t n c := List.leftpad n.toNat c t
  hasLowerBound range := range.lower.isSome
  hasUpperBound range := range.upper.isSome
  lowerEndpoint range := range.lower.elim (.error .illegalState) (fun bound => .ok bound.1)
  upperEndpoint range := range.upper.elim (.error .illegalState) (fun bound => .ok bound.1)
  padStart_eq _ _ _ := rfl
  hasLowerBound_eq _ := rfl
  hasUpperBound_eq _ := rfl
  lowerEndpoint_some _ _ _ := rfl
  lowerEndpoint_none _ := rfl
  upperEndpoint_some _ _ _ := rfl
  upperEndpoint_none _ := rfl

def targets : List Text := ["t_0", "t_1", "t_2", "t_3"].map (fun s => units s.toList)

def info : DataNodeInfo := ⟨units ['t', '_'], 1, 48⟩

theorem four_contains : (bounded 3 5 .closed .opened).Contains 4 :=
  ⟨(by decide : (3 : ℤ) ≤ 4), (by decide : (4 : ℤ) < 5)⟩

theorem four_covered :
    ∃ result, doShardingRange asciiNumerals plainGuava (configure 4 0 0 false) targets
      ⟨info, (bounded 3 5 .closed .opened).map .number⟩ = .ok result ∧
        units ['t', '_', '0'] ∈ result :=
  (range_covers_iff (by decide) (by decide) four_contains (by decide)).mpr
    ((reached_uncut four_contains ⟨rfl, rfl⟩ (by decide)).mpr (Or.inr (by decide)))

/-- A range without a lower bound is not routed at all. -/
theorem not_all_covered :
    ¬∀ (D : Numerals) (G : Guava) (n startOffset stopOffset : ℤ) (zeroPadding : Bool)
      (names : List Text) (info : DataNodeInfo) (range : Range ℤ) (v : ℤ) (target : Text),
      1 ≤ n → n < 2 ^ 31 → 0 ≤ startOffset → 0 ≤ stopOffset → range.Contains v →
      doSharding D G (configure n startOffset stopOffset zeroPadding) names ⟨info, .number v⟩ =
        .ok (some target) →
      ∃ result, doShardingRange D G (configure n startOffset stopOffset zeroPadding) names
        ⟨info, range.map .number⟩ = .ok result ∧ target ∈ result := by
  intro h
  obtain ⟨result, hrun, -⟩ := h asciiNumerals plainGuava 4 0 0 false targets info
    ⟨none, some (5, .closed)⟩ 4 (units ['t', '_', '0']) (by decide) (by decide) (by decide) (by decide)
    ⟨trivial, (by decide : (4 : ℤ) ≤ 5)⟩ (by decide)
  cases hrun

end Samples

end ShardingOnCloud.Wasm.RangeRouting
