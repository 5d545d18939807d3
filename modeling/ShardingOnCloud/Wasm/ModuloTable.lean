import Mathlib.Data.List.TakeWhile
import ShardingOnCloud.Wasm.Sharding

namespace ShardingOnCloud.Wasm.ModuloTable

open ShardingOnCloud.Lib.LinearMemory ShardingOnCloud.Lib.RustText ShardingOnCloud.Lib.Strconv
open ShardingOnCloud.Wasm.Sharding

section Exchange

variable {targetNames conditionValues : Text} {addr len : ℕ} {m : List UInt8}

def request (targetNames conditionValues : Text) : List UInt8 :=
  UInt8.ofNat targetNames.length :: (targetNames.map UInt16.toUInt8 ++
    UInt8.ofNat conditionValues.length :: conditionValues.map UInt16.toUInt8)

theorem length_request (targetNames conditionValues : Text) :
    (request targetNames conditionValues).length =
      targetNames.length + conditionValues.length + 2 := by
  simp [request]
  omega

theorem pollTable_eq (addr len : ℕ) (m : List UInt8) :
    pollTable targetNames conditionValues addr len ⟨m, 1⟩ =
      (putAll m addr (request targetNames conditionValues)).map (fun memory =>
        (min (request targetNames conditionValues).length len,
          ⟨memory, (request targetNames conditionValues).length⟩)) := by
  have hoffset : 1 + targetNames.length + 1 + conditionValues.length =
      (request targetNames conditionValues).length := by
    rw [length_request]
    omega
  rw [pollTable]
  dsimp only
  rw [hoffset]
  generalize (request targetNames conditionValues).length = n
  rw [request, putAll]
  cases put m addr (UInt8.ofNat targetNames.length) with
  | none => rfl
  | some m₁ =>
    change Option.bind (putAll m₁ (addr + 1) (targetNames.map UInt16.toUInt8)) _ =
      (putAll m₁ (addr + 1) (targetNames.map UInt16.toUInt8 ++ _)).map _
    rw [putAll_append]
    cases putAll m₁ (addr + 1) (targetNames.map UInt16.toUInt8) with
    | none => rfl
    | some m₂ =>
      rw [Option.bind_some, Option.bind_some, List.length_map, putAll, Nat.add_assoc addr]
      cases put m₂ (addr + (1 + targetNames.length)) (UInt8.ofNat conditionValues.length) with
      | none => rfl
      | some m₃ =>
        change Option.bind (putAll m₃ (addr + (1 + targetNames.length + 1)) _) _ =
          (putAll m₃ (addr + (1 + targetNames.length) + 1) _).map _
        rw [Nat.add_assoc addr]
        cases putAll m₃ (addr + (1 + targetNames.length + 1))
          (conditionValues.map UInt16.toUInt8) <;> rfl

def zeroed (g : Guest) : List UInt8 := write g.memory g.addr (List.replicate bufferSize 0)

theorem length_zeroed (g : Guest) : (zeroed g).length = g.memory.length := by
  apply length_write
  rw [List.length_replicate]
  exact g.inside

theorem drop_zeroed (g : Guest) {n : ℕ} (h : n ≤ bufferSize) :
    (zeroed g).drop (g.addr + n) =
      List.replicate (bufferSize - n) 0 ++ g.memory.drop (g.addr + bufferSize) := by
  have hinside := g.inside
  rw [← List.drop_drop, zeroed, drop_write (by omega), List.length_replicate,
    List.drop_append_of_le_length (by rwa [List.length_replicate]), List.drop_replicate]

theorem doWork_eq (g : Guest) (h : (request targetNames conditionValues).length ≤ bufferSize) :
    doWork (pollTable targetNames conditionValues) g.addr ⟨g.memory, 1⟩ =
      (tableName (request targetNames conditionValues)).bind (fun table =>
        if (request targetNames conditionValues).length + (toUtf8 table).length ≤ bufferSize then
          some ⟨write (zeroed g) g.addr (request targetNames conditionValues ++ toUtf8 table),
            (request targetNames conditionValues).length⟩
        else none) := by
  have hinside := g.inside
  have hfits : g.addr + (request targetNames conditionValues).length ≤ (zeroed g).length := by
    rw [length_zeroed]
    omega
  have hpoll : pollTable targetNames conditionValues g.addr bufferSize ⟨zeroed g, 1⟩ = _ :=
    pollTable_eq g.addr bufferSize (zeroed g)
  rw [putAll_eq_write hfits, Nat.min_eq_left h] at hpoll
  have hparts : ((write (zeroed g) g.addr (request targetNames conditionValues)).drop g.addr).take
      (request targetNames conditionValues).length = request targetNames conditionValues := by
    rw [drop_write (by omega)]
    exact List.take_left
  change Option.bind (pollTable targetNames conditionValues g.addr bufferSize ⟨zeroed g, 1⟩) _ = _
  rw [hpoll]
  change Option.bind (tableName (List.take _ _)) _ = _
  rw [hparts]
  refine congrArg _ ?_
  funext table
  dsimp only
  rw [write_write hfits]
  rfl

/-- The host reads the answer up to its first zero, and on in the memory if there is none. -/
theorem wasmDoSharding_eq (g : Guest) {availableTargetNames : List Text}
    {shardingValue : PreciseShardingValue} {parts : List UInt8}
    (hparts : parts = request (availableTargetNamesArgs availableTargetNames)
      (conditionValuesArgs shardingValue)) (hlength : parts.length ≤ bufferSize) :
    wasmDoSharding g availableTargetNames shardingValue =
      (tableName parts).bind (fun table =>
        if parts.length + (toUtf8 table).length ≤ bufferSize then
          (before 0 (toUtf8 table ++
            (List.replicate (bufferSize - (parts.length + (toUtf8 table).length)) 0 ++
              g.memory.drop (g.addr + bufferSize)))).map (List.map toChar)
        else none) := by
  have hinside := g.inside
  rw [wasmDoSharding, doWork_eq g (by rwa [← hparts]), ← hparts]
  cases tableName parts with
  | none => rfl
  | some table =>
    rw [Option.bind_some, Option.bind_some]
    by_cases hfits : parts.length + (toUtf8 table).length ≤ bufferSize
    · have hanswer : (write (zeroed g) g.addr (parts ++ toUtf8 table)).drop
          (g.addr + parts.length) = toUtf8 table ++
            (List.replicate (bufferSize - (parts.length + (toUtf8 table).length)) 0 ++
              g.memory.drop (g.addr + bufferSize)) := by
        rw [← List.drop_drop, drop_write (by rw [length_zeroed]; omega), List.append_assoc,
          List.drop_left, List.length_append, drop_zeroed g hfits]
      rw [if_pos hfits, if_pos hfits]
      change Option.bind (before 0 (List.drop (g.addr + parts.length) _)) _ = _
      rw [hanswer, Option.map_eq_bind]
      rfl
    · rw [if_neg hfits, if_neg hfits]
      rfl

end Exchange

section Fields

theorem toUInt8_units (cs : List Char) : (units cs).map UInt16.toUInt8 = ascii cs := by
  rw [units, ascii, List.map_map]
  refine List.map_congr_left (fun c _ => ?_)
  apply UInt8.toNat_inj.mp
  rw [Function.comp_apply, UInt16.toNat_toUInt8, UInt16.toNat_ofNat', UInt8.toNat_ofNat']
  omega

/-- The names are passed over with their length cut down to a byte, and what is left begins with
the length of the condition. -/
theorem conditionValues_request {targetNames conditionValues : Text} {length : UInt8}
    {bytes : List UInt8}
    (h : (targetNames.drop (targetNames.length % 256)).map UInt16.toUInt8 ++
      UInt8.ofNat conditionValues.length :: conditionValues.map UInt16.toUInt8 =
        length :: bytes) :
    Sharding.conditionValues (request targetNames conditionValues) =
      if length.toNat ≤ bytes.length then
        some ((fromUtf8Lossy (bytes.take length.toNat)).splitOn ',')
      else none := by
  obtain ⟨k, hk⟩ : ∃ k, targetNames.length % 256 = k := ⟨_, rfl⟩
  have hle : k ≤ (targetNames.map UInt16.toUInt8).length := by
    rw [List.length_map, ← hk]
    exact Nat.mod_le _ _
  have hnat : (UInt8.ofNat targetNames.length).toNat = k := by
    rw [UInt8.toNat_ofNat', ← hk]
  have hdrop : (request targetNames conditionValues).drop (1 + k) = length :: bytes := by
    rw [← h, hk, request, Nat.add_comm, List.drop_succ_cons, List.drop_append_of_le_length hle,
      List.map_drop]
  have hsecond : (request targetNames conditionValues)[1 + k]? = some length := by
    rw [← List.head?_drop, hdrop]
    rfl
  have hbytes : (request targetNames conditionValues).drop (2 + k) = bytes := by
    rw [show 2 + k = 1 + k + 1 by omega, ← List.drop_drop, hdrop]
    rfl
  have hlength : 2 + k + length.toNat ≤ (request targetNames conditionValues).length ↔
      length.toNat ≤ bytes.length := by
    have hdropped := congrArg List.length hdrop
    rw [List.length_drop, List.length_cons] at hdropped
    omega
  have hfirst : (request targetNames conditionValues)[0]? =
      some (UInt8.ofNat targetNames.length) := rfl
  rw [Sharding.conditionValues, hfirst]
  change Option.bind ((request targetNames conditionValues)[1 + _]?) _ = _
  rw [hnat, hsecond, Option.bind_some, slice, hbytes, Nat.add_sub_cancel_left]
  by_cases hle : length.toNat ≤ bytes.length
  · rw [if_pos hle, if_pos ⟨by omega, hlength.mpr hle⟩]
    rfl
  · rw [if_neg hle, if_neg (fun h => hle (hlength.mp h.2))]
    rfl

/-- If the length of the names is a byte, the guest sees of the condition as many bytes as the
second length says. -/
theorem conditionValues_units {targetNames : Text} {cs : List Char}
    (hnames : targetNames.length ≤ 255) (hcs : ∀ c ∈ cs, c.toNat < 128) :
    Sharding.conditionValues (request targetNames (units cs)) =
      some ((cs.take (cs.length % 256)).splitOn ',') := by
  have hlength : (units cs).length = cs.length := List.length_map _
  have hrest : (targetNames.drop (targetNames.length % 256)).map UInt16.toUInt8 ++
      UInt8.ofNat (units cs).length :: (units cs).map UInt16.toUInt8 =
        UInt8.ofNat cs.length :: ascii cs := by
    rw [Nat.mod_eq_of_lt (by omega), List.drop_length, toUInt8_units, hlength]
    rfl
  have hle : (UInt8.ofNat cs.length).toNat ≤ (ascii cs).length := by
    rw [UInt8.toNat_ofNat', ascii, List.length_map]
    exact Nat.mod_le _ _
  rw [conditionValues_request hrest, if_pos hle, UInt8.toNat_ofNat', ascii, ← List.map_take]
  exact congrArg (fun cs => some (List.splitOn ',' cs))
    (fromUtf8Lossy_ascii (fun c hc => hcs c (List.mem_of_mem_take hc)))

variable {column table digits : List Char}

def condition (column table digits : List Char) : List Char :=
  column ++ ',' :: (table ++ ',' :: digits)

theorem length_condition (column table digits : List Char) :
    (condition column table digits).length = column.length + table.length + 2 + digits.length := by
  simp [condition]
  omega

theorem splitOn_take_condition (hcolumn : ',' ∉ column) (htable : ',' ∉ table)
    (hdigits : ',' ∉ digits) (j : ℕ) :
    ((condition column table digits).take (column.length + table.length + 2 + j)).splitOn ',' =
      [column, table, digits.take j] := by
  have htake : (condition column table digits).take (column.length + table.length + 2 + j) =
      column ++ ',' :: (table ++ ',' :: digits.take j) := by
    have hlength : column.length + table.length + 2 + j =
        column.length + (table.length + (j + 1) + 1) := by omega
    rw [condition, hlength, List.take_length_add_append, List.take_succ_cons,
      List.take_length_add_append, List.take_succ_cons]
  have hrest : ',' ∉ digits.take j := fun h => hdigits (List.mem_of_mem_take h)
  rw [htake, List.splitOn_append_cons_self_of_not_mem hcolumn,
    List.splitOn_append_cons_self_of_not_mem htable, List.splitOn_eq_singleton hrest]

theorem splitOn_take_short (hcolumn : ',' ∉ column) (htable : ',' ∉ table) {m : ℕ}
    (hm : m < column.length + table.length + 2) :
    (((condition column table digits).take m).splitOn ',')[2]? = none := by
  by_cases hfirst : m ≤ column.length
  · have hrest : ',' ∉ column.take m := fun h => hcolumn (List.mem_of_mem_take h)
    rw [condition, List.take_append_of_le_length hfirst, List.splitOn_eq_singleton hrest]
    rfl
  · obtain ⟨j, rfl⟩ : ∃ j, m = column.length + (j + 1) := ⟨m - column.length - 1, by omega⟩
    have hrest : ',' ∉ table.take j := fun h => htable (List.mem_of_mem_take h)
    rw [condition, List.take_length_add_append, List.take_succ_cons,
      List.take_append_of_le_length (by omega), List.splitOn_append_cons_self_of_not_mem hcolumn,
      List.splitOn_eq_singleton hrest]
    rfl

end Fields

section Answers

variable {targetNames : Text} {column table : List Char}

/-- A name of ASCII characters without a comma. -/
def Plain (cs : List Char) : Prop := ∀ c ∈ cs, c.toNat < 128 ∧ c ≠ ','

theorem Plain.comma_free {cs : List Char} (h : Plain cs) : ',' ∉ cs := fun hc => (h ',' hc).2 rfl

theorem plain_toDigits (v : ℕ) : Plain (Nat.toDigits 10 v) := by
  intro c hc
  have hdigit := Nat.isDigit_of_mem_toDigits (by decide) (by decide) hc
  refine ⟨?_, ?_⟩
  · have hle : c.toNat ≤ '9'.toNat := (Char.isDigit_iff_toNat.mp hdigit).2
    exact Nat.lt_of_le_of_lt hle (by decide)
  · rintro rfl
    cases hdigit

def conditionFor (column table : List Char) (v : ℕ) : List Char :=
  condition column table (Nat.toDigits 10 v)

theorem ascii_conditionFor (hcolumn : Plain column) (htable : Plain table) (v : ℕ) :
    ∀ c ∈ conditionFor column table v, c.toNat < 128 := by
  intro c hc
  simp only [conditionFor, condition, List.mem_append, List.mem_cons] at hc
  obtain hc | rfl | hc | rfl | hc := hc
  · exact (hcolumn c hc).1
  · decide
  · exact (htable c hc).1
  · decide
  · exact (plain_toDigits v c hc).1

def shard (table : List Char) (n : ℕ) : List Char :=
  table ++ '_' :: Nat.toDigits 10 (n % shardingCount)

theorem tableName_eq_some {parts : List UInt8} {name : List Char} :
    tableName parts = some name ↔ ∃ x y n fields w,
      Sharding.conditionValues parts = some (x :: y :: n :: fields) ∧ parseU8 n = some w ∧
        name = shard y w := by
  constructor
  · intro h
    obtain ⟨values, hvalues, h⟩ := Option.bind_eq_some_iff.mp h
    obtain ⟨n, hn, h⟩ := Option.bind_eq_some_iff.mp h
    obtain ⟨w, hw, h⟩ := Option.bind_eq_some_iff.mp h
    obtain ⟨y, hy, h⟩ := Option.bind_eq_some_iff.mp h
    obtain rfl := Option.some.inj h
    match values, hn, hy with
    | x :: y' :: n' :: fields, hn, hy =>
      obtain rfl := Option.some.inj hn
      obtain rfl := Option.some.inj hy
      exact ⟨x, y', n', fields, w, hvalues, hw, rfl⟩
  · rintro ⟨x, y, n, fields, w, hvalues, hw, rfl⟩
    rw [tableName, hvalues]
    change Option.bind (parseU8 n) _ = _
    rw [hw]
    rfl

/-- How many characters at the end of the condition the guest does not see. -/
def unseen (column table : List Char) (v : ℕ) : ℕ :=
  256 * ((conditionFor column table v).length / 256)

/-- The guest answers for the digits it sees, if there are any and they make up a byte. -/
theorem tableName_request (hnames : targetNames.length ≤ 255) (hcolumn : Plain column)
    (htable : Plain table) (v : ℕ) :
    tableName (request targetNames (units (conditionFor column table v))) =
      if unseen column table v < (Nat.toDigits 10 v).length ∧ v / 10 ^ unseen column table v ≤ 255
      then some (shard table (v / 10 ^ unseen column table v)) else none := by
  have hlength := length_condition column table (Nat.toDigits 10 v)
  have hunseen : unseen column table v + (conditionFor column table v).length % 256 =
      (conditionFor column table v).length := Nat.div_add_mod _ 256
  rw [conditionFor] at hunseen
  rw [tableName, conditionValues_units hnames (ascii_conditionFor hcolumn htable v), conditionFor]
  generalize unseen column table v = k at *
  by_cases hk : k < (Nat.toDigits 10 v).length
  · have hseen : (condition column table (Nat.toDigits 10 v)).length % 256 =
        column.length + table.length + 2 + ((Nat.toDigits 10 v).length - k) := by omega
    rw [hseen, splitOn_take_condition hcolumn.comma_free htable.comma_free
      (plain_toDigits v).comma_free, take_toDigits hk]
    change Option.bind (parseU8 (Nat.toDigits 10 (v / 10 ^ k))) _ = _
    rw [parseU8_toDigits]
    by_cases hv : v / 10 ^ k ≤ 255
    · rw [if_pos hv, if_pos ⟨hk, hv⟩]
      rfl
    · rw [if_neg hv, if_neg (fun h => hv h.2)]
      rfl
  · rw [if_neg (fun h => hk h.1)]
    by_cases hshort : (condition column table (Nat.toDigits 10 v)).length % 256 <
        column.length + table.length + 2
    · change Option.bind ((((condition column table (Nat.toDigits 10 v)).take _).splitOn ',')[2]?)
        _ = none
      rw [splitOn_take_short hcolumn.comma_free htable.comma_free hshort]
      rfl
    · have hseen : (condition column table (Nat.toDigits 10 v)).length % 256 =
          column.length + table.length + 2 + 0 := by omega
      rw [hseen, splitOn_take_condition hcolumn.comma_free htable.comma_free
        (plain_toDigits v).comma_free]
      rfl

end Answers

section Results

variable {column table : List Char}

theorem toUInt8_toChar (b : UInt8) : (toChar b).toUInt8 = b := by
  have hall : ∀ n < 256, (toChar (UInt8.ofNat n)).toUInt8 = UInt8.ofNat n := by
    decide +kernel
  have hb := hall b.toNat b.toNat_lt
  rwa [UInt8.ofNat_toNat] at hb

theorem toChar_injective : Function.Injective toChar :=
  Function.LeftInverse.injective toUInt8_toChar

theorem units_eq_ascii {cs : List Char} (h : ∀ c ∈ cs, c.toNat < 128) :
    units cs = (ascii cs).map toChar := by
  have hall : ∀ n < 128, toChar (UInt8.ofNat n) = UInt16.ofNat n := by decide
  rw [units, ascii, List.map_map]
  exact List.map_congr_left (fun c hc => (hall c.toNat (h c hc)).symm)

/-- A text that leaves room for a zero is returned exactly if the guest answers it, perhaps with
more after a zero. -/
theorem wasmDoSharding_iff (g : Guest) {availableTargetNames : List Text}
    {shardingValue : PreciseShardingValue} {parts : List UInt8} {expected : List Char}
    (hparts : parts = request (availableTargetNamesArgs availableTargetNames)
      (conditionValuesArgs shardingValue))
    (hexpected : ∀ c ∈ expected, c.toNat < 128)
    (hlength : parts.length + expected.length < bufferSize) :
    wasmDoSharding g availableTargetNames shardingValue = some (units expected) ↔
      ∃ table, tableName parts = some table ∧
        parts.length + (toUtf8 table).length ≤ bufferSize ∧
        (toUtf8 table).takeWhile (· ≠ 0) = ascii expected := by
  have hbytes : (ascii expected).length = expected.length := List.length_map _
  have hmap : Function.Injective (List.map toChar) := List.map_injective_iff.mpr toChar_injective
  rw [wasmDoSharding_eq g hparts (by omega), units_eq_ascii hexpected]
  cases htable : tableName parts with
  | none => simp
  | some table =>
    rw [Option.bind_some]
    simp only [Option.some.injEq, exists_eq_left']
    by_cases hfits : parts.length + (toUtf8 table).length ≤ bufferSize
    · rw [if_pos hfits, and_iff_right hfits]
      by_cases hzero : 0 ∈ toUtf8 table
      · rw [before_append _ hzero, Option.map_some, Option.some.injEq, hmap.eq_iff]
      · have hall : (toUtf8 table).takeWhile (· ≠ 0) = toUtf8 table := by
          refine List.takeWhile_eq_self_iff.mpr (fun b hb => ?_)
          rw [decide_eq_true_eq]
          rintro rfl
          exact hzero hb
        rw [before_append_of_not_mem _ hzero, hall]
        constructor
        · intro h
          obtain ⟨bytes, hread, hmapped⟩ := Option.map_eq_some_iff.mp h
          obtain ⟨rest, hrest, rfl⟩ := Option.map_eq_some_iff.mp hread
          have htext := hmap hmapped
          have hlengths := congrArg List.length htext
          rw [List.length_append, hbytes] at hlengths
          rw [before_replicate (by omega)] at hrest
          obtain rfl := Option.some.inj hrest
          rwa [List.append_nil] at htext
        · intro h
          have hlengths := congrArg List.length h
          rw [before_replicate (by omega), h]
          simp
    · rw [if_neg hfits]
      exact iff_of_false (by simp) (fun h => hfits h.1)

theorem takeWhile_ascii {cs : List Char} (h : ∀ c ∈ cs, c.toNat < 128) :
    (ascii cs).takeWhile (· ≠ 0) = ascii (cs.takeWhile (· ≠ '\x00')) := by
  induction cs with
  | nil => rfl
  | cons c cs ih =>
    obtain ⟨hc, hcs⟩ := List.forall_mem_cons.mp h
    have hzero : UInt8.ofNat c.toNat = 0 ↔ c = '\x00' := by
      rw [← UInt8.toNat_inj, toNat_ascii hc]
      exact ⟨fun h => Char.toNat_inj.mp h, fun h => congrArg Char.toNat h⟩
    change (UInt8.ofNat c.toNat :: ascii cs).takeWhile _ = _
    by_cases hnul : c = '\x00'
    · simp [hnul, ascii]
    · have hascii := congrArg (UInt8.ofNat c.toNat :: ·) (ih hcs)
      simpa [List.takeWhile_cons, hzero, hnul, ascii] using hascii

theorem ascii_injective {cs ds : List Char} (hcs : ∀ c ∈ cs, c.toNat < 128)
    (hds : ∀ c ∈ ds, c.toNat < 128) (h : ascii cs = ascii ds) : cs = ds := by
  rw [← fromUtf8Lossy_ascii hcs, h, fromUtf8Lossy_ascii hds]

theorem ascii_shard (htable : Plain table) (n : ℕ) : ∀ c ∈ shard table n, c.toNat < 128 := by
  intro c hc
  rw [shard, List.mem_append, List.mem_cons] at hc
  obtain hc | rfl | hc := hc
  · exact (htable c hc).1
  · decide
  · exact (plain_toDigits _ c hc).1

theorem length_shard (table : List Char) (n : ℕ) : (shard table n).length = table.length + 2 := by
  have hlt : n % shardingCount < 10 := Nat.lt_trans (Nat.mod_lt n (by decide)) (by decide)
  rw [shard, Nat.toDigits_of_lt_base hlt, List.length_append]
  rfl

theorem nul_mem_shard (table : List Char) (n : ℕ) :
    '\x00' ∈ shard table n ↔ '\x00' ∈ table := by
  have hdigits : '\x00' ∉ Nat.toDigits 10 (n % shardingCount) := by
    intro h
    cases Nat.isDigit_of_mem_toDigits (by decide) (by decide) h
  simp [shard, hdigits]

theorem shard_injective {table : List Char} {m n : ℕ} (h : shard table m = shard table n) :
    m % shardingCount = n % shardingCount := by
  have hdigits := List.tail_eq_of_cons_eq (List.append_cancel_left h)
  rw [← digitsFrom_toDigits (m % shardingCount), hdigits, digitsFrom_toDigits]

theorem takeWhile_shard (h : '\x00' ∉ table) (n : ℕ) :
    (shard table n).takeWhile (· ≠ '\x00') = shard table n := by
  refine List.takeWhile_eq_self_iff.mpr (fun c hc => ?_)
  rw [decide_eq_true_eq]
  rintro rfl
  exact h ((nul_mem_shard table n).mp hc)

/-- The name is read back as another one with the same table if it has no zero in it, and the
numbers are the same. -/
theorem takeWhile_shard_eq (table : List Char) (m n : ℕ) :
    (shard table m).takeWhile (· ≠ '\x00') = shard table n ↔
      '\x00' ∉ table ∧ m % shardingCount = n % shardingCount := by
  constructor
  · intro h
    have hnul : '\x00' ∉ table := by
      rw [← nul_mem_shard table n, ← h]
      intro hmem
      simpa using List.mem_takeWhile_imp hmem
    exact ⟨hnul, shard_injective ((takeWhile_shard hnul m).symm.trans h)⟩
  · rintro ⟨hnul, hmod⟩
    rw [takeWhile_shard hnul, shard, shard, hmod]

def query (column table : List Char) (v : ℕ) : PreciseShardingValue :=
  ⟨units table, units column, units (Nat.toDigits 10 v)⟩

theorem conditionValuesArgs_query (column table : List Char) (v : ℕ) :
    conditionValuesArgs (query column table v) = units (conditionFor column table v) := by
  simp [conditionValuesArgs, query, conditionFor, condition, units, comma]

/-- The request, the result and a zero at its end fit into the buffer. -/
def Fits (availableTargetNames : List Text) (column table : List Char) (v : ℕ) : Prop :=
  (request (availableTargetNamesArgs availableTargetNames)
    (conditionValuesArgs (query column table v))).length + (shard table v).length + 1 ≤ bufferSize

/-- The table has no zero in its name, and the digits that the guest sees make up a byte with the
same rest as the value. -/
def Seen (column table : List Char) (v : ℕ) : Prop :=
  '\x00' ∉ table ∧ unseen column table v < (Nat.toDigits 10 v).length ∧
    v / 10 ^ unseen column table v ≤ 255 ∧
    v / 10 ^ unseen column table v % shardingCount = v % shardingCount

theorem seen_iff_of_short {v : ℕ} (h : (conditionFor column table v).length ≤ 255) :
    Seen column table v ↔ '\x00' ∉ table ∧ v ≤ 255 := by
  have hunseen : unseen column table v = 0 := by
    rw [unseen, Nat.div_eq_of_lt (by omega)]
  rw [Seen, hunseen, Nat.pow_zero, Nat.div_one]
  constructor
  · rintro ⟨hnul, -, hv, -⟩
    exact ⟨hnul, hv⟩
  · rintro ⟨hnul, hv⟩
    exact ⟨hnul, Nat.length_toDigits_pos, hv, rfl⟩

theorem takeWhile_shard_ascii (htable : Plain table) (m n : ℕ) :
    (toUtf8 (shard table m)).takeWhile (· ≠ 0) = ascii (shard table n) ↔
      '\x00' ∉ table ∧ m % shardingCount = n % shardingCount := by
  rw [toUtf8_ascii (ascii_shard htable m), takeWhile_ascii (ascii_shard htable m),
    ← takeWhile_shard_eq]
  constructor
  · exact ascii_injective (fun c hc => ascii_shard htable m c (List.takeWhile_subset _ hc))
      (ascii_shard htable n)
  · intro h
    rw [h]

/-- The condition that a guest meets among the names if their length is no byte: its own length,
which is a character of the names, then an `x`, the name of the table, a number with the same rest
as the value, and perhaps more. Of the name of the table only what comes before a zero counts. -/
def Disguised (targetNames : Text) (column table : List Char) (v : ℕ) : Prop :=
  ∃ length bytes x y n fields w,
    (targetNames.drop (targetNames.length % 256)).map UInt16.toUInt8 ++
      UInt8.ofNat (conditionFor column table v).length :: ascii (conditionFor column table v) =
        length :: bytes ∧
    length.toNat ≤ bytes.length ∧
    (fromUtf8Lossy (bytes.take length.toNat)).splitOn ',' = x :: y :: n :: fields ∧
    parseU8 n = some w ∧
    targetNames.length + (conditionFor column table v).length + 2 + (toUtf8 (shard y w)).length ≤
      bufferSize ∧
    (toUtf8 (shard y w)).takeWhile (· ≠ 0) = ascii (shard table v)

/-- What comes out for the digits that the guest sees, if the length of the names is a byte. -/
theorem answer_iff_seen {targetNames : Text} (hnames : targetNames.length ≤ 255)
    (hcolumn : Plain column) (htable : Plain table) (v : ℕ)
    (hfits : (request targetNames (units (conditionFor column table v))).length +
      (shard table v).length < bufferSize) :
    (∃ name, tableName (request targetNames (units (conditionFor column table v))) = some name ∧
      (request targetNames (units (conditionFor column table v))).length + (toUtf8 name).length ≤
        bufferSize ∧
      (toUtf8 name).takeWhile (· ≠ 0) = ascii (shard table v)) ↔ Seen column table v := by
  rw [tableName_request hnames hcolumn htable]
  split
  · rename_i hseen
    have hlength : (toUtf8 (shard table (v / 10 ^ unseen column table v))).length =
        (shard table v).length := by
      rw [toUtf8_ascii (ascii_shard htable _), ascii, List.length_map, length_shard, length_shard]
    simp only [Option.some.injEq, exists_eq_left', hlength, takeWhile_shard_ascii htable]
    constructor
    · rintro ⟨-, hnul, hmod⟩
      exact ⟨hnul, hseen.1, hseen.2, hmod⟩
    · rintro ⟨hnul, -, -, hmod⟩
      exact ⟨Nat.le_of_lt hfits, hnul, hmod⟩
  · rename_i hseen
    exact iff_of_false (by simp) (fun h => hseen ⟨h.2.1, h.2.2.1⟩)

theorem answer_iff_disguised (targetNames : Text) (column table : List Char) (v : ℕ) :
    (∃ name, tableName (request targetNames (units (conditionFor column table v))) = some name ∧
      (request targetNames (units (conditionFor column table v))).length + (toUtf8 name).length ≤
        bufferSize ∧
      (toUtf8 name).takeWhile (· ≠ 0) = ascii (shard table v)) ↔
        Disguised targetNames column table v := by
  have hlength : (units (conditionFor column table v)).length =
      (conditionFor column table v).length := List.length_map _
  rw [length_request, hlength]
  constructor
  · rintro ⟨name, hname, hfits, htext⟩
    obtain ⟨x, y, n, fields, w, hvalues, hw, rfl⟩ := tableName_eq_some.mp hname
    obtain ⟨length, bytes, hrest⟩ := List.exists_cons_of_ne_nil (List.append_ne_nil_of_right_ne_nil
      ((targetNames.drop (targetNames.length % 256)).map UInt16.toUInt8)
      (List.cons_ne_nil (UInt8.ofNat (units (conditionFor column table v)).length)
        ((units (conditionFor column table v)).map UInt16.toUInt8)))
    rw [conditionValues_request hrest] at hvalues
    obtain ⟨hle, hvalues⟩ := Option.ite_none_right_eq_some.mp hvalues
    rw [hlength, toUInt8_units] at hrest
    exact ⟨length, bytes, x, y, n, fields, w, hrest, hle, Option.some.inj hvalues, hw, hfits, htext⟩
  · rintro ⟨length, bytes, x, y, n, fields, w, hrest, hle, hvalues, hw, hfits, htext⟩
    rw [← hlength, ← toUInt8_units] at hrest
    refine ⟨shard y w, tableName_eq_some.mpr ⟨x, y, n, fields, w, ?_, hw, rfl⟩, hfits, htext⟩
    rw [conditionValues_request hrest, if_pos hle, hvalues]

/-- The table of the value is found if the guest finds the condition and sees enough of it, or if
it finds one among the names that gives the same table. -/
theorem doSharding_iff (g : Guest) (availableTargetNames : List Text)
    (column table : List Char) (v : ℕ) (hcolumn : Plain column) (htable : Plain table)
    (hfits : Fits availableTargetNames column table v) :
    doSharding g availableTargetNames (query column table v) = some (units (shard table v)) ↔
      if (availableTargetNamesArgs availableTargetNames).length ≤ 255 then Seen column table v
      else Disguised (availableTargetNamesArgs availableTargetNames) column table v := by
  have hparts := congrArg (request (availableTargetNamesArgs availableTargetNames))
    (conditionValuesArgs_query column table v)
  rw [Fits, hparts] at hfits
  rw [doSharding, wasmDoSharding_iff g hparts.symm (ascii_shard htable v) hfits]
  split
  · rename_i hnames
    exact answer_iff_seen hnames hcolumn htable v hfits
  · exact answer_iff_disguised _ column table v

def smallGuest : Guest where
  memory := List.replicate bufferSize 0
  addr := 0
  inside := by
    rw [List.length_replicate, Nat.zero_add]

/-- The tables `t_0`, `t_1` and `t_2`. -/
def tables : List Text := [units ['t', '_', '0'], units ['t', '_', '1'], units ['t', '_', '2']]

theorem plain_id : Plain ['i', 'd'] := by simp [Plain]

theorem plain_t : Plain ['t'] := by simp [Plain]

theorem fits_tables : Fits tables ['i', 'd'] ['t'] 7 ∧ Fits tables ['i', 'd'] ['t'] 256 := by
  unfold Fits
  decide

theorem seen_seven : Seen ['i', 'd'] ['t'] 7 := (seen_iff_of_short (by decide)).mpr (by decide)

theorem seven_is_sharded :
    doSharding smallGuest tables (query ['i', 'd'] ['t'] 7) = some (units ['t', '_', '1']) := by
  refine (doSharding_iff smallGuest tables ['i', 'd'] ['t'] 7 plain_id plain_t fits_tables.1).mpr ?_
  rw [if_pos (by decide)]
  exact seen_seven

/-- The guest panics at the first value that is not a byte. -/
theorem not_all_sharded : ¬ ∀ (g : Guest) (availableTargetNames : List Text)
    (column table : List Char) (v : ℕ), Plain column → Plain table →
      Fits availableTargetNames column table v →
        doSharding g availableTargetNames (query column table v) = some (units (shard table v)) := by
  intro h
  have hsharded := h smallGuest tables ['i', 'd'] ['t'] 256 plain_id plain_t fits_tables.2
  have hname : tableName (request (availableTargetNamesArgs tables)
      (conditionValuesArgs (query ['i', 'd'] ['t'] 256))) = none := by
    rw [conditionValuesArgs_query, tableName_request (by decide) plain_id plain_t]
    rfl
  obtain ⟨name, hfound, -⟩ := (wasmDoSharding_iff smallGuest rfl (ascii_shard plain_t 256)
    fits_tables.2).mp hsharded
  cases hname.symm.trans hfound

end Results

end ShardingOnCloud.Wasm.ModuloTable
