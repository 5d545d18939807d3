import ShardingOnCloud.Lib.LinearMemory
import ShardingOnCloud.Lib.RustText

namespace ShardingOnCloud.Wasm.Sharding

open ShardingOnCloud.Lib.LinearMemory ShardingOnCloud.Lib.RustText

section Texts

/-- A Java string: its code units. -/
abbrev Text := List UInt16

def units (cs : List Char) : Text := cs.map (fun c => UInt16.ofNat c.toNat)

/-- The conversion of a byte to a `char`, which keeps the sign. -/
def toChar (b : UInt8) : UInt16 := b.toInt8.toInt16.toUInt16

end Texts

/-- What a value is sharded by, with the value as `%s` prints it. -/
structure PreciseShardingValue where
  logicTableName : Text
  columnName : Text
  value : Text
  deriving DecidableEq, Repr

/-- The length of the array on the stack of the guest. -/
def bufferSize : ℕ := 1024

structure Guest where
  memory : List UInt8
  addr : ℕ
  inside : addr + bufferSize ≤ memory.length

section Host

def comma : UInt16 := 44

def availableTargetNamesArgs (availableTargetNames : List Text) : Text :=
  [comma].intercalate availableTargetNames

def conditionValuesArgs (s : PreciseShardingValue) : Text :=
  s.columnName ++ comma :: (s.logicTableName ++ comma :: s.value)

/-- What the host works on: the memory and the next offset in the buffer. -/
structure Host where
  memory : List UInt8
  offset : ℕ

/-- The callback `poll_table`. The lengths and the code units are cut down to bytes. -/
def pollTable (targetNames conditionValues : Text) (addr len : ℕ) (h : Host) :
    Option (ℕ × Host) := do
  let memory ← put h.memory addr (UInt8.ofNat targetNames.length)
  let memory ← putAll memory (addr + h.offset) (targetNames.map UInt16.toUInt8)
  let offset := h.offset + targetNames.length
  let memory ← put memory (addr + offset) (UInt8.ofNat conditionValues.length)
  let offset := offset + 1
  let memory ← putAll memory (addr + offset) (conditionValues.map UInt16.toUInt8)
  let offset := offset + conditionValues.length
  return (min offset len, ⟨memory, offset⟩)

end Host

section Guest

def shardingCount : ℕ := 3

/-- `parts[i..j]`. -/
def slice (parts : List UInt8) (i j : ℕ) : Option (List UInt8) :=
  if i ≤ j ∧ j ≤ parts.length then some ((parts.drop i).take (j - i)) else none

/-- The fields of the condition, which the two lengths lead to. An index out of bounds is a
panic. -/
def conditionValues (parts : List UInt8) : Option (List (List Char)) := do
  let targetNamesLength ← parts[0]?
  let conditionLength ← parts[1 + targetNamesLength.toNat]?
  let raw ← slice parts (2 + targetNamesLength.toNat)
    (2 + targetNamesLength.toNat + conditionLength.toNat)
  return (fromUtf8Lossy raw).splitOn ','

/-- The table that the guest finds for a request. It panics too if the value is not the numeral
of a byte. -/
def tableName (parts : List UInt8) : Option (List Char) := do
  let conditionValues ← conditionValues parts
  let columnValue ← conditionValues[2]?
  let columnValue ← parseU8 columnValue
  let sharding := columnValue % shardingCount
  let table ← conditionValues[1]?
  return table ++ '_' :: Nat.toDigits 10 sharding

/-- What the guest exports. Nothing is said about a result that goes past its buffer. -/
def doWork (pollTable : ℕ → ℕ → Host → Option (ℕ × Host)) (addr : ℕ) (h : Host) :
    Option Host := do
  let h := { h with memory := write h.memory addr (List.replicate bufferSize 0) }
  let (len, h) ← pollTable addr bufferSize h
  let table ← tableName ((h.memory.drop addr).take len)
  let bytes := toUtf8 table
  if len + bytes.length ≤ bufferSize then
    return { h with memory := write h.memory (addr + len) bytes }
  else none

end Guest

/-- The result is read from where the host has stopped writing. -/
def wasmDoSharding (g : Guest) (availableTargetNames : List Text)
    (shardingValue : PreciseShardingValue) : Option Text := do
  let h ← doWork (pollTable (availableTargetNamesArgs availableTargetNames)
    (conditionValuesArgs shardingValue)) g.addr ⟨g.memory, 1⟩
  let bytes ← before 0 (h.memory.drop (g.addr + h.offset))
  return bytes.map toChar

/-- The table for one value; for a range there is none. -/
def doSharding (g : Guest) (availableTargetNames : List Text)
    (shardingValue : PreciseShardingValue) : Option Text :=
  wasmDoSharding g availableTargetNames shardingValue

end ShardingOnCloud.Wasm.Sharding
