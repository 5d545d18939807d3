import ShardingOnCloud.Lib.JavaNumbers
import ShardingOnCloud.Wasm.Sharding

namespace ShardingOnCloud.Wasm.ModSharding

open ShardingOnCloud.Lib.JavaNumbers
open ShardingOnCloud.Wasm.Sharding hiding shardingCount doSharding PreciseShardingValue

section Values

inductive Exn
  | numberFormat
  | stringIndexOutOfBounds
  | arithmetic
  | illegalState
  deriving DecidableEq, Repr

abbrev Java := Except Exn

def parsed : Option ℤ → Java ℤ
  | some n => .ok n
  | none => .error .numberFormat

structure DataNodeInfo where
  namePrefix : Text
  suffixMinLength : ℤ
  paddingChar : UInt16
  deriving DecidableEq, Repr

/-- A value to shard by: an integer of any class, or a string. -/
inductive Value
  | number (n : ℤ)
  | text (t : Text)
  deriving DecidableEq, Repr

def Value.toString : Value → Text
  | .number n => toText n
  | .text t => t

inductive BoundType
  | opened
  | closed
  deriving DecidableEq, Repr

structure Range (α : Type) where
  lower : Option (α × BoundType) := none
  upper : Option (α × BoundType) := none
  deriving DecidableEq, Repr

def above : Option (ℤ × BoundType) → ℤ → Prop
  | none, _ => True
  | some (lower, .closed), n => lower ≤ n
  | some (lower, .opened), n => lower < n

def below : Option (ℤ × BoundType) → ℤ → Prop
  | none, _ => True
  | some (upper, .closed), n => n ≤ upper
  | some (upper, .opened), n => n < upper

def Range.Contains (range : Range ℤ) (n : ℤ) : Prop := above range.lower n ∧ below range.upper n

def Range.map {α β : Type} (f : α → β) (range : Range α) : Range β :=
  ⟨range.lower.map (Prod.map f id), range.upper.map (Prod.map f id)⟩

/-- What is used of Guava, with its documented behaviour. -/
structure Guava where
  padStart : Text → ℤ → UInt16 → Text
  hasLowerBound : {α : Type} → Range α → Bool
  hasUpperBound : {α : Type} → Range α → Bool
  lowerEndpoint : {α : Type} → Range α → Java α
  upperEndpoint : {α : Type} → Range α → Java α
  padStart_eq : ∀ t n c, padStart t n c = List.leftpad n.toNat c t
  hasLowerBound_eq : ∀ {α : Type} (range : Range α), hasLowerBound range = range.lower.isSome
  hasUpperBound_eq : ∀ {α : Type} (range : Range α), hasUpperBound range = range.upper.isSome
  lowerEndpoint_some : ∀ {α : Type} (e : α) b upper, lowerEndpoint ⟨some (e, b), upper⟩ = .ok e
  lowerEndpoint_none : ∀ {α : Type} (upper : Option (α × BoundType)),
    lowerEndpoint ⟨none, upper⟩ = .error .illegalState
  upperEndpoint_some : ∀ {α : Type} (e : α) b lower, upperEndpoint ⟨lower, some (e, b)⟩ = .ok e
  upperEndpoint_none : ∀ {α : Type} (lower : Option (α × BoundType)),
    upperEndpoint ⟨lower, none⟩ = .error .illegalState

structure PreciseShardingValue where
  dataNodeInfo : DataNodeInfo
  value : Value
  deriving DecidableEq, Repr

structure RangeShardingValue where
  dataNodeInfo : DataNodeInfo
  valueRange : Range Value
  deriving DecidableEq, Repr

/-- `String.substring`. -/
def substring (t : Text) (i j : ℤ) : Java Text :=
  if 0 ≤ i ∧ i ≤ j ∧ j ≤ t.length then .ok ((t.drop i.toNat).take (j - i).toNat)
  else .error .stringIndexOutOfBounds

/-- `BigInteger.mod`. -/
def mod (n m : ℤ) : Java ℤ := if m ≤ 0 then .error .arithmetic else .ok (n % m)

end Values

structure ModShardingAlgorithm where
  shardingCount : ℤ
  startOffset : ℤ
  stopOffset : ℤ
  zeroPadding : Bool
  maxPaddingSize : ℕ
  deriving DecidableEq, Repr

section Configuration

variable (D : Numerals)

abbrev Properties := String → Option Text

def getShardingCount (props : Properties) : Java ℤ :=
  parsed ((props "sharding-count").bind (parseInt D))

def getStartOffset (props : Properties) : Java ℤ :=
  parsed (parseInt D ((props "start-offset").getD (units ['0'])))

def getStopOffset (props : Properties) : Java ℤ :=
  parsed (parseInt D ((props "stop-offset").getD (units ['0'])))

def lowerCase (u : UInt16) : UInt16 := if 65 ≤ u ∧ u ≤ 90 then u + 32 else u

/-- `Boolean.parseBoolean` ignores the case of the letters. -/
def isZeroPadding (props : Properties) : Bool :=
  ((props "zero-padding").getD (units "false".toList)).map lowerCase = units "true".toList

def paddingLoop (result : ℕ) (calculatingShardingCount : ℤ) : ℕ :=
  if calculatingShardingCount = 0 then result
  else paddingLoop (result + 1) (calculatingShardingCount.tdiv 10)
termination_by calculatingShardingCount.natAbs
decreasing_by
  rw [Int.natAbs_tdiv]
  exact Nat.div_lt_self (by omega) (by decide)

def calculateMaxPaddingSize (shardingCount : ℤ) : ℕ :=
  max (paddingLoop 0 (intValue (shardingCount - 1))) 1

def configure (shardingCount startOffset stopOffset : ℤ) (zeroPadding : Bool) :
    ModShardingAlgorithm where
  shardingCount := shardingCount
  startOffset := startOffset
  stopOffset := stopOffset
  zeroPadding := zeroPadding
  maxPaddingSize := calculateMaxPaddingSize shardingCount

def init (props : Properties) : Java ModShardingAlgorithm := do
  let shardingCount ← getShardingCount D props
  let startOffset ← getStartOffset D props
  let stopOffset ← getStopOffset D props
  return configure shardingCount startOffset stopOffset (isZeroPadding props)

end Configuration

section Routing

variable (D : Numerals) (G : Guava) (a : ModShardingAlgorithm)

def fillZero (value : Text) : Java Text := do
  let n ← parsed (parseInt D value)
  return format D a.maxPaddingSize n

def getShardingResultSuffix (shardingResultSuffix : Text) : Java Text :=
  if a.zeroPadding then fillZero D a shardingResultSuffix else .ok shardingResultSuffix

/-- The classes of the integers are numbers, whose `longValue` is taken. -/
def getBigInteger : Value → Java ℤ
  | .number n => .ok (longValue n)
  | .text t => parsed (bigInteger D t)

def cutShardingValue (shardingValue : Value) : Java ℤ :=
  if a.startOffset = 0 ∧ a.stopOffset = 0 then getBigInteger D shardingValue
  else do
    let t := shardingValue.toString
    let cut ← substring t a.startOffset (intValue (t.length - a.stopOffset))
    parsed (bigInteger D cut)

def findMatchedTargetName (availableTargetNames : List Text) (suffix : Text)
    (dataNodeInfo : DataNodeInfo) : Option Text :=
  let targetName := dataNodeInfo.namePrefix ++
    G.padStart suffix dataNodeInfo.suffixMinLength dataNodeInfo.paddingChar
  if targetName ∈ availableTargetNames then some targetName else none

def doSharding (availableTargetNames : List Text) (shardingValue : PreciseShardingValue) :
    Java (Option Text) := do
  let n ← cutShardingValue D a shardingValue.value
  let r ← mod n a.shardingCount
  let shardingResultSuffix ← getShardingResultSuffix D a (toText r)
  return findMatchedTargetName G availableTargetNames shardingResultSuffix
    shardingValue.dataNodeInfo

def containsAllTargets (range : Range Value) : Java Bool :=
  if !G.hasUpperBound range then .ok true
  else if G.hasLowerBound range then do
    let m ← getBigInteger D (← G.upperEndpoint range)
    let n ← getBigInteger D (← G.lowerEndpoint range)
    return intValue (a.shardingCount - 1) ≤ intValue (m - n)
  else .ok false

/-- `LinkedHashSet.add`. -/
def add (result : List Text) (target : Text) : List Text :=
  if target ∈ result then result else result ++ [target]

/-- The loop from `i` on, over as many values as are left. -/
def collect (availableTargetNames : List Text) (dataNodeInfo : DataNodeInfo) :
    ℕ → ℤ → List Text → Java (List Text)
  | 0, _, result => .ok result
  | left + 1, i, result => do
    let r ← mod i a.shardingCount
    let shardingResultSuffix ← getShardingResultSuffix D a (toText r)
    match findMatchedTargetName G availableTargetNames shardingResultSuffix dataNodeInfo with
    | some target => collect availableTargetNames dataNodeInfo left (i + 1) (add result target)
    | none => collect availableTargetNames dataNodeInfo left (i + 1) result

def getAvailableTargetNames (availableTargetNames : List Text)
    (shardingValue : RangeShardingValue) : Java (List Text) := do
  let lowerEndpoint ← G.lowerEndpoint shardingValue.valueRange
  let lower ← parsed (bigInteger D lowerEndpoint.toString)
  let upperEndpoint ← G.upperEndpoint shardingValue.valueRange
  let upper ← parsed (bigInteger D upperEndpoint.toString)
  collect D G a availableTargetNames shardingValue.dataNodeInfo (upper + 1 - lower).toNat lower []

def doShardingRange (availableTargetNames : List Text) (shardingValue : RangeShardingValue) :
    Java (List Text) := do
  if ← containsAllTargets D G a shardingValue.valueRange then return availableTargetNames
  else getAvailableTargetNames D G a availableTargetNames shardingValue

end Routing

end ShardingOnCloud.Wasm.ModSharding
