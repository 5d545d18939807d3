import ShardingOnCloud.Operator.ComputeNodeTypes

namespace ShardingOnCloud.Operator.ChaosTypes

open ShardingOnCloud.Operator.ComputeNodeTypes (Labels)

structure PodChaosAction where
  text : String
  deriving DecidableEq, Repr

def podFailure : PodChaosAction := ⟨"PodFailure"⟩
def containerKill : PodChaosAction := ⟨"ContainerKill"⟩
def podKill : PodChaosAction := ⟨"PodKill"⟩
def cpuStress : PodChaosAction := ⟨"CPUStress"⟩
def memoryStress : PodChaosAction := ⟨"MemoryStress"⟩

structure NetworkChaosAction where
  text : String
  deriving DecidableEq, Repr

def delay : NetworkChaosAction := ⟨"Delay"⟩
def loss : NetworkChaosAction := ⟨"Loss"⟩
def duplication : NetworkChaosAction := ⟨"Duplication"⟩
def corruption : NetworkChaosAction := ⟨"Corruption"⟩
def partition : NetworkChaosAction := ⟨"Partition"⟩
def bandwidth : NetworkChaosAction := ⟨"Bandwidth"⟩

structure LabelSelectorRequirement where
  key : String
  operator : String
  values : List String
  deriving DecidableEq, Repr

structure PodSelector where
  namespaces : List String := []
  labelSelectors : Labels := ∅
  annotationSelectors : Labels := ∅
  nodes : List String := []
  pods : Finmap (fun _ : String => List String) := ∅
  nodeSelectors : Labels := ∅
  expressionSelectors : List LabelSelectorRequirement := []
  deriving DecidableEq

structure PodFailureParams where
  duration : Option String
  deriving DecidableEq, Repr

structure ContainerKillParams where
  containerNames : List String
  deriving DecidableEq, Repr

structure CPUStressParams where
  duration : String
  cores : Int
  load : Int
  deriving DecidableEq, Repr

structure MemoryStressParams where
  duration : String
  workers : Int
  consumption : String
  deriving DecidableEq, Repr

structure PodKillParams where
  gracePeriod : Int
  deriving DecidableEq, Repr

structure PodChaosParams where
  podFailure : Option PodFailureParams := none
  containerKill : Option ContainerKillParams := none
  cpuStress : Option CPUStressParams := none
  memoryStress : Option MemoryStressParams := none
  podKill : Option PodKillParams := none
  deriving DecidableEq, Repr

structure PodChaosSpec where
  selector : PodSelector := {}
  action : PodChaosAction
  params : PodChaosParams := {}
  deriving DecidableEq

structure DelayParams where
  latency : String
  jitter : String
  deriving DecidableEq, Repr

structure LossParams where
  loss : String
  deriving DecidableEq, Repr

structure DuplicationParams where
  duplication : String
  deriving DecidableEq, Repr

structure CorruptionParams where
  corruption : String
  deriving DecidableEq, Repr

structure NetworkChaosParams where
  delay : Option DelayParams := none
  loss : Option LossParams := none
  duplication : Option DuplicationParams := none
  corruption : Option CorruptionParams := none
  deriving DecidableEq, Repr

structure NetworkChaosSpec where
  source : PodSelector := {}
  target : Option PodSelector := none
  action : NetworkChaosAction
  duration : Option String := none
  direction : String := ""
  params : NetworkChaosParams := {}
  deriving DecidableEq

structure EmbedChaos where
  networkChaos : Option NetworkChaosSpec := none
  podChaos : Option PodChaosSpec := none
  deriving DecidableEq

inductive ChaosCondition
  | unset
  | allRecovered
  | paused
  | allInjected
  | noTarget
  | unknown
  deriving DecidableEq, Repr

/-- The object, as far as the controller reads or writes it. -/
structure Chaos where
  name : String
  nameSpace : String
  labels : Labels := ∅
  annotations : Labels := ∅
  deletionTimestamp : Bool := false
  finalizers : List String := []
  spec : EmbedChaos := {}
  status : ChaosCondition := .unset
  deriving DecidableEq

/-- The annotation at a key, which is empty when there is none. -/
def Chaos.annotation (c : Chaos) (k : String) : String := (c.annotations.lookup k).getD ""

end ShardingOnCloud.Operator.ChaosTypes
