import ShardingOnCloud.Lib.Strconv
import ShardingOnCloud.Operator.ChaosTypes

namespace ShardingOnCloud.Operator.ChaosMesh

open ShardingOnCloud.Lib.Strconv
open ShardingOnCloud.Operator.ComputeNodeTypes (Labels)
open ShardingOnCloud.Operator.ChaosTypes

/-- The constants of the chaos-mesh API. The actions are pairwise different and spelled in small
letters, so that none is one of the names that the operator uses. -/
structure MeshActions where
  podKillAction : String
  podFailureAction : String
  containerKillAction : String
  delayAction : String
  lossAction : String
  duplicateAction : String
  corruptAction : String
  partitionAction : String
  bandwidthAction : String
  pod_nodup : [podKillAction, podFailureAction, containerKillAction].Nodup
  network_nodup : [delayAction, lossAction, duplicateAction, corruptAction, partitionAction,
    bandwidthAction].Nodup
  podKill_small : podKillAction ∉ [podKill.text, podFailure.text, containerKill.text]
  bandwidth_small : bandwidthAction ∉ [bandwidth.text, delay.text]

def MeshActions.documented : MeshActions where
  podKillAction := "pod-kill"
  podFailureAction := "pod-failure"
  containerKillAction := "container-kill"
  delayAction := "delay"
  lossAction := "loss"
  duplicateAction := "duplicate"
  corruptAction := "corrupt"
  partitionAction := "partition"
  bandwidthAction := "bandwidth"
  pod_nodup := by decide
  network_nodup := by decide
  podKill_small := by decide
  bandwidth_small := by decide

section Objects

inductive MeshConditionType
  | selected
  | allInjected
  | allRecovered
  | paused
  deriving DecidableEq, Repr

inductive DesiredPhase
  | running
  | stopped
  deriving DecidableEq, Repr

/-- The status that chaos-mesh reports, with the conditions that are true or not. -/
structure MeshStatus where
  conditions : List (MeshConditionType × Bool) := []
  desiredPhase : Option DesiredPhase := none
  deriving DecidableEq, Repr

/-- A selector of chaos-mesh: that of the operator, and how many of the pods are taken. -/
structure MeshSelector where
  selector : PodSelector := {}
  mode : String := ""
  value : String := ""
  deriving DecidableEq

structure ContainerSelector where
  podSelector : MeshSelector := {}
  containerNames : List String := []
  deriving DecidableEq

structure ObjectMeta where
  name : String
  nameSpace : String
  labels : Labels
  deriving DecidableEq

structure PodChaosObjSpec where
  containerSelector : ContainerSelector := {}
  action : String
  duration : Option String := none
  gracePeriod : Int := 0
  deriving DecidableEq

structure PodChaos where
  objectMeta : ObjectMeta
  spec : PodChaosObjSpec
  status : MeshStatus := {}
  deriving DecidableEq

structure BandwidthSpec where
  rate : String := ""
  limit : ℕ := 0
  buffer : ℕ := 0
  peakrate : Option ℕ := none
  minburst : Option ℕ := none
  deriving DecidableEq, Repr

structure TcParameter where
  delay : Option DelayParams := none
  loss : Option LossParams := none
  duplicate : Option DuplicationParams := none
  corrupt : Option CorruptionParams := none
  bandwidth : Option BandwidthSpec := none
  deriving DecidableEq, Repr

structure NetworkChaosObjSpec where
  podSelector : MeshSelector := {}
  action : String
  device : String := ""
  duration : Option String := none
  direction : String
  target : Option MeshSelector := none
  targetDevice : String := ""
  tcParameter : TcParameter := {}
  deriving DecidableEq

structure NetworkChaos where
  objectMeta : ObjectMeta
  spec : NetworkChaosObjSpec
  status : MeshStatus := {}
  deriving DecidableEq

structure CPUStressor where
  workers : Int
  load : Int
  deriving DecidableEq, Repr

structure MemoryStressor where
  workers : Int
  size : String
  oomScoreAdj : Int
  options : List String
  deriving DecidableEq, Repr

structure StressChaosObjSpec where
  containerSelector : ContainerSelector := {}
  cpuStressor : Option CPUStressor := none
  memoryStressor : Option MemoryStressor := none
  duration : Option String := none
  deriving DecidableEq

structure StressChaos where
  objectMeta : ObjectMeta
  spec : StressChaosObjSpec
  status : MeshStatus := {}
  deriving DecidableEq

end Objects

section Build

def annoPodSelectorMode : String := "selector.chaos-mesh.org/mode"
def annoPodSelectorValue : String := "selector.chaos-mesh.org/value"
def annoTargetPodSelectorMode : String := "target-selector.chaos-mesh.org/mode"
def annoTargetPodSelectorValue : String := "target-selector.chaos-mesh.org/value"
def annoStressTime : String := "stresschaos.chaos-mesh.org/time"
def annoStressOOMScoreAdj : String := "stresschaos.chaos-mesh.org/oomScoreAdj"
def annoNetworkDevice : String := "networkchaos.chaos-mesh.org/device"
def annoNetworkTargetDevice : String := "networkchaos.chaos-mesh.org/targetDevice"
def annoNetworkBandwidthRate : String := "networkchaos.chaos-mesh.org/bandwidth:rate"
def annoNetworkBandwidthLimit : String := "networkchaos.chaos-mesh.org/bandwidth:limit"
def annoNetworkBandwidthBuffer : String := "networkchaos.chaos-mesh.org/bandwidth:buffer"
def annoNetworkBandwidthPeakrate : String := "networkchaos.chaos-mesh.org/bandwidth:peakrate"
def annoNetworkBandwidthMinBurst : String := "networkchaos.chaos-mesh.org/bandwidth:minburst"

variable (m : MeshActions)

def defaultPodChaos : PodChaos where
  objectMeta := ⟨"shardingsphere-proxy", "default", ∅⟩
  spec := { action := m.containerKillAction, duration := some "1m" }

def defaultNetworkChaos : NetworkChaos where
  objectMeta := ⟨"shardingsphere-proxy", "default", ∅⟩
  spec := { action := m.partitionAction, direction := "to" }

def objectMetaOf (ssChao : Chaos) : ObjectMeta := ⟨ssChao.name, ssChao.nameSpace, ssChao.labels⟩

/-- `SetAction` of the builder of a PodChaos. The last comparison is with the name that
chaos-mesh has for the action. -/
def setPodAction (action : String) (cur : String) : String :=
  let cur := if (⟨action⟩ : PodChaosAction) = podFailure then m.podFailureAction else cur
  let cur := if (⟨action⟩ : PodChaosAction) = containerKill then m.containerKillAction else cur
  if action = m.podKillAction then m.podKillAction else cur

/-- `SetAction` of the builder of a NetworkChaos. The first comparison is with the name that
chaos-mesh has for the action. -/
def setNetworkAction (action : String) (cur : String) : String :=
  let cur := if action = m.bandwidthAction then m.bandwidthAction else cur
  let cur := if (⟨action⟩ : NetworkChaosAction) = corruption then m.corruptAction else cur
  let cur := if (⟨action⟩ : NetworkChaosAction) = partition then m.partitionAction else cur
  let cur := if (⟨action⟩ : NetworkChaosAction) = loss then m.lossAction else cur
  if (⟨action⟩ : NetworkChaosAction) = duplication then m.duplicateAction else cur

def podSelectorOf (ssChao : Chaos) (selector : PodSelector) : MeshSelector where
  selector := selector
  mode := ssChao.annotation annoPodSelectorMode
  value := ssChao.annotation annoPodSelectorValue

/-- The parameters of the action. There is none where the code dereferences a nil pointer. -/
def setPodParams (chao : PodChaosSpec) (spec : PodChaosObjSpec) : Option PodChaosObjSpec :=
  if chao.action = podKill then do
    let p ← chao.params.podKill
    return { spec with gracePeriod := p.gracePeriod }
  else if chao.action = podFailure then do
    let p ← chao.params.podFailure
    return { spec with duration := p.duration }
  else if chao.action = containerKill then do
    let p ← chao.params.containerKill
    return { spec with
      containerSelector := { spec.containerSelector with containerNames := p.containerNames } }
  else some spec

/-- `NewPodChaos`, with no result where it panics. -/
def newPodChaos (ssChao : Chaos) : Option PodChaos := do
  let chao ← ssChao.spec.podChaos
  let default := defaultPodChaos m
  let spec ← setPodParams chao
    { default.spec with
      action := setPodAction m chao.action.text default.spec.action
      containerSelector := { podSelector := podSelectorOf ssChao chao.selector } }
  return { default with objectMeta := objectMetaOf ssChao, spec := spec }

/-- A number of an annotation as an unsigned one of `bits` bits. -/
def parseUint (bits : ℕ) (s : String) : Option ℕ :=
  match parseInt bits s with
  | (n, none) => some (n % 2 ^ bits).toNat
  | (_, some _) => none

def bandwidthOf (ssChao : Chaos) : BandwidthSpec where
  rate := ssChao.annotation annoNetworkBandwidthRate
  limit := (parseUint 32 (ssChao.annotation annoNetworkBandwidthLimit)).getD 0
  buffer := (parseUint 32 (ssChao.annotation annoNetworkBandwidthBuffer)).getD 0
  peakrate := parseUint 64 (ssChao.annotation annoNetworkBandwidthPeakrate)
  minburst := parseUint 32 (ssChao.annotation annoNetworkBandwidthMinBurst)

def networkParams (ssChao : Chaos) (chao : NetworkChaosSpec) : Option TcParameter :=
  if chao.action = delay then chao.params.delay.map (fun p => { delay := some p })
  else if chao.action = corruption then
    chao.params.corruption.map (fun p => { corrupt := some p })
  else if chao.action = duplication then
    chao.params.duplication.map (fun p => { duplicate := some p })
  else if chao.action = loss then chao.params.loss.map (fun p => { loss := some p })
  else if chao.action = bandwidth then some { bandwidth := some (bandwidthOf ssChao) }
  else some {}

/-- `NewNetworkChaos`, with no result where it panics: also without a target. -/
def newNetworkChaos (ssChao : Chaos) : Option NetworkChaos := do
  let chao ← ssChao.spec.networkChaos
  let tcParams ← networkParams ssChao chao
  let target ← chao.target
  let default := defaultNetworkChaos m
  return { default with
    objectMeta := objectMetaOf ssChao
    spec :=
      { action := setNetworkAction m chao.action.text default.spec.action
        duration := chao.duration
        direction := chao.direction
        podSelector := podSelectorOf ssChao chao.source
        target := some
          { selector := target
            mode := ssChao.annotation annoTargetPodSelectorMode
            value := ssChao.annotation annoTargetPodSelectorValue }
        device := ssChao.annotation annoNetworkDevice
        targetDevice := ssChao.annotation annoNetworkTargetDevice
        tcParameter := tcParams } }

def setCPUStressParams (chao : PodChaosSpec) (spec : StressChaosObjSpec) :
    Option StressChaosObjSpec := do
  let p ← chao.params.cpuStress
  return { spec with cpuStressor := some ⟨p.cores, p.load⟩, duration := some p.duration }

def setMemoryStressParams (sschaos : Chaos) (chao : PodChaosSpec) (spec : StressChaosObjSpec) :
    Option (Except String StressChaosObjSpec) :=
  let oom : Except String Int :=
    match sschaos.annotations.lookup annoStressOOMScoreAdj with
    | none => .ok 0
    | some adj =>
      match atoi adj with
      | (n, none) => .ok n
      | (_, some e) => .error (numError "Atoi" adj e)
  match oom with
  | .error err => some (.error err)
  | .ok oom => do
    let p ← chao.params.memoryStress
    return .ok
      { spec with
        memoryStressor := some
          ⟨p.workers, p.consumption, oom, [sschaos.annotation annoStressTime]⟩
        duration := some p.duration }

/-- `NewStressChaos`, with no result where it panics. -/
def newStressChaos (chaos : Chaos) : Option (Except String StressChaos) := do
  let chao ← chaos.spec.podChaos
  let spec : StressChaosObjSpec :=
    { containerSelector := { podSelector := podSelectorOf chaos chao.selector } }
  let spec ← if chao.action = cpuStress then (setCPUStressParams chao spec).map .ok
    else if chao.action = memoryStress then setMemoryStressParams chaos chao spec
    else some (.ok spec)
  return spec.map (fun spec => { objectMeta := objectMetaOf chaos, spec := spec })

end Build

section Status

def holds (status : MeshStatus) (t : MeshConditionType) : Bool :=
  ((status.conditions.reverse.find? (·.1 = t)).map Prod.snd).getD false

def judgeCondition (status : MeshStatus) : ChaosCondition :=
  if holds status .paused then
    if holds status .selected then .paused else .noTarget
  else if holds status .selected ∧ holds status .allRecovered ∧
      status.desiredPhase = some .stopped then .allRecovered
  else if holds status .selected ∧ holds status .allInjected ∧
      status.desiredPhase = some .running then .allInjected
  else .unknown

def convertChaosStatus (status : Option MeshStatus) : ChaosCondition :=
  (status.map judgeCondition).getD .unknown

end Status

end ShardingOnCloud.Operator.ChaosMesh
