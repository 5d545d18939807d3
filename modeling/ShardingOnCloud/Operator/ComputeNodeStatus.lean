import ShardingOnCloud.Lib.Strconv
import ShardingOnCloud.Operator.ComputeNodeTypes

namespace ShardingOnCloud.Operator.ComputeNodeStatus

open ShardingOnCloud.Lib.Strconv ShardingOnCloud.Operator.ComputeNodeTypes

inductive PodPhase
  | unset
  | pending
  | running
  | succeeded
  | failed
  | unknown
  | other (phase : String)
  deriving DecidableEq, Repr

inductive PodConditionType
  | podScheduled
  | initialized
  | containersReady
  | ready
  | other (type : String)
  deriving DecidableEq, Repr

structure PodCondition where
  type : PodConditionType
  status : ConditionStatus

structure ContainerStatus where
  name : String
  ready : Bool

structure Pod where
  phase : PodPhase
  conditions : List PodCondition
  containerStatuses : List ContainerStatus

abbrev Clock := ConditionType → ℕ × ℕ

section Pods

def preferredType : PodConditionType → Option ConditionType
  | .podScheduled => some .deployed
  | .initialized => some .initialized
  | .containersReady => some .started
  | .ready => some .ready
  | .other _ => none

def getPreferedConditionFromPodConditions (pcs : List PodCondition) : List ConditionType :=
  pcs.filterMap (fun pc => if pc.status ≠ .condTrue then none else preferredType pc.type)

def getPreferedConditionFromPod (pod : Pod) : List ConditionType :=
  if pod.phase = .unknown then [.unknown]
  else
    let podConditions := getPreferedConditionFromPodConditions pod.conditions
    if pod.phase = .pending ∨ pod.phase = .running ∧ podConditions.length = 4 then
      .pending :: podConditions
    else if pod.phase = .failed then [.failed]
    else podConditions

def newCondition (clock : Clock) (t : ConditionType) (reason message : String) :
    ComputeNodeCondition where
  type := t
  status := .condTrue
  lastUpdateTime := (clock t).1
  lastTransitionTime := (clock t).2
  reason := reason
  message := message

/-- The types that are reported as soon as one pod has them, in this order. -/
def reported : List (ConditionType × String × String) :=
  [(.ready, "PodReady", "Some pods are ready"),
   (.started, "PodStarted", "Some pods are started"),
   (.initialized, "PodInitialized", "Some pods are initialized"),
   (.deployed, "PodDeployed", "Some pods are deployed"),
   (.pending, "PodPending", "Some pods are pending"),
   (.failed, "PodFailed", "Some pods are failed")]

def getConditionFromPods (clock : Clock) (pods : List Pod) : List ComputeNodeCondition :=
  if pods = [] then [newCondition clock .unknown "PodNotFound" "No pod was found"]
  else
    let result := fun t => (pods.flatMap getPreferedConditionFromPod).count t
    (if result .unknown = pods.length then
      [newCondition clock .unknown "PodUnknown" "All pods are unknown"] else []) ++
    (reported.filter (fun r => result r.1 > 0)).map
      (fun r => newCondition clock r.1 r.2.1 r.2.2)

end Pods

section Merge

def mergeInto (cond c : ComputeNodeCondition) : ComputeNodeCondition :=
  let c := { c with lastUpdateTime := cond.lastUpdateTime }
  if c.type = cond.type then
    { c with status := cond.status, message := cond.message, reason := cond.reason }
  else if cond.type = .unknown ∨ c.type = .unknown then { c with status := .condFalse }
  else c

def mergeCondition (conditions : List ComputeNodeCondition) (cond : ComputeNodeCondition) :
    List ComputeNodeCondition :=
  let merged := conditions.map (mergeInto cond)
  if conditions.any (·.type = cond.type) then merged else merged ++ [cond]

def updateComputeNodeStatusCondition (conditions conds : List ComputeNodeCondition) :
    List ComputeNodeCondition := conds.foldl mergeCondition conditions

def isTrueReadyPod (pod : Pod) : Bool :=
  pod.conditions.any (fun pc => pc.type = .ready ∧ pc.status = .condTrue)

def getReadyProxyInstances (pods : List Pod) : Int :=
  int32 ((pods.filter (fun pod => pod.phase = .running ∧ isTrueReadyPod pod = true)).flatMap
    (fun pod => pod.containerStatuses.filter
      (fun cs => cs.name = "shardingsphere-proxy" ∧ cs.ready = true))).length

def reconcileComputeNodeStatus (clock : Clock) (pods : List Pod) (svc : Service)
    (cn : ComputeNode) : ComputeNodeStatus :=
  let ready := getReadyProxyInstances pods
  { conditions :=
      updateComputeNodeStatusCondition cn.status.conditions (getConditionFromPods clock pods)
    ready := toString ready ++ "/" ++ toString pods.length
    replicas := int32 pods.length
    phase := if ready > 0 then .ready else .notReady
    clusterIP := svc.spec.clusterIP
    ingress := svc.ingress
    selector := cn.status.selector }

end Merge

end ShardingOnCloud.Operator.ComputeNodeStatus
