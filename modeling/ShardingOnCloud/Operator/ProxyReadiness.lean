import ShardingOnCloud.Operator.ComputeNodeStatus
import ShardingOnCloud.Operator.ProxyDeployment

namespace ShardingOnCloud.Operator.ProxyReadiness

open ShardingOnCloud.Lib.Strconv
open ShardingOnCloud.Operator.ComputeNodeTypes (ConditionStatus)
open ShardingOnCloud.Operator.ComputeNodeStatus (Pod PodPhase ContainerStatus isTrueReadyPod)
open ShardingOnCloud.Operator.ProxyTypes ShardingOnCloud.Operator.ProxyDeployment

inductive PhaseStatus
  | unset
  | ready
  | notReady
  deriving DecidableEq, Repr

/-- The types that the code knows, and any other that a stored status may hold. -/
inductive ConditionType
  | deployed
  | initialized
  | started
  | succeed
  | ready
  | unknown
  | failed
  | other (name : String)
  deriving DecidableEq, Repr

structure Condition where
  type : ConditionType
  status : ConditionStatus
  lastUpdateTime : ℕ

structure ProxyStatus where
  phase : PhaseStatus
  conditions : List Condition
  readyNodes : Int

/-- The readings of the clock: for a condition that is made, and for the one at an index whose
status is turned. -/
structure Clock where
  made : ConditionType → ℕ
  turned : ℕ → ℕ

def miniReadyCount : Int := 1

section Status

def readyContainers (pod : Pod) : List ContainerStatus :=
  if pod.phase = .running ∧ isTrueReadyPod pod = true then
    pod.containerStatuses.filter (fun cs => cs.name = "shardingsphere-proxy" ∧ cs.ready = true)
  else []

def getReadyNodes (podlist : List Pod) : Int := int32 (podlist.flatMap readyContainers).length

def newCondition (clock : Clock) (t : ConditionType) : Condition := ⟨t, .condTrue, clock.made t⟩

def newConditions (conditions : List Condition) (cond : Option Condition) : List Condition :=
  match cond with
  | none => conditions
  | some cond =>
    match conditions.findIdx? (·.type = cond.type) with
    | some i => conditions.modify i
        (fun c => { c with lastUpdateTime := cond.lastUpdateTime, status := cond.status })
    | none => conditions ++ [cond]

def updateReadyConditions (conditions : List Condition) (cond : Condition) : List Condition :=
  newConditions conditions (some cond)

def updateNotReadyConditions (clock : Clock) (conditions : List Condition)
    (cond : Option Condition) : List Condition :=
  (newConditions conditions cond).mapIdx (fun i c =>
    if c.type = .ready then { c with lastUpdateTime := clock.turned i, status := .condFalse } else c)

def conditionOfPhase : PodPhase → Option ConditionType
  | .succeeded => some .succeed
  | .running => some .started
  | .unknown => some .unknown
  | .pending => some .deployed
  | .failed => some .failed
  | .unset | .other _ => none

/-- The condition of the first pod that has a phase; without one it has no type, and is not
taken over. -/
def clusterCondition (clock : Clock) (podlist : List Pod) : Option Condition :=
  (podlist.findSome? (fun pod => conditionOfPhase pod.phase)).map (newCondition clock)

/-- The new status of `rt`, whose status so far is the last argument. -/
def reconcileStatus (clock : Clock) (podlist : List Pod) (rt : ShardingSphereProxy)
    (status : ProxyStatus) : ProxyStatus :=
  let readyNodes := getReadyNodes podlist
  let phase : PhaseStatus :=
    if rt.spec.replicas = 0 then .notReady
    else if readyNodes < miniReadyCount then .notReady else .ready
  { phase := phase
    readyNodes := readyNodes
    conditions :=
      if phase = .ready then updateReadyConditions status.conditions (newCondition clock .ready)
      else updateNotReadyConditions clock status.conditions (clusterCondition clock podlist) }

end Status

section Serving

/-- A pod that serves: it runs and is ready, and so are its containers, which are those of the
template that the Deployment is built with. -/
def Serving (proxy : ShardingSphereProxy) (pod : Pod) : Prop :=
  pod.phase = .running ∧ isTrueReadyPod pod = true ∧
    (pod.containerStatuses.map (·.name)).Perm
      ((constructCascadingDeployment proxy).spec.template.spec.containers.map (·.name)) ∧
    ∀ cs ∈ pod.containerStatuses, cs.ready = true

instance (proxy : ShardingSphereProxy) : DecidablePred (Serving proxy) :=
  fun _ => inferInstanceAs (Decidable (_ ∧ _ ∧ _ ∧ _))

def servingPods (proxy : ShardingSphereProxy) (podlist : List Pod) : List Pod :=
  podlist.filter (fun pod => Serving proxy pod)

def foreignContainers (proxy : ShardingSphereProxy) (podlist : List Pod) :
    List ContainerStatus :=
  (podlist.filter (fun pod => ¬Serving proxy pod)).flatMap readyContainers

theorem template_containers {proxy : ShardingSphereProxy} (h : proxy ≠ {}) :
    (constructCascadingDeployment proxy).spec.template.spec.containers.map (·.name) =
      ["proxy"] := by
  rw [constructCascadingDeployment, if_neg h]
  cases hd : proxy.spec.mySQLDriver with
  | none => simp [processOptionalParameter, hd, podSpec, proxyContainer]
  | some mysql =>
    simp [processOptionalParameter, hd, podSpec, proxyContainer, addInitContainer]

theorem serving_uncounted {proxy : ShardingSphereProxy} (h : proxy ≠ {}) {pod : Pod}
    (hpod : Serving proxy pod) : readyContainers pod = [] := by
  obtain ⟨hphase, hready, hnames, -⟩ := hpod
  rw [template_containers h] at hnames
  rw [readyContainers, if_pos ⟨hphase, hready⟩]
  apply List.filter_eq_nil_iff.mpr
  intro cs hcs
  have hname : cs.name = "proxy" :=
    List.mem_singleton.mp (hnames.mem_iff.mp (List.mem_map_of_mem hcs))
  simp [hname]

theorem counted_eq_foreign {proxy : ShardingSphereProxy} (h : proxy ≠ {}) (podlist : List Pod) :
    podlist.flatMap readyContainers = foreignContainers proxy podlist := by
  induction podlist with
  | nil => rfl
  | cons pod pods ih =>
    rw [foreignContainers] at ih ⊢
    by_cases hpod : Serving proxy pod
    · rw [List.flatMap_cons, serving_uncounted h hpod, List.nil_append, ih]
      simp [hpod]
    · rw [List.flatMap_cons, ih]
      simp [hpod]

end Serving

/-- Of the pods that serve none is counted, so that only the containers of other pods can make
up their number. -/
theorem serving_reported_iff {proxy : ShardingSphereProxy} {podlist : List Pod} (clock : Clock)
    (status : ProxyStatus) (hreplicas : proxy.spec.replicas > 0)
    (hserving : ∃ pod ∈ podlist, Serving proxy pod) :
    ((reconcileStatus clock podlist proxy status).phase = .ready ∧
      (reconcileStatus clock podlist proxy status).readyNodes =
        (servingPods proxy podlist).length) ↔
    int32 (foreignContainers proxy podlist).length = (servingPods proxy podlist).length := by
  have hproxy : proxy ≠ {} := by
    rintro rfl
    exact absurd hreplicas (by decide)
  have hcount : getReadyNodes podlist = int32 (foreignContainers proxy podlist).length := by
    rw [getReadyNodes, counted_eq_foreign hproxy]
  have hpos : 0 < (servingPods proxy podlist).length := by
    obtain ⟨pod, hpod, hs⟩ := hserving
    exact List.length_pos_of_mem (List.mem_filter.mpr ⟨hpod, decide_eq_true hs⟩)
  simp only [reconcileStatus, hcount]
  constructor
  · rintro ⟨-, hnodes⟩
    exact hnodes
  · intro hnodes
    refine ⟨?_, hnodes⟩
    rw [if_neg (by omega), if_neg]
    rw [hnodes, miniReadyCount]
    omega

section Samples

def readyPod (container : String) : Pod where
  phase := .running
  conditions := [⟨.ready, .condTrue⟩]
  containerStatuses := [⟨container, true⟩]

def newStatus : ProxyStatus := ⟨.unset, [], 0⟩

/-- A pod of another making next to the one that serves. -/
theorem foreignPod_reported :
    (reconcileStatus ⟨fun _ => 1, fun _ => 1⟩
        [readyPod "proxy", readyPod "shardingsphere-proxy"] sampleProxy newStatus).phase = .ready ∧
      (reconcileStatus ⟨fun _ => 1, fun _ => 1⟩
        [readyPod "proxy", readyPod "shardingsphere-proxy"] sampleProxy newStatus).readyNodes =
        (servingPods sampleProxy [readyPod "proxy", readyPod "shardingsphere-proxy"]).length :=
  (serving_reported_iff _ newStatus (by decide) ⟨readyPod "proxy", by simp, by decide⟩).mpr
    (by decide)

theorem not_all_serving_reported :
    ¬∀ (clock : Clock) (proxy : ShardingSphereProxy) (podlist : List Pod) (status : ProxyStatus),
      proxy.spec.replicas > 0 → (∃ pod ∈ podlist, Serving proxy pod) →
      (reconcileStatus clock podlist proxy status).phase = .ready ∧
        (reconcileStatus clock podlist proxy status).readyNodes =
          (servingPods proxy podlist).length := by
  intro h
  have hready := (h ⟨fun _ => 1, fun _ => 1⟩ sampleProxy [readyPod "proxy"] newStatus (by decide)
    ⟨readyPod "proxy", by simp, by decide⟩).1
  revert hready
  decide

end Samples

end ShardingOnCloud.Operator.ProxyReadiness
