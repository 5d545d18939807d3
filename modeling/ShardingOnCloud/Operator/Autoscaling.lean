import ShardingOnCloud.Lib.Footprint
import ShardingOnCloud.Operator.ComputeNodeTypes

namespace ShardingOnCloud.Operator.Autoscaling

open ShardingOnCloud.Lib.Program ShardingOnCloud.Lib.Pool ShardingOnCloud.Lib.Footprint
open ShardingOnCloud.Operator.StorageNodeTypes (Err ApiErr)
open ShardingOnCloud.Operator.ComputeNodeTypes (Labels)

section Types

structure ObjectMeta where
  name : String := ""
  nameSpace : String := ""
  labels : Labels := ∅
  annotations : Labels := ∅
  owner : Option String := none
  deriving DecidableEq

structure CrossVersionObjectReference where
  kind : String := ""
  name : String := ""
  apiVersion : String := ""
  deriving DecidableEq, Repr

/-- A metric, a rule or a policy that the code hands on as it is. -/
structure Verbatim where
  text : String
  deriving DecidableEq, Repr

structure HorizontalScaling where
  maxReplicas : Int
  minReplicas : Int
  scaleUpRules : Option Verbatim := none
  scaleDownRules : Option Verbatim := none
  metrics : Option (List Verbatim) := none
  deriving DecidableEq, Repr

structure VerticalScaling where
  updatePolicy : Option Verbatim := none
  resourcePolicy : Option Verbatim := none
  recommenders : Option (List Verbatim) := none
  deriving DecidableEq, Repr

structure ScalingPolicy where
  targetSelector : Option CrossVersionObjectReference := none
  provider : String := ""
  horizontal : Option HorizontalScaling := none
  vertical : Option VerticalScaling := none
  deriving DecidableEq, Repr

structure AutoScaler where
  objectMeta : ObjectMeta
  policyGroup : List ScalingPolicy
  deriving DecidableEq

structure Behavior where
  scaleUp : Option Verbatim
  scaleDown : Option Verbatim
  deriving DecidableEq, Repr

structure HorizontalPodAutoscalerSpec where
  scaleTargetRef : CrossVersionObjectReference := {}
  minReplicas : Option Int := none
  maxReplicas : Int := 0
  metrics : Option (List Verbatim) := none
  behavior : Option Behavior := none
  deriving DecidableEq, Repr

structure HorizontalPodAutoscaler where
  objectMeta : ObjectMeta := {}
  spec : HorizontalPodAutoscalerSpec := {}
  deriving DecidableEq

structure VerticalPodAutoscalerSpec where
  targetRef : Option CrossVersionObjectReference := none
  updatePolicy : Option Verbatim := none
  resourcePolicy : Option Verbatim := none
  recommenders : Option (List Verbatim) := none
  deriving DecidableEq, Repr

structure VerticalPodAutoscaler where
  objectMeta : ObjectMeta := {}
  spec : VerticalPodAutoscalerSpec := {}
  deriving DecidableEq

end Types

section Build

/-- A builder: the object that is built, and the builder of its metadata. Both are pointers, and
a method of one that is nil panics. -/
structure Builder (σ : Type) where
  object : Option σ := none
  metadata : Option ObjectMeta := none

variable {σ : Type}

def Builder.set (b : Builder σ) (f : σ → σ) : Option (Builder σ) :=
  b.object.map (fun o => { b with object := some (f o) })

def Builder.setMetadata (b : Builder σ) (f : ObjectMeta → ObjectMeta) : Option (Builder σ) :=
  b.metadata.map (fun md => { b with metadata := some (f md) })

def newHorizontalPodAutoScalerBuilder : Builder HorizontalPodAutoscaler := {}

def newVerticalPodAutoscalerBuilder : Builder VerticalPodAutoscaler := {}

def Builder.describe (b : Builder σ) (md : ObjectMeta) : Option (Builder σ) := do
  let b ← b.setMetadata (fun o => { o with name := md.name })
  let b ← b.setMetadata (fun o => { o with nameSpace := md.nameSpace })
  let b ← b.setMetadata (fun o => { o with labels := md.labels })
  let b ← b.setMetadata (fun o => { o with annotations := md.annotations })
  b.setMetadata (fun o => { o with owner := some md.name })

def targetOf (policy : ScalingPolicy) : Option CrossVersionObjectReference :=
  policy.targetSelector.map
    (fun ref => ⟨"ComputeNode", ref.name, "shardingsphere.apache.org/v1alpha1"⟩)

/-- `BuildHorizontalPodAutoScaler`, with no result where it panics. -/
def buildHorizontalPodAutoScaler (md : ObjectMeta) (policy : ScalingPolicy) :
    Option HorizontalPodAutoscaler := do
  let b ← newHorizontalPodAutoScalerBuilder.describe md
  let target ← targetOf policy
  let b ← b.set (fun o => { o with spec := { o.spec with scaleTargetRef := target } })
  let h ← policy.horizontal
  let b ← b.set (fun o => { o with spec := { o.spec with minReplicas := some h.minReplicas } })
  let b ← b.set (fun o => { o with spec := { o.spec with maxReplicas := h.maxReplicas } })
  let b ← if h.metrics.isSome then
      b.set (fun o => { o with spec := { o.spec with metrics := h.metrics } })
    else some b
  let b ← if h.scaleUpRules.isSome ∨ h.scaleDownRules.isSome then
      b.set (fun o => { o with
        spec := { o.spec with behavior := some ⟨h.scaleUpRules, h.scaleDownRules⟩ } })
    else some b
  let md ← b.metadata
  let o ← b.object
  return { o with objectMeta := md }

/-- `BuildVerticalPodAutoscaler`, with no result where it panics. -/
def buildVerticalPodAutoscaler (md : ObjectMeta) (policy : ScalingPolicy) :
    Option VerticalPodAutoscaler := do
  let b ← newVerticalPodAutoscalerBuilder.describe md
  let target ← targetOf policy
  let b ← b.set (fun o => { o with spec := { o.spec with targetRef := some target } })
  let v ← policy.vertical
  let b ← if v.updatePolicy.isSome then
      b.set (fun o => { o with spec := { o.spec with updatePolicy := v.updatePolicy } })
    else some b
  let b ← if v.resourcePolicy.isSome then
      b.set (fun o => { o with spec := { o.spec with resourcePolicy := v.resourcePolicy } })
    else some b
  let b ← if v.recommenders.isSome then
      b.set (fun o => { o with spec := { o.spec with recommenders := v.recommenders } })
    else some b
  let md ← b.metadata
  let o ← b.object
  return { o with objectMeta := md }

end Build

section Controller

/-- What the controller asks of the API server about the two objects under its name. -/
inductive Op
  | getHPA
  | createHPA (o : HorizontalPodAutoscaler)
  | updateHPA (o : HorizontalPodAutoscaler)
  | getVPA
  | createVPA (o : VerticalPodAutoscaler)
  | updateVPA (o : VerticalPodAutoscaler)
  | panic

@[reducible] def OpR : Op → Type
  | .getHPA => Except ApiErr HorizontalPodAutoscaler
  | .getVPA => Except ApiErr VerticalPodAutoscaler
  | .createHPA _ | .updateHPA _ | .createVPA _ | .updateVPA _ => Option ApiErr
  | .panic => Empty

abbrev Rec := Proc Op OpR

abbrev Ev := Event Op OpR Empty

def op (c : Op) : Rec (OpR c) := .call c .ret

def built {α : Type} : Option α → Rec α
  | some o => return o
  | none => do
    let x ← op .panic
    nomatch x

/-- The answer to a create: an object that already exists is no error. -/
def createErr : Option ApiErr → Option Err
  | none | some (.alreadyExists _) => none
  | some err => some err.text

def updateHPA (md : ObjectMeta) (policy : ScalingPolicy) (hpa : HorizontalPodAutoscaler) :
    Rec (Option Err) := do
  let exp ← built (buildHorizontalPodAutoScaler md policy)
  if hpa.spec ≠ exp.spec then
    let err ← op (.updateHPA hpa)
    return err.map ApiErr.text
  else return none

def createHPA (md : ObjectMeta) (policy : ScalingPolicy) : Rec (Option Err) := do
  let hpa ← built (buildHorizontalPodAutoScaler md policy)
  let err ← op (.createHPA hpa)
  return createErr err

def reconcileHPA (md : ObjectMeta) (policy : ScalingPolicy) : Rec (Option Err) := do
  match ← op .getHPA with
  | .ok hpa => updateHPA md policy hpa
  | .error (.notFound _) => createHPA md policy
  | .error err => return some err.text

def updateVPA (md : ObjectMeta) (policy : ScalingPolicy) (vpa : VerticalPodAutoscaler) :
    Rec (Option Err) := do
  let exp ← built (buildVerticalPodAutoscaler md policy)
  if vpa.spec ≠ exp.spec then
    let err ← op (.updateVPA vpa)
    return err.map ApiErr.text
  else return none

def createVPA (md : ObjectMeta) (policy : ScalingPolicy) : Rec (Option Err) := do
  let vpa ← built (buildVerticalPodAutoscaler md policy)
  let err ← op (.createVPA vpa)
  return createErr err

def reconcileVPA (md : ObjectMeta) (policy : ScalingPolicy) : Rec (Option Err) := do
  match ← op .getVPA with
  | .ok vpa => updateVPA md policy vpa
  | .error (.notFound _) => createVPA md policy
  | .error err => return some err.text

def wantsHPA (pg : ScalingPolicy) : Bool := pg.provider = "KubernetesHPA" ∧ pg.horizontal.isSome

def wantsVPA (pg : ScalingPolicy) : Bool := pg.provider = "KubernetesVPA" ∧ pg.vertical.isSome

def reconcilePolicy (md : ObjectMeta) (pg : ScalingPolicy) : Rec (Option Err) := do
  let err ← if wantsHPA pg then reconcileHPA md pg else pure none
  match err with
  | some err => return some err
  | none => if wantsVPA pg then reconcileVPA md pg else return none

/-- The loop of `reconcileAutoScaler`. -/
def reconcilePolicies (md : ObjectMeta) : List ScalingPolicy → Rec (Option Err)
  | [] => return none
  | pg :: pgs => do
    match ← reconcilePolicy md pg with
    | some err => return some err
    | none => reconcilePolicies md pgs

def reconcileAutoScaler (as : AutoScaler) : Rec (Option Err) :=
  reconcilePolicies as.objectMeta as.policyGroup

end Controller

section World

structure State where
  hpa : Option HorizontalPodAutoscaler
  vpa : Option VerticalPodAutoscaler

def serve (s : State) : (c : Op) → Option (OpR c × State)
  | .getHPA => some (match s.hpa with
    | some hpa => .ok hpa
    | none => .error (.notFound ""), s)
  | .createHPA o | .updateHPA o => some (none, { s with hpa := some o })
  | .getVPA => some (match s.vpa with
    | some vpa => .ok vpa
    | none => .error (.notFound ""), s)
  | .createVPA o | .updateVPA o => some (none, { s with vpa := some o })
  | .panic => none

structure Follows (policy : ScalingPolicy) (hpa : HorizontalPodAutoscaler) : Prop where
  target : some hpa.spec.scaleTargetRef = targetOf policy
  minReplicas : hpa.spec.minReplicas = policy.horizontal.map (·.minReplicas)
  maxReplicas : some hpa.spec.maxReplicas = policy.horizontal.map (·.maxReplicas)
  metrics : hpa.spec.metrics = policy.horizontal.bind (·.metrics)
  scaleUp : hpa.spec.behavior.bind (·.scaleUp) = policy.horizontal.bind (·.scaleUpRules)
  scaleDown : hpa.spec.behavior.bind (·.scaleDown) = policy.horizontal.bind (·.scaleDownRules)

/-- The reconciliation returns without an error, and the policy is carried out. -/
def Converges (as : AutoScaler) (s : State) : Prop :=
  outcome serve s (reconcileAutoScaler as) = some none ∧
    ∀ policy ∈ as.policyGroup, wantsHPA policy → ∃ hpa,
      (drive serve s (reconcileAutoScaler as)).2.hpa = some hpa ∧ Follows policy hpa

end World

section Panic

def Panics {α : Type} (s : State) (p : Rec α) : Prop :=
  outcome serve s p = none ∧ .main (.issue .panic) ∈ (drive serve s p).1

theorem panics_call {α : Type} {s t : State} {c : Op} {r : OpR c} {k : OpR c → Rec α}
    (hc : serve s c = some (r, t)) (h : Panics t (k r)) : Panics s (.call c k) := by
  obtain ⟨ho, hm⟩ := h
  refine ⟨?_, ?_⟩
  · rw [outcome, hc]
    exact ho
  · rw [drive, hc]
    exact List.mem_append_right _ hm

theorem panics_panic {α : Type} (s : State) (k : Empty → Rec α) : Panics s (.call .panic k) :=
  ⟨rfl, List.mem_singleton.mpr rfl⟩

theorem reconcileHPA_panics {β : Type} (s : State) (md : ObjectMeta) (pg : ScalingPolicy)
    (f : Option Err → Rec β) : Panics s (reconcileHPA md pg >>= f) := by
  obtain ⟨hpa, vpa⟩ := s
  cases hpa with
  | none =>
    refine panics_call (c := .getHPA) (t := ⟨none, vpa⟩) (r := .error (.notFound "")) rfl ?_
    exact panics_panic _ _
  | some hpa =>
    refine panics_call (c := .getHPA) (t := ⟨some hpa, vpa⟩) (r := .ok hpa) rfl ?_
    exact panics_panic _ _

theorem reconcileVPA_panics {β : Type} (s : State) (md : ObjectMeta) (pg : ScalingPolicy)
    (f : Option Err → Rec β) : Panics s (reconcileVPA md pg >>= f) := by
  obtain ⟨hpa, vpa⟩ := s
  cases vpa with
  | none =>
    refine panics_call (c := .getVPA) (t := ⟨hpa, none⟩) (r := .error (.notFound "")) rfl ?_
    exact panics_panic _ _
  | some vpa =>
    refine panics_call (c := .getVPA) (t := ⟨hpa, some vpa⟩) (r := .ok vpa) rfl ?_
    exact panics_panic _ _

/-- The first policy that is carried out panics, whichever of the two it is for. -/
theorem reconcilePolicies_panics (s : State) (md : ObjectMeta) {pgs : List ScalingPolicy}
    (h : ∃ pg ∈ pgs, wantsHPA pg = true) : Panics s (reconcilePolicies md pgs) := by
  induction pgs with
  | nil =>
    obtain ⟨pg, hpg, -⟩ := h
    cases hpg
  | cons pg pgs ih =>
    unfold reconcilePolicies reconcilePolicy
    by_cases hh : wantsHPA pg = true
    · rw [if_pos hh, Proc.bind_bind]
      exact reconcileHPA_panics s md pg _
    · rw [if_neg hh]
      by_cases hv : wantsVPA pg = true
      · change Panics s ((if wantsVPA pg = true then _ else _) >>= _)
        rw [if_pos hv]
        exact reconcileVPA_panics s md pg _
      · change Panics s ((if wantsVPA pg = true then _ else _) >>= _)
        rw [if_neg hv]
        obtain ⟨pg', hpg', hw⟩ := h
        rcases List.mem_cons.mp hpg' with rfl | hpg'
        · exact absurd hw hh
        · exact ih ⟨pg', hpg', hw⟩

end Panic

/-- With a policy for the HPA the reconciliation never returns: the builder that it asks for the
object has nothing to build it in. -/
theorem autoscaler_never_converges {as : AutoScaler} (s : State)
    (h : (as.policyGroup.filter wantsHPA).length = 1) :
    ¬Converges as s ∧ .main (.issue .panic) ∈ (drive serve s (reconcileAutoScaler as)).1 := by
  obtain ⟨pg, hpg⟩ := List.length_eq_one_iff.mp h
  have hmem : pg ∈ as.policyGroup.filter wantsHPA := by
    rw [hpg]
    exact List.mem_singleton_self pg
  obtain ⟨hin, hw⟩ := List.mem_filter.mp hmem
  obtain ⟨hout, hpanic⟩ := reconcilePolicies_panics s as.objectMeta ⟨pg, hin, hw⟩
  refine ⟨fun hc => ?_, hpanic⟩
  have hret := hc.1
  rw [reconcileAutoScaler, hout] at hret
  cases hret

def sampleAutoScaler : AutoScaler where
  objectMeta := { name := "autoscaler", nameSpace := "default" }
  policyGroup :=
    [{ targetSelector := some { name := "proxy" }
       provider := "KubernetesHPA"
       horizontal := some { maxReplicas := 4, minReplicas := 1 } }]

theorem sampleAutoScaler_panics :
    ¬Converges sampleAutoScaler ⟨none, none⟩ ∧ .main (.issue .panic) ∈
      (drive serve ⟨none, none⟩ (reconcileAutoScaler sampleAutoScaler)).1 :=
  autoscaler_never_converges ⟨none, none⟩ (by decide)

theorem not_all_autoscalers_converge :
    ¬∀ (as : AutoScaler) (s : State), (as.policyGroup.filter wantsHPA).length = 1 →
      Converges as s := by
  intro h
  have hret := (h sampleAutoScaler ⟨none, none⟩ (by decide)).1
  have hwants : ∃ pg ∈ sampleAutoScaler.policyGroup, wantsHPA pg = true :=
    ⟨_, List.mem_singleton_self _, by decide⟩
  have hout := (reconcilePolicies_panics ⟨none, none⟩ sampleAutoScaler.objectMeta hwants).1
  rw [reconcileAutoScaler, hout] at hret
  cases hret

end ShardingOnCloud.Operator.Autoscaling
