import ShardingOnCloud.Operator.Autoscaling
import ShardingOnCloud.Operator.ProxyTypes

namespace ShardingOnCloud.Operator.ProxyHPA

open ShardingOnCloud.Operator.Autoscaling (CrossVersionObjectReference)
open ShardingOnCloud.Operator.ProxyTypes

section Types

structure HPAScalingPolicy where
  type : String
  value : Int
  periodSeconds : Int
  deriving DecidableEq, Repr

structure HPAScalingRules where
  stabilizationWindowSeconds : Option Int := none
  selectPolicy : Option String := none
  policies : List HPAScalingPolicy := []
  deriving DecidableEq, Repr

structure HorizontalPodAutoscalerBehavior where
  scaleUp : Option HPAScalingRules := none
  scaleDown : Option HPAScalingRules := none
  deriving DecidableEq, Repr

structure HorizontalPodAutoscalerSpec where
  scaleTargetRef : CrossVersionObjectReference := {}
  minReplicas : Option Int := none
  maxReplicas : Int := 0
  metrics : List MetricSpec := []
  behavior : Option HorizontalPodAutoscalerBehavior := none
  deriving DecidableEq, Repr

structure HorizontalPodAutoscaler where
  name : String := ""
  nameSpace : String := ""
  spec : HorizontalPodAutoscalerSpec := {}
  deriving DecidableEq, Repr

end Types

section Build

def constructDefaultHPAMetric (target : Int) : List MetricSpec :=
  [{ type := "Resource"
     resource := some
      { name := "cpu", target := { type := "Utilization", averageUtilization := some target } } }]

/-- Both functions fall back on the default when there are no metrics of the user. -/
def metricsOf (scaling : AutomaticScaling) : List MetricSpec :=
  if scaling.customMetrics.length > 0 then scaling.customMetrics
  else constructDefaultHPAMetric scaling.target

def specOf (name : String) (scaling : AutomaticScaling) : HorizontalPodAutoscalerSpec where
  scaleTargetRef := { kind := "Deployment", name := name, apiVersion := "apps/v1" }
  minReplicas := some scaling.minInstance
  maxReplicas := scaling.maxInstance
  metrics := metricsOf scaling
  behavior := some
    { scaleUp := some { stabilizationWindowSeconds := some scaling.scaleUpWindows }
      scaleDown := some
        { stabilizationWindowSeconds := some scaling.scaleDownWindows
          policies := [{ type := "Pods", value := 1, periodSeconds := 30 }] } }

/-- `ConstructHPA`, with no result where it panics. -/
def constructHPA (proxy : ShardingSphereProxy) : Option HorizontalPodAutoscaler := do
  let scaling ← proxy.spec.automaticScaling
  return { name := proxy.name, nameSpace := proxy.nameSpace, spec := specOf proxy.name scaling }

/-- `UpdateHPA`, with no result where it panics. -/
def updateHPA (proxy : ShardingSphereProxy) (act : HorizontalPodAutoscaler) :
    Option HorizontalPodAutoscaler := do
  let scaling ← proxy.spec.automaticScaling
  let behavior ← act.spec.behavior
  let scaleDown ← behavior.scaleDown
  let scaleUp ← behavior.scaleUp
  return { act with
    spec := { act.spec with
      behavior := some
        { scaleDown := some
            { scaleDown with stabilizationWindowSeconds := some scaling.scaleDownWindows }
          scaleUp := some
            { scaleUp with stabilizationWindowSeconds := some scaling.scaleUpWindows } }
      maxReplicas := scaling.maxInstance
      minReplicas := some scaling.minInstance
      metrics := metricsOf scaling } }

end Build

section Produced

/-- An autoscaler that the operator has made and kept up for proxies of a name. -/
inductive Produced (name : String) : HorizontalPodAutoscaler → Prop
  | constructed {q : ShardingSphereProxy} {hpa : HorizontalPodAutoscaler} (hname : q.name = name)
      (h : constructHPA q = some hpa) : Produced name hpa
  | updated {q : ShardingSphereProxy} {act hpa : HorizontalPodAutoscaler} (hname : q.name = name)
      (hact : Produced name act) (h : updateHPA q act = some hpa) : Produced name hpa

variable {q : ShardingSphereProxy} {act : HorizontalPodAutoscaler} {scaling : AutomaticScaling}

theorem construct_scaling (h : q.spec.automaticScaling = some scaling) :
    constructHPA q = some ⟨q.name, q.nameSpace, specOf q.name scaling⟩ := by
  rw [constructHPA, h]
  rfl

theorem update_scaling {name : String} {before : AutomaticScaling}
    (hact : act.spec = specOf name before) (h : q.spec.automaticScaling = some scaling) :
    updateHPA q act = some { act with spec := specOf name scaling } := by
  rw [updateHPA, h, hact]
  rfl

theorem produced_spec {name : String} {hpa : HorizontalPodAutoscaler} (h : Produced name hpa) :
    ∃ scaling, hpa.spec = specOf name scaling := by
  induction h with
  | @constructed q hpa hname hc =>
    cases hs : q.spec.automaticScaling with
    | none => simp [constructHPA, hs] at hc
    | some scaling =>
      rw [construct_scaling hs] at hc
      cases hc
      exact ⟨scaling, by rw [hname]⟩
  | @updated q act hpa hname _ hu ih =>
    obtain ⟨before, hact⟩ := ih
    cases hs : q.spec.automaticScaling with
    | none => simp [updateHPA, hs] at hu
    | some scaling =>
      rw [update_scaling hact hs] at hu
      cases hu
      exact ⟨scaling, rfl⟩

end Produced

end ShardingOnCloud.Operator.ProxyHPA
