import ShardingOnCloud.Operator.ProxyController

namespace ShardingOnCloud.Operator.ProxyAutoscaler

open ShardingOnCloud.Lib.Footprint
open ShardingOnCloud.Operator.ProxyTypes ShardingOnCloud.Operator.ProxyHPA
open ShardingOnCloud.Operator.ProxyReadiness (newStatus)
open ShardingOnCloud.Operator.ProxyController

variable {s : State} {rt : Stored}

theorem scalingEnabled_iff (proxy : ShardingSphereProxy) :
    scalingEnabled proxy = true ↔
      ∃ scaling, proxy.spec.automaticScaling = some scaling ∧ scaling.enable = true := by
  rw [scalingEnabled, Option.any_eq_true]

theorem reconcileHPA_enabled (hrt : s.rt = some rt) (hen : scalingEnabled rt.proxy = true)
    (hhpa : ∀ hpa, s.hpa = some hpa → Produced rt.proxy.name hpa) :
    ∃ hpa exp, Ends serve s reconcileHPA ({}, none) { s with hpa := some hpa } ∧
      constructHPA rt.proxy = some exp ∧ hpa.spec = exp.spec := by
  obtain ⟨scaling, hscaling, -⟩ := (scalingEnabled_iff rt.proxy).mp hen
  have hconstruct := construct_scaling hscaling
  cases hs : s.hpa with
  | none => exact ⟨_, _, reconcileHPA_created hrt hs hen hconstruct, hconstruct, rfl⟩
  | some act =>
    obtain ⟨before, hact⟩ := produced_spec (hhpa act hs)
    have hupdate := update_scaling hact hscaling
    exact ⟨_, _, reconcileHPA_updated hrt hs hen hupdate, hconstruct, rfl⟩

theorem reconcileHPA_disabled (hrt : s.rt = some rt) (hen : scalingEnabled rt.proxy = false)
    (hdelete : s.deleteErr = none) :
    Ends serve s reconcileHPA ({}, none) { s with hpa := none } := by
  cases hs : s.hpa with
  | none =>
    have hends := reconcileHPA_unwanted hrt hs hen
    rwa [← hs]
  | some act =>
    have hends := reconcileHPA_deleted hrt hs hen
    rw [hdelete] at hends ⊢
    exact hends

/-- After a reconciliation there is an autoscaler exactly when the proxy asks for one, and then
it is the one that is asked for. -/
theorem autoscaler_converges (s : State) (rt : Stored) (hrt : s.rt = some rt)
    (hdelete : s.deleteErr = none)
    (hhpa : ∀ hpa, s.hpa = some hpa → Produced rt.proxy.name hpa) :
    ∃ t, Ends serve s reconcileHPA ({}, none) t ∧
      (t.hpa.isSome ↔ ∃ scaling, rt.proxy.spec.automaticScaling = some scaling ∧
        scaling.enable = true) ∧
      ∀ hpa, t.hpa = some hpa →
        ∃ exp, constructHPA rt.proxy = some exp ∧ hpa.spec = exp.spec := by
  cases hen : scalingEnabled rt.proxy with
  | true =>
    obtain ⟨hpa, exp, hends, hexp, hspec⟩ := reconcileHPA_enabled hrt hen hhpa
    refine ⟨_, hends, iff_of_true rfl ((scalingEnabled_iff rt.proxy).mp hen), ?_⟩
    rintro hpa' h
    cases h
    exact ⟨exp, hexp, hspec⟩
  | false =>
    refine ⟨_, reconcileHPA_disabled hrt hen hdelete, ?_, ?_⟩
    · rw [← scalingEnabled_iff, hen]
      exact iff_of_false Bool.false_ne_true Bool.false_ne_true
    · intro hpa h
      cases h

section Samples

def scaledProxy : ShardingSphereProxy where
  name := "proxy"
  nameSpace := "default"
  spec :=
    { version := "5.3.1"
      port := 3307
      automaticScaling := some
        { enable := true, target := 70, maxInstance := 4, minInstance := 1
          customMetrics := [{ type := "Pods" }] } }

def defaultedProxy : ShardingSphereProxy :=
  { scaledProxy with
    spec := { scaledProxy.spec with
      automaticScaling := some { enable := true, target := 80, maxInstance := 5, minInstance := 2 } } }

def scaledState : State where
  rt := some ⟨defaultedProxy, newStatus⟩
  deployment := none
  service := none
  hpa := constructHPA scaledProxy
  pods := []

/-- The metric is dropped from the autoscaler as well. -/
theorem defaultedProxy_converges :
    ∃ t, Ends serve scaledState reconcileHPA ({}, none) t ∧ t.hpa.isSome ∧
      ∀ hpa, t.hpa = some hpa →
        ∃ exp, constructHPA defaultedProxy = some exp ∧ hpa.spec = exp.spec := by
  obtain ⟨t, hends, hsome, hspec⟩ :=
    autoscaler_converges scaledState ⟨defaultedProxy, newStatus⟩ rfl rfl
      (fun hpa h => .constructed (q := scaledProxy) rfl h)
  exact ⟨t, hends, hsome.mpr ⟨_, rfl, rfl⟩, hspec⟩

end Samples

end ShardingOnCloud.Operator.ProxyAutoscaler
