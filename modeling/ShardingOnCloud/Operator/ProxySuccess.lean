import ShardingOnCloud.Operator.DeploymentIdempotence
import ShardingOnCloud.Operator.ProxyAutoscaler

namespace ShardingOnCloud.Operator.ProxySuccess

open ShardingOnCloud.Lib.Footprint
open ShardingOnCloud.Operator.ComputeNodeTypes (Service ServicePort)
open ShardingOnCloud.Operator.ProxyTypes ShardingOnCloud.Operator.ProxyDeployment
open ShardingOnCloud.Operator.ProxyService ShardingOnCloud.Operator.ProxyHPA
open ShardingOnCloud.Operator.ProxyReadiness (Clock newStatus reconcileStatus)
open ShardingOnCloud.Operator.DeploymentIdempotence ShardingOnCloud.Operator.ProxyController
open ShardingOnCloud.Operator.ProxyAutoscaler

section Kept

/-- A Deployment of the operator: the number of replicas may have been set by the API server or
by the autoscaler. -/
inductive KeptDeployment (name : String) : Deployment → Prop
  | constructed {q : ShardingSphereProxy} (hname : q.name = name) (hset : name ≠ "") :
      KeptDeployment name (constructCascadingDeployment q)
  | updated {q : ShardingSphereProxy} {act d : Deployment} (hname : q.name = name)
      (hact : KeptDeployment name act) (h : updateDeployment q act = some d) :
      KeptDeployment name d
  | scaled {d : Deployment} (hd : KeptDeployment name d) (replicas : Int) :
      KeptDeployment name { d with spec := { d.spec with replicas := some replicas } }

/-- A Service of the operator: the API server may have filled in addresses and ports. -/
inductive KeptService (name : String) : Service → Prop
  | constructed {q : ShardingSphereProxy} (hname : q.name = name) (hset : name ≠ "") :
      KeptService name (constructCascadingService q)
  | updated {q : ShardingSphereProxy} {act svc : Service} (hname : q.name = name)
      (hact : KeptService name act) (h : updateService q act = some svc) : KeptService name svc
  | filled {svc : Service} (hsvc : KeptService name svc) (clusterIP : String)
      (clusterIPs : List String) (fill : ServicePort → ServicePort) :
      KeptService name { svc with
        spec := { svc.spec with
          clusterIP := clusterIP
          clusterIPs := clusterIPs
          ports := svc.spec.ports.map fill } }

/-- An autoscaler of the operator: the API server may have filled in its rules. -/
inductive KeptHPA (name : String) : HorizontalPodAutoscaler → Prop
  | constructed {q : ShardingSphereProxy} {hpa : HorizontalPodAutoscaler} (hname : q.name = name)
      (h : constructHPA q = some hpa) : KeptHPA name hpa
  | updated {q : ShardingSphereProxy} {act hpa : HorizontalPodAutoscaler} (hname : q.name = name)
      (hact : KeptHPA name act) (h : updateHPA q act = some hpa) : KeptHPA name hpa
  | filled {hpa : HorizontalPodAutoscaler} (hhpa : KeptHPA name hpa)
      (fill : HPAScalingRules → HPAScalingRules) :
      KeptHPA name { hpa with
        spec := { hpa.spec with
          behavior := hpa.spec.behavior.map (fun behavior =>
            { scaleUp := behavior.scaleUp.map fill, scaleDown := behavior.scaleDown.map fill }) } }

variable {name : String} {q : ShardingSphereProxy}

theorem kept_parts {d : Deployment} (h : KeptDeployment name d) : Nonempty (Parts d) := by
  induction h with
  | constructed hname hset => exact ⟨builtParts (ne_zero_of_name (hname ▸ hset))⟩
  | updated _ _ hu ih =>
    obtain ⟨parts⟩ := ih
    exact parts.of_update hu
  | scaled _ _ ih =>
    obtain ⟨parts⟩ := ih
    exact ⟨{ parts with }⟩

theorem kept_ports {svc : Service} (h : KeptService name svc) : svc.spec.ports ≠ [] := by
  induction h with
  | constructed hname hset =>
    rw [construct_spec (ne_zero_of_name (hname ▸ hset))]
    exact List.cons_ne_nil _ _
  | @updated q act svc _ _ hu _ =>
    cases hports : act.spec.ports with
    | nil => simp [updateService, hports] at hu
    | cons port ports =>
      simp only [updateService, hports, List.head?_cons, Option.bind_eq_bind, Option.bind_some]
        at hu
      cases hu
      exact List.cons_ne_nil _ _
  | filled _ _ _ _ ih =>
    simpa using ih

theorem updateService_kept {svc : Service} (h : KeptService name svc) :
    ∃ svc', updateService q svc = some svc' := by
  obtain ⟨port, ports, hports⟩ := List.exists_cons_of_ne_nil (kept_ports h)
  simp [updateService, hports]

theorem kept_behavior {hpa : HorizontalPodAutoscaler} (h : KeptHPA name hpa) :
    ∃ up down, hpa.spec.behavior = some ⟨some up, some down⟩ := by
  induction h with
  | @constructed q hpa _ hc =>
    cases hs : q.spec.automaticScaling with
    | none => simp [constructHPA, hs] at hc
    | some scaling =>
      rw [construct_scaling hs] at hc
      cases hc
      exact ⟨_, _, rfl⟩
  | @updated q act hpa _ _ hu ih =>
    obtain ⟨up, down, hact⟩ := ih
    cases hs : q.spec.automaticScaling with
    | none => simp [updateHPA, hs] at hu
    | some scaling =>
      simp only [updateHPA, hs, hact, Option.bind_eq_bind, Option.bind_some] at hu
      cases hu
      exact ⟨_, _, rfl⟩
  | filled _ fill ih =>
    obtain ⟨up, down, hact⟩ := ih
    exact ⟨fill up, fill down, by rw [hact]; rfl⟩

theorem updateHPA_kept {hpa : HorizontalPodAutoscaler} (h : KeptHPA name hpa)
    (hen : scalingEnabled q = true) : ∃ hpa', updateHPA q hpa = some hpa' := by
  obtain ⟨up, down, hact⟩ := kept_behavior h
  obtain ⟨scaling, hscaling, -⟩ := (scalingEnabled_iff q).mp hen
  simp [updateHPA, hscaling, hact]

theorem unscaled_eq (q : ShardingSphereProxy) : unscaled q = !scalingEnabled q := by
  rw [unscaled, scalingEnabled]
  cases q.spec.automaticScaling <;> simp

end Kept

section Cases

/-- The program returns without an error, and both objects are there. -/
def Succeeds (s : State) (p : Rec Res) : Prop :=
  ∃ res t, Ends serve s p (res, none) t ∧ t.deployment.isSome ∧ t.service.isSome

variable {s t : State} {rt : Stored} {steps : List (Rec Res)} {step : Rec Res} {res : Result}

theorem succeeds_after (h : Ends serve s step (res, none) t) :
    Succeeds s (inTurn (step :: steps)) ↔ Succeeds t (inTurn steps) := by
  constructor
  · rintro ⟨res', u, hends, hu⟩
    exact ⟨res', u, h.rest hends, hu⟩
  · rintro ⟨res', u, hends, hu⟩
    exact ⟨res', u, inTurn_ok h hends, hu⟩

theorem fails_of_err {err : StorageNodeTypes.Err} (h : Ends serve s step (res, some err) t) :
    ¬Succeeds s (inTurn (step :: steps)) := by
  rintro ⟨res', u, hends, -⟩
  have heq := (inTurn_err h steps).result_unique hends
  cases heq

theorem fails_of_stops (h : Stops serve s step) : ¬Succeeds s (inTurn (step :: steps)) := by
  rintro ⟨res', u, hends, -⟩
  exact (inTurn_stops h steps).not_ends hends

theorem reconcileHPA_ok (hrt : s.rt = some rt)
    (hhpa : ∀ hpa, s.hpa = some hpa → KeptHPA rt.proxy.name hpa)
    (hok : s.hpa.isSome → scalingEnabled rt.proxy = true ∨ s.deleteErr = none) :
    ∃ hpa, Ends serve s reconcileHPA ({}, none) { s with hpa := hpa } := by
  cases hen : scalingEnabled rt.proxy with
  | true =>
    cases hs : s.hpa with
    | none =>
      obtain ⟨scaling, hscaling, -⟩ := (scalingEnabled_iff rt.proxy).mp hen
      exact ⟨_, reconcileHPA_created hrt hs hen (construct_scaling hscaling)⟩
    | some act =>
      obtain ⟨hpa, hu⟩ := updateHPA_kept (hhpa act hs) hen
      exact ⟨_, reconcileHPA_updated hrt hs hen hu⟩
  | false =>
    cases hs : s.hpa with
    | none => exact ⟨_, reconcileHPA_unwanted hrt hs hen⟩
    | some act =>
      have hdelete : s.deleteErr = none := by
        rw [hs, hen] at hok
        exact (hok rfl).resolve_left Bool.false_ne_true
      exact ⟨_, reconcileHPA_disabled hrt hen hdelete⟩

theorem hpa_succeeds_iff (hrt : s.rt = some rt)
    (hhpa : ∀ hpa, s.hpa = some hpa → KeptHPA rt.proxy.name hpa)
    (hd : s.deployment.isSome) (hs : s.service.isSome) :
    Succeeds s (inTurn [reconcileHPA]) ↔
      (s.hpa.isSome → scalingEnabled rt.proxy = true ∨ s.deleteErr = none) := by
  by_cases hok : s.hpa.isSome → scalingEnabled rt.proxy = true ∨ s.deleteErr = none
  · obtain ⟨hpa, hends⟩ := reconcileHPA_ok hrt hhpa hok
    exact iff_of_true ((succeeds_after hends).mpr ⟨_, _, ends_ret _ _, hd, hs⟩) hok
  · refine iff_of_false ?_ hok
    push Not at hok
    obtain ⟨hsome, hen, hdelete⟩ := hok
    obtain ⟨act, hact⟩ := Option.isSome_iff_exists.mp hsome
    obtain ⟨err, herr⟩ := Option.ne_none_iff_exists'.mp hdelete
    have hends := reconcileHPA_deleted hrt hact (Bool.eq_false_of_not_eq_true hen)
    rw [herr] at hends
    exact fails_of_err hends

theorem service_succeeds_iff (clock : Clock) (hrt : s.rt = some rt)
    (hservice : ∀ svc, s.service = some svc → KeptService rt.proxy.name svc)
    (hhpa : ∀ hpa, s.hpa = some hpa → KeptHPA rt.proxy.name hpa) (hd : s.deployment.isSome) :
    Succeeds s (inTurn [reconcileService, reconcilePodList clock, reconcileHPA]) ↔
      s.service.isSome ∧
        (s.hpa.isSome → scalingEnabled rt.proxy = true ∨ s.deleteErr = none) := by
  cases hs : s.service with
  | none =>
    refine iff_of_false (fails_of_err (reconcileService_absent hrt hs)) ?_
    rintro ⟨hsome, -⟩
    cases hsome
  | some svc =>
    obtain ⟨svc', hu⟩ := updateService_kept (q := rt.proxy) (hservice svc hs)
    let s' : State := { s with service := some svc' }
    have hpods : Ends serve s' (reconcilePodList clock) ({}, none) (reported clock rt s') :=
      reconcilePodList_ends clock hrt
    have hrt' : (reported clock rt s').rt =
        some ⟨rt.proxy, reconcileStatus clock s'.pods rt.proxy rt.status⟩ := rfl
    have hlast := hpa_succeeds_iff hrt' hhpa hd rfl
    rw [succeeds_after (reconcileService_present hrt hs hu), succeeds_after hpods, hlast]
    exact (and_iff_right rfl).symm

end Cases

/-- Nothing has to be created, and nothing is missing. -/
structure Undisturbed (proxy : ShardingSphereProxy) (s : State) : Prop where
  deployment : ∃ d, s.deployment = some d ∧
    (d.spec.replicas.isSome ∨ scalingEnabled proxy = true)
  service : s.service.isSome
  hpa : s.hpa.isSome → scalingEnabled proxy = true ∨ s.deleteErr = none

/-- A reconciliation succeeds when it finds both objects, with the number of replicas where it
looks for it, and need not delete an autoscaler in vain. -/
theorem reconcile_succeeds_iff (clock : Clock) (s : State) (rt : Stored) (hrt : s.rt = some rt)
    (hdeployment : ∀ d, s.deployment = some d → KeptDeployment rt.proxy.name d)
    (hservice : ∀ svc, s.service = some svc → KeptService rt.proxy.name svc)
    (hhpa : ∀ hpa, s.hpa = some hpa → KeptHPA rt.proxy.name hpa) :
    Succeeds s (reconcileRequest clock) ↔ Undisturbed rt.proxy s := by
  have hrequest : Succeeds s (reconcileRequest clock) ↔ Succeeds s (reconcile clock) := by
    have hget : Ends serve s (op .getProxy) (.ok rt) s := op_alone (serve_getProxy hrt)
    refine exists₂_congr (fun res t => and_congr_left' ⟨?_, ?_⟩)
    · exact fun h => hget.rest h
    · exact fun h => ends_bind hget h
  rw [hrequest]
  cases hd : s.deployment with
  | none =>
    refine iff_of_false (fails_of_err (reconcileDeployment_absent hrt hd)) ?_
    rintro ⟨⟨d, hsome, -⟩, -, -⟩
    rw [hd] at hsome
    cases hsome
  | some d =>
    obtain ⟨parts⟩ := kept_parts (hdeployment d hd)
    have hiff : Undisturbed rt.proxy s ↔
        (d.spec.replicas.isSome ∨ scalingEnabled rt.proxy = true) ∧ s.service.isSome ∧
          (s.hpa.isSome → scalingEnabled rt.proxy = true ∨ s.deleteErr = none) := by
      constructor
      · rintro ⟨⟨d', hd', hr⟩, hs, hh⟩
        rw [hd] at hd'
        cases hd'
        exact ⟨hr, hs, hh⟩
      · rintro ⟨hr, hs, hh⟩
        exact ⟨⟨d, hd, hr⟩, hs, hh⟩
    rw [hiff]
    by_cases hr : d.spec.replicas.isSome ∨ scalingEnabled rt.proxy = true
    · have hu : updateDeployment rt.proxy d = some (parts.renew rt.proxy) := by
        refine update_eq rt.proxy parts (hr.imp_right (fun hen => ?_))
        rw [unscaled_eq, hen]
        rfl
      let s' : State := { s with deployment := some (parts.renew rt.proxy) }
      have hrest : Succeeds s' (inTurn [reconcileService, reconcilePodList clock, reconcileHPA]) ↔
          s.service.isSome ∧
            (s.hpa.isSome → scalingEnabled rt.proxy = true ∨ s.deleteErr = none) :=
        service_succeeds_iff (s := s') clock hrt hservice hhpa rfl
      rw [reconcile, succeeds_after (reconcileDeployment_present hrt hd hu), hrest]
      exact (and_iff_right hr).symm
    · refine iff_of_false ?_ (fun h => hr h.1)
      obtain ⟨hnone, hen⟩ := not_or.mp hr
      have hu : updateDeployment rt.proxy d = none := by
        refine update_none rt.proxy (Option.not_isSome_iff_eq_none.mp hnone) ?_
        rw [unscaled_eq, Bool.eq_false_of_not_eq_true hen]
        rfl
      exact fails_of_stops (reconcileDeployment_panics hrt hd hu)

section Samples

def settledState : State where
  rt := some ⟨sampleProxy, newStatus⟩
  deployment := some (constructCascadingDeployment sampleProxy)
  service := some (constructCascadingService sampleProxy)
  hpa := none
  pods := []

theorem settledState_succeeds :
    Succeeds settledState (reconcileRequest ⟨fun _ => 1, fun _ => 1⟩) := by
  refine (reconcile_succeeds_iff _ settledState ⟨sampleProxy, newStatus⟩ rfl ?_ ?_ ?_).mpr
    ⟨⟨_, rfl, Or.inl (by decide)⟩, rfl, ?_⟩
  · rintro d h
    cases h
    exact .constructed rfl (by decide)
  · rintro svc h
    cases h
    exact .constructed rfl (by decide)
  · rintro hpa h
    cases h
  · rintro h
    cases h

def newState : State where
  rt := some ⟨sampleProxy, newStatus⟩
  deployment := none
  service := none
  hpa := none
  pods := []

theorem not_all_reconciles_succeed :
    ¬∀ (clock : Clock) (s : State) (rt : Stored), s.rt = some rt → rt.proxy.name ≠ "" →
      (∀ d, s.deployment = some d → KeptDeployment rt.proxy.name d) →
      (∀ svc, s.service = some svc → KeptService rt.proxy.name svc) →
      (∀ hpa, s.hpa = some hpa → KeptHPA rt.proxy.name hpa) → s.deleteErr = none →
      Succeeds s (reconcileRequest clock) := by
  intro h
  obtain ⟨res, t, hends, -⟩ := h ⟨fun _ => 1, fun _ => 1⟩ newState ⟨sampleProxy, newStatus⟩ rfl
    (by decide) (fun _ hx => by cases hx) (fun _ hx => by cases hx) (fun _ hx => by cases hx) rfl
  have herr : Ends serve newState (reconcileRequest ⟨fun _ => 1, fun _ => 1⟩)
      ({}, some "not found") _ :=
    op_ends (c := .getProxy) rfl (inTurn_err (reconcileDeployment_absent rfl rfl) _)
  have heq := herr.result_unique hends
  simp at heq

end Samples

end ShardingOnCloud.Operator.ProxySuccess
