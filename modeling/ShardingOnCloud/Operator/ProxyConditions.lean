import ShardingOnCloud.Operator.ProxyReadiness

namespace ShardingOnCloud.Operator.ProxyConditions

open ShardingOnCloud.Operator.ComputeNodeStatus (Pod)
open ShardingOnCloud.Operator.ProxyTypes ShardingOnCloud.Operator.ProxyReadiness

section Loops

def types (conditions : List Condition) : List ConditionType := conditions.map Condition.type

variable {conditions : List Condition} {cond : Condition}

theorem newConditions_cons (c : Condition) (cs : List Condition) (cond : Condition) :
    newConditions (c :: cs) (some cond) =
      if c.type = cond.type then
        { c with lastUpdateTime := cond.lastUpdateTime, status := cond.status } :: cs
      else c :: newConditions cs (some cond) := by
  simp only [newConditions, List.findIdx?_cons]
  by_cases h : c.type = cond.type
  · simp [h]
  · cases hi : cs.findIdx? (·.type = cond.type) <;> simp [h]

theorem types_newConditions (conditions : List Condition) (cond : Condition) :
    types (newConditions conditions (some cond)) =
      if cond.type ∈ types conditions then types conditions
      else types conditions ++ [cond.type] := by
  induction conditions with
  | nil => simp [newConditions, types]
  | cons c cs ih =>
    rw [newConditions_cons]
    by_cases h : c.type = cond.type
    · simp [types, h]
    · have hne : cond.type ≠ c.type := fun hx => h hx.symm
      have hcons : types (c :: newConditions cs (some cond)) =
          c.type :: types (newConditions cs (some cond)) := rfl
      have hmem : cond.type ∈ types (c :: cs) ↔ cond.type ∈ types cs := by
        simp [types, hne]
      rw [if_neg h, hcons, ih]
      simp only [hmem]
      split <;> rfl

theorem nodup_newConditions (h : (types conditions).Nodup) (cond : Option Condition) :
    (types (newConditions conditions cond)).Nodup := by
  cases cond with
  | none => exact h
  | some cond =>
    rw [types_newConditions]
    split
    · exact h
    · rename_i hnot
      exact h.append (List.nodup_singleton _) (List.disjoint_singleton.mpr hnot)

theorem status_newConditions (h : (types conditions).Nodup) {c : Condition}
    (hc : c ∈ newConditions conditions (some cond)) (htype : c.type = cond.type) :
    c.status = cond.status := by
  induction conditions with
  | nil =>
    rw [List.mem_singleton.mp hc]
  | cons c' cs ih =>
    obtain ⟨hnot, hrest⟩ := List.nodup_cons.mp h
    rw [newConditions_cons] at hc
    split at hc
    · rename_i heq
      rcases List.mem_cons.mp hc with rfl | hc
      · rfl
      · have hmem : c.type ∈ types cs := List.mem_map_of_mem hc
        rw [htype, ← heq] at hmem
        exact absurd hmem hnot
    · rename_i hne
      rcases List.mem_cons.mp hc with rfl | hc
      · exact absurd htype hne
      · exact ih hrest hc

theorem type_mem_newConditions (conditions : List Condition) (cond : Condition) :
    cond.type ∈ types (newConditions conditions (some cond)) := by
  rw [types_newConditions]
  split
  · assumption
  · exact List.mem_append_right _ (List.mem_singleton_self _)

theorem types_updateNotReadyConditions (clock : Clock) (conditions : List Condition)
    (cond : Option Condition) :
    types (updateNotReadyConditions clock conditions cond) =
      types (newConditions conditions cond) := by
  apply List.ext_getElem
  · simp [types, updateNotReadyConditions]
  · intro i hi hi'
    simp only [types, updateNotReadyConditions, List.getElem_map, List.getElem_mapIdx]
    split <;> rfl

theorem status_updateNotReadyConditions {clock : Clock} {cond : Option Condition}
    {c : Condition} (hc : c ∈ updateNotReadyConditions clock conditions cond)
    (htype : c.type = .ready) : c.status = .condFalse := by
  obtain ⟨i, hi, hci⟩ := List.mem_mapIdx.mp hc
  split at hci
  · rw [← hci]
  · rename_i hne
    rw [← hci] at htype
    exact absurd htype hne

end Loops

section Runs

structure Consistent (status : ProxyStatus) : Prop where
  distinct : (types status.conditions).Nodup
  ready_true : ∀ c ∈ status.conditions, c.type = .ready →
    (c.status = .condTrue ↔ status.phase = .ready)
  ready_present : status.phase = .ready → .ready ∈ types status.conditions

theorem step_consistent (clock : Clock) (podlist : List Pod) (rt : ShardingSphereProxy)
    {status : ProxyStatus} (h : (types status.conditions).Nodup) :
    Consistent (reconcileStatus clock podlist rt status) := by
  by_cases hphase : (reconcileStatus clock podlist rt status).phase = .ready
  · have hconditions : (reconcileStatus clock podlist rt status).conditions =
        newConditions status.conditions (some (newCondition clock .ready)) := if_pos hphase
    constructor
    · rw [hconditions]
      exact nodup_newConditions h _
    · intro c hc htype
      rw [hconditions] at hc
      have hstatus : c.status = .condTrue := status_newConditions h hc htype
      exact iff_of_true hstatus hphase
    · intro _
      rw [hconditions]
      exact type_mem_newConditions _ _
  · have hconditions : (reconcileStatus clock podlist rt status).conditions =
        updateNotReadyConditions clock status.conditions (clusterCondition clock podlist) :=
      if_neg hphase
    constructor
    · rw [hconditions, types_updateNotReadyConditions]
      exact nodup_newConditions h _
    · intro c hc htype
      rw [hconditions] at hc
      refine iff_of_false ?_ hphase
      rw [status_updateNotReadyConditions hc htype]
      decide
    · intro hready
      exact absurd hready hphase

/-- What one reconciliation is given. -/
structure Step where
  clock : Clock
  podlist : List Pod
  rt : ShardingSphereProxy

def Step.apply (step : Step) (status : ProxyStatus) : ProxyStatus :=
  reconcileStatus step.clock step.podlist step.rt status

def run (status : ProxyStatus) (steps : List Step) : ProxyStatus :=
  steps.foldl (fun status step => step.apply status) status

theorem run_nodup {status : ProxyStatus} (h : (types status.conditions).Nodup)
    (steps : List Step) : (types (run status steps).conditions).Nodup := by
  induction steps generalizing status with
  | nil => exact h
  | cons step steps ih =>
    exact ih (step_consistent step.clock step.podlist step.rt h).distinct

end Runs

/-- After each of the steps, from a status that lists no type twice. -/
theorem conditions_follow_phase (status : ProxyStatus) (h : (types status.conditions).Nodup)
    (steps : List Step) (step : Step) : Consistent (step.apply (run status steps)) :=
  step_consistent step.clock step.podlist step.rt (run_nodup h steps)

def upStatus : ProxyStatus := ⟨.ready, [⟨.ready, .condTrue, 0⟩], 1⟩

def downStep : Step := ⟨⟨fun _ => 1, fun _ => 1⟩, [], sampleProxy⟩

/-- A proxy that was ready loses its pods. -/
theorem downStep_consistent : Consistent (downStep.apply (run upStatus [downStep])) :=
  conditions_follow_phase upStatus (List.nodup_singleton _) [downStep] downStep

end ShardingOnCloud.Operator.ProxyConditions
