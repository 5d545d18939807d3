import ShardingOnCloud.Operator.Conditions

namespace ShardingOnCloud.Operator.ConditionMerge

open ShardingOnCloud.Operator.ComputeNodeTypes ShardingOnCloud.Operator.ComputeNodeStatus
open ShardingOnCloud.Operator.Conditions

abbrev types (conditions : List ComputeNodeCondition) : List ConditionType :=
  conditions.map ComputeNodeCondition.type

/-- No type is listed twice, and nothing is true next to `Unknown`. -/
structure WellFormed (conditions : List ComputeNodeCondition) : Prop where
  nodup : (types conditions).Nodup
  exclusive : IsTrue conditions .unknown → ∀ t ≠ .unknown, ¬ IsTrue conditions t

section Types

variable (conditions : List ComputeNodeCondition) (cond : ComputeNodeCondition)

theorem types_merged : types (conditions.map (mergeInto cond)) = types conditions := by
  rw [types, List.map_map]
  exact List.map_congr_left (fun c _ => mergeInto_type cond c)

theorem types_mergeCondition : types (mergeCondition conditions cond) =
    if cond.type ∈ types conditions then types conditions
    else types conditions ++ [cond.type] := by
  have hfound : conditions.any (·.type = cond.type) = true ↔ cond.type ∈ types conditions := by
    simp
  unfold mergeCondition
  dsimp only
  by_cases h : cond.type ∈ types conditions
  · rw [if_pos (hfound.mpr h), if_pos h, types_merged]
  · rw [if_neg (hfound.not.mpr h), if_neg h, types, List.map_append, ← types, types_merged]
    rfl

variable {conditions cond}

theorem mergeCondition_subset : types conditions ⊆ types (mergeCondition conditions cond) := by
  rw [types_mergeCondition]
  split
  · exact List.Subset.refl _
  · exact List.subset_append_left _ _

theorem mergeCondition_nodup (h : (types conditions).Nodup) :
    (types (mergeCondition conditions cond)).Nodup := by
  rw [types_mergeCondition]
  split
  · exact h
  · rename_i hnew
    exact List.nodup_append.mpr ⟨h, List.nodup_singleton _, by
      rintro t ht _ hx rfl
      exact hnew (List.mem_singleton.mp hx ▸ ht)⟩

end Types

section Loop

variable {conditions conds : List ComputeNodeCondition} {cond : ComputeNodeCondition}

theorem update_subset :
    types conditions ⊆ types (updateComputeNodeStatusCondition conditions conds) := by
  induction conds generalizing conditions with
  | nil => exact List.Subset.refl _
  | cons cond conds ih => exact List.Subset.trans mergeCondition_subset ih

theorem update_nodup (h : (types conditions).Nodup) :
    (types (updateComputeNodeStatusCondition conditions conds)).Nodup := by
  induction conds generalizing conditions with
  | nil => exact h
  | cons cond conds ih => exact ih (mergeCondition_nodup h)

/-- A condition of any other type takes `Unknown` back. -/
theorem mergeCondition_known (hcond : cond.type ≠ .unknown) :
    ¬ IsTrue (mergeCondition conditions cond) .unknown := by
  have hmap : ¬ IsTrue (conditions.map (mergeInto cond)) .unknown := by
    rintro ⟨c', hc', htype, hstatus⟩
    obtain ⟨c, hc, rfl⟩ := List.mem_map.mp hc'
    rw [mergeInto_type] at htype
    simp [mergeInto, htype, hcond.symm] at hstatus
  unfold mergeCondition
  dsimp only
  split
  · exact hmap
  · rintro ⟨c, hc, htype, hstatus⟩
    rcases List.mem_append.mp hc with hc | hc
    · exact hmap ⟨c, hc, htype, hstatus⟩
    · rw [List.mem_singleton.mp hc] at htype
      exact hcond htype

theorem mergeCondition_unknown (hcond : cond.type = .unknown) (hs : cond.status = .condTrue) :
    IsTrue (mergeCondition conditions cond) .unknown := by
  unfold mergeCondition
  dsimp only
  split
  · rename_i hfound
    obtain ⟨c, hc, htype⟩ := List.any_eq_true.mp hfound
    have htype' : c.type = cond.type := of_decide_eq_true htype
    refine ⟨_, List.mem_map_of_mem hc, (mergeInto_type cond c).trans (htype'.trans hcond), ?_⟩
    simp [mergeInto, htype', hs]
  · exact ⟨cond, List.mem_append_right _ (List.mem_singleton.mpr rfl), hcond, hs⟩

theorem update_known (hconds : ∀ c ∈ conds, c.type ≠ .unknown) (hne : conds ≠ []) :
    ¬ IsTrue (updateComputeNodeStatusCondition conditions conds) .unknown := by
  induction conds generalizing conditions with
  | nil => exact absurd rfl hne
  | cons cond conds ih =>
    obtain ⟨hcond, hrest⟩ := List.forall_mem_cons.mp hconds
    cases conds with
    | nil => exact mergeCondition_known hcond
    | cons cond' conds => exact ih hrest (by simp)

end Loop

section Steps

structure Observation where
  clock : Clock
  pods : List Pod
  svc : Service

def Observation.produced (o : Observation) : List ComputeNodeCondition :=
  getConditionFromPods o.clock o.pods

def merge (cn : ComputeNode) (o : Observation) : ComputeNode :=
  { cn with status := reconcileComputeNodeStatus o.clock o.pods o.svc cn }

theorem merge_conditions (cn : ComputeNode) (o : Observation) :
    (merge cn o).status.conditions =
      updateComputeNodeStatusCondition cn.status.conditions o.produced := rfl

/-- What one step makes of `Unknown`, and what it leaves true next to it. -/
theorem merge_unknown {cn : ComputeNode} (o : Observation) (h : WellFormed cn.status.conditions) :
    (.unknown ∈ types o.produced → IsTrue (merge cn o).status.conditions .unknown) ∧
    ((∃ t ∈ types o.produced, t ≠ .unknown) → ¬ IsTrue (merge cn o).status.conditions .unknown) ∧
    (IsTrue (merge cn o).status.conditions .unknown →
      ∀ t ≠ .unknown, ¬ IsTrue (merge cn o).status.conditions t) := by
  rw [merge_conditions]
  by_cases hu : Unknown o.pods
  · obtain ⟨reason, message, hprod⟩ := produced_of_unknown o.clock hu
    have hprod' : o.produced = [newCondition o.clock .unknown reason message] := hprod
    rw [hprod']
    refine ⟨fun _ => mergeCondition_unknown rfl rfl, ?_, fun _ t ht => isTrue_update_unknown rfl ht⟩
    rintro ⟨t, ht, hne⟩
    exact absurd (List.mem_singleton.mp ht) hne
  · have hknown : ∀ c ∈ o.produced, c.type ≠ .unknown := fun c hc => (produced_known hu hc).2
    refine ⟨?_, ?_, ?_⟩
    · intro hmem
      obtain ⟨c, hc, htype⟩ := List.mem_map.mp hmem
      exact absurd htype (hknown c hc)
    · rintro ⟨t, ht, -⟩
      refine update_known hknown ?_
      rintro hnil
      simp [hnil] at ht
    · cases hprod : o.produced with
      | nil => exact h.exclusive
      | cons c cs =>
        intro htrue
        exact absurd htrue (update_known (hprod ▸ hknown) (by simp))

theorem merge_wellFormed {cn : ComputeNode} (o : Observation)
    (h : WellFormed cn.status.conditions) : WellFormed (merge cn o).status.conditions :=
  ⟨update_nodup h.nodup, (merge_unknown o h).2.2⟩

theorem merges_wellFormed {cn : ComputeNode} (h : WellFormed cn.status.conditions)
    (os : List Observation) : WellFormed (os.foldl merge cn).status.conditions := by
  induction os generalizing cn with
  | nil => exact h
  | cons o os ih =>
    rw [List.foldl_cons]
    exact ih (merge_wellFormed o h)

theorem merges_subset (cn : ComputeNode) (os : List Observation) :
    types cn.status.conditions ⊆ types (os.foldl merge cn).status.conditions := by
  induction os generalizing cn with
  | nil => exact List.Subset.refl _
  | cons o os ih =>
    have hstep : types cn.status.conditions ⊆ types (merge cn o).status.conditions := by
      rw [merge_conditions]
      exact update_subset
    rw [List.foldl_cons]
    exact List.Subset.trans hstep (ih (merge cn o))

end Steps

/-- The list after any number of passes and one more of them. -/
theorem merging_keeps_conditions {cn : ComputeNode} (h : WellFormed cn.status.conditions)
    (os : List Observation) (o : Observation) :
    WellFormed ((os ++ [o]).foldl merge cn).status.conditions ∧
    types cn.status.conditions ⊆ types ((os ++ [o]).foldl merge cn).status.conditions ∧
    types (os.foldl merge cn).status.conditions ⊆
      types ((os ++ [o]).foldl merge cn).status.conditions ∧
    (.unknown ∈ types o.produced →
      IsTrue ((os ++ [o]).foldl merge cn).status.conditions .unknown) ∧
    ((∃ t ∈ types o.produced, t ≠ .unknown) →
      ¬ IsTrue ((os ++ [o]).foldl merge cn).status.conditions .unknown) := by
  have hlast : (os ++ [o]).foldl merge cn = merge (os.foldl merge cn) o := by
    rw [List.foldl_append]
    rfl
  have hunknown := merge_unknown o (merges_wellFormed h os)
  refine ⟨merges_wellFormed h (os ++ [o]), merges_subset cn (os ++ [o]), ?_, ?_, ?_⟩
  · rw [hlast, merge_conditions]
    exact update_subset
  · rw [hlast]
    exact hunknown.1
  · rw [hlast]
    exact hunknown.2.1

def finding (pods : List Pod) : Observation := ⟨stoppedClock, pods, emptyService⟩

/-- The pods are lost, and one comes back. -/
theorem readyNode_conditions_kept :
    WellFormed readyNode.status.conditions ∧
    WellFormed (([finding []] ++ [finding [pendingPod]]).foldl merge readyNode).status.conditions ∧
    .pending ∈ types (finding [pendingPod]).produced := by
  have hready : WellFormed readyNode.status.conditions := by
    refine ⟨by decide, ?_⟩
    rintro ⟨c, hc, htype, -⟩
    rw [List.mem_singleton.mp hc] at htype
    cases htype
  exact ⟨hready, (merging_keeps_conditions hready _ _).1, by decide⟩

end ShardingOnCloud.Operator.ConditionMerge
