import ShardingOnCloud.Operator.ComputeNodeStatus

namespace ShardingOnCloud.Operator.Conditions

open ShardingOnCloud.Operator.ComputeNodeTypes ShardingOnCloud.Operator.ComputeNodeStatus

section Produced

def Shown (pods : List Pod) (t : ConditionType) : Prop :=
  ∃ pod ∈ pods, t ∈ getPreferedConditionFromPod pod

def Unknown (pods : List Pod) : Prop := ∀ pod ∈ pods, pod.phase = .unknown

theorem podConditions_reported {pcs : List PodCondition} {t : ConditionType}
    (h : t ∈ getPreferedConditionFromPodConditions pcs) :
    t ∈ [ConditionType.ready, .started, .initialized, .deployed] := by
  obtain ⟨pc, -, hpc⟩ := List.mem_filterMap.mp h
  split at hpc
  · cases hpc
  · cases hty : pc.type <;> rw [hty] at hpc <;> cases hpc <;> decide

theorem pod_reported {pod : Pod} {t : ConditionType} (h : t ∈ getPreferedConditionFromPod pod)
    (ht : t ≠ .unknown) : t ∈ reported.map Prod.fst := by
  have hwide : ∀ t ∈ [ConditionType.ready, .started, .initialized, .deployed],
      t ∈ reported.map Prod.fst := by decide
  unfold getPreferedConditionFromPod at h
  split at h
  · exact absurd (List.mem_singleton.mp h) ht
  dsimp only at h
  split at h
  · rcases List.mem_cons.mp h with rfl | h
    · decide
    · exact hwide t (podConditions_reported h)
  split at h
  · rw [List.mem_singleton.mp h]
    decide
  · exact hwide t (podConditions_reported h)

theorem pod_unknown {pod : Pod} :
    .unknown ∈ getPreferedConditionFromPod pod ↔ pod.phase = .unknown := by
  unfold getPreferedConditionFromPod
  constructor
  · intro h
    by_contra hx
    rw [if_neg hx] at h
    dsimp only at h
    have hnot : .unknown ∉ getPreferedConditionFromPodConditions pod.conditions := by
      intro hmem
      have := podConditions_reported hmem
      revert this
      decide
    split at h
    · simp [hnot] at h
    split at h
    · simp at h
    · exact hnot h
  · intro h
    simp [h]

theorem pod_unknown_count (pod : Pod) :
    (getPreferedConditionFromPod pod).count .unknown = if pod.phase = .unknown then 1 else 0 := by
  split
  · rename_i h
    simp [getPreferedConditionFromPod, h]
  · rename_i h
    exact List.count_eq_zero.mpr (fun hx => h (pod_unknown.mp hx))

/-- Each pod counts at most once, so only all of them together can reach the number. -/
theorem all_unknown_iff (pods : List Pod) :
    (pods.flatMap getPreferedConditionFromPod).count .unknown = pods.length ↔ Unknown pods := by
  have hle : ∀ pods : List Pod,
      (pods.flatMap getPreferedConditionFromPod).count .unknown ≤ pods.length := by
    intro pods
    induction pods with
    | nil => simp
    | cons pod pods ih =>
      rw [List.flatMap_cons, List.count_append, pod_unknown_count, List.length_cons]
      split <;> omega
  induction pods with
  | nil => simp [Unknown]
  | cons pod pods ih =>
    have hrest := hle pods
    have hcons : Unknown (pod :: pods) ↔ pod.phase = .unknown ∧ Unknown pods :=
      List.forall_mem_cons
    rw [hcons, List.flatMap_cons, List.count_append, pod_unknown_count, List.length_cons]
    split
    · rename_i h
      simp only [h, true_and]
      constructor
      · intro hx
        exact ih.mp (by omega)
      · intro hx
        have hcount := ih.mpr hx
        omega
    · rename_i h
      simp only [h, false_and, iff_false]
      omega

theorem shown_count {pods : List Pod} {t : ConditionType} :
    (pods.flatMap getPreferedConditionFromPod).count t > 0 ↔ Shown pods t := by
  rw [gt_iff_lt, List.count_pos_iff, List.mem_flatMap]
  rfl

theorem reported_known : ∀ r ∈ reported, r.1 ≠ .unknown := by decide

theorem produced_of_unknown (clock : Clock) {pods : List Pod} (h : Unknown pods) :
    ∃ reason message,
      getConditionFromPods clock pods = [newCondition clock .unknown reason message] := by
  unfold getConditionFromPods
  split
  · exact ⟨_, _, rfl⟩
  · have hnone : reported.filter
        (fun r => (pods.flatMap getPreferedConditionFromPod).count r.1 > 0) = [] := by
      refine List.filter_eq_nil_iff.mpr (fun r hr hx => ?_)
      obtain ⟨pod, hpod, hmem⟩ := shown_count.mp (of_decide_eq_true hx)
      rw [getPreferedConditionFromPod, if_pos (h pod hpod)] at hmem
      exact reported_known r hr (List.mem_singleton.mp hmem)
    dsimp only
    rw [if_pos ((all_unknown_iff pods).mpr h), hnone]
    exact ⟨_, _, rfl⟩

theorem produced_of_known {clock : Clock} {pods : List Pod} (h : ¬Unknown pods) :
    getConditionFromPods clock pods =
      (reported.filter (fun r => (pods.flatMap getPreferedConditionFromPod).count r.1 > 0)).map
        (fun r => newCondition clock r.1 r.2.1 r.2.2) := by
  have hne : pods ≠ [] := by
    rintro rfl
    exact h (by simp [Unknown])
  unfold getConditionFromPods
  rw [if_neg hne]
  dsimp only
  rw [if_neg (fun hx => h ((all_unknown_iff pods).mp hx)), List.nil_append]

theorem mem_produced_iff {clock : Clock} {pods : List Pod} (h : ¬Unknown pods)
    {t : ConditionType} (ht : t ≠ .unknown) :
    t ∈ (getConditionFromPods clock pods).map ComputeNodeCondition.type ↔ Shown pods t := by
  rw [produced_of_known h, List.map_map]
  constructor
  · intro hmem
    obtain ⟨r, hr, rfl⟩ := List.mem_map.mp hmem
    exact shown_count.mp (of_decide_eq_true (List.mem_filter.mp hr).2)
  · intro hshown
    obtain ⟨pod, hpod, hmem⟩ := hshown
    obtain ⟨r, hr, rfl⟩ := List.mem_map.mp (pod_reported hmem ht)
    refine List.mem_map.mpr ⟨r, List.mem_filter.mpr ⟨hr, ?_⟩, rfl⟩
    exact decide_eq_true (shown_count.mpr ⟨pod, hpod, hmem⟩)

theorem produced_known {clock : Clock} {pods : List Pod} (h : ¬Unknown pods)
    {c : ComputeNodeCondition} (hc : c ∈ getConditionFromPods clock pods) :
    c.status = .condTrue ∧ c.type ≠ .unknown := by
  rw [produced_of_known h] at hc
  obtain ⟨r, hr, rfl⟩ := List.mem_map.mp hc
  refine ⟨rfl, ?_⟩
  exact reported_known r (List.mem_filter.mp hr).1

end Produced

section Merge

def IsTrue (conditions : List ComputeNodeCondition) (t : ConditionType) : Prop :=
  ∃ c ∈ conditions, c.type = t ∧ c.status = .condTrue

theorem mergeInto_type (cond c : ComputeNodeCondition) : (mergeInto cond c).type = c.type := by
  unfold mergeInto
  dsimp only
  split
  · rfl
  split <;> rfl

theorem mergeInto_status {cond c : ComputeNodeCondition} (hcond : cond.type ≠ .unknown)
    (hc : c.type ≠ .unknown) :
    (mergeInto cond c).status = if c.type = cond.type then cond.status else c.status := by
  unfold mergeInto
  dsimp only
  split
  · rfl
  · rw [if_neg (not_or.mpr ⟨hcond, hc⟩)]

theorem isTrue_map {conditions : List ComputeNodeCondition} {cond : ComputeNodeCondition}
    {t : ConditionType} (hcond : cond.type ≠ .unknown) (hs : cond.status = .condTrue)
    (ht : t ≠ .unknown) :
    IsTrue (conditions.map (mergeInto cond)) t ↔
      (t = cond.type ∧ ∃ c ∈ conditions, c.type = cond.type) ∨ IsTrue conditions t := by
  constructor
  · rintro ⟨c', hc', rfl, hstatus⟩
    obtain ⟨c, hc, rfl⟩ := List.mem_map.mp hc'
    rw [mergeInto_type] at ht ⊢
    rw [mergeInto_status hcond ht] at hstatus
    by_cases hx : c.type = cond.type
    · exact Or.inl ⟨hx, c, hc, hx⟩
    · rw [if_neg hx] at hstatus
      exact Or.inr ⟨c, hc, rfl, hstatus⟩
  · rintro (⟨rfl, c, hc, hx⟩ | ⟨c, hc, rfl, hstatus⟩)
    · refine ⟨_, List.mem_map_of_mem hc, (mergeInto_type cond c).trans hx, ?_⟩
      rw [mergeInto_status hcond (hx ▸ hcond), if_pos hx, hs]
    · refine ⟨_, List.mem_map_of_mem hc, mergeInto_type cond c, ?_⟩
      rw [mergeInto_status hcond ht]
      split
      · exact hs
      · exact hstatus

/-- One round of the outer loop, for a condition that is not `Unknown`. -/
theorem isTrue_mergeCondition {conditions : List ComputeNodeCondition}
    {cond : ComputeNodeCondition} {t : ConditionType} (hcond : cond.type ≠ .unknown)
    (hs : cond.status = .condTrue) (ht : t ≠ .unknown) :
    IsTrue (mergeCondition conditions cond) t ↔ t = cond.type ∨ IsTrue conditions t := by
  unfold mergeCondition
  dsimp only
  split
  · rename_i hfound
    obtain ⟨c, hc, hx⟩ := List.any_eq_true.mp hfound
    rw [isTrue_map hcond hs ht, and_iff_left ⟨c, hc, of_decide_eq_true hx⟩]
  · rename_i hfound
    have hnone : ¬∃ c ∈ conditions, c.type = cond.type := by
      rintro ⟨c, hc, hx⟩
      exact hfound (List.any_eq_true.mpr ⟨c, hc, decide_eq_true hx⟩)
    have happend : IsTrue (conditions.map (mergeInto cond) ++ [cond]) t ↔
        IsTrue (conditions.map (mergeInto cond)) t ∨ t = cond.type := by
      simp [IsTrue, or_and_right, exists_or, hs, eq_comm]
    rw [happend, isTrue_map hcond hs ht]
    simp only [hnone, and_false, false_or]
    exact or_comm

/-- The whole loop: what was true stays true. -/
theorem isTrue_update {conditions conds : List ComputeNodeCondition} {t : ConditionType}
    (hconds : ∀ c ∈ conds, c.status = .condTrue ∧ c.type ≠ .unknown) (ht : t ≠ .unknown) :
    IsTrue (updateComputeNodeStatusCondition conditions conds) t ↔
      t ∈ conds.map ComputeNodeCondition.type ∨ IsTrue conditions t := by
  induction conds generalizing conditions with
  | nil => simp [updateComputeNodeStatusCondition]
  | cons cond conds ih =>
    obtain ⟨⟨hs, hcond⟩, hrest⟩ := List.forall_mem_cons.mp hconds
    have hcons : updateComputeNodeStatusCondition conditions (cond :: conds) =
        updateComputeNodeStatusCondition (mergeCondition conditions cond) conds := rfl
    rw [hcons, ih hrest, isTrue_mergeCondition hcond hs ht, List.map_cons, List.mem_cons]
    tauto

/-- `Unknown` resets everything else. -/
theorem isTrue_update_unknown {conditions : List ComputeNodeCondition}
    {cond : ComputeNodeCondition} {t : ConditionType} (hcond : cond.type = .unknown)
    (ht : t ≠ .unknown) : ¬IsTrue (updateComputeNodeStatusCondition conditions [cond]) t := by
  have hmap : ¬IsTrue (conditions.map (mergeInto cond)) t := by
    rintro ⟨c', hc', rfl, hstatus⟩
    obtain ⟨c, hc, rfl⟩ := List.mem_map.mp hc'
    rw [mergeInto_type] at ht
    simp [mergeInto, ht, hcond] at hstatus
  have hupdate : updateComputeNodeStatusCondition conditions [cond] =
      mergeCondition conditions cond := rfl
  rw [hupdate, mergeCondition]
  split
  · exact hmap
  · rintro ⟨c, hc, rfl, hstatus⟩
    rcases List.mem_append.mp hc with hc | hc
    · exact hmap ⟨c, hc, rfl, hstatus⟩
    · rw [List.mem_singleton.mp hc] at ht
      exact ht hcond

end Merge

/-- The conditions are those of the pods when these are all unknown, or when no condition
was true before that none of them shows any more. -/
theorem conditions_current_iff (clock : Clock) (pods : List Pod) (svc : Service)
    (cn : ComputeNode) :
    (∀ t ≠ .unknown, IsTrue (reconcileComputeNodeStatus clock pods svc cn).conditions t ↔
      t ∈ (getConditionFromPods clock pods).map ComputeNodeCondition.type) ↔
    (Unknown pods ∨ ∀ t ≠ .unknown, IsTrue cn.status.conditions t → Shown pods t) := by
  have hconditions : (reconcileComputeNodeStatus clock pods svc cn).conditions =
      updateComputeNodeStatusCondition cn.status.conditions (getConditionFromPods clock pods) := rfl
  rw [hconditions]
  by_cases hu : Unknown pods
  · obtain ⟨reason, message, hprod⟩ := produced_of_unknown clock hu
    simp only [hu, true_or, iff_true]
    intro t ht
    rw [hprod]
    refine iff_of_false (isTrue_update_unknown rfl ht) ?_
    intro hmem
    exact ht (List.mem_singleton.mp hmem)
  · simp only [hu, false_or]
    refine forall₂_congr (fun t ht => ?_)
    rw [isTrue_update (fun c hc => produced_known hu hc) ht, ← mem_produced_iff hu ht]
    tauto

def stoppedClock : Clock := fun _ => (0, 0)

def pendingPod : Pod := ⟨.pending, [], []⟩

def readyNode : ComputeNode where
  objectMeta := ⟨"proxy", "default", ∅, fun _ => none⟩
  selector := some ∅
  portBindings := none
  serviceType := .clusterIP
  serverConfig := ⟨[], fun _ => none⟩
  agentPlugins := none
  status :=
    { conditions := [newCondition stoppedClock .ready "PodReady" "Some pods are ready"] }

def emptyService : Service := ⟨⟨"proxy", "default", ∅, fun _ => none⟩, ⟨.clusterIP, ∅, [], "", [], []⟩, []⟩

/-- The only pod is pending, and the node is still said to be ready. -/
theorem not_all_current :
    ¬∀ (clock : Clock) (pods : List Pod) (svc : Service) (cn : ComputeNode),
      (cn.status.conditions.map ComputeNodeCondition.type).Nodup → ∀ t ≠ .unknown,
        (IsTrue (reconcileComputeNodeStatus clock pods svc cn).conditions t ↔
          t ∈ (getConditionFromPods clock pods).map ComputeNodeCondition.type) := by
  intro h
  have hready := (h stoppedClock [pendingPod] emptyService readyNode (by decide) .ready
    (by decide)).mp ⟨_, List.mem_cons_self, rfl, rfl⟩
  revert hready
  decide

end ShardingOnCloud.Operator.Conditions
