import ShardingOnCloud.Operator.Conditions

namespace ShardingOnCloud.Operator.PodConditions

open ShardingOnCloud.Operator.ComputeNodeTypes ShardingOnCloud.Operator.ComputeNodeStatus
open ShardingOnCloud.Operator.Conditions

section Types

def types (conditions : List ComputeNodeCondition) : List ConditionType :=
  conditions.map ComputeNodeCondition.type

theorem reported_nodup : (reported.map Prod.fst).Nodup := by decide

theorem types_nodup (clock : Clock) (pods : List Pod) :
    (types (getConditionFromPods clock pods)).Nodup := by
  by_cases hu : Unknown pods
  · obtain ⟨reason, message, hprod⟩ := produced_of_unknown clock hu
    rw [hprod]
    exact List.nodup_singleton _
  · have hsub : (types (getConditionFromPods clock pods)).Sublist (reported.map Prod.fst) := by
      rw [types, produced_of_known hu, List.map_map]
      exact List.filter_sublist.map _
    exact hsub.nodup reported_nodup

theorem status_true {clock : Clock} {pods : List Pod} {c : ComputeNodeCondition}
    (hc : c ∈ getConditionFromPods clock pods) : c.status = .condTrue := by
  by_cases hu : Unknown pods
  · obtain ⟨reason, message, hprod⟩ := produced_of_unknown clock hu
    rw [hprod] at hc
    rw [List.mem_singleton.mp hc]
    rfl
  · exact (produced_known hu hc).1

theorem unknown_mem (clock : Clock) (pods : List Pod) :
    .unknown ∈ types (getConditionFromPods clock pods) ↔ Unknown pods := by
  by_cases hu : Unknown pods
  · obtain ⟨reason, message, hprod⟩ := produced_of_unknown clock hu
    simp [types, hprod, hu, newCondition]
  · refine iff_of_false ?_ hu
    intro hmem
    obtain ⟨c, hc, htype⟩ := List.mem_map.mp hmem
    exact (produced_known hu hc).2 htype

/-- A pod that is unknown shows nothing else, so this does not ask whether all of them are. -/
theorem mem_types (clock : Clock) (pods : List Pod) {t : ConditionType} (ht : t ≠ .unknown) :
    t ∈ types (getConditionFromPods clock pods) ↔ Shown pods t := by
  by_cases hu : Unknown pods
  · obtain ⟨reason, message, hprod⟩ := produced_of_unknown clock hu
    refine iff_of_false ?_ ?_
    · rw [types, hprod]
      exact fun hmem => ht (List.mem_singleton.mp hmem)
    · rintro ⟨pod, hpod, hmem⟩
      rw [getPreferedConditionFromPod, if_pos (hu pod hpod)] at hmem
      exact ht (List.mem_singleton.mp hmem)
  · exact mem_produced_iff hu ht

end Types

section Order

variable {pods pods' : List Pod}

theorem unknown_perm (h : pods.Perm pods') : Unknown pods ↔ Unknown pods' :=
  forall_congr' (fun _ => by rw [h.mem_iff])

theorem count_perm (h : pods.Perm pods') (t : ConditionType) :
    (pods.flatMap getPreferedConditionFromPod).count t =
      (pods'.flatMap getPreferedConditionFromPod).count t :=
  (h.flatMap_right _).count_eq t

theorem types_perm (clock clock' : Clock) (h : pods.Perm pods') :
    types (getConditionFromPods clock pods) = types (getConditionFromPods clock' pods') := by
  by_cases hu : Unknown pods
  · obtain ⟨_, _, hprod⟩ := produced_of_unknown clock hu
    obtain ⟨_, _, hprod'⟩ := produced_of_unknown clock' ((unknown_perm h).mp hu)
    rw [hprod, hprod']
    rfl
  · have hu' : ¬Unknown pods' := fun hx => hu ((unknown_perm h).mpr hx)
    rw [types, types, produced_of_known hu, produced_of_known hu', List.map_map, List.map_map]
    simp only [count_perm h]
    rfl

end Order

section Shown

theorem failed_shown (pods : List Pod) :
    Shown pods .failed ↔ ∃ pod ∈ pods, pod.phase = .failed := by
  refine exists_congr (fun pod => and_congr_right (fun _ => ?_))
  have hnot : .failed ∉ getPreferedConditionFromPodConditions pod.conditions := by
    intro hmem
    have hrep := podConditions_reported hmem
    revert hrep
    decide
  unfold getPreferedConditionFromPod
  constructor
  · intro hmem
    split at hmem
    · simp at hmem
    dsimp only at hmem
    split at hmem
    · simp [hnot] at hmem
    split at hmem
    · assumption
    · exact absurd hmem hnot
  · intro hphase
    simp [hphase]

def podConditionOf : List (ConditionType × PodConditionType) :=
  [(.ready, .ready), (.started, .containersReady), (.initialized, .initialized),
   (.deployed, .podScheduled)]

def HasTrue (pod : Pod) (pt : PodConditionType) : Prop :=
  ∃ pc ∈ pod.conditions, pc.type = pt ∧ pc.status = .condTrue

theorem preferredType_eq {t : ConditionType} {pt : PodConditionType}
    (h : (t, pt) ∈ podConditionOf) (pt' : PodConditionType) :
    preferredType pt' = some t ↔ pt' = pt := by
  revert h
  cases pt' <;> simp [podConditionOf, preferredType] <;> rintro (h | h | h | h) <;> simp [h]

theorem mem_podConditions {t : ConditionType} {pt : PodConditionType}
    (h : (t, pt) ∈ podConditionOf) (pod : Pod) :
    t ∈ getPreferedConditionFromPodConditions pod.conditions ↔ HasTrue pod pt := by
  rw [getPreferedConditionFromPodConditions, List.mem_filterMap]
  refine exists_congr (fun pc => and_congr_right (fun _ => ?_))
  by_cases hs : pc.status = .condTrue
  · simp [hs, preferredType_eq h]
  · simp [hs]

theorem reported_shown {t : ConditionType} {pt : PodConditionType}
    (h : (t, pt) ∈ podConditionOf) (pods : List Pod) :
    Shown pods t ↔
      ∃ pod ∈ pods, pod.phase ≠ .unknown ∧ pod.phase ≠ .failed ∧ HasTrue pod pt := by
  have hother : ∀ p ∈ podConditionOf, p.1 ≠ .unknown ∧ p.1 ≠ .failed ∧ p.1 ≠ .pending := by
    decide
  obtain ⟨hunknown, hfailed, hpending⟩ := hother _ h
  refine exists_congr (fun pod => and_congr_right (fun _ => ?_))
  rw [← mem_podConditions h]
  unfold getPreferedConditionFromPod
  by_cases hu : pod.phase = .unknown
  · simp [hu, hunknown]
  rw [if_neg hu]
  dsimp only
  split
  · rename_i hphase
    have hf : pod.phase ≠ .failed := by
      rintro hf
      simp [hf] at hphase
    simp [hpending, hu, hf]
  · by_cases hf : pod.phase = .failed
    · simp [hf, hfailed]
    · simp [hf, hu]

end Shown

/-- What the conditions say about the pods, in whatever order these are listed. -/
theorem conditions_describe_pods (clock : Clock) (pods : List Pod) :
    (types (getConditionFromPods clock pods)).Nodup ∧
    (∀ c ∈ getConditionFromPods clock pods, c.status = .condTrue) ∧
    (∀ (clock' : Clock) (pods' : List Pod), pods.Perm pods' →
      types (getConditionFromPods clock' pods') = types (getConditionFromPods clock pods)) ∧
    (.unknown ∈ types (getConditionFromPods clock pods) ↔
      pods = [] ∨ ∀ pod ∈ pods, pod.phase = .unknown) ∧
    (.failed ∈ types (getConditionFromPods clock pods) ↔ ∃ pod ∈ pods, pod.phase = .failed) ∧
    ∀ p ∈ podConditionOf, p.1 ∈ types (getConditionFromPods clock pods) ↔
      ∃ pod ∈ pods, pod.phase ≠ .unknown ∧ pod.phase ≠ .failed ∧ HasTrue pod p.2 := by
  refine ⟨types_nodup clock pods, fun _ hc => status_true hc,
    fun clock' _ h => (types_perm clock clock' h).symm, ?_, ?_, ?_⟩
  · rw [unknown_mem]
    constructor
    · exact Or.inr
    · rintro (rfl | h)
      · intro pod hpod
        cases hpod
      · exact h
  · rw [mem_types clock pods (by decide), failed_shown]
  · rintro ⟨t, pt⟩ hp
    have hother : ∀ p ∈ podConditionOf, p.1 ≠ .unknown := by decide
    rw [mem_types clock pods (hother _ hp), reported_shown hp]

end ShardingOnCloud.Operator.PodConditions
