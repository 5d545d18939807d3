import Mathlib.Data.List.Nodup
import ShardingOnCloud.Operator.StorageNodeTypes

namespace ShardingOnCloud.Operator.StorageNodeConditions

open ShardingOnCloud.Operator.StorageNodeTypes

def Distinct (c : List StorageNodeCondition) : Prop :=
  (c.map StorageNodeCondition.type).Nodup

def Present (c : List StorageNodeCondition) (t : ConditionType) : Prop :=
  ∃ condition ∈ c, condition.type = t

def IsTrue (c : List StorageNodeCondition) (t : ConditionType) : Prop :=
  ∃ condition ∈ c, condition.type = t ∧ condition.status = .condTrue

section Operations

variable {c : List StorageNodeCondition} {x y : StorageNodeCondition} {t : ConditionType}

theorem present_iff : Present c t ↔ t ∈ c.map StorageNodeCondition.type := by
  simp [Present]

theorem types_replaceCondition (c : List StorageNodeCondition) (x : StorageNodeCondition) :
    (replaceCondition x c).map StorageNodeCondition.type = c.map StorageNodeCondition.type := by
  induction c with
  | nil => rfl
  | cons existing c ih =>
    by_cases h : existing.type = x.type
    · rw [replaceCondition, if_pos h, List.map_cons, List.map_cons, h]
    · rw [replaceCondition, if_neg h, List.map_cons, List.map_cons, ih]

theorem mem_replaceCondition (hd : Distinct c) (hx : Present c x.type) :
    y ∈ replaceCondition x c ↔ y = x ∨ (y ∈ c ∧ y.type ≠ x.type) := by
  induction c with
  | nil =>
    obtain ⟨z, hz, -⟩ := hx
    cases hz
  | cons existing c ih =>
    have hfresh : existing.type ∉ c.map StorageNodeCondition.type := (List.nodup_cons.mp hd).1
    have hrest : Distinct c := (List.nodup_cons.mp hd).2
    by_cases h : existing.type = x.type
    · have hne : ∀ z ∈ c, z.type ≠ x.type := by
        intro z hz he
        exact hfresh (List.mem_map.mpr ⟨z, hz, he.trans h.symm⟩)
      rw [replaceCondition, if_pos h, List.mem_cons, List.mem_cons]
      constructor
      · rintro (rfl | hy)
        · exact Or.inl rfl
        · exact Or.inr ⟨Or.inr hy, hne y hy⟩
      · rintro (rfl | ⟨rfl | hy, hyx⟩)
        · exact Or.inl rfl
        · exact absurd h hyx
        · exact Or.inr hy
    · have hx' : Present c x.type := by
        obtain ⟨z, hz, hzx⟩ := hx
        obtain rfl | hz := List.mem_cons.mp hz
        · exact absurd hzx h
        · exact ⟨z, hz, hzx⟩
      rw [replaceCondition, if_neg h, List.mem_cons, List.mem_cons, ih hrest hx']
      constructor
      · rintro (rfl | rfl | ⟨hy, hyx⟩)
        · exact Or.inr ⟨Or.inl rfl, h⟩
        · exact Or.inl rfl
        · exact Or.inr ⟨Or.inr hy, hyx⟩
      · rintro (rfl | ⟨rfl | hy, hyx⟩)
        · exact Or.inr (Or.inl rfl)
        · exact Or.inl rfl
        · exact Or.inr (Or.inr ⟨hy, hyx⟩)

theorem upsertCondition_of_present (hx : Present c x.type) :
    upsertCondition c x = replaceCondition x c := by
  obtain ⟨z, hz, hzx⟩ := hx
  exact if_pos (List.any_eq_true.mpr ⟨z, hz, decide_eq_true hzx⟩)

theorem upsertCondition_of_absent (hx : ¬ Present c x.type) : upsertCondition c x = c ++ [x] := by
  refine if_neg (fun h => hx ?_)
  obtain ⟨z, hz, hzx⟩ := List.any_eq_true.mp h
  exact ⟨z, hz, of_decide_eq_true hzx⟩

theorem distinct_upsertCondition (hd : Distinct c) : Distinct (upsertCondition c x) := by
  by_cases hx : Present c x.type
  · unfold Distinct
    rw [upsertCondition_of_present hx, types_replaceCondition]
    exact hd
  · unfold Distinct
    rw [upsertCondition_of_absent hx, List.map_append, List.nodup_append]
    refine ⟨hd, List.nodup_singleton _, ?_⟩
    intro t ht u hu he
    rw [he, List.mem_singleton.mp hu] at ht
    exact hx (present_iff.mpr ht)

theorem mem_upsertCondition (hd : Distinct c) :
    y ∈ upsertCondition c x ↔ y = x ∨ (y ∈ c ∧ y.type ≠ x.type) := by
  by_cases hx : Present c x.type
  · rw [upsertCondition_of_present hx]
    exact mem_replaceCondition hd hx
  · rw [upsertCondition_of_absent hx, List.mem_append, List.mem_singleton, or_comm]
    have hne : y ∈ c → y.type ≠ x.type := fun hy he => hx ⟨y, hy, he⟩
    constructor
    · exact Or.imp_right (fun hy => ⟨hy, hne hy⟩)
    · exact Or.imp_right And.left

theorem mem_upsertCondition_self (hd : Distinct c) (hy : y.type = x.type) :
    y ∈ upsertCondition c x ↔ y = x := by
  rw [mem_upsertCondition hd]
  constructor
  · rintro (h | ⟨-, h⟩)
    · exact h
    · exact absurd hy h
  · exact Or.inl

theorem mem_upsertCondition_of_ne (hd : Distinct c) (hy : y.type ≠ x.type) :
    y ∈ upsertCondition c x ↔ y ∈ c := by
  rw [mem_upsertCondition hd]
  constructor
  · rintro (rfl | ⟨h, -⟩)
    · exact absurd rfl hy
    · exact h
  · intro h
    exact Or.inr ⟨h, hy⟩

theorem isTrue_upsertCondition_self (hd : Distinct c) (hx : x.type = t) :
    IsTrue (upsertCondition c x) t ↔ x.status = .condTrue := by
  constructor
  · rintro ⟨y, hy, hyt, hys⟩
    rw [mem_upsertCondition_self hd (hyt.trans hx.symm)] at hy
    exact hy ▸ hys
  · intro hs
    exact ⟨x, (mem_upsertCondition_self hd rfl).mpr rfl, hx, hs⟩

theorem isTrue_upsertCondition_of_ne (hd : Distinct c) (hx : x.type ≠ t) :
    IsTrue (upsertCondition c x) t ↔ IsTrue c t := by
  refine exists_congr (fun y => and_congr_left ?_)
  rintro ⟨hyt, -⟩
  exact mem_upsertCondition_of_ne hd (fun h => hx (h.symm.trans hyt))

theorem distinct_removeCondition (hd : Distinct c) : Distinct (removeCondition c t) :=
  List.Nodup.sublist (List.Sublist.map _ List.filter_sublist) hd

theorem mem_removeCondition : y ∈ removeCondition c t ↔ y ∈ c ∧ y.type ≠ t := by
  simp [removeCondition]

end Operations

/-- What the three conditions of the controller say about the state they were computed for. -/
structure Consistent (status new : StorageNodeStatus) : Prop where
  distinct : Distinct new.conditions
  clusterReady : Present new.conditions .clusterReady ↔ status.cluster.status ≠ ""
  clusterReady_status : ∀ condition ∈ new.conditions, condition.type = .clusterReady →
    (condition.status = .condTrue ↔ status.cluster.status = "available")
  available : IsTrue new.conditions .available ↔ new.phase = .ready
  registered : IsTrue new.conditions .registered ↔ status.registered = true
  settled : status.phase ≠ .deleting → new.phase = .ready ∨ new.phase = .notReady
  ready : status.phase ≠ .deleting → (new.phase = .ready ↔
    status.instances ≠ [] ∧ (∀ i ∈ status.instances, i.status = "available") ∧
      (status.cluster.status = "" ∨ status.cluster.status = "available"))

section Computed

def clusterCondition (clusterStatus : String) : StorageNodeCondition :=
  if clusterStatus = statusAvailable then ⟨.clusterReady, .condTrue, "Cluster is ready", ""⟩
  else ⟨.clusterReady, .condFalse, "Cluster is not ready", ""⟩

def availableCondition (phase : Phase) : StorageNodeCondition :=
  if phase = .ready then ⟨.available, .condTrue, "All instances are ready", ""⟩
  else ⟨.available, .condFalse, "One or more instances are not ready", ""⟩

def registeredCondition (registered : Bool) : StorageNodeCondition :=
  if registered then ⟨.registered, .condTrue, "StorageNode is registered", ""⟩
  else ⟨.registered, .condFalse, "StorageNode is not registered", ""⟩

def clusterConditions (c : List StorageNodeCondition) (clusterStatus : String) :
    List StorageNodeCondition :=
  if clusterStatus ≠ "" then upsertCondition c (clusterCondition clusterStatus)
  else removeCondition c .clusterReady

theorem clusterCondition_type (s : String) : (clusterCondition s).type = .clusterReady := by
  unfold clusterCondition
  split <;> rfl

theorem clusterCondition_status (s : String) :
    (clusterCondition s).status = .condTrue ↔ s = "available" := by
  unfold clusterCondition statusAvailable
  split <;> simp_all

theorem availableCondition_type (p : Phase) : (availableCondition p).type = .available := by
  unfold availableCondition
  split <;> rfl

theorem availableCondition_status (p : Phase) :
    (availableCondition p).status = .condTrue ↔ p = .ready := by
  unfold availableCondition
  split <;> simp_all

theorem registeredCondition_type (b : Bool) : (registeredCondition b).type = .registered := by
  cases b <;> rfl

theorem registeredCondition_status (b : Bool) :
    (registeredCondition b).status = .condTrue ↔ b = true := by
  cases b <;> decide

variable (status : StorageNodeStatus)

theorem conditions_computeDesiredState :
    (computeDesiredState status).conditions =
      upsertCondition (upsertCondition (clusterConditions status.conditions status.cluster.status)
        (availableCondition (computePhase status))) (registeredCondition status.registered) := by
  unfold computeDesiredState computeNewConditions clusterConditions clusterCondition
    availableCondition registeredCondition
  dsimp only
  split <;> split <;> split <;> (try split) <;> rfl

theorem phase_settled (h : status.phase ≠ .deleting) :
    computePhase status = .ready ∨ computePhase status = .notReady := by
  unfold computePhase
  rw [if_neg h]
  split
  · exact Or.inl rfl
  · exact Or.inr rfl

theorem phase_ready_iff (h : status.phase ≠ .deleting) : computePhase status = .ready ↔
    status.instances ≠ [] ∧ (∀ i ∈ status.instances, i.status = "available") ∧
      (status.cluster.status = "" ∨ status.cluster.status = "available") := by
  rw [computePhase_eq_ready, allInstancesReady_iff]
  constructor
  · rintro ⟨-, hc, hne, hall⟩
    exact ⟨hne, hall, hc⟩
  · rintro ⟨hne, hall, hc⟩
    exact ⟨h, hc, hne, hall⟩

variable {status}

theorem distinct_clusterConditions (hd : Distinct status.conditions) (s : String) :
    Distinct (clusterConditions status.conditions s) := by
  unfold clusterConditions
  split
  · exact distinct_upsertCondition hd
  · exact distinct_removeCondition hd

theorem mem_clusterConditions (hd : Distinct status.conditions) {s : String}
    {y : StorageNodeCondition} (hy : y.type = .clusterReady) :
    y ∈ clusterConditions status.conditions s ↔ s ≠ "" ∧ y = clusterCondition s := by
  unfold clusterConditions
  split
  · rename_i hs
    rw [mem_upsertCondition_self hd (hy.trans (clusterCondition_type s).symm)]
    exact (and_iff_right hs).symm
  · rename_i hs
    rw [mem_removeCondition]
    constructor
    · rintro ⟨-, h⟩
      exact absurd hy h
    · rintro ⟨h, -⟩
      exact absurd h hs

theorem distinct_computeDesiredState (hd : Distinct status.conditions) :
    Distinct (computeDesiredState status).conditions := by
  rw [conditions_computeDesiredState]
  exact distinct_upsertCondition (distinct_upsertCondition (distinct_clusterConditions hd _))

theorem mem_clusterReady (hd : Distinct status.conditions) {y : StorageNodeCondition}
    (hy : y.type = .clusterReady) :
    y ∈ (computeDesiredState status).conditions ↔
      status.cluster.status ≠ "" ∧ y = clusterCondition status.cluster.status := by
  have hc := distinct_clusterConditions hd status.cluster.status
  have ha : y.type ≠ (availableCondition (computePhase status)).type := by
    rw [hy, availableCondition_type]
    decide
  have hr : y.type ≠ (registeredCondition status.registered).type := by
    rw [hy, registeredCondition_type]
    decide
  rw [conditions_computeDesiredState, mem_upsertCondition_of_ne (distinct_upsertCondition hc) hr,
    mem_upsertCondition_of_ne hc ha, mem_clusterConditions hd hy]

theorem consistent_computeDesiredState (hd : Distinct status.conditions) :
    Consistent status (computeDesiredState status) := by
  have hc := distinct_clusterConditions hd status.cluster.status
  refine ⟨distinct_computeDesiredState hd, ?_, ?_, ?_, ?_, phase_settled status,
    phase_ready_iff status⟩
  · constructor
    · rintro ⟨y, hmem, hy⟩
      exact ((mem_clusterReady hd hy).mp hmem).1
    · intro hs
      have hy := clusterCondition_type status.cluster.status
      exact ⟨_, (mem_clusterReady hd hy).mpr ⟨hs, rfl⟩, hy⟩
  · intro y hmem hy
    rw [((mem_clusterReady hd hy).mp hmem).2]
    exact clusterCondition_status status.cluster.status
  · rw [conditions_computeDesiredState, isTrue_upsertCondition_of_ne (distinct_upsertCondition hc),
      isTrue_upsertCondition_self hc (availableCondition_type _), availableCondition_status]
    · rfl
    · rw [registeredCondition_type]
      decide
  · rw [conditions_computeDesiredState, isTrue_upsertCondition_self (distinct_upsertCondition hc)
      (registeredCondition_type _), registeredCondition_status]

end Computed

section Runs

/-- The statuses reached from one by computing the desired state, and by any change of the
phase, the cluster, the instances and `Registered` in between. -/
inductive Reaches (status : StorageNodeStatus) : StorageNodeStatus → Prop
  | start : Reaches status status
  | compute {now : StorageNodeStatus} : Reaches status now →
      Reaches status (computeDesiredState now)
  | change {now : StorageNodeStatus} (phase : Phase) (cluster : ClusterStatus)
      (instances : List InstanceStatus) (registered : Bool) : Reaches status now →
      Reaches status
        ⟨phase, now.conditions, cluster, instances, registered⟩

theorem distinct_reaches {status now : StorageNodeStatus} (hd : Distinct status.conditions)
    (h : Reaches status now) : Distinct now.conditions := by
  induction h with
  | start => exact hd
  | compute _ ih => exact distinct_computeDesiredState ih
  | change _ _ _ _ _ ih => exact ih

theorem conditions_stay_consistent {status now : StorageNodeStatus}
    (hd : Distinct status.conditions) (h : Reaches status now) :
    Consistent now (computeDesiredState now) :=
  consistent_computeDesiredState (distinct_reaches hd h)

def pausedStatus : StorageNodeStatus :=
  { conditions := [⟨.other "Paused", .condTrue, "", ""⟩,
      ⟨.registered, .condFalse, "StorageNode is not registered", ""⟩]
    cluster := { status := "creating" } }

theorem paused_stays_consistent :
    Consistent { computeDesiredState pausedStatus with registered := true }
      (computeDesiredState { computeDesiredState pausedStatus with registered := true }) :=
  conditions_stay_consistent (by unfold Distinct; decide) (.change _ _ _ _ (.compute .start))

end Runs

end ShardingOnCloud.Operator.StorageNodeConditions
