import ShardingOnCloud.Operator.ChaosController

namespace ShardingOnCloud.Operator.ChaosFinalizer

open ShardingOnCloud.Lib.Program ShardingOnCloud.Lib.Pool ShardingOnCloud.Lib.Footprint
open ShardingOnCloud.Operator.StorageNodeTypes (ApiErr)
open ShardingOnCloud.Operator.ChaosTypes ShardingOnCloud.Operator.ChaosMesh
open ShardingOnCloud.Operator.ChaosController

section World

/-- An object of chaos-mesh, and whether the controller has created it. -/
structure Stored (k : Kind) where
  obj : Obj k
  ours : Bool

/-- What is stored: the Chaos and the objects under its name. The flag says that the controller
has removed its finalizer. -/
structure State where
  chaos : Option Chaos
  objs : (k : Kind) → Option (Stored k)
  released : Bool

def State.put (s : State) (k : Kind) (o : Option (Stored k)) : State :=
  { s with objs := Function.update s.objs k o }

def Ours (s : State) (k : Kind) : Prop := ∃ o, s.objs k = some o ∧ o.ours = true

/-- An object that is to be deleted goes away with its last finalizer. -/
def settle (c : Chaos) : Option Chaos :=
  if c.deletionTimestamp ∧ c.finalizers = [] then none else some c

/-- What is stored after `Update`: the status is a resource of its own, and the deletion timestamp
belongs to the API server. -/
def updated (old new : Chaos) : Chaos :=
  { new with status := old.status, deletionTimestamp := old.deletionTimestamp }

def statusUpdated (old new : Chaos) : Chaos := { old with status := new.status }

def releases (old new : Chaos) : Bool :=
  chaosFinalizerName ∈ old.finalizers ∧ chaosFinalizerName ∉ new.finalizers

/-- A write that is answered with an error may have been done all the same. -/
def Wrote (err : Option ApiErr) (s t : State) (done : Prop) : Prop :=
  (err.isSome = true ∧ t = s) ∨ done

/-- The API server. An object of chaos-mesh whose deletion is accepted counts as gone, and what is
made of an object that is sent is left open. -/
def api : World State Ev := ⟨fun s e t =>
  match e with
  | .main (.reply .getChaos (.ok c)) => s.chaos = some c ∧ t = s
  | .main (.reply (.updateChaos c) err) => Wrote err s t (∃ old, s.chaos = some old ∧
      t = { s with
        chaos := settle (updated old c)
        released := s.released || releases old c })
  | .main (.reply (.statusUpdate c) err) => Wrote err s t (∃ old, s.chaos = some old ∧
      t = { s with chaos := settle (statusUpdated old c) })
  | .main (.reply (.get k) (.ok o)) => (∃ ours, s.objs k = some ⟨o, ours⟩) ∧ t = s
  | .main (.reply (.get k) (.error (.notFound _))) => s.objs k = none ∧ t = s
  | .main (.reply (.create k _) err) => Wrote err s t (s.objs k = none ∧
      ∃ o, t = s.put k (some ⟨o, true⟩))
  | .main (.reply (.update k _) err) => Wrote err s t (∃ old o, s.objs k = some old ∧
      t = s.put k (some ⟨o, old.ours⟩))
  | .main (.reply (.delete k) err) => Wrote err s t (t = s.put k none)
  | _ => t = s⟩

/-- What others may do to the Chaos: all but write its status, touch the finalizer of this
controller, or take back a deletion. -/
structure Edited (old new : Chaos) : Prop where
  name_eq : new.name = old.name
  nameSpace_eq : new.nameSpace = old.nameSpace
  status_eq : new.status = old.status
  finalizer_iff : chaosFinalizerName ∈ new.finalizers ↔ chaosFinalizerName ∈ old.finalizers
  deletion : old.deletionTimestamp = true → new.deletionTimestamp = true

structure Created (s : State) : Prop where
  alive : ∃ c, s.chaos = some c ∧ c.deletionTimestamp = false
  held : s.released = false
  none_ours : ∀ k, ¬Ours s k

/-- What happens between the passes. Objects of chaos-mesh may change in any way, but nobody else
makes one that counts as created by the controller. -/
structure Others (s t : State) : Prop where
  chaos : t.chaos = s.chaos ∨ ∃ old new, s.chaos = some old ∧ Edited old new ∧
    t.chaos = settle new
  released_eq : t.released = s.released
  ours : ∀ k, Ours t k → Ours s k

/-- The states of the runs of the controller over one object from its creation, with passes up to
an arbitrary moment that all begin in a state with `P`. -/
inductive Runs (m : MeshActions) (P : State → Prop) : State → Prop
  | created {s : State} : Created s → Runs m P s
  | pass {s t : State} {tr : List Ev} :
      Runs m P s → P s → Cut alone (reconcile m) tr → api.Path s tr t → Runs m P t
  | others {s t : State} : Runs m P s → Others s t → Runs m P t

/-- Once the finalizer is removed, nothing that the controller has created is left. -/
def Clean (s : State) : Prop := s.released = true → ∀ k, ¬Ours s k

/-- The kinds of objects that a pass creates for a Chaos, and those that it deletes. -/
def creates (c : Chaos) : List Kind :=
  (c.spec.podChaos.bind (fun p => podKind p.action)).toList ++
    (c.spec.networkChaos.map (fun _ => Kind.network)).toList

def deletes (c : Chaos) : List Kind :=
  match c.spec.podChaos with
  | some p => (podKind p.action).toList
  | none => (c.spec.networkChaos.map (fun _ => Kind.network)).toList

/-- A deleted Chaos has nothing left but what its finalization deletes, and asks for nothing once
that is done. -/
def Safe (s : State) : Prop :=
  ∀ c, s.chaos = some c → c.deletionTimestamp = true →
    (chaosFinalizerName ∈ c.finalizers → ∀ k, Ours s k → k ∈ deletes c) ∧
    (chaosFinalizerName ∉ c.finalizers → creates c = [])

end World

section Steps

variable {s t : State}

theorem settle_eq_some {c d : Chaos} (h : settle c = some d) : d = c := by
  unfold settle at h
  split at h
  · cases h
  · exact (Option.some.inj h).symm

theorem api_cases {e : Ev} (h : api.step s e t) :
    t = s ∨
    (∃ old c, about e = .updateChaos c ∧ s.chaos = some old ∧
      t = { s with
        chaos := settle (updated old c)
        released := s.released || releases old c }) ∨
    (∃ old c, about e = .statusUpdate c ∧ s.chaos = some old ∧
      t = { s with chaos := settle (statusUpdated old c) }) ∨
    (∃ k o o', about e = .create k o ∧ t = s.put k (some ⟨o', true⟩)) ∨
    (∃ k o old o', about e = .update k o ∧ s.objs k = some old ∧
      t = s.put k (some ⟨o', old.ours⟩)) ∨
    ∃ k, about e = .delete k ∧ t = s.put k none := by
  unfold api at h
  dsimp only at h
  split at h
  · exact Or.inl h.2
  · obtain ⟨-, ht⟩ | ⟨old, hs, ht⟩ := h
    · exact Or.inl ht
    · exact Or.inr (Or.inl ⟨old, _, rfl, hs, ht⟩)
  · obtain ⟨-, ht⟩ | ⟨old, hs, ht⟩ := h
    · exact Or.inl ht
    · exact Or.inr (Or.inr (Or.inl ⟨old, _, rfl, hs, ht⟩))
  · exact Or.inl h.2
  · exact Or.inl h.2
  · obtain ⟨-, ht⟩ | ⟨-, o, ht⟩ := h
    · exact Or.inl ht
    · exact Or.inr (Or.inr (Or.inr (Or.inl ⟨_, _, o, rfl, ht⟩)))
  · obtain ⟨-, ht⟩ | ⟨old, o, hs, ht⟩ := h
    · exact Or.inl ht
    · exact Or.inr (Or.inr (Or.inr (Or.inr (Or.inl ⟨_, _, old, o, rfl, hs, ht⟩))))
  · obtain ⟨-, ht⟩ | ht := h
    · exact Or.inl ht
    · exact Or.inr (Or.inr (Or.inr (Or.inr (Or.inr ⟨_, rfl, ht⟩))))
  · exact Or.inl h

theorem api_keeps {P : Op → Prop} {K : State → Prop} {α : Type} {p : Rec α} {tr : List Ev}
    (hK : ∀ e s t, P (about e) → api.step s e t → K s → K t) (hp : Only P p)
    (hc : Cut alone p tr) (ht : api.Path s tr t) (hs : K s) : K t :=
  World.path_keeps ht (fun e he s t => hK e s t (hp.events hc e he)) hs

theorem ours_put_none {k j : Kind} (h : Ours (s.put k none) j) : j ≠ k ∧ Ours s j := by
  obtain ⟨o, ho, hours⟩ := h
  by_cases hj : j = k
  · subst hj
    simp [State.put] at ho
  · simp only [State.put, Function.update_of_ne hj] at ho
    exact ⟨hj, o, ho, hours⟩

end Steps

section Footprint

theorem getByNamespacedName_only {P : Op → Prop} {k : Kind} (h : P (.get k)) :
    Only P (getByNamespacedName k) := by
  refine ⟨h, fun r => ?_⟩
  rcases r with (_ | _ | _) | _ <;> trivial

theorem built_only {P : Op → Prop} (m : MeshActions) (c : Chaos) (k : Kind) (h : P .panic) :
    Only P (built m c k) := by
  unfold built
  split
  · trivial
  · exact ⟨h, fun x => nomatch x⟩

theorem reconcileObject_only {P : Op → Prop} (m : MeshActions) (c : Chaos) (k : Kind)
    (hg : P (.get k)) (hp : P .panic) (hc : ∀ o, P (.create k o)) (hu : ∀ o, P (.update k o)) :
    Only P (reconcileObject m c k) := by
  refine only_bind (getByNamespacedName_only hg) ?_
  rintro (_ | _ | o)
  · trivial
  · refine only_bind (built_only m c k hp) ?_
    rintro (_ | o)
    · trivial
    · refine ⟨hc o, ?_⟩
      rintro (_ | _) <;> trivial
  · refine only_bind (built_only m c k hp) ?_
    rintro (_ | o')
    · trivial
    · dsimp only
      split
      · refine ⟨hu _, ?_⟩
        rintro (_ | _) <;> trivial
      · trivial

theorem reconcileChaos_only {P : Op → Prop} (m : MeshActions) (c : Chaos) (hp : P .panic)
    (h : ∀ k ∈ creates c, P (.get k) ∧ (∀ o, P (.create k o)) ∧ ∀ o, P (.update k o)) :
    Only P (reconcileChaos m c) := by
  have hnetwork : Only P (reconcileNetwork m c) := by
    unfold reconcileNetwork
    split
    · rename_i n hn
      obtain ⟨hg, hc, hu⟩ := h .network (by simp [creates, hn])
      exact reconcileObject_only m c .network hg hp hc hu
    · trivial
  unfold reconcileChaos
  split
  · rename_i p hpod
    refine only_bind ?_ ?_
    · unfold reconcilePodChaos
      split
      · rename_i k hk
        obtain ⟨hg, hc, hu⟩ := h k (by simp [creates, hpod, hk])
        exact reconcileObject_only m c k hg hp hc hu
      · trivial
    · rintro (_ | err)
      · exact hnetwork
      · trivial
  · exact hnetwork

theorem conditionOf_only {P : Op → Prop} (c : Chaos) {k : Kind} (h : P (.get k)) :
    Only P (conditionOf c k) := by
  refine only_bind (getByNamespacedName_only h) ?_
  rintro (_ | _) <;> trivial

theorem reconcileStatus_only {P : Op → Prop} (c : Chaos) (hg : ∀ k, P (.get k))
    (hs : ∀ d, P (.statusUpdate d)) : Only P (reconcileStatus c) := by
  have hnetwork : ∀ c, Only P (updateNetworkCondition c) := by
    intro c
    unfold updateNetworkCondition
    split
    · exact conditionOf_only c (hg _)
    · trivial
  refine only_bind ?_ ?_
  · unfold updateChaosCondition
    split
    · refine only_bind (conditionOf_only c (hg _)) ?_
      rintro (_ | c')
      · trivial
      · exact hnetwork c'
    · exact hnetwork c
  · rintro (_ | c')
    · trivial
    · refine ⟨hs _, ?_⟩
      rintro (_ | _) <;> trivial

theorem steady_only {P : Op → Prop} (m : MeshActions) (c : Chaos) (hp : P .panic)
    (hg : ∀ k, P (.get k)) (hs : ∀ d, P (.statusUpdate d))
    (h : ∀ k ∈ creates c, (∀ o, P (.create k o)) ∧ ∀ o, P (.update k o)) :
    Only P (steady m c) := by
  refine only_bind (reconcileChaos_only m c hp (fun k hk => ⟨hg k, h k hk⟩)) (fun err => ?_)
  refine only_bind (reconcileStatus_only c hg hs) (fun err' => ?_)
  split <;> trivial

end Footprint

section Invariant

/-- Once the finalizer is removed, nothing of the controller's is left, and the Chaos is on its
way out. -/
def Inv (s : State) : Prop :=
  s.released = true → (∀ k, ¬Ours s k) ∧
    ∀ c, s.chaos = some c → c.deletionTimestamp = true ∧ chaosFinalizerName ∉ c.finalizers

theorem inv_held {s : State} (h : s.released = false) : Inv s := by
  intro hr
  rw [h] at hr
  cases hr

def Holds : Op → Prop
  | .updateChaos c => chaosFinalizerName ∈ c.finalizers
  | _ => True

theorem holds_step {e : Ev} {s t : State} (he : Holds (about e)) (h : api.step s e t)
    (hs : s.released = false) : t.released = false := by
  obtain rfl | ⟨old, c, hc, -, rfl⟩ | ⟨old, c, -, -, rfl⟩ | ⟨k, o, o', -, rfl⟩ |
    ⟨k, o, old, o', -, -, rfl⟩ | ⟨k, -, rfl⟩ := api_cases h
  · exact hs
  · rw [hc] at he
    have hr : releases old c = false := by simp [releases, show _ ∈ c.finalizers from he]
    simp [hs, hr]
  · exact hs
  · exact hs
  · exact hs
  · exact hs

theorem alive_only (m : MeshActions) {c : Chaos} (h : c.deletionTimestamp = false) :
    Only Holds (handle m c) := by
  have hsteady : ∀ c, Only Holds (steady m c) := fun c =>
    steady_only m c trivial (fun _ => trivial) (fun _ => trivial)
      (fun _ _ => ⟨fun _ => trivial, fun _ => trivial⟩)
  unfold handle
  rw [h]
  simp only [Bool.not_false, if_true]
  split
  · exact hsteady c
  · refine ⟨by simp [Holds, addFinalizer], ?_⟩
    rintro (_ | err)
    · exact hsteady _
    · trivial

def Watches : Op → Prop
  | .get _ | .statusUpdate _ | .panic => True
  | _ => False

theorem watches_step {e : Ev} {s t : State} (he : Watches (about e)) (h : api.step s e t)
    (hs : Inv s) : Inv t := by
  obtain rfl | ⟨old, c, hc, -⟩ | ⟨old, c, -, hold, rfl⟩ | ⟨k, o, o', hc, -⟩ |
    ⟨k, o, old, o', hc, -⟩ | ⟨k, hc, -⟩ := api_cases h
  · exact hs
  · rw [hc] at he
    exact he.elim
  · intro hr
    refine ⟨(hs hr).1, fun d hd => ?_⟩
    obtain rfl := settle_eq_some hd
    exact (hs hr).2 old hold
  · rw [hc] at he
    exact he.elim
  · rw [hc] at he
    exact he.elim
  · rw [hc] at he
    exact he.elim

theorem gone_only (m : MeshActions) {c : Chaos} (h : creates c = []) :
    Only Watches (steady m c) := by
  refine steady_only m c trivial (fun _ => trivial) (fun _ => trivial) ?_
  rw [h]
  simp

end Invariant

section Finalize

/-- The calls of a deletion, which leave the Chaos alone. -/
def Deletes (ks : List Kind) : Op → Prop
  | .get _ => True
  | .delete k => k ∈ ks
  | _ => False

/-- What a deletion leaves: the Chaos as it was, and nothing new. -/
structure Fewer (s t : State) : Prop where
  chaos_eq : t.chaos = s.chaos
  released_eq : t.released = s.released
  ours : ∀ k, Ours t k → Ours s k

theorem deletes_step {ks : List Kind} {e : Ev} {s₀ s t : State} (he : Deletes ks (about e))
    (h : api.step s e t) (hs : Fewer s₀ s) : Fewer s₀ t := by
  obtain rfl | ⟨old, c, hc, -⟩ | ⟨old, c, hc, -⟩ | ⟨k, o, o', hc, -⟩ | ⟨k, o, old, o', hc, -⟩ |
    ⟨k, -, rfl⟩ := api_cases h
  · exact hs
  · rw [hc] at he
    exact he.elim
  · rw [hc] at he
    exact he.elim
  · rw [hc] at he
    exact he.elim
  · rw [hc] at he
    exact he.elim
  · exact ⟨hs.chaos_eq, hs.released_eq, fun j hj => hs.ours j (ours_put_none hj).2⟩

theorem deleteObject_only (k : Kind) : Only (Deletes [k]) (deleteObject k) := by
  refine only_bind (getByNamespacedName_only trivial) ?_
  rintro (_ | _ | o)
  · trivial
  · trivial
  · refine ⟨by simp [Deletes], ?_⟩
    rintro (_ | _) <;> trivial

theorem deleteObject_run {k : Kind} {tr : List Ev} {s t : State}
    (h : Run alone (deleteObject k) tr none) (hp : api.Path s tr t) : t.objs k = none := by
  obtain ⟨r, u, tr₁, hstep, h₁, hp₁⟩ := run_call_path h hp (fun _ _ h => h)
  rcases r with (_ | _ | _) | o
  · obtain ⟨rfl, -⟩ := run_ret.mp h₁
    cases hp₁
    obtain ⟨hnone, rfl⟩ := hstep
    exact hnone
  · cases (run_ret.mp h₁).2
  · cases (run_ret.mp h₁).2
  · obtain ⟨r, v, tr₂, hstep, h₂, hp₂⟩ := run_call_path h₁ hp₁ (fun _ _ h => h)
    cases r with
    | some err => cases (run_ret.mp h₂).2
    | none =>
      obtain ⟨rfl, -⟩ := run_ret.mp h₂
      cases hp₂
      obtain ⟨hn, -⟩ | rfl := hstep
      · cases hn
      · simp [State.put]

theorem deleteExternalResources_eq (c : Chaos) :
    (∃ k, deletes c = [k] ∧ deleteExternalResources c = deleteObject k) ∨
      deletes c = [] ∧ deleteExternalResources c = .ret none := by
  unfold deletes deleteExternalResources
  cases c.spec.podChaos with
  | some p =>
    dsimp only
    unfold podKind
    split
    · exact Or.inl ⟨.pod, rfl, rfl⟩
    · split
      · exact Or.inl ⟨.stress, rfl, rfl⟩
      · exact Or.inr ⟨rfl, rfl⟩
  | none =>
    cases c.spec.networkChaos with
    | some n => exact Or.inl ⟨.network, rfl, rfl⟩
    | none => exact Or.inr ⟨rfl, rfl⟩

theorem deleteExternalResources_only (c : Chaos) :
    Only (Deletes (deletes c)) (deleteExternalResources c) := by
  obtain ⟨k, hk, he⟩ | ⟨hk, he⟩ := deleteExternalResources_eq c
  · rw [hk, he]
    exact deleteObject_only k
  · rw [he]
    trivial

theorem deleteExternalResources_run {c : Chaos} {tr : List Ev} {s t : State}
    (h : Run alone (deleteExternalResources c) tr none) (hp : api.Path s tr t) :
    ∀ k ∈ deletes c, t.objs k = none := by
  obtain ⟨k, hk, he⟩ | ⟨hk, he⟩ := deleteExternalResources_eq c
  · rw [he] at h
    rw [hk]
    simpa using deleteObject_run h hp
  · rw [hk]
    simp

theorem release_only (c : Chaos) : Only (· = .updateChaos (removeFinalizer c)) (release c) := by
  refine ⟨rfl, ?_⟩
  rintro (_ | _) <;> trivial

/-- Nothing is left of a Chaos that is to be deleted, and the finalizer is gone if it is said to
be. -/
structure Ending (s : State) : Prop where
  none_ours : ∀ k, ¬Ours s k
  deleted : ∀ c, s.chaos = some c → c.deletionTimestamp = true
  finalizer : ∀ c, s.chaos = some c → s.released = true → chaosFinalizerName ∉ c.finalizers

theorem Ending.inv {s : State} (h : Ending s) : Inv s :=
  fun hr => ⟨h.none_ours, fun c hc => ⟨h.deleted c hc, h.finalizer c hc hr⟩⟩

theorem release_step {c : Chaos} {e : Ev} {s t : State}
    (he : about e = .updateChaos (removeFinalizer c)) (h : api.step s e t) (hs : Ending s) :
    Ending t := by
  obtain rfl | ⟨old, d, hd, hold, rfl⟩ | ⟨old, d, hd, -⟩ | ⟨k, o, o', hd, -⟩ |
    ⟨k, o, old, o', hd, -⟩ | ⟨k, hd, -⟩ := api_cases h
  · exact hs
  · cases hd.symm.trans he
    refine ⟨hs.none_ours, fun x hx => ?_, fun x hx _ => ?_⟩
    · obtain rfl := settle_eq_some hx
      exact hs.deleted old hold
    · obtain rfl := settle_eq_some hx
      simp [updated, removeFinalizer]
  · cases hd.symm.trans he
  · cases hd.symm.trans he
  · cases hd.symm.trans he
  · cases hd.symm.trans he

theorem finalize_inv {c : Chaos} {tr : List Ev} {s t : State} (h : Cut alone (finalize c) tr)
    (hp : api.Path s tr t) (hs : s.released = false) (hc : s.chaos = some c)
    (hdel : c.deletionTimestamp = true) (hsafe : ∀ k, Ours s k → k ∈ deletes c) : Inv t := by
  have hfewer : ∀ {tr u}, Cut alone (deleteExternalResources c) tr → api.Path s tr u →
      Fewer s u := fun hcut hpath =>
    api_keeps (K := Fewer s) (fun _ _ _ => deletes_step) (deleteExternalResources_only c) hcut
      hpath ⟨rfl, rfl, fun _ h => h⟩
  obtain hcut | ⟨tr₁, r, tr₂, hrun, hcut, rfl⟩ := cut_bind h
  · exact inv_held ((hfewer hcut hp).released_eq.trans hs)
  obtain ⟨u, hu, hp₂⟩ := World.path_append.mp hp
  have hf := hfewer hrun.cut hu
  have hheld : u.released = false := hf.released_eq.trans hs
  cases r with
  | some err =>
    cases hcut
    cases hp₂
    exact inv_held hheld
  | none =>
    have hgone : ∀ k, ¬Ours u k := by
      rintro k ⟨o, ho, hours⟩
      have hk := hsafe k (hf.ours k ⟨o, ho, hours⟩)
      rw [deleteExternalResources_run hrun hu k hk] at ho
      cases ho
    have hending : Ending u := by
      refine ⟨hgone, fun d hd => ?_, fun d hd hr => ?_⟩
      · rw [hf.chaos_eq, hc] at hd
        cases hd
        exact hdel
      · rw [hheld] at hr
        cases hr
    exact (api_keeps (K := Ending) (fun _ _ _ => release_step) (release_only c) hcut hp₂
      hending).inv

end Finalize

section Runs

variable {m : MeshActions}

theorem pass_inv {s t : State} {tr : List Ev} (hs : Inv s) (hsafe : Safe s)
    (h : Cut alone (reconcile m) tr) (hp : api.Path s tr t) : Inv t := by
  have hread : Only (· = .getChaos) (op .getChaos) := ⟨rfl, fun _ => trivial⟩
  have hstay : ∀ e u v, about e = Op.getChaos → api.step u e v → u = s → v = s := by
    intro e u v he hstep hu
    obtain rfl | ⟨_, _, hc, -⟩ | ⟨_, _, hc, -⟩ | ⟨_, _, _, hc, -⟩ | ⟨_, _, _, _, hc, -⟩ |
      ⟨_, hc, -⟩ := api_cases hstep
    · exact hu
    all_goals cases hc.symm.trans he
  obtain hcut | ⟨tr₁, r, tr₂, hrun, hcut, rfl⟩ := cut_bind h
  · rw [api_keeps (K := (· = s)) hstay hread hcut hp rfl]
    exact hs
  obtain ⟨u, hu, hp₂⟩ := World.path_append.mp hp
  obtain rfl : u = s := api_keeps (K := (· = s)) hstay hread hrun.cut hu rfl
  rcases r with (_ | _ | _) | c
  · cases hcut
    cases hp₂
    exact hs
  · cases hcut
    cases hp₂
    exact hs
  · cases hcut
    cases hp₂
    exact hs
  have hc : u.chaos = some c := by
    obtain ⟨r, v, tr', hstep, hret, hp'⟩ := run_call_path hrun hu (fun _ _ h => h)
    obtain ⟨rfl, rfl⟩ := run_ret.mp hret
    exact hstep.1
  by_cases hdel : c.deletionTimestamp = true
  · obtain ⟨hfinal, hgone⟩ := hsafe c hc hdel
    change Cut alone (handle m c) tr₂ at hcut
    by_cases hfin : chaosFinalizerName ∈ c.finalizers
    · rw [handle, hdel, if_neg (by simp), if_pos hfin] at hcut
      have hheld : u.released = false := by
        by_contra hr
        exact ((hs (by simpa using hr)).2 c hc).2 hfin
      exact finalize_inv hcut hp₂ hheld hc hdel (hfinal hfin)
    · rw [handle, hdel, if_neg (by simp), if_neg hfin] at hcut
      exact api_keeps (K := Inv) (fun _ _ _ => watches_step) (gone_only m (hgone hfin)) hcut hp₂
        hs
  · have hheld : u.released = false := by
      by_contra hr
      exact hdel ((hs (by simpa using hr)).2 c hc).1
    exact inv_held (api_keeps (K := fun s => s.released = false) (fun _ _ _ => holds_step)
      (alive_only m (by simpa using hdel)) hcut hp₂ hheld)

theorem others_inv {s t : State} (hs : Inv s) (h : Others s t) : Inv t := by
  intro hr
  rw [h.released_eq] at hr
  obtain ⟨hours, hchaos⟩ := hs hr
  refine ⟨fun k hk => hours k (h.ours k hk), fun c hc => ?_⟩
  obtain heq | ⟨old, new, hold, hedit, hnew⟩ := h.chaos
  · exact hchaos c (heq ▸ hc)
  · obtain rfl := settle_eq_some (hnew ▸ hc)
    obtain ⟨hdel, hfin⟩ := hchaos old hold
    exact ⟨hedit.deletion hdel, fun hx => hfin (hedit.finalizer_iff.mp hx)⟩

theorem runs_inv {s : State} (h : Runs m Safe s) : Inv s := by
  induction h with
  | created hc => exact inv_held hc.held
  | pass _ hsafe hcut hp ih => exact pass_inv ih hsafe hcut hp
  | others _ ho ih => exact others_inv ih ho

end Runs

/-- In runs whose passes begin in a safe state, a Chaos without the finalizer has left nothing
behind. -/
theorem finalized_chaos_clean {m : MeshActions} {s : State} (h : Runs m Safe s) : Clean s :=
  fun hr => (runs_inv h hr).1

section Samples

def serve (s : State) : (c : Op) → Option (OpR c × State)
  | .getChaos => some (match s.chaos with
    | some c => .ok c
    | none => .error (.notFound ""), s)
  | .updateChaos c => s.chaos.map (fun old =>
      (none, { s with
        chaos := settle (updated old c)
        released := s.released || releases old c }))
  | .statusUpdate c => s.chaos.map (fun old =>
      (none, { s with chaos := settle (statusUpdated old c) }))
  | .get k => some (match s.objs k with
    | some o => .ok o.obj
    | none => .error (.notFound ""), s)
  | .create k o => match s.objs k with
    | none => some (none, s.put k (some ⟨o, true⟩))
    | some _ => some (some (.alreadyExists ""), s)
  | .update k o => (s.objs k).map (fun old => (none, s.put k (some ⟨o, old.ours⟩)))
  | .delete k => some (none, s.put k none)
  | .panic => none

theorem serve_step {s t : State} {c : Op} {r : OpR c} (h : serve s c = some (r, t)) :
    api.step s (.main (.reply c r)) t := by
  cases c with
  | getChaos =>
    cases hs : s.chaos <;> simp only [serve, hs] at h <;> cases h
    · rfl
    · exact ⟨hs, rfl⟩
  | updateChaos c =>
    obtain ⟨old, hold, heq⟩ := Option.map_eq_some_iff.mp h
    cases heq
    exact Or.inr ⟨old, hold, rfl⟩
  | statusUpdate c =>
    obtain ⟨old, hold, heq⟩ := Option.map_eq_some_iff.mp h
    cases heq
    exact Or.inr ⟨old, hold, rfl⟩
  | get k =>
    cases hs : s.objs k <;> simp only [serve, hs] at h <;> cases h
    · exact ⟨hs, rfl⟩
    · exact ⟨⟨_, hs⟩, rfl⟩
  | create k o =>
    cases hs : s.objs k <;> simp only [serve, hs] at h <;> cases h
    · exact Or.inr ⟨hs, o, rfl⟩
    · exact Or.inl ⟨rfl, rfl⟩
  | update k o =>
    obtain ⟨old, hold, heq⟩ := Option.map_eq_some_iff.mp h
    cases heq
    exact Or.inr ⟨old, o, hold, rfl⟩
  | delete k =>
    cases h
    exact Or.inr rfl
  | panic => cases h

def passed (s : State) : State := (drive serve s (reconcile .documented)).2

def deleted (s : State) : State :=
  { s with chaos := s.chaos.bind (fun c => settle { c with deletionTimestamp := true }) }

theorem runs_passed {P : State → Prop} {s : State} (h : Runs .documented P s) (hs : P s) :
    Runs .documented P (passed s) :=
  h.pass hs (drive_cut _ _) (drive_path (W := api) (fun _ _ => rfl) serve_step _ _)

theorem runs_deleted {P : State → Prop} {s : State} (h : Runs .documented P s) :
    Runs .documented P (deleted s) := by
  refine h.others ⟨?_, rfl, fun _ hk => hk⟩
  cases hs : s.chaos with
  | none => exact Or.inl (by simp [deleted, hs])
  | some c =>
    exact Or.inr ⟨c, { c with deletionTimestamp := true }, rfl,
      ⟨rfl, rfl, rfl, Iff.rfl, fun _ => rfl⟩, by simp [deleted, hs]⟩

def killedContainers : PodChaosSpec where
  action := containerKill
  params := { containerKill := some ⟨["proxy"]⟩ }

def partitioned : NetworkChaosSpec where
  target := some {}
  action := partition

def newChaos (spec : EmbedChaos) : State where
  chaos := some { name := "chaos", nameSpace := "default", spec := spec }
  objs := fun _ => none
  released := false

theorem ours_iff {s : State} {k : Kind} : Ours s k ↔ (s.objs k).any (·.ours) = true := by
  rw [Option.any_eq_true]
  rfl

theorem newChaos_runs (P : State → Prop) (spec : EmbedChaos) :
    Runs .documented P (newChaos spec) := by
  refine .created ⟨⟨_, rfl, rfl⟩, rfl, ?_⟩
  rintro k ⟨o, ho, -⟩
  cases ho

def activePodChaos : State := deleted (passed (newChaos { podChaos := some killedContainers }))

def endedPodChaos : State := passed activePodChaos

theorem endedPodChaos_clean : endedPodChaos.released = true ∧ ∀ k, ¬Ours endedPodChaos k := by
  have hnew : Safe (newChaos { podChaos := some killedContainers }) := by
    rintro c ⟨⟩ hdel
    cases hdel
  have hours : ∀ k, Ours activePodChaos k → k ∈ [Kind.pod] := by
    intro k hk
    cases k with
    | pod => simp
    | stress => exact absurd (ours_iff.mp hk) (by decide)
    | network => exact absurd (ours_iff.mp hk) (by decide)
  have hdeletes : activePodChaos.chaos.map deletes = some [.pod] := by decide
  have hfin : activePodChaos.chaos.map
      (fun c => decide (chaosFinalizerName ∈ c.finalizers)) = some true := by decide
  have hactive : Safe activePodChaos := by
    intro c hc hdel
    rw [hc, Option.map_some, Option.some.injEq] at hdeletes hfin
    exact ⟨fun _ k hk => hdeletes ▸ hours k hk, fun h => absurd (of_decide_eq_true hfin) h⟩
  exact ⟨by decide, finalized_chaos_clean
    (runs_passed (runs_deleted (runs_passed (newChaos_runs _ _) hnew)) hactive) (by decide)⟩

/-- Both kinds of chaos are set together, and only the one about pods is deleted. -/
def endedBoth : State :=
  passed (deleted (passed (newChaos
    { podChaos := some killedContainers, networkChaos := some partitioned })))

theorem not_all_clean : ¬∀ (m : MeshActions) (s : State), Runs m (fun _ => True) s → Clean s := by
  intro h
  have hclean := h .documented endedBoth (runs_passed (runs_deleted (runs_passed
    (newChaos_runs _ _) trivial)) trivial)
  exact hclean (by decide) .network (ours_iff.mpr (by decide))

end Samples

end ShardingOnCloud.Operator.ChaosFinalizer
