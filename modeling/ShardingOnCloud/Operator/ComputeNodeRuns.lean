import Mathlib.Logic.Relation
import ShardingOnCloud.Operator.ComputeNodeController
import ShardingOnCloud.Operator.ServiceConvergence

namespace ShardingOnCloud.Operator.ComputeNodeRuns

open ShardingOnCloud.Lib.Program ShardingOnCloud.Lib.Pool ShardingOnCloud.Lib.Assertions
open ShardingOnCloud.Lib.Footprint
open ShardingOnCloud.Operator.StorageNodeTypes ShardingOnCloud.Operator.ComputeNodeTypes
open ShardingOnCloud.Operator.ComputeNodeService (adjustPortBindings syncService
  updateComputeNodePortBindings buildService updateService createService)
open ShardingOnCloud.Operator.ComputeNodeStatus (Clock)
open ShardingOnCloud.Operator.ServiceConvergence (bare stored updateServiceClusterIP_bare
  updateServiceNodePort_bare)
open ShardingOnCloud.Operator.ComputeNodeController

variable {T : Kind → Type}

section Same

structure Same (cn cn' : ComputeNode) : Prop where
  eq : cn' = { cn with portBindings := cn'.portBindings, status := cn'.status }
  bindings : cn'.portBindings.map (List.map bare) = cn.portBindings.map (List.map bare)

variable {cn cn' cn'' : ComputeNode}

theorem Same.refl (cn : ComputeNode) : Same cn cn := ⟨rfl, rfl⟩

theorem Same.trans (h : Same cn cn') (h' : Same cn' cn'') : Same cn cn'' := by
  refine ⟨?_, h'.bindings.trans h.bindings⟩
  rw [h'.eq, h.eq]

theorem same_status (cn : ComputeNode) (status : ComputeNodeStatus) :
    Same cn { cn with status := status } := ⟨rfl, rfl⟩

theorem Same.rebind (h : Same cn cn') (h' : Same cn cn'') (status : ComputeNodeStatus) :
    Same cn { cn' with portBindings := cn''.portBindings, status := status } := by
  refine ⟨?_, h'.bindings⟩
  rw [h.eq]

theorem same_map {f : List PortBinding → List PortBinding}
    (hf : ∀ pbs, (f pbs).map bare = pbs.map bare) :
    Same cn { cn with portBindings := cn.portBindings.map f } := by
  refine ⟨rfl, ?_⟩
  cases cn.portBindings with
  | none => rfl
  | some pbs => exact congrArg some (hf pbs)

theorem same_adjusted {svc : Service} (h : adjustPortBindings cn svc = some cn') :
    Same cn cn' := by
  unfold adjustPortBindings at h
  split at h
  · obtain rfl := Option.some.inj h
    exact same_map updateServiceClusterIP_bare
  · obtain rfl := Option.some.inj h
    exact same_map (updateServiceNodePort_bare · svc.spec.ports)
  · obtain rfl := Option.some.inj h
    exact same_map (updateServiceNodePort_bare · svc.spec.ports)
  · obtain rfl := Option.some.inj h
    exact same_map (updateServiceNodePort_bare · svc.spec.ports)
  · cases h

theorem same_getD_adjusted (cn : ComputeNode) (svc : Service) :
    Same cn ((adjustPortBindings cn svc).getD cn) := by
  cases h : adjustPortBindings cn svc with
  | none => exact Same.refl cn
  | some cn' => exact same_adjusted h

end Same

structure State (T : Kind → Type) where
  computeNode : ComputeNode
  service : Option Service
  objects : (k : Kind) → Option (Object (T k))

section World

/-- What others may do: the Service, the status and node ports of the ComputeNode are not left
alone. -/
structure Outside (s t : State T) : Prop where
  same : Same s.computeNode t.computeNode
  objects_eq : t.objects = s.objects

variable (accepts : (k : Kind) → T k → T k → Prop)

/-- What is stored after an object was written, where the API server may have filled in more
than was sent. -/
def Written (k : Kind) (object : Object (T k)) (s t : State T) : Prop :=
  ∃ content, accepts k object.content content ∧
    t = { s with objects := Function.update s.objects k (some { object with content := content }) }

/-- The API server. Others change the objects before a request is handled, and a write that is
answered with an error may have been done all the same. -/
def api : World (State T) (Ev T) := ⟨fun s e t =>
  match e with
  | .main (.issue _) => Outside s t
  | .main (.reply (.getComputeNode _ _) (.ok cn)) => s.computeNode = cn ∧ t = s
  | .main (.reply (.updateStatus cn) err) =>
    (err.isSome = true ∧ t = s) ∨
      t = { s with computeNode := { s.computeNode with status := cn.status } }
  | .main (.reply (.get k _ _) (.ok object)) => s.objects k = some object ∧ t = s
  | .main (.reply (.get k _ _) (.error (.notFound _))) => s.objects k = none ∧ t = s
  | .main (.reply (.create k _) (some (.alreadyExists _))) => s.objects k ≠ none ∧ t = s
  | .main (.reply (.create k object) err) =>
    (err.isSome = true ∧ t = s) ∨ (s.objects k = none ∧ Written accepts k object s t)
  | .main (.reply (.update k object) err) =>
    (err.isSome = true ∧ t = s) ∨ Written accepts k object s t
  | .main (.reply (.service (.getService _ _)) (.ok svc)) => s.service = some svc ∧ t = s
  | .main (.reply (.service (.getService _ _)) (.error (.notFound _))) => s.service = none ∧ t = s
  | .main (.reply (.service (.getComputeNode _ _)) (.ok cn)) => s.computeNode = cn ∧ t = s
  | .main (.reply (.service (.updateComputeNode cn)) err) =>
    (err.isSome = true ∧ t = s) ∨ t = { s with computeNode := stored s.computeNode cn }
  | .main (.reply (.service (.createService _)) err)
  | .main (.reply (.service (.updateService _)) err) =>
    (err.isSome = true ∧ t = s) ∨ ∃ svc, t = { s with service := some svc }
  | _ => t = s⟩

def failed (k : Kind) : Ev T → Prop
  | .main (.reply (.get _ _ _) (.error (.notFound _))) => False
  | .main (.reply (.get k' _ _) (.error _)) => k' = k
  | .main (.reply (.create _ _) (some (.alreadyExists _))) => False
  | .main (.reply (.create k' _) err) => k' = k ∧ err.isSome = true
  | .main (.reply (.update k' _) err) => k' = k ∧ err.isSome = true
  | _ => False

end World

section Invariant

variable (b : Builder T) (accepts : (k : Kind) → T k → T k → Prop) (cn₀ : ComputeNode)

/-- The object is stored as it was built, or as the API server has completed that. -/
def Settled (k : Kind) (s : State T) : Prop :=
  ∃ object exp, s.objects k = some object ∧ b k cn₀ = some exp ∧
    (object.content = exp.content ∨ accepts k exp.content object.content)

/-- The builder does not look at node ports nor at the status. -/
def Blind : Prop := ∀ k cn cn', Same cn cn' → b k cn' = b k cn

structure Inv (P : Kind → Prop) (s : State T) : Prop where
  same : Same cn₀ s.computeNode
  settled : ∀ k, P k → Settled b accepts cn₀ k s

variable {b accepts cn₀} {P : Kind → Prop} {s t : State T} {k : Kind}

theorem Inv.of_objects (h : Inv b accepts cn₀ P s) (hcn : Same cn₀ t.computeNode)
    (hobjects : t.objects = s.objects) : Inv b accepts cn₀ P t := by
  refine ⟨hcn, fun k hk => ?_⟩
  obtain ⟨object, exp, hobject, hrest⟩ := h.settled k hk
  exact ⟨object, exp, by rw [hobjects, hobject], hrest⟩

theorem settled_of_written {exp object : Object (T k)} (hexp : b k cn₀ = some exp)
    (hcontent : object.content = exp.content) (h : Written accepts k object s t) :
    Settled b accepts cn₀ k t := by
  obtain ⟨content, haccepts, rfl⟩ := h
  exact ⟨_, exp, Function.update_self _ _ _, hexp, Or.inr (hcontent ▸ haccepts)⟩

theorem Inv.written {exp object : Object (T k)} (h : Inv b accepts cn₀ P s)
    (hexp : b k cn₀ = some exp) (hcontent : object.content = exp.content)
    (hw : Written accepts k object s t) : Inv b accepts cn₀ P t := by
  have hk := settled_of_written hexp hcontent hw
  obtain ⟨content, -, rfl⟩ := hw
  refine ⟨h.same, fun k' hk' => ?_⟩
  by_cases heq : k' = k
  · rw [heq]
    exact hk
  · obtain ⟨old, exp', hold, hrest⟩ := h.settled k' hk'
    refine ⟨old, exp', ?_, hrest⟩
    dsimp only
    rw [Function.update_of_ne heq, hold]

end Invariant

section Steps

variable {b : Builder T} {accepts : (k : Kind) → T k → T k → Prop} {good : Ev T → Prop}
  {cn₀ cn : ComputeNode} {P : Kind → Prop} {s t u : State T} {k : Kind} {α : Type}

def among (good : Ev T → Prop) (W : World (State T) (Ev T)) : World (State T) (Ev T) :=
  ⟨fun s e t => good e ∧ W.step s e t⟩

theorem path_among {W : World (State T) (Ev T)} {tr : List (Ev T)} (h : W.Path s tr t)
    (hgood : ∀ e ∈ tr, good e) : (among good W).Path s tr t := by
  induction tr generalizing s with
  | nil => exact h
  | cons e tr ih =>
    obtain ⟨v, hv, htr⟩ := h
    exact ⟨v, ⟨hgood e (by simp), hv⟩, ih htr (fun e' he' => hgood e' (by simp [he']))⟩

theorem Inv.outside (h : Inv b accepts cn₀ P s) (hout : Outside s t) : Inv b accepts cn₀ P t :=
  h.of_objects (h.same.trans hout.same) hout.objects_eq

theorem wp_op {c : Op T} {f : OpR c → Rec T α} {Q : State T → α → Prop}
    (hs : Inv b accepts cn₀ P s)
    (h : ∀ r u t, Inv b accepts cn₀ P u → Outside s u → good (.main (.reply c r)) →
      (api accepts).step u (.main (.reply c r)) t →
      wp alone (among good (api accepts)) (Inv b accepts cn₀ P) (f r) Q t) :
    wp alone (among good (api accepts)) (Inv b accepts cn₀ P) (.call c f) Q s := by
  refine ⟨hs, ?_, ?_⟩
  · rintro is t rfl ⟨u, ⟨-, hout⟩, rfl⟩
    exact hs.outside hout
  · rintro r is t rfl ⟨u, ⟨-, hout⟩, v, ⟨hgood, hv⟩, rfl⟩
    exact h r u v (hs.outside hout) hout hgood hv

theorem wp_weaken {W : World (State T) (Ev T)} {J J' : State T → Prop} {p : Rec T α}
    {Q : State T → α → Prop} (h : wp alone W J p Q s) (hJ : ∀ s, J s → J' s) :
    wp alone W J' p Q s := by
  induction p generalizing s with
  | ret a => exact h
  | call c f ih =>
    obtain ⟨hs, hd, hr⟩ := h
    exact ⟨hJ s hs, fun is t hi ht => hJ t (hd is t hi ht),
      fun r is t hi ht => ih r (hr r is t hi ht)⟩

def Apart (c : ComputeNodeService.Op) : Prop := ∀ cn, c ≠ .updateComputeNode cn

theorem service_step {c : ComputeNodeService.Op} {r : ComputeNodeService.OpR c} (hc : Apart c)
    (h : (api accepts).step s (.main (.reply (.service c) r)) t) :
    t.computeNode = s.computeNode ∧ t.objects = s.objects := by
  cases c with
  | getService name nameSpace =>
    cases r with
    | ok svc => simp [h.2]
    | error err =>
      cases err with
      | notFound text => simp [h.2]
      | _ => simp [show t = s from h]
  | getComputeNode name nameSpace =>
    cases r with
    | ok cn => simp [h.2]
    | error err => simp [show t = s from h]
  | createService svc =>
    obtain ⟨-, rfl⟩ | ⟨svc', rfl⟩ := h <;> simp
  | updateService svc =>
    obtain ⟨-, rfl⟩ | ⟨svc', rfl⟩ := h <;> simp
  | updateComputeNode cn => exact absurd rfl (hc cn)
  | panic => exact nomatch r

theorem Inv.service {c : ComputeNodeService.Op} {r : ComputeNodeService.OpR c}
    (h : Inv b accepts cn₀ P s) (hc : Apart c)
    (hstep : (api accepts).step s (.main (.reply (.service c) r)) t) :
    Inv b accepts cn₀ P t := by
  obtain ⟨hnode, hobjects⟩ := service_step hc hstep
  refine h.of_objects ?_ hobjects
  rw [hnode]
  exact h.same

theorem wp_onService {p : ComputeNodeService.Rec α} (hp : Only Apart p)
    (hs : Inv b accepts cn₀ P s) :
    wp alone (among good (api accepts)) (Inv b accepts cn₀ P) (onService p)
      (fun t _ => Inv b accepts cn₀ P t) s := by
  induction p generalizing s with
  | ret a => exact hs
  | call c f ih =>
    exact wp_op hs (fun r u t hu _ _ hstep => ih r (hp.2 r) (hu.service hp.1 hstep))

end Steps

section Stages

variable {b : Builder T} {accepts : (k : Kind) → T k → T k → Prop} {good : Ev T → Prop}
  {cn₀ cn : ComputeNode} {P : Kind → Prop} {s t u : State T} {k : Kind} {α : Type}

theorem apart_buildService (cn : ComputeNode) : Only Apart (buildService cn) := by
  unfold buildService
  split
  · trivial
  · exact ⟨fun _ => by simp, fun r => nomatch r⟩

theorem apart_createService (cn : ComputeNode) : Only Apart (createService cn) := by
  refine only_bind (apart_buildService cn) (fun svc => ⟨fun _ => by simp, fun r => ?_⟩)
  match r with
  | none | some (.alreadyExists _) | some (.notFound _) | some (.other _) => trivial

theorem apart_syncService (cn : ComputeNode) (svc : Service) : Only Apart (syncService cn svc) := by
  refine only_bind (apart_buildService cn) (fun exp => only_ite ⟨fun _ => by simp, fun r => ?_⟩ ?_)
  · match r with
    | none | some _ => trivial
  · trivial

theorem wp_updateComputeNodePortBindings (hcn : Same cn₀ cn) (hs : Inv b accepts cn₀ P s) :
    wp alone (among good (api accepts)) (Inv b accepts cn₀ P)
      (onService (updateComputeNodePortBindings cn)) (fun t _ => Inv b accepts cn₀ P t) s := by
  refine wp_op hs (fun r u t hu _ _ hstep => ?_)
  match r with
  | .error err =>
    obtain rfl : t = u := hstep
    exact hu
  | .ok rt =>
    obtain ⟨rfl, rfl⟩ := hstep
    refine wp_op hu (fun r v w hv hout _ hstep => ?_)
    have hw : Inv b accepts cn₀ P w := by
      obtain ⟨-, rfl⟩ | rfl := hstep
      · exact hv
      · exact hv.of_objects (hu.same.rebind hcn _) rfl
    match r with
    | none | some _ => exact hw

theorem wp_updateService (svc : Service) (hcn : Same cn₀ cn) (hs : Inv b accepts cn₀ P s) :
    wp alone (among good (api accepts)) (Inv b accepts cn₀ P) (onService (updateService cn svc))
      (fun t _ => Inv b accepts cn₀ P t) s := by
  simp only [updateService]
  split
  · exact wp_onService (apart_syncService cn svc) hs
  · next cn' hcn' =>
    split
    · exact wp_updateComputeNodePortBindings (hcn.trans (same_adjusted hcn')) hs
    · exact wp_onService (apart_syncService cn' svc) hs

theorem wp_reconcileService (hcn : Same cn₀ cn) (hs : Inv b accepts cn₀ P s) :
    wp alone (among good (api accepts)) (Inv b accepts cn₀ P) (reconcileService cn)
      (fun t r => Inv b accepts cn₀ P t ∧ Same cn₀ r.2) s := by
  refine wp_op hs (fun r u t hu _ _ hstep => ?_)
  have ht : Inv b accepts cn₀ P t := hu.service (fun _ => by simp) hstep
  match r with
  | .ok svc =>
    change wp _ _ _ (onService (updateService cn svc) >>= _) _ t
    refine (wp_bind _ _ _ _).mpr (wp_mono (wp_updateService svc hcn ht) (fun v err hv => ?_))
    exact ⟨hv, hcn.trans (same_getD_adjusted cn svc)⟩
  | .error (.notFound _) =>
    change wp _ _ _ (onService (createService cn) >>= _) _ t
    refine (wp_bind _ _ _ _).mpr
      (wp_mono (wp_onService (apart_createService cn) ht) (fun v err hv => ?_))
    exact ⟨hv, hcn⟩
  | .error (.alreadyExists _) | .error (.other _) => exact ⟨ht, hcn⟩

theorem wp_writeStatus (clock : Clock) (selector : String) (pods : List ComputeNodeStatus.Pod) (svc : Service)
    (hcn : Same cn₀ cn) (hs : Inv b accepts cn₀ P s) :
    wp alone (among good (api accepts)) (Inv b accepts cn₀ P) (writeStatus clock selector cn pods svc)
      (fun t r => Inv b accepts cn₀ P t ∧ Same cn₀ r.2) s := by
  have hcn' := fun status => hcn.trans (same_status cn status)
  refine wp_op hs (fun r u t hu _ _ hstep => ?_)
  match r with
  | .error err =>
    obtain rfl : t = u := hstep
    exact ⟨hu, hcn' _⟩
  | .ok rt =>
    obtain ⟨rfl, rfl⟩ := hstep
    refine wp_op hu (fun r v w hv _ _ hstep => ?_)
    have hw : Inv b accepts cn₀ P w := by
      obtain ⟨-, rfl⟩ | rfl := hstep
      · exact hv
      · exact hv.of_objects (hv.same.trans (same_status _ _)) rfl
    match r with
    | none | some _ => exact ⟨hw, hcn' _⟩

theorem wp_panic {Q : State T → α → Prop} (hs : Inv b accepts cn₀ P s) :
    wp alone (among good (api accepts)) (Inv b accepts cn₀ P) panic Q s :=
  wp_op hs (fun r => nomatch r)

theorem wp_reconcileStatus (clock : Clock) (sel : Selectors) (hcn : Same cn₀ cn)
    (hs : Inv b accepts cn₀ P s) :
    wp alone (among good (api accepts)) (Inv b accepts cn₀ P) (reconcileStatus clock sel cn)
      (fun t r => Inv b accepts cn₀ P t ∧ Same cn₀ r.2) s := by
  unfold reconcileStatus
  split
  · exact wp_panic hs
  split
  · exact ⟨hs, hcn⟩
  next selector _ =>
  refine wp_op hs (fun r u t hu _ _ hstep => ?_)
  obtain rfl : t = u := by cases r <;> exact hstep
  match r with
  | .error err => exact ⟨hu, hcn⟩
  | .ok pods =>
    refine wp_op hu (fun r v w hv _ _ hstep => ?_)
    have hw : Inv b accepts cn₀ P w := hv.service (fun _ => by simp) hstep
    match r with
    | .ok svc =>
      change wp _ _ _ (writeStatus clock selector cn pods svc) _ w
      exact wp_writeStatus clock selector pods svc hcn hw
    | .error (.notFound _) =>
      change wp _ _ _ (writeStatus clock selector cn pods noService) _ w
      exact wp_writeStatus clock selector pods noService hcn hw
    | .error (.alreadyExists _) | .error (.other _) => exact ⟨hw, hcn⟩

end Stages

section Objects

variable {b : Builder T} {accepts : (k : Kind) → T k → T k → Prop} {good : Ev T → Prop}
  {cn₀ cn : ComputeNode} {P : Kind → Prop} {s t u : State T} {k : Kind}

def Unfailing (good : Ev T → Prop) (k : Kind) : Prop := ∀ e, good e → ¬failed k e

/-- One more object is settled when its requests do not fail. -/
def orElse (P : Kind → Prop) (good : Ev T → Prop) (k k' : Kind) : Prop :=
  P k' ∨ k' = k ∧ Unfailing good k

theorem Inv.orElse (h : Inv b accepts cn₀ P s)
    (hk : Unfailing good k → Settled b accepts cn₀ k s) :
    Inv b accepts cn₀ (orElse P good k) s := by
  refine ⟨h.same, ?_⟩
  rintro k' (hk' | ⟨rfl, hgood⟩)
  · exact h.settled k' hk'
  · exact hk hgood

theorem Inv.after {exp object : Object (T k)} (h : Inv b accepts cn₀ P s) (err : Option ApiErr)
    (hstep : (err.isSome = true ∧ t = s) ∨ Written accepts k object s t)
    (hexp : b k cn₀ = some exp) (hcontent : object.content = exp.content)
    (hfails : Unfailing good k → err.isSome ≠ true) :
    Inv b accepts cn₀ (ComputeNodeRuns.orElse P good k) t := by
  obtain ⟨herr, rfl⟩ | hw := hstep
  · exact h.orElse (fun hgood => absurd herr (hfails hgood))
  · exact (h.written hexp hcontent hw).orElse (fun _ => settled_of_written hexp hcontent hw)

theorem wp_build {α : Type} {f : Object (T k) → Rec T α} {Q : State T → α → Prop}
    (hblind : Blind b) (hcn : Same cn₀ cn) (hs : Inv b accepts cn₀ P s)
    (h : ∀ exp, b k cn₀ = some exp →
      wp alone (among good (api accepts)) (Inv b accepts cn₀ P) (f exp) Q s) :
    wp alone (among good (api accepts)) (Inv b accepts cn₀ P) (build b k cn >>= f) Q s := by
  unfold build
  split
  · next exp hexp => exact h exp ((hblind k cn₀ cn hcn).symm.trans hexp)
  · exact (wp_bind _ _ _ _).mpr (wp_panic hs)

theorem wp_create (hblind : Blind b) (hcn : Same cn₀ cn) (hs : Inv b accepts cn₀ P s)
    (hnone : s.objects k = none) :
    wp alone (among good (api accepts)) (Inv b accepts cn₀ P) (create b k cn)
      (fun t _ => Inv b accepts cn₀ (orElse P good k) t) s := by
  refine wp_build hblind hcn hs (fun exp hexp => wp_op hs (fun r u t hu hout hgood hstep => ?_))
  match r with
  | none =>
    exact hu.after none (hstep.imp_right And.right) hexp rfl (by simp)
  | some (.alreadyExists _) =>
    exact absurd (hout.objects_eq ▸ hnone) hstep.1
  | some (.notFound _) | some (.other _) =>
    exact hu.after _ (hstep.imp_right And.right) hexp rfl (fun hk _ => hk _ hgood ⟨rfl, rfl⟩)

variable [∀ k, DecidableEq (T k)]

theorem wp_update {old : Object (T k)} (hblind : Blind b) (hcn : Same cn₀ cn)
    (hs : Inv b accepts cn₀ P s) (hold : s.objects k = some old) :
    wp alone (among good (api accepts)) (Inv b accepts cn₀ P) (update b k cn old)
      (fun t _ => Inv b accepts cn₀ (orElse P good k) t) s := by
  refine wp_build hblind hcn hs (fun exp hexp => ?_)
  split
  · refine wp_op hs (fun r u t hu hout hgood hstep => ?_)
    have ht : Inv b accepts cn₀ (orElse P good k) t :=
      hu.after r hstep hexp rfl (fun hk herr => hk _ hgood ⟨rfl, herr⟩)
    match r with
    | none | some _ => exact ht
  · next hcontent =>
    exact hs.orElse (fun _ => ⟨old, exp, hold, hexp, Or.inl (not_not.mp hcontent)⟩)

theorem wp_reconcileObject (hblind : Blind b) (hcn : Same cn₀ cn)
    (hs : Inv b accepts cn₀ P s) :
    wp alone (among good (api accepts)) (Inv b accepts cn₀ P) (reconcileObject b k cn)
      (fun t _ => Inv b accepts cn₀ (orElse P good k) t) s := by
  refine wp_op hs (fun r u t hu _ hgood hstep => ?_)
  match r with
  | .ok old =>
    obtain ⟨hold, rfl⟩ := hstep
    exact wp_update hblind hcn hu hold
  | .error (.notFound _) =>
    obtain ⟨hnone, rfl⟩ := hstep
    exact wp_create hblind hcn hu hnone
  | .error (.alreadyExists _) | .error (.other _) =>
    obtain rfl : t = u := hstep
    exact hu.orElse (fun hk => absurd rfl (hk _ hgood))

end Objects

section Rounds

variable [∀ k, DecidableEq (T k)] {b : Builder T} {accepts : (k : Kind) → T k → T k → Prop}
  {good : Ev T → Prop} {cn₀ cn : ComputeNode} {P : Kind → Prop} {s t u : State T} {k : Kind}

theorem wp_reconcileFound (clock : Clock) (sel : Selectors) (hblind : Blind b) (hcn : Same cn₀ cn)
    (hs : Inv b accepts cn₀ P s) :
    wp alone (among good (api accepts)) (Inv b accepts cn₀ P) (reconcileFound b clock sel cn)
      (fun t _ => Inv b accepts cn₀ (orElse (orElse P good .deployment) good .configMap) t) s := by
  have hfirst : ∀ t, Inv b accepts cn₀ (orElse P good .deployment) t → Inv b accepts cn₀ P t :=
    fun t ht => ⟨ht.same, fun k hk => ht.settled k (Or.inl hk)⟩
  refine (wp_bind _ _ _ _).mpr (wp_mono (wp_reconcileStatus clock sel hcn hs) ?_)
  rintro t status ⟨ht, hstatus⟩
  refine (wp_bind _ _ _ _).mpr (wp_mono (wp_reconcileObject hblind hstatus ht) ?_)
  intro u deployErr hu
  refine wp_weaken ?_ hfirst
  refine (wp_bind _ _ _ _).mpr (wp_mono (wp_reconcileService hstatus hu) ?_)
  rintro v svc ⟨hv, hsvc⟩
  exact (wp_bind _ _ _ _).mpr (wp_mono (wp_reconcileObject hblind hsvc hv) (fun w cmErr hw => hw))

theorem wp_reconcile (clock : Clock) (sel : Selectors) (name nameSpace : String)
    (hblind : Blind b) (hs : Inv b accepts cn₀ P s) :
    wp alone (among good (api accepts)) (Inv b accepts cn₀ P) (reconcile b clock sel name nameSpace)
      (fun t _ => Inv b accepts cn₀ P t) s := by
  refine wp_op hs (fun r u t hu _ _ hstep => ?_)
  match r with
  | .ok cn =>
    obtain ⟨rfl, rfl⟩ := hstep
    refine wp_mono (wp_reconcileFound clock sel hblind hu.same hu) (fun t _ ht => ?_)
    exact ⟨ht.same, fun k hk => ht.settled k (Or.inl (Or.inl hk))⟩
  | .error (.notFound _) | .error (.alreadyExists _) | .error (.other _) =>
    obtain rfl : t = u := hstep
    exact hu

variable (b accepts)

/-- A reconcile, up to some moment of it: it may go on, or may have been stopped there. -/
def Round (s t : State T) : Prop :=
  ∃ clock sel tr, Cut alone (reconcile b clock sel s.computeNode.objectMeta.name
      s.computeNode.objectMeta.nameSpace) tr ∧ (api accepts).Path s tr t

/-- A reconcile that finds the ComputeNode and is done, where no request that is about the object
has failed. -/
def Clean (k : Kind) (s t : State T) : Prop :=
  ∃ clock sel name nameSpace cn tr err,
    Run alone (reconcile b clock sel name nameSpace)
      (whole (.getComputeNode name nameSpace) (.ok cn) [] ++ tr) err ∧
    (api accepts).Path s (whole (.getComputeNode name nameSpace) (.ok cn) [] ++ tr) t ∧
    ∀ e ∈ tr, ¬failed k e

variable {b accepts}

theorem Round.keeps (hblind : Blind b) (h : Round b accepts s t) (hs : Inv b accepts cn₀ P s) :
    Inv b accepts cn₀ P t := by
  obtain ⟨clock, sel, tr, hcut, hpath⟩ := h
  have hall : (among (fun _ => True) (api accepts)).Path s tr t := path_among hpath (by simp)
  exact wp_cut (wp_reconcile clock sel _ _ hblind hs) (fun _ _ hu => hu) hcut hall

theorem Clean.inv (hblind : Blind b) (h : Clean b accepts k s t) :
    Inv b accepts s.computeNode (· = k) t := by
  obtain ⟨clock, sel, name, nameSpace, cn, tr, err, hrun, hpath, hclean⟩ := h
  obtain ⟨r, tr', hrun', heq⟩ := run_alone hrun
  obtain ⟨rfl, -, rfl⟩ := whole_inj heq
  obtain ⟨u, ⟨v, hout, w, ⟨rfl, rfl⟩, rfl⟩, htr⟩ := World.path_append.mp hpath
  have hinit : Inv b accepts s.computeNode (fun _ => False) w :=
    ⟨hout.same, fun _ hk => hk.elim⟩
  have ht := wp_run (wp_reconcileFound clock sel hblind hinit.same hinit) hrun'
    (path_among htr hclean)
  refine ⟨ht.same, ?_⟩
  rintro k' rfl
  have hunfailing : Unfailing (fun e : Ev T => ¬failed k' e) k' := fun e he => he
  cases k' with
  | deployment => exact ht.settled _ (Or.inl (Or.inr ⟨rfl, hunfailing⟩))
  | configMap => exact ht.settled _ (Or.inr ⟨rfl, hunfailing⟩)

theorem settled_of_clean (hblind : Blind b) (hclean : Clean b accepts k s u)
    (hrounds : Relation.ReflTransGen (Round b accepts) u t) :
    Settled b accepts s.computeNode k t := by
  have ht : Inv b accepts s.computeNode (· = k) t := by
    induction hrounds with
    | refl => exact hclean.inv hblind
    | tail _ hround ih => exact hround.keeps hblind ih
  exact ht.settled k rfl

end Rounds

end ShardingOnCloud.Operator.ComputeNodeRuns
