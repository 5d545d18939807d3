import ShardingOnCloud.Operator.ComputeNodeService

namespace ShardingOnCloud.Operator.ServiceConvergence

open ShardingOnCloud.Lib.Program ShardingOnCloud.Lib.Pool ShardingOnCloud.Lib.Footprint
open ShardingOnCloud.Operator.StorageNodeTypes ShardingOnCloud.Operator.ComputeNodeTypes
open ShardingOnCloud.Operator.ComputeNodeService

section World

/-- The two objects as they are stored. -/
structure State where
  computeNode : ComputeNode
  service : Option Service

/-- What is stored after `Update`, which leaves the status alone. -/
def stored (old new : ComputeNode) : ComputeNode := { new with status := old.status }

/-- The API server. What it makes of a Service that is sent is left open, and a write
that is answered with an error may have been done all the same. -/
def api : World State Ev := ⟨fun s e t =>
  match e with
  | .main (.reply (.getService _ _) (.ok svc)) => s.service = some svc ∧ t = s
  | .main (.reply (.getService _ _) (.error (.notFound _))) => s.service = none ∧ t = s
  | .main (.reply (.getComputeNode _ _) (.ok cn)) => s.computeNode = cn ∧ t = s
  | .main (.reply (.updateComputeNode cn) err) =>
    (err.isSome = true ∧ t = s) ∨ t = { s with computeNode := stored s.computeNode cn }
  | .main (.reply (.createService _) err) | .main (.reply (.updateService _) err) =>
    (err.isSome = true ∧ t = s) ∨ ∃ svc, t = { s with service := some svc }
  | _ => t = s⟩

theorem api_issue (c : Op) (s u : State) (h : api.step s (.main (.issue c)) u) : u = s := h

/-- Successful runs one after the other, each with the ComputeNode as it is stored. -/
inductive Runs : ℕ → State → State → Prop
  | nil (s : State) : Runs 0 s s
  | cons {k : ℕ} {s u t : State} {tr : List Ev} :
      Run alone (reconcileService s.computeNode) tr none → api.Path s tr u → Runs k u t →
      Runs (k + 1) s t

end World

section Bindings

def bare (pb : PortBinding) : PortBinding := { pb with nodePort := 0 }

def barePort (port : ServicePort) : ServicePort := { port with nodePort := 0 }

@[simp] theorem servicePort_bare (pb : PortBinding) : servicePort (bare pb) = servicePort pb := rfl

theorem updateServiceClusterIP_bare (pbs : List PortBinding) :
    (updateServiceClusterIP pbs).map bare = pbs.map bare := by
  fun_induction updateServiceClusterIP pbs with
  | case1 => rfl
  | case2 pb pbs h => rfl
  | case3 pb pbs h ih => rw [List.map_cons, List.map_cons, ih]

theorem adoptNodePort_bare (port : ServicePort) (pbs : List PortBinding) :
    (adoptNodePort port pbs).map bare = pbs.map bare := by
  fun_induction adoptNodePort port pbs with
  | case1 => rfl
  | case2 pb pbs h =>
    rw [List.map_cons, List.map_cons]
    split <;> rfl
  | case3 pb pbs h ih => rw [List.map_cons, List.map_cons, ih]

theorem updateServiceNodePort_bare (pbs : List PortBinding) (ports : List ServicePort) :
    (updateServiceNodePort pbs ports).map bare = pbs.map bare := by
  induction ports generalizing pbs with
  | nil => rfl
  | cons port ports ih =>
    rw [updateServiceNodePort, List.foldl_cons]
    exact (ih _).trans (adoptNodePort_bare port pbs)

theorem servicePorts_eq {pbs pbs' : List PortBinding} (h : pbs'.map bare = pbs.map bare) :
    pbs'.map servicePort = pbs.map servicePort := by
  have hbare := congrArg (List.map servicePort) h
  simpa [Function.comp_def] using hbare

structure Rebound (cn cn' : ComputeNode) : Prop where
  objectMeta_eq : cn'.objectMeta = cn.objectMeta
  selector_eq : cn'.selector = cn.selector
  serviceType_eq : cn'.serviceType = cn.serviceType
  agentPlugins_eq : cn'.agentPlugins = cn.agentPlugins
  bindings_eq : cn'.portBindings.map (List.map bare) = cn.portBindings.map (List.map bare)

theorem Rebound.refl (cn : ComputeNode) : Rebound cn cn := ⟨rfl, rfl, rfl, rfl, rfl⟩

theorem Rebound.trans {cn cn' cn'' : ComputeNode} (h : Rebound cn cn') (h' : Rebound cn' cn'') :
    Rebound cn cn'' :=
  ⟨h'.objectMeta_eq.trans h.objectMeta_eq, h'.selector_eq.trans h.selector_eq,
    h'.serviceType_eq.trans h.serviceType_eq, h'.agentPlugins_eq.trans h.agentPlugins_eq,
    h'.bindings_eq.trans h.bindings_eq⟩

theorem Rebound.newService_eq {cn cn' : ComputeNode} (h : Rebound cn cn') :
    newService cn' = newService cn := by
  have hports : (cn'.portBindings.getD []).map servicePort =
      (cn.portBindings.getD []).map servicePort := by
    have hb := h.bindings_eq
    cases hp : cn.portBindings with
    | none =>
      rw [hp] at hb
      rw [Option.map_eq_none_iff.mp hb]
    | some pbs =>
      rw [hp] at hb
      obtain ⟨pbs', hp', hbare⟩ := Option.map_eq_some_iff.mp hb
      rw [hp']
      exact servicePorts_eq hbare
  unfold newService agentEnabled prometheusPort
  rw [hports, h.objectMeta_eq, h.selector_eq, h.serviceType_eq, h.agentPlugins_eq]

end Bindings

section Runs

structure Bound (cn : ComputeNode) : Prop where
  serviceType : cn.serviceType ≠ .unset
  bindings : ∃ pb pbs, cn.portBindings = some (pb :: pbs)

theorem Bound.rebound {cn cn' : ComputeNode} (h : Bound cn) (hr : Rebound cn cn') : Bound cn' := by
  obtain ⟨pb, pbs, hp⟩ := h.bindings
  have hb := hr.bindings_eq
  rw [hp] at hb
  obtain ⟨pbs', hp', hbare⟩ := Option.map_eq_some_iff.mp hb
  refine ⟨hr.serviceType_eq ▸ h.serviceType, ?_⟩
  cases pbs' with
  | nil => cases hbare
  | cons pb' pbs' => exact ⟨pb', pbs', hp'⟩

theorem adjustPortBindings_bound {cn : ComputeNode} (h : Bound cn) (s : Service) :
    ∃ pbs, adjustPortBindings cn s = some { cn with portBindings := pbs } ∧
      Rebound cn { cn with portBindings := pbs } := by
  obtain ⟨pb, pbs, hp⟩ := h.bindings
  unfold adjustPortBindings
  split
  · refine ⟨_, rfl, rfl, rfl, rfl, rfl, ?_⟩
    simp [hp, updateServiceClusterIP_bare]
  · refine ⟨_, rfl, rfl, rfl, rfl, rfl, ?_⟩
    simp [hp, updateServiceNodePort_bare]
  · refine ⟨_, rfl, rfl, rfl, rfl, rfl, ?_⟩
    simp [hp, updateServiceNodePort_bare]
  · refine ⟨_, rfl, rfl, rfl, rfl, rfl, ?_⟩
    simp [hp, updateServiceNodePort_bare]
  · rename_i hu
    exact absurd hu h.serviceType

theorem updateService_bound {cn : ComputeNode} (h : Bound cn) (s : Service) :
    ∃ pbs, updateService cn s = updateComputeNodePortBindings { cn with portBindings := pbs } ∧
      Rebound cn { cn with portBindings := pbs } := by
  obtain ⟨pbs, hadjust, hr⟩ := adjustPortBindings_bound h s
  refine ⟨pbs, ?_, hr⟩
  obtain ⟨pb, pbs', hp⟩ := (h.rebound hr).bindings
  have hne : pbs ≠ some [] := by
    intro hx
    rw [hx] at hp
    cases hp
  rw [updateService, hadjust]
  exact if_pos hne

/-- What a successful run does: it writes the port bindings back, and nothing else. -/
theorem run_writes {s t : State} {tr : List Ev} {svc : Service} (hb : Bound s.computeNode)
    (hs : s.service = some svc) (h : Run alone (reconcileService s.computeNode) tr none)
    (hp : api.Path s tr t) : t.service = some svc ∧ Rebound s.computeNode t.computeNode := by
  obtain ⟨r, u, tr₁, hget, h₁, hp₁⟩ := run_call_path h hp (api_issue _)
  cases r with
  | error err =>
    cases err with
    | notFound err => cases hs.symm.trans hget.1
    | alreadyExists err => cases (run_ret.mp h₁).2
    | other err => cases (run_ret.mp h₁).2
  | ok svc' =>
    obtain ⟨-, rfl⟩ := hget
    obtain ⟨pbs, hupdate, hr⟩ := updateService_bound hb svc'
    have h₁' : Run alone (updateService u.computeNode svc') tr₁ none := h₁
    rw [hupdate] at h₁'
    obtain ⟨r, v, tr₂, hread, h₂, hp₂⟩ := run_call_path h₁' hp₁ (api_issue _)
    cases r with
    | error err =>
      cases hread
      obtain ⟨rfl, -⟩ := run_ret.mp h₂
      cases hp₂
      exact ⟨hs, Rebound.refl _⟩
    | ok rt =>
      obtain ⟨rfl, rfl⟩ := hread
      obtain ⟨r, w, tr₃, hwrite, h₃, hp₃⟩ := run_call_path h₂ hp₂ (api_issue _)
      cases r with
      | some err => cases (run_ret.mp h₃).2
      | none =>
        obtain ⟨rfl, -⟩ := run_ret.mp h₃
        cases hp₃
        obtain ⟨hx, -⟩ | rfl := hwrite
        · cases hx
        · exact ⟨hs, hr.objectMeta_eq, hr.selector_eq, hr.serviceType_eq, hr.agentPlugins_eq,
            hr.bindings_eq⟩

theorem runs_write {k : ℕ} {s t : State} {svc : Service} (h : Runs k s t)
    (hb : Bound s.computeNode) (hs : s.service = some svc) :
    t.service = some svc ∧ Rebound s.computeNode t.computeNode := by
  induction h with
  | nil s => exact ⟨hs, Rebound.refl _⟩
  | cons hrun hpath hrest ih =>
    obtain ⟨hu, hr⟩ := run_writes hb hs hrun hpath
    obtain ⟨ht, hr'⟩ := ih (hb.rebound hr) hu
    exact ⟨ht, hr.trans hr'⟩

/-- An API server that does what it is asked for. -/
def serve (s : State) : (c : Op) → Option (OpR c × State)
  | .getService _ _ => some (s.service.elim (.error (.notFound "")) .ok, s)
  | .createService svc => some (none, { s with service := some svc })
  | .updateService svc => some (none, { s with service := some svc })
  | .getComputeNode _ _ => some (.ok s.computeNode, s)
  | .updateComputeNode cn => some (none, { s with computeNode := stored s.computeNode cn })
  | .panic => none

theorem serve_step {s t : State} {c : Op} {r : OpR c} (h : serve s c = some (r, t)) :
    api.step s (.main (.reply c r)) t := by
  cases c with
  | getService name nameSpace =>
    obtain ⟨cn, service⟩ := s
    cases service <;>
    · cases h
      exact ⟨rfl, rfl⟩
  | createService svc =>
    cases h
    exact Or.inr ⟨svc, rfl⟩
  | updateService svc =>
    cases h
    exact Or.inr ⟨svc, rfl⟩
  | getComputeNode name nameSpace =>
    cases h
    exact ⟨rfl, rfl⟩
  | updateComputeNode cn =>
    cases h
    exact Or.inr rfl
  | panic => cases h

theorem serve_succeeds {s : State} {svc : Service} (hb : Bound s.computeNode)
    (hs : s.service = some svc) :
    outcome serve s (reconcileService s.computeNode) = some none := by
  obtain ⟨pbs, hupdate, -⟩ := updateService_bound hb svc
  have hget : outcome serve s (reconcileService s.computeNode) =
      outcome serve s (updateService s.computeNode svc) := by
    simp only [reconcileService, op, Bind.bind, Proc.bind, outcome, serve, hs, Option.elim]
  rw [hget, hupdate]
  rfl

theorem runs_exist (k : ℕ) {s : State} {svc : Service} (hb : Bound s.computeNode)
    (hs : s.service = some svc) : ∃ t, Runs k s t := by
  induction k generalizing s with
  | zero => exact ⟨s, .nil s⟩
  | succ k ih =>
    have hrun := drive_run (serve_succeeds hb hs)
    have hpath : api.Path s _ _ :=
      drive_path (fun _ _ => rfl) serve_step s (reconcileService s.computeNode)
    obtain ⟨hu, hr⟩ := run_writes hb hs hrun hpath
    obtain ⟨t, ht⟩ := ih (hb.rebound hr) hu
    exact ⟨t, .cons hrun hpath ht⟩

end Runs

/-- A Service with the type, the selector and the ports that are built for the node. -/
structure Matches (cn : ComputeNode) (svc exp : Service) : Prop where
  built : newService cn = some exp
  type_eq : svc.spec.type = exp.spec.type
  selector_eq : svc.spec.selector = exp.spec.selector
  ports_eq : svc.spec.ports.map barePort = exp.spec.ports.map barePort

def Converged (s : State) : Prop := ∃ svc exp, s.service = some svc ∧ Matches s.computeNode svc exp

/-- A Service that is there is never brought in line with the node. -/
theorem service_converges_iff {cn : ComputeNode} {svc : Service} {pbs : List PortBinding}
    {t : State} (htype : cn.serviceType ∈ [.clusterIP, .nodePort, .loadBalancer])
    (hpbs : cn.portBindings = some pbs) (hne : 1 ≤ pbs.length)
    (h : Runs (pbs.length + 2) ⟨cn, some svc⟩ t) :
    Converged t ↔ ∃ exp, Matches cn svc exp := by
  have hb : Bound cn := by
    refine ⟨fun hx => ?_, ?_⟩
    · rw [hx] at htype
      simp at htype
    · cases pbs with
      | nil => cases hne
      | cons pb pbs => exact ⟨pb, pbs, hpbs⟩
  obtain ⟨ht, hr⟩ := runs_write h hb rfl
  have hbuilt := hr.newService_eq
  constructor
  · rintro ⟨svc', exp, hs, hm⟩
    rw [ht] at hs
    cases hs
    exact ⟨exp, hbuilt ▸ hm.built, hm.type_eq, hm.selector_eq, hm.ports_eq⟩
  · rintro ⟨exp, hm⟩
    exact ⟨svc, exp, ht, hbuilt.trans hm.built, hm.type_eq, hm.selector_eq, hm.ports_eq⟩

def sampleBinding : PortBinding :=
  { name := "proxy", containerPort := 3307, protocol := "TCP", servicePort := 3307 }

def sampleComputeNode : ComputeNode where
  objectMeta := ⟨"proxy", "default", ∅, fun _ => none⟩
  selector := some ∅
  portBindings := some [sampleBinding]
  serviceType := .clusterIP
  serverConfig := ⟨[], fun _ => none⟩
  agentPlugins := none

def serviceAt (port : Int) : Service where
  objectMeta := ⟨"proxy", "default", ∅, fun _ => none⟩
  spec :=
    { type := .clusterIP
      selector := ∅
      ports := [{ name := "proxy", protocol := "TCP", port := port, targetPort := .int 3307 }]
      clusterIP := "10.0.0.1" }

theorem sampleComputeNode_bound : Bound sampleComputeNode := ⟨by decide, _, _, rfl⟩

theorem sampleComputeNode_runs (svc : Service) :
    ∃ t, Runs ([sampleBinding].length + 2) ⟨sampleComputeNode, some svc⟩ t :=
  runs_exist 3 sampleComputeNode_bound rfl

theorem sampleComputeNode_converges :
    ∃ t, Runs 3 ⟨sampleComputeNode, some (serviceAt 3307)⟩ t ∧ Converged t := by
  obtain ⟨t, ht⟩ := sampleComputeNode_runs (serviceAt 3307)
  have hpbs : sampleComputeNode.portBindings = some [sampleBinding] := rfl
  refine ⟨t, ht, (service_converges_iff (by decide) hpbs (by decide) ht).mpr ?_⟩
  exact ⟨_, rfl, rfl, rfl, rfl⟩

/-- The port of the node was changed, and the Service stays at the old one. -/
theorem not_all_converge :
    ¬∀ (cn : ComputeNode) (svc : Service) (pbs : List PortBinding) (t : State),
      cn.serviceType ∈ [.clusterIP, .nodePort, .loadBalancer] → cn.portBindings = some pbs →
      1 ≤ pbs.length → (pbs.map PortBinding.name).Nodup → (newService cn).isSome = true →
      Runs (pbs.length + 2) ⟨cn, some svc⟩ t → Converged t := by
  intro h
  obtain ⟨t, ht⟩ := sampleComputeNode_runs (serviceAt 3308)
  obtain ⟨svc, exp, hs, hm⟩ := h sampleComputeNode (serviceAt 3308) [sampleBinding] t
    (by decide) rfl (by decide) (by decide) rfl ht
  obtain ⟨hservice, hr⟩ := runs_write ht sampleComputeNode_bound rfl
  rw [hservice] at hs
  cases hs
  have hbuilt := hm.built
  rw [hr.newService_eq] at hbuilt
  cases hbuilt
  have hports := hm.ports_eq
  revert hports
  decide

end ShardingOnCloud.Operator.ServiceConvergence
