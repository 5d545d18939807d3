import ShardingOnCloud.Operator.ComputeNodeService

namespace ShardingOnCloud.Operator.NodePorts

open ShardingOnCloud.Operator.StorageNodeTypes ShardingOnCloud.Operator.ComputeNodeTypes
open ShardingOnCloud.Operator.ComputeNodeService

section Join

def named (ports : List ServicePort) (name : String) : Option ServicePort :=
  ports.find? (fun port => name = port.name)

def allocated (ports : List ServicePort) (port : ServicePort) : ServicePort :=
  { port with nodePort := ((named ports port.name).map (·.nodePort)).getD 0 }

theorem named_isSome {ports : List ServicePort} {name : String} :
    (named ports name).isSome = true ↔ ∃ port ∈ ports, port.name = name := by
  simp only [named, List.find?_isSome, decide_eq_true_eq]
  exact ⟨fun ⟨port, hp, hn⟩ => ⟨port, hp, hn.symm⟩, fun ⟨port, hp, hn⟩ => ⟨port, hp, hn.symm⟩⟩

theorem filter_named {ports : List ServicePort} (h : (ports.map (·.name)).Nodup) (name : String) :
    ports.filter (fun port => name = port.name) = (named ports name).toList := by
  induction ports with
  | nil => rfl
  | cons port ports ih =>
    obtain ⟨hport, hports⟩ := List.nodup_cons.mp h
    by_cases hn : name = port.name
    · subst hn
      have hrest : ports.filter (fun q => port.name = q.name) = [] := by
        refine List.filter_eq_nil_iff.mpr (fun q hq heq => hport ?_)
        exact List.mem_map.mpr ⟨q, hq, (of_decide_eq_true heq).symm⟩
      simp [named, hrest]
    · simpa [named, hn] using ih hports

theorem updateNodePorts_eq {ports : List ServicePort} (h : (ports.map (·.name)).Nodup)
    (pbs : List PortBinding) :
    updateNodePorts pbs ports = pbs.filterMap (fun pb =>
      (named ports pb.name).map (fun _ => allocated ports (servicePort pb))) := by
  rw [List.filterMap_eq_flatMap_toList]
  unfold updateNodePorts
  congr 1
  funext pb
  rw [filter_named h]
  cases hport : named ports pb.name with
  | none => rfl
  | some port => simp [allocated, servicePort, hport]

theorem allocated_inj {ports : List ServicePort} {p q : ServicePort}
    (h : allocated ports p = allocated ports q) (hnode : p.nodePort = q.nodePort) : p = q := by
  cases p
  cases q
  simp_all [allocated]

end Join

section Metrics

def pointed (prometheusPort : Int) (port : ServicePort) : ServicePort :=
  if port.name = "metrics" then { port with targetPort := .int prometheusPort } else port

theorem retarget_eq_none {prometheusPort : Int} {ports : List ServicePort} :
    retarget prometheusPort ports = none ↔ ∀ port ∈ ports, port.name ≠ "metrics" := by
  induction ports with
  | nil => simp [retarget]
  | cons port ports ih =>
    unfold retarget
    split
    · rename_i hname
      simp [hname]
    · rename_i hname
      simp [hname, ih]

theorem retarget_eq_map {prometheusPort : Int} {ports ports' : List ServicePort}
    (hnames : (ports.map (·.name)).Nodup) (h : retarget prometheusPort ports = some ports') :
    ports' = ports.map (pointed prometheusPort) := by
  induction ports generalizing ports' with
  | nil => cases h
  | cons port ports ih =>
    obtain ⟨hport, hports⟩ := List.nodup_cons.mp hnames
    unfold retarget at h
    split at h
    · rename_i hname
      cases h
      have hrest : ports.map (pointed prometheusPort) = ports := by
        refine (List.map_congr_left (fun q hq => ?_)).trans (List.map_id _)
        refine if_neg (fun hq' => hport ?_)
        exact List.mem_map.mpr ⟨q, hq, hq'.trans hname.symm⟩
      rw [List.map_cons, hrest, pointed, if_pos hname]
    · rename_i hname
      obtain ⟨rest, hrest, rfl⟩ := Option.map_eq_some_iff.mp h
      rw [List.map_cons, ← ih hports hrest, pointed, if_neg hname]

end Metrics

section Agreement

variable {ports : List ServicePort} {pbs : List PortBinding}

/-- The join computes the ports `f` of the bindings just when each binding finds a port that `f`
leaves alone. -/
theorem updateNodePorts_eq_map_iff (hports : (ports.map (·.name)).Nodup)
    {f : ServicePort → ServicePort} (hnode : ∀ port, (f port).nodePort = port.nodePort) :
    updateNodePorts pbs ports = ((pbs.map servicePort).map f).map (allocated ports) ↔
      ∀ pb ∈ pbs, (∃ port ∈ ports, port.name = pb.name) ∧ f (servicePort pb) = servicePort pb := by
  rw [updateNodePorts_eq hports, List.map_map, List.map_map,
    List.filterMap_eq_map_iff_forall_eq_some]
  refine forall₂_congr (fun pb _ => ?_)
  rw [← named_isSome]
  cases named ports pb.name with
  | none => simp
  | some port =>
    simp only [Option.map_some, Option.some.injEq, Function.comp_apply, Option.isSome_some,
      true_and]
    constructor
    · intro h
      exact (allocated_inj h (hnode _).symm).symm
    · intro h
      rw [h]

theorem pointed_eq_self {prometheusPort : Int} {pb : PortBinding} :
    pointed prometheusPort (servicePort pb) = servicePort pb ↔
      (pb.name = "metrics" → pb.containerPort = prometheusPort) := by
  unfold pointed
  split
  · rename_i hname
    have hname' : pb.name = "metrics" := hname
    simp [servicePort, hname', eq_comm]
  · rename_i hname
    have hname' : pb.name ≠ "metrics" := hname
    simp [hname']

/-- A port that is added to those of the bindings is never found by the join. -/
theorem updateNodePorts_ne_append (hports : (ports.map (·.name)).Nodup) (port : ServicePort) :
    updateNodePorts pbs ports ≠ (pbs.map servicePort ++ [port]).map (allocated ports) := by
  intro h
  have hle := List.length_filterMap_le (fun pb : PortBinding =>
    (named ports pb.name).map (fun _ => allocated ports (servicePort pb))) pbs
  rw [← updateNodePorts_eq hports, h] at hle
  simp only [List.length_map, List.length_append, List.length_singleton] at hle
  omega

theorem metricsPorts_iff (hports : (ports.map (·.name)).Nodup) (hpbs : (pbs.map (·.name)).Nodup)
    (prometheusPort : Int) :
    updateNodePorts pbs ports =
        (metricsPorts prometheusPort (pbs.map servicePort)).map (allocated ports) ↔
      (∀ pb ∈ pbs, ∃ port ∈ ports, port.name = pb.name) ∧
        ∃ pb ∈ pbs, pb.name = "metrics" ∧ pb.containerPort = prometheusPort := by
  have hnames : ((pbs.map servicePort).map (·.name)).Nodup := by
    simpa [Function.comp_def, servicePort] using hpbs
  unfold metricsPorts
  cases hr : retarget prometheusPort (pbs.map servicePort) with
  | none =>
    have hnone := retarget_eq_none.mp hr
    refine iff_of_false (updateNodePorts_ne_append hports _) ?_
    rintro ⟨-, pb, hpb, hname, -⟩
    exact hnone (servicePort pb) (List.mem_map_of_mem hpb) hname
  | some ports' =>
    have hnode : ∀ port, (pointed prometheusPort port).nodePort = port.nodePort := by
      intro port
      unfold pointed
      split <;> rfl
    have hsome : ∃ pb ∈ pbs, pb.name = "metrics" := by
      by_contra hnone
      refine Option.some_ne_none _ (hr.symm.trans (retarget_eq_none.mpr ?_))
      intro port hport hname
      obtain ⟨pb, hpb, rfl⟩ := List.mem_map.mp hport
      exact hnone ⟨pb, hpb, hname⟩
    rw [Option.getD_some, retarget_eq_map hnames hr, updateNodePorts_eq_map_iff hports hnode]
    simp only [pointed_eq_self]
    constructor
    · intro h
      obtain ⟨pb, hpb, hname⟩ := hsome
      exact ⟨fun pb hpb => (h pb hpb).1, pb, hpb, hname, (h pb hpb).2 hname⟩
    · rintro ⟨hall, pb, hpb, hname, hport⟩ pb' hpb'
      refine ⟨hall pb' hpb', fun hname' => ?_⟩
      rw [List.inj_on_of_nodup_map hpbs hpb' hpb (hname'.trans hname.symm)]
      exact hport

end Agreement

/-- A binding that the Service has no port for is left out, and so is the port of the exporter. -/
theorem node_ports_kept_iff {cn : ComputeNode} {svc s : Service} (hsvc : newService cn = some svc)
    (hpbs : ((cn.portBindings.getD []).map (·.name)).Nodup)
    (hports : (s.spec.ports.map (·.name)).Nodup) :
    updateNodePorts (cn.portBindings.getD []) s.spec.ports =
        svc.spec.ports.map (allocated s.spec.ports) ↔
      (∀ pb ∈ cn.portBindings.getD [], ∃ port ∈ s.spec.ports, port.name = pb.name) ∧
        (agentEnabled cn = true → ∃ pb ∈ cn.portBindings.getD [],
          pb.name = "metrics" ∧ prometheusPort cn = some pb.containerPort) := by
  unfold newService at hsvc
  obtain ⟨selector, -, hsvc⟩ := Option.bind_eq_some_iff.mp hsvc
  cases hagent : agentEnabled cn with
  | true =>
    simp only [hagent, if_true] at hsvc
    obtain ⟨port, hport, hsvc⟩ := Option.bind_eq_some_iff.mp hsvc
    cases hsvc
    rw [metricsPorts_iff hports hpbs, hport]
    simp [eq_comm]
  | false =>
    simp only [hagent] at hsvc
    cases hsvc
    have hid := @updateNodePorts_eq_map_iff _ (cn.portBindings.getD []) hports id (fun _ => rfl)
    simpa using hid

section Adoption

def firstNodePort (ports : List ServicePort) (name : String) : Option Int :=
  (ports.find? (fun port => port.name = name ∧ port.nodePort ≠ 0)).map (·.nodePort)

def adopted (ports : List ServicePort) (earlier : List String) (pb : PortBinding) : PortBinding :=
  if pb.name ∉ earlier ∧ pb.nodePort = 0 then
    { pb with nodePort := (firstNodePort ports pb.name).getD 0 }
  else pb

variable {ports : List ServicePort} {earlier : List String} {pb : PortBinding}

theorem adopted_name : (adopted ports earlier pb).name = pb.name := by
  unfold adopted
  split <;> rfl

theorem adopted_first (h : pb.name ∉ earlier ∧ pb.nodePort = 0) :
    adopted ports earlier pb =
      { pb with nodePort := (firstNodePort ports pb.name).getD 0 } := if_pos h

theorem adopted_other (h : ¬(pb.name ∉ earlier ∧ pb.nodePort = 0)) :
    adopted ports earlier pb = pb := if_neg h

theorem firstNodePort_cons (port : ServicePort) (name : String) :
    firstNodePort (port :: ports) name =
      if port.name = name ∧ port.nodePort ≠ 0 then some port.nodePort
      else firstNodePort ports name := by
  unfold firstNodePort
  rw [List.find?_cons]
  by_cases h : port.name = name ∧ port.nodePort ≠ 0 <;> simp [h]

theorem firstNodePort_ne_zero {name : String} {n : Int} (h : firstNodePort ports name = some n) :
    n ≠ 0 := by
  obtain ⟨port, hport, rfl⟩ := Option.map_eq_some_iff.mp h
  have hfound := List.find?_some hport
  exact (of_decide_eq_true hfound).2

/-- A binding takes what the first port has for it before it takes what the others have. -/
theorem adopted_adopted (port : ServicePort) (ports : List ServicePort) (earlier : List String)
    (pb : PortBinding) :
    adopted ports earlier (adopted [port] earlier pb) = adopted (port :: ports) earlier pb := by
  by_cases h : pb.name ∉ earlier ∧ pb.nodePort = 0
  · rw [adopted_first h, adopted_first h, firstNodePort_cons, firstNodePort_cons]
    by_cases hport : port.name = pb.name ∧ port.nodePort ≠ 0
    · rw [if_pos hport, if_pos hport]
      exact adopted_other (fun hx => hport.2 hx.2)
    · rw [if_neg hport, if_neg hport]
      exact adopted_first ⟨h.1, rfl⟩
  · rw [adopted_other h, adopted_other h, adopted_other h]

theorem with_nodePort {n : Int} (h : pb.nodePort = n) : { pb with nodePort := n } = pb := by
  cases pb
  exact congrArg _ h.symm

theorem adopted_none (h : firstNodePort ports pb.name = none) : adopted ports earlier pb = pb := by
  unfold adopted
  split
  · rename_i hfirst
    rw [h]
    exact with_nodePort hfirst.2
  · rfl

theorem adopted_idem : adopted ports earlier (adopted ports earlier pb) =
    adopted ports earlier pb := by
  cases hfirst : firstNodePort ports pb.name with
  | none => rw [adopted_none hfirst, adopted_none hfirst]
  | some n =>
    by_cases h : pb.name ∉ earlier ∧ pb.nodePort = 0
    · rw [adopted_first h, hfirst]
      exact adopted_other (fun hx => firstNodePort_ne_zero hfirst hx.2)
    · rw [adopted_other h, adopted_other h]

theorem adoptNodePort_names (port : ServicePort) (pbs : List PortBinding) :
    (adoptNodePort port pbs).map (·.name) = pbs.map (·.name) := by
  induction pbs with
  | nil => rfl
  | cons pb pbs ih =>
    unfold adoptNodePort
    by_cases hname : port.name = pb.name
    · rw [if_pos hname]
      split <;> rfl
    · rw [if_neg hname, List.map_cons, List.map_cons, ih]

theorem adopted_single (port : ServicePort) (earlier : List String) (pb : PortBinding) :
    adopted [port] earlier pb =
      if port.name = pb.name ∧ pb.name ∉ earlier ∧ pb.nodePort = 0 then
        { pb with nodePort := port.nodePort }
      else pb := by
  by_cases hport : port.name = pb.name ∧ port.nodePort ≠ 0
  · have hfirst : firstNodePort [port] pb.name = some port.nodePort := by
      rw [firstNodePort_cons, if_pos hport]
    unfold adopted
    rw [hfirst]
    simp only [hport.1, true_and, Option.getD_some]
  · have hfirst : firstNodePort [port] pb.name = none := by
      rw [firstNodePort_cons, if_neg hport]
      rfl
    rw [adopted_none hfirst]
    split
    · rename_i hx
      refine (with_nodePort ?_).symm
      rw [hx.2.2]
      by_contra hne
      exact hport ⟨hx.1, fun hzero => hne hzero.symm⟩
    · rfl

theorem adoptNodePort_getElem? (port : ServicePort) (pbs : List PortBinding) (i : ℕ) :
    (adoptNodePort port pbs)[i]? =
      pbs[i]?.map (adopted [port] ((pbs.map (·.name)).take i)) := by
  induction pbs generalizing i with
  | nil => rfl
  | cons pb pbs ih =>
    unfold adoptNodePort
    by_cases hname : port.name = pb.name
    · rw [if_pos hname]
      cases i with
      | zero =>
        simp only [List.getElem?_cons_zero, List.take_zero, Option.map_some, adopted_single, hname,
          List.not_mem_nil, not_false_eq_true, true_and]
      | succ i =>
        -- the bindings after the first one of the name are left alone
        have hrest : ∀ q : PortBinding,
            adopted [port] (pb.name :: (pbs.map (·.name)).take i) q = q := by
          intro q
          rw [adopted_single]
          refine if_neg (fun hx => hx.2.1 ?_)
          rw [← hx.1, hname]
          exact List.mem_cons_self
        rw [List.map_cons, List.take_succ_cons, List.getElem?_cons_succ, List.getElem?_cons_succ,
          funext hrest, Option.map_id_fun']
        rfl
    · rw [if_neg hname]
      cases i with
      | zero =>
        rw [List.getElem?_cons_zero, List.getElem?_cons_zero, Option.map_some, adopted_single,
          if_neg (fun hx => hname hx.1)]
      | succ i =>
        have hsame : ∀ q : PortBinding,
            adopted [port] (pb.name :: (pbs.map (·.name)).take i) q =
              adopted [port] ((pbs.map (·.name)).take i) q := by
          intro q
          rw [adopted_single, adopted_single]
          by_cases hq : port.name = q.name
          · have hne : q.name ≠ pb.name := fun hx => hname (hq.trans hx)
            simp [hne]
          · rw [if_neg (fun hx => hq hx.1), if_neg (fun hx => hq hx.1)]
        rw [List.map_cons, List.take_succ_cons, List.getElem?_cons_succ, List.getElem?_cons_succ,
          funext hsame, ih]

theorem updateServiceNodePort_getElem? (pbs : List PortBinding) (ports : List ServicePort)
    (i : ℕ) :
    (updateServiceNodePort pbs ports)[i]? =
      pbs[i]?.map (adopted ports ((pbs.map (·.name)).take i)) := by
  induction ports generalizing pbs with
  | nil =>
    have hsame : ∀ q : PortBinding, adopted [] ((pbs.map (·.name)).take i) q = q :=
      fun _ => adopted_none rfl
    rw [funext hsame, Option.map_id_fun']
    rfl
  | cons port ports ih =>
    have hstep : updateServiceNodePort pbs (port :: ports) =
        updateServiceNodePort (adoptNodePort port pbs) ports := rfl
    rw [hstep, ih, adoptNodePort_names, adoptNodePort_getElem?, Option.map_map]
    congr 1
    funext q
    exact adopted_adopted port ports _ q

theorem updateServiceNodePort_names (pbs : List PortBinding) (ports : List ServicePort) :
    (updateServiceNodePort pbs ports).map (·.name) = pbs.map (·.name) := by
  refine List.ext_getElem? (fun i => ?_)
  rw [List.getElem?_map, updateServiceNodePort_getElem?, Option.map_map, List.getElem?_map]
  congr 1
  funext q
  exact adopted_name

structure Adopts (ports : List ServicePort) (earlier : List String) (pb pb' : PortBinding) :
    Prop where
  others : { pb' with nodePort := pb.nodePort } = pb
  later : pb.name ∈ earlier → pb' = pb
  kept : pb.nodePort ≠ 0 → pb' = pb
  first : pb.name ∉ earlier → pb.nodePort = 0 →
    pb'.nodePort = (firstNodePort ports pb.name).getD 0

theorem adopted_adopts : Adopts ports earlier pb (adopted ports earlier pb) := by
  refine ⟨?_, fun h => ?_, fun h => ?_, fun hname hzero => ?_⟩
  · unfold adopted
    split <;> rfl
  · exact adopted_other (fun hx => hx.1 h)
  · exact adopted_other (fun hx => h hx.2)
  · rw [adopted_first ⟨hname, hzero⟩]

end Adoption

/-- The first binding of a name takes a node port when it has none, and nothing else changes. -/
theorem node_ports_adopted (pbs : List PortBinding) (ports : List ServicePort) :
    (updateServiceNodePort pbs ports).length = pbs.length ∧
      (∀ i pb pb', pbs[i]? = some pb → (updateServiceNodePort pbs ports)[i]? = some pb' →
        Adopts ports ((pbs.map (·.name)).take i) pb pb') ∧
      updateServiceNodePort (updateServiceNodePort pbs ports) ports =
        updateServiceNodePort pbs ports := by
  have hnames := updateServiceNodePort_names pbs ports
  refine ⟨?_, ?_, ?_⟩
  · simpa using congrArg List.length hnames
  · intro i pb pb' hpb hpb'
    rw [updateServiceNodePort_getElem?, hpb] at hpb'
    cases hpb'
    exact adopted_adopts
  · refine List.ext_getElem? (fun i => ?_)
    rw [updateServiceNodePort_getElem?, hnames, updateServiceNodePort_getElem?, Option.map_map]
    congr 1
    funext q
    exact adopted_idem

section Samples

def boundNode (pbs : List PortBinding) : ComputeNode where
  objectMeta := ⟨"proxy", "default", ∅, fun _ => none⟩
  selector := some ∅
  portBindings := some pbs
  serviceType := .nodePort
  serverConfig := ⟨[], fun _ => none⟩
  agentPlugins := none

def proxyBinding : PortBinding where
  name := "proxy"
  containerPort := 3307
  protocol := "TCP"
  servicePort := 3307

def mysqlBinding : PortBinding where
  name := "mysql"
  containerPort := 3308
  protocol := "TCP"
  servicePort := 3308

def boundService (pbs : List PortBinding) : Service where
  objectMeta := ⟨"proxy", "default", ∅, fun _ => none⟩
  spec := { type := .nodePort, selector := ∅, ports := pbs.map servicePort }

def allocatedService (pbs : List PortBinding) : Service where
  objectMeta := ⟨"proxy", "default", ∅, fun _ => none⟩
  spec :=
    { type := .nodePort
      selector := ∅
      ports := pbs.map (fun pb => { servicePort pb with nodePort := pb.servicePort + 26693 }) }

end Samples

theorem bothBindings_kept :
    updateNodePorts [proxyBinding, mysqlBinding]
        (allocatedService [mysqlBinding, proxyBinding]).spec.ports =
      (boundService [proxyBinding, mysqlBinding]).spec.ports.map
        (allocated (allocatedService [mysqlBinding, proxyBinding]).spec.ports) :=
  (@node_ports_kept_iff (boundNode [proxyBinding, mysqlBinding]) _
    (allocatedService [mysqlBinding, proxyBinding]) rfl (by decide) (by decide)).mpr
    ⟨by decide, by decide⟩

/-- A binding is added to the ComputeNode, and never gets a port. -/
theorem not_all_node_ports_kept :
    ¬ ∀ (cn : ComputeNode) (svc s : Service), cn.serviceType = .nodePort →
      newService cn = some svc → ((cn.portBindings.getD []).map (·.name)).Nodup →
      (s.spec.ports.map (·.name)).Nodup →
      updateNodePorts (cn.portBindings.getD []) s.spec.ports =
        svc.spec.ports.map (allocated s.spec.ports) := by
  intro h
  have hkept := h (boundNode [proxyBinding, mysqlBinding])
    (boundService [proxyBinding, mysqlBinding]) (allocatedService [proxyBinding]) rfl rfl
    (by decide) (by decide)
  revert hkept
  decide

end ShardingOnCloud.Operator.NodePorts
