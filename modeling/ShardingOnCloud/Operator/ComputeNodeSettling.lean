import ShardingOnCloud.Operator.ComputeNodeRuns
import ShardingOnCloud.Operator.MountedConfig

namespace ShardingOnCloud.Operator.ComputeNodeSettling

open ShardingOnCloud.Lib.Footprint
open ShardingOnCloud.Operator.StorageNodeTypes ShardingOnCloud.Operator.ComputeNodeTypes
open ShardingOnCloud.Operator.ComputeNodeService (createService buildService newService)
open ShardingOnCloud.Operator.ComputeNodeStatus (Clock)
open ShardingOnCloud.Operator.ServiceConvergence (bare stored sampleComputeNode)
open ShardingOnCloud.Operator.ComputeNodeDeployment (PodTemplateSpec ContainerPort Semver
  buildDeployment buildSpec proxyContainer getContainerPortsFromComputeNode)
open ShardingOnCloud.Operator.PodFeatures (plainSemver buildDeployment_spec)
open ShardingOnCloud.Operator.MountedConfig (Rendering GroupVersionKind newConfigMap
  computeNodeKind)
open ShardingOnCloud.Operator.ComputeNodeController ShardingOnCloud.Operator.ComputeNodeRuns

section Serve

variable {T : Kind → Type}

def verbatim (k : Kind) (sent content : T k) : Prop := content = sent

/-- An API server that does all that it is asked for. -/
def serve (s : State T) : (c : Op T) → Option (OpR c × State T)
  | .getComputeNode _ _ => some (.ok s.computeNode, s)
  | .listPods _ _ => some (.ok [], s)
  | .updateStatus cn =>
    some (none, { s with computeNode := { s.computeNode with status := cn.status } })
  | .get k _ _ => some ((s.objects k).elim (.error (.notFound "not found")) .ok, s)
  | .create k object =>
    if (s.objects k).isSome then some (some (.alreadyExists "already exists"), s)
    else some (none, { s with objects := Function.update s.objects k (some object) })
  | .update k object =>
    some (none, { s with objects := Function.update s.objects k (some object) })
  | .service (.getService _ _) => some (s.service.elim (.error (.notFound "not found")) .ok, s)
  | .service (.createService svc) | .service (.updateService svc) =>
    some (none, { s with service := some svc })
  | .service (.getComputeNode _ _) => some (.ok s.computeNode, s)
  | .service (.updateComputeNode cn) =>
    some (none, { s with computeNode := stored s.computeNode cn })
  | .service .panic => none

theorem serve_step {s t : State T} {c : Op T} {r : OpR c} (h : serve s c = some (r, t)) :
    (api verbatim).step s (.main (.reply c r)) t ∧ ∀ k, ¬failed k (.main (.reply c r)) := by
  unfold serve at h
  split at h
  · cases h
    exact ⟨⟨rfl, rfl⟩, fun _ => id⟩
  · cases h
    exact ⟨rfl, fun _ => id⟩
  · cases h
    exact ⟨Or.inr rfl, fun _ => id⟩
  · next k _ _ =>
    cases hk : s.objects k with
    | none =>
      rw [hk] at h
      cases h
      exact ⟨⟨hk, rfl⟩, fun _ => id⟩
    | some object =>
      rw [hk] at h
      cases h
      exact ⟨⟨hk, rfl⟩, fun _ => id⟩
  · split at h
    · next hk =>
      cases h
      exact ⟨⟨fun hnone => by simp [hnone] at hk, rfl⟩, fun _ => id⟩
    · next hk =>
      cases h
      exact ⟨Or.inr ⟨by simpa using hk, _, rfl, rfl⟩, fun _ hf => by simp [failed] at hf⟩
  · cases h
    exact ⟨Or.inr ⟨_, rfl, rfl⟩, fun _ hf => by simp [failed] at hf⟩
  · cases hs : s.service with
    | none =>
      rw [hs] at h
      cases h
      exact ⟨⟨hs, rfl⟩, fun _ => id⟩
    | some svc =>
      rw [hs] at h
      cases h
      exact ⟨⟨hs, rfl⟩, fun _ => id⟩
  · cases h
    exact ⟨Or.inr ⟨_, rfl⟩, fun _ => id⟩
  · cases h
    exact ⟨Or.inr ⟨_, rfl⟩, fun _ => id⟩
  · cases h
    exact ⟨⟨rfl, rfl⟩, fun _ => id⟩
  · cases h
    exact ⟨Or.inr rfl, fun _ => id⟩
  · cases h

/-- An API server that answers no question but the one for the ComputeNode. -/
def refuse (s : State T) : (c : Op T) → Option (OpR c × State T)
  | .getComputeNode _ _ => some (.ok s.computeNode, s)
  | .listPods _ _ => some (.error (.other "timeout"), s)
  | .get _ _ _ => some (.error (.other "timeout"), s)
  | .service (.getService _ _) => some (.error (.other "timeout"), s)
  | _ => none

theorem refuse_step {s t : State T} {c : Op T} {r : OpR c} (h : refuse s c = some (r, t)) :
    (api verbatim).step s (.main (.reply c r)) t := by
  unfold refuse at h
  split at h
  · cases h
    exact ⟨rfl, rfl⟩
  · cases h
    rfl
  · cases h
    rfl
  · cases h
    rfl
  · cases h

/-- The reconcile is stopped when it has asked for one of the objects. -/
def vanish (s : State T) (c : Op T) : Option (OpR c × State T) :=
  match c with
  | .get _ _ _ => none
  | c => serve s c

theorem vanish_step {s t : State T} {c : Op T} {r : OpR c} (h : vanish s c = some (r, t)) :
    (api verbatim).step s (.main (.reply c r)) t := by
  unfold vanish at h
  split at h
  · cases h
  · exact (serve_step h).1

theorem api_issue (s : State T) (c : Op T) : (api verbatim).step s (.main (.issue c)) s :=
  ⟨Same.refl _, rfl⟩

theorem round_drive [∀ k, DecidableEq (T k)] {b : Builder T}
    {env : State T → (c : Op T) → Option (OpR c × State T)}
    (henv : ∀ {s c r t}, env s c = some (r, t) → (api verbatim).step s (.main (.reply c r)) t)
    (clock : Clock) (sel : Selectors) (s : State T) :
    Round b verbatim s (drive env s (reconcile b clock sel s.computeNode.objectMeta.name
      s.computeNode.objectMeta.nameSpace)).2 :=
  ⟨clock, sel, _, drive_cut _ _, drive_path api_issue henv _ _⟩

theorem clean_of_outcome [∀ k, DecidableEq (T k)] {b : Builder T} {clock : Clock} {sel : Selectors}
    {name nameSpace : String} {s : State T} {err : Option Err}
    (h : outcome serve s (reconcile b clock sel name nameSpace) = some err) (k : Kind) :
    Clean b verbatim k s (drive serve s (reconcile b clock sel name nameSpace)).2 := by
  refine ⟨clock, sel, name, nameSpace, s.computeNode, _, err, drive_run h, ?_, fun e he => ?_⟩
  · exact drive_path api_issue (fun henv => (serve_step henv).1) s
      (reconcile b clock sel name nameSpace)
  · match e with
    | .main (.issue _) => exact id
    | .main (.reply c r) =>
      obtain ⟨u, t, henv⟩ := drive_reply he
      exact (serve_step henv).2 k

variable [∀ k, DecidableEq (T k)] {b : Builder T} (clock : Clock) {sel : Selectors}
  (name nameSpace : String) {cn : ComputeNode} {labels : Labels} {selector : String}

theorem reconcile_first (hselector : cn.selector = some labels) (hsel : sel labels = some selector)
    (hb : ∀ k status, ∃ object, b k { cn with status := status } = some object)
    (hservice : ∀ status, ∃ svc, newService { cn with status := status } = some svc) :
    ∃ t, Ends serve ⟨cn, none, fun _ => none⟩ (reconcile b clock sel name nameSpace) none t ∧
      ∃ status, t.computeNode = { cn with status := status } := by
  let cn' : ComputeNode :=
    { cn with status :=
      { ComputeNodeStatus.reconcileComputeNodeStatus clock [] noService cn with
        selector := selector } }
  have hcreate : ∀ k (s : State T), s.objects k = none →
      ∃ t, Ends serve s (reconcileObject b k cn') none t ∧ t.computeNode = s.computeNode ∧
        t.service = s.service ∧ ∀ k', k' ≠ k → t.objects k' = s.objects k' := by
    intro k s hnone
    obtain ⟨object, hobject⟩ := hb k cn'.status
    refine ⟨{ s with objects := Function.update s.objects k (some object) }, ?_, rfl, rfl,
      fun k' hk' => Function.update_of_ne hk' _ _⟩
    refine ends_call (congrArg (fun o => some (Option.elim o _ _, s)) hnone) ?_
    change Ends serve s (build b k cn' >>= _) none _
    rw [build, hobject]
    exact ends_call (by rw [serve, hnone]; rfl) (ends_ret _ _)
  have hstatus : Ends serve ⟨cn, none, fun _ => none⟩ (reconcileStatus clock sel cn) (none, cn')
      (⟨cn', none, fun _ => none⟩ : State T) := by
    simp only [reconcileStatus, hselector, hsel]
    exact ends_call rfl (ends_call rfl (ends_call rfl (ends_call rfl (ends_ret _ _))))
  obtain ⟨t, hdeployment, hnode, hsvc, hother⟩ :=
    hcreate .deployment ⟨cn', none, fun _ => none⟩ rfl
  obtain ⟨svc, hnew⟩ := hservice cn'.status
  have hservice' : Ends serve t (reconcileService cn') (none, cn')
      { t with service := some svc } := by
    refine ends_call (congrArg (fun o => some (Option.elim o _ _, t)) hsvc) ?_
    change Ends serve t (onService (createService cn') >>= _) _ _
    rw [createService, buildService, hnew]
    exact ends_call rfl (ends_ret _ _)
  obtain ⟨u, hconfig, hnode', -⟩ :=
    hcreate .configMap { t with service := some svc } (hother _ (by simp))
  refine ⟨u, ends_call rfl ?_, cn'.status, hnode'.trans hnode⟩
  change Ends serve _ (reconcileFound b clock sel cn) none u
  exact ends_bind hstatus (ends_bind hdeployment (ends_bind hservice' (ends_bind hconfig
    (ends_ret _ _))))

theorem reconcile_refused {s : State T} (hselector : s.computeNode.selector = some labels)
    (hsel : sel labels = some selector) :
    Ends refuse s (reconcile b clock sel name nameSpace) (some "timeout") s := by
  refine ends_call rfl ?_
  change Ends refuse s (reconcileFound b clock sel s.computeNode) _ s
  have hstatus : Ends refuse s (reconcileStatus clock sel s.computeNode)
      (some "timeout", s.computeNode) s := by
    simp only [reconcileStatus, hselector, hsel]
    exact ends_call rfl (ends_ret _ _)
  have hobject : ∀ k, Ends refuse s (reconcileObject b k s.computeNode) (some "timeout") s :=
    fun k => ends_call rfl (ends_ret _ _)
  have hservice : Ends refuse s (reconcileService s.computeNode)
      (some "timeout", s.computeNode) s := ends_call rfl (ends_ret _ _)
  exact ends_bind hstatus (ends_bind (hobject .deployment) (ends_bind hservice
    (ends_bind (hobject .configMap) (ends_ret _ _))))

theorem reconcile_stopped {s : State T} (hselector : s.computeNode.selector = some labels)
    (hsel : sel labels = some selector) : Stops vanish s (reconcile b clock sel name nameSpace) := by
  change outcome vanish s (reconcileFound b clock sel s.computeNode) = none
  have hstatus : ∃ r t, Ends vanish s (reconcileStatus clock sel s.computeNode) r t := by
    simp only [reconcileStatus, hselector, hsel]
    cases hs : s.service with
    | none =>
      exact ⟨_, _, ends_call rfl (ends_call (congrArg (fun o => some (Option.elim o _ _, s)) hs)
        (ends_call rfl (ends_call rfl (ends_ret _ _))))⟩
    | some svc =>
      exact ⟨_, _, ends_call rfl (ends_call (congrArg (fun o => some (Option.elim o _ _, s)) hs)
        (ends_call rfl (ends_call rfl (ends_ret _ _))))⟩
  obtain ⟨r, t, hr⟩ := hstatus
  rw [reconcileFound, hr.then_eq.1]
  rfl

end Serve

section Built

structure DeploymentSpec where
  selector : Option Labels
  replicas : Option Int
  rollingUpdate : Option ProxyTypes.RollingUpdateDeployment
  template : PodTemplateSpec

/-- What of the two objects is compared. -/
abbrev Content : Kind → Type
  | .deployment => DeploymentSpec
  | .configMap => Dict

variable (room : ℕ → Bool) (semver : Semver) (r : Rendering) (gvk : GroupVersionKind)

/-- `BuildDeployment` and `BuildConfigMap`. -/
def builder : Builder Content
  | .deployment, cn => (buildDeployment room semver cn).map (fun d =>
    ⟨d.objectMeta, d.selector, d.replicas, d.rollingUpdate, d.template⟩)
  | .configMap, cn => (newConfigMap r gvk cn).map (fun cm => ⟨cm.objectMeta, cm.data⟩)

theorem containerPorts_same {cn cn' : ComputeNode} (h : Same cn cn') :
    getContainerPortsFromComputeNode cn' = getContainerPortsFromComputeNode cn := by
  let port (pb : PortBinding) : ContainerPort := ⟨pb.name, pb.hostIP, pb.containerPort, pb.protocol⟩
  have hport : port = port ∘ bare := rfl
  have hports : ∀ cn : ComputeNode, getContainerPortsFromComputeNode cn =
      ((cn.portBindings.map (List.map bare)).getD []).map port := by
    intro cn
    unfold getContainerPortsFromComputeNode
    cases cn.portBindings with
    | none => rfl
    | some pbs => exact (congrArg (pbs.map ·) hport).trans (List.map_map ..).symm
  rw [hports, hports, h.bindings]

theorem proxyContainer_same {cn cn' : ComputeNode} (h : Same cn cn') :
    proxyContainer cn' = proxyContainer cn := by
  unfold proxyContainer
  rw [containerPorts_same h, h.eq]
  rfl

theorem buildDeployment_same {cn cn' : ComputeNode} (h : Same cn cn') :
    buildDeployment room semver cn' = buildDeployment room semver cn := by
  unfold buildDeployment buildSpec
  rw [proxyContainer_same h, h.eq]
  rfl

theorem builder_blind : Blind (builder room semver r gvk) := by
  intro k cn cn' h
  cases k with
  | deployment => exact congrArg (Option.map _) (buildDeployment_same room semver h)
  | configMap =>
    rw [h.eq]
    rfl

theorem builder_total (k : Kind) (cn : ComputeNode) :
    ∃ object, builder room semver r computeNodeKind k cn = some object := by
  cases k with
  | deployment =>
    obtain ⟨d, -, hd, -⟩ := buildDeployment_spec room semver cn
    exact ⟨_, Option.map_eq_some_iff.mpr ⟨d, hd, rfl⟩⟩
  | configMap =>
    have hcm : newConfigMap r computeNodeKind cn = some _ := if_pos rfl
    rw [builder, hcm]
    exact ⟨_, rfl⟩

variable {room semver r gvk} [∀ k, DecidableEq (Content k)]
  {accepts : (k : Kind) → Content k → Content k → Prop} {s t u : State Content} {k : Kind}

/-- The Deployment and the ConfigMap that were reconciled once without a failure stay what is built
from the ComputeNode, whatever becomes of the reconciles that come later. -/
theorem object_settles (hclean : Clean (builder room semver r gvk) accepts k s u)
    (hrounds : Relation.ReflTransGen (Round (builder room semver r gvk) accepts) u t) :
    Settled (builder room semver r gvk) accepts s.computeNode k t :=
  settled_of_clean (builder_blind room semver r gvk) hclean hrounds

end Built

section Sample

/-- A rendering for a server without a configuration. -/
def noRendering : Rendering := ⟨fun _ => true, fun _ => none, fun _ => none⟩

abbrev sampleBuilder : Builder Content :=
  builder (fun _ => false) plainSemver noRendering computeNodeKind

def unreconciled : State Content := ⟨sampleComputeNode, none, fun _ => none⟩

/-- The text of a selector without requirements. -/
def everything : Selectors := fun _ => some ""

abbrev sampleReconcile [∀ k, DecidableEq (Content k)] : Rec Content (Option Err) :=
  reconcile sampleBuilder (fun _ => (0, 0)) everything "proxy" "default"

/-- The first reconcile is clean, the second one fails and the third one is stopped after it
has written the status. -/
def threeRounds [∀ k, DecidableEq (Content k)] : State Content :=
  (drive vanish (drive refuse (drive serve unreconciled sampleReconcile).2 sampleReconcile).2
    sampleReconcile).2

open Classical in
theorem object_settles_threeRounds :
    ∃ u, (drive serve unreconciled sampleReconcile).2 = u ∧
      Clean sampleBuilder verbatim .deployment unreconciled u ∧
      outcome refuse u sampleReconcile = some (some "timeout") ∧
      Stops vanish (drive refuse u sampleReconcile).2 sampleReconcile ∧
      Settled sampleBuilder verbatim unreconciled.computeNode .deployment threeRounds := by
  obtain ⟨u, ⟨hout, hu⟩, status, hcn⟩ := reconcile_first (fun _ => (0, 0))
    "proxy" "default" (show sampleComputeNode.selector = some ∅ from rfl)
    (show everything ∅ = some "" from rfl)
    (fun k status => builder_total (fun _ => false) plainSemver noRendering k
      { sampleComputeNode with status := status })
    (fun status => ⟨_, rfl⟩)
  have hclean : Clean sampleBuilder verbatim .deployment unreconciled u :=
    hu ▸ clean_of_outcome hout .deployment
  have hselector : u.computeNode.selector = some ∅ := by
    rw [hcn]
    rfl
  have hmeta : u.computeNode.objectMeta = sampleComputeNode.objectMeta := by rw [hcn]
  obtain ⟨hrefused, hsame⟩ : Ends refuse u sampleReconcile (some "timeout") u :=
    reconcile_refused _ _ _ hselector rfl
  have hsecond := round_drive (b := sampleBuilder) refuse_step (fun _ => (0, 0)) everything u
  have hthird := round_drive (b := sampleBuilder) vanish_step (fun _ => (0, 0)) everything u
  rw [hmeta] at hsecond hthird
  have hrounds : Relation.ReflTransGen (Round sampleBuilder verbatim) u threeRounds := by
    refine .tail (.single hsecond) ?_
    change Round sampleBuilder verbatim (drive refuse u sampleReconcile).2 threeRounds
    rw [threeRounds, show (drive serve unreconciled sampleReconcile).2 = u from hu, hsame]
    exact hthird
  refine ⟨u, hu, hclean, hrefused, ?_, object_settles hclean hrounds⟩
  rw [hsame]
  exact reconcile_stopped _ _ _ hselector rfl

end Sample

end ShardingOnCloud.Operator.ComputeNodeSettling
