import ShardingOnCloud.Operator.ProxyTypes

namespace ShardingOnCloud.Operator.ProxyService

open ShardingOnCloud.Operator.ComputeNodeTypes ShardingOnCloud.Operator.ProxyTypes

section Service

/-- An object without anything set gives a Service without anything set. The node port is only
taken over for the type that has one. -/
def constructCascadingService (proxy : ShardingSphereProxy) : Service :=
  if proxy = {} then
    { objectMeta := ⟨"", "", ∅, fun _ => none⟩
      spec := { type := .unset, selector := ∅, ports := [] } }
  else
    { objectMeta := ⟨proxy.name, proxy.nameSpace, ∅, fun _ => none⟩
      spec :=
        { selector := Finmap.singleton "apps" proxy.name
          type := proxy.spec.serviceType.type
          ports :=
            [{ name := "proxy-port"
               targetPort := .int proxy.spec.port
               port := proxy.spec.port
               nodePort :=
                if proxy.spec.serviceType.type = .nodePort then proxy.spec.serviceType.nodePort
                else 0 }] } }

/-- `UpdateService`, with no result where it panics. Only the first port is changed. -/
def updateService (proxy : ShardingSphereProxy) (runtimeService : Service) : Option Service := do
  let port ← runtimeService.spec.ports.head?
  return { runtimeService with
    spec := { runtimeService.spec with
      type := proxy.spec.serviceType.type
      ports :=
        { port with
          port := proxy.spec.port
          targetPort := .int proxy.spec.port
          nodePort :=
            if proxy.spec.serviceType.nodePort ≠ 0 then proxy.spec.serviceType.nodePort
            else port.nodePort } :: runtimeService.spec.ports.tail } }

end Service

section Compare

variable {p q : ShardingSphereProxy}

theorem ne_zero_of_name (h : p.name ≠ "") : p ≠ {} := by
  rintro rfl
  exact h rfl

def builtNodePort (p : ShardingSphereProxy) : Int :=
  if p.spec.serviceType.type = .nodePort then p.spec.serviceType.nodePort else 0

def serviceSpec (q : ShardingSphereProxy) (nodePort : Int) : ServiceSpec where
  type := q.spec.serviceType.type
  selector := Finmap.singleton "apps" q.name
  ports :=
    [{ name := "proxy-port", port := q.spec.port, targetPort := .int q.spec.port
       nodePort := nodePort }]

theorem construct_spec (h : q ≠ {}) :
    (constructCascadingService q).spec = serviceSpec q (builtNodePort q) := by
  rw [constructCascadingService, if_neg h]
  rfl

theorem update_construct (hp : p ≠ {}) (hname : p.name = q.name) :
    (updateService q (constructCascadingService p)).map Service.spec = some (serviceSpec q
      (if q.spec.serviceType.nodePort ≠ 0 then q.spec.serviceType.nodePort
        else builtNodePort p)) := by
  rw [constructCascadingService, if_neg hp]
  simp only [updateService, serviceSpec, hname]
  rfl

def numbers (port : ServicePort) : Int × IntOrString × Int :=
  (port.port, port.targetPort, port.nodePort)

end Compare

/-- An update sets what building anew sets, and the node port of a NodePort Service when the
object asks for one. When it asks for none, the node port is left as it is. -/
theorem update_sets_service (p q : ShardingSphereProxy) (hname : p.name = q.name)
    (hset : p.name ≠ "") :
    ∃ spec, (updateService q (constructCascadingService p)).map Service.spec = some spec ∧
      spec.type = (constructCascadingService q).spec.type ∧
      spec.selector = (constructCascadingService q).spec.selector ∧
      spec.ports.map (fun port => (port.port, port.targetPort)) =
        (constructCascadingService q).spec.ports.map (fun port => (port.port, port.targetPort)) ∧
      (q.spec.serviceType.nodePort ≠ 0 → q.spec.serviceType.type = .nodePort →
        spec.ports.map numbers = (constructCascadingService q).spec.ports.map numbers) ∧
      (q.spec.serviceType.nodePort = 0 →
        spec.ports.map ServicePort.nodePort =
          (constructCascadingService p).spec.ports.map ServicePort.nodePort) := by
  have hp : p ≠ {} := ne_zero_of_name hset
  have hq : q ≠ {} := ne_zero_of_name (hname ▸ hset)
  refine ⟨_, update_construct hp hname, ?_⟩
  rw [construct_spec hq, construct_spec hp]
  refine ⟨rfl, rfl, rfl, ?_, ?_⟩
  · intro hport htype
    simp [serviceSpec, builtNodePort, hport, htype]
  · intro hport
    simp [serviceSpec, hport]

def exposedProxy : ShardingSphereProxy where
  name := "proxy"
  nameSpace := "default"
  spec := { version := "5.3.1", replicas := 1, port := 3307, serviceType := ⟨.nodePort, 33007⟩ }

def unnumberedProxy : ShardingSphereProxy :=
  { exposedProxy with
    spec := { exposedProxy.spec with port := 3308, serviceType := ⟨.nodePort, 0⟩ } }

theorem unnumberedProxy_sets :
    ∃ spec, (updateService unnumberedProxy (constructCascadingService exposedProxy)).map
        Service.spec = some spec ∧
      spec.type = .nodePort ∧ spec.ports.map ServicePort.nodePort = [33007] := by
  obtain ⟨spec, hspec, htype, -, -, -, hkept⟩ :=
    update_sets_service exposedProxy unnumberedProxy rfl (by decide)
  exact ⟨spec, hspec, htype, hkept rfl⟩

theorem not_all_services_rebuilt :
    ¬∀ p q : ShardingSphereProxy, p.name = q.name → p.name ≠ "" →
      ∃ spec, (updateService q (constructCascadingService p)).map Service.spec = some spec ∧
        spec.type = (constructCascadingService q).spec.type ∧
        spec.selector = (constructCascadingService q).spec.selector ∧
        spec.ports.map numbers = (constructCascadingService q).spec.ports.map numbers := by
  intro h
  obtain ⟨spec, hspec, -, -, hports⟩ := h exposedProxy unnumberedProxy rfl (by decide)
  rw [update_construct (p := exposedProxy) (q := unnumberedProxy) (by decide) rfl] at hspec
  cases hspec
  rw [construct_spec (by decide)] at hports
  revert hports
  decide

end ShardingOnCloud.Operator.ProxyService
