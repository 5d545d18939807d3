import ShardingOnCloud.Lib.Footprint
import ShardingOnCloud.Operator.ComputeNodeTypes

namespace ShardingOnCloud.Operator.ComputeNodeService

open ShardingOnCloud.Lib.Program
open ShardingOnCloud.Operator.StorageNodeTypes ShardingOnCloud.Operator.ComputeNodeTypes

section Builder

def commonAnnotationPrometheusMetricsPath : String := "prometheus.io/path"
def commonAnnotationPrometheusMetricsPort : String := "prometheus.io/port"
def commonAnnotationPrometheusMetricsScrape : String := "prometheus.io/scrape"
def commonAnnotationPrometheusMetricsScheme : String := "prometheus.io/scheme"
def defaultAnnotationJavaAgentEnabled : String := "shardingsphere.apache.org/java-agent-enabled"

def metricsAnnos (annotations : Dict) : Dict :=
  [commonAnnotationPrometheusMetricsPath, commonAnnotationPrometheusMetricsPort,
   commonAnnotationPrometheusMetricsScrape, commonAnnotationPrometheusMetricsScheme].foldl
    (fun annos k => annos.set k (annotations.get k)) (fun _ => none)

/-- The port of a Service for a port binding. The node port of the binding is not used. -/
def servicePort (pb : PortBinding) : ServicePort where
  name := pb.name
  port := pb.servicePort
  targetPort := .int pb.containerPort
  protocol := pb.protocol

def retarget (prometheusPort : Int) : List ServicePort → Option (List ServicePort)
  | [] => none
  | port :: ports =>
    if port.name = "metrics" then some ({ port with targetPort := .int prometheusPort } :: ports)
    else (retarget prometheusPort ports).map (port :: ·)

def metricsPorts (prometheusPort : Int) (ports : List ServicePort) : List ServicePort :=
  (retarget prometheusPort ports).getD
    (ports ++ [{ name := "metrics", port := 9090, targetPort := .int prometheusPort }])

/-- The port of the exporter, when none of the pointers to it is nil. -/
def prometheusPort (cn : ComputeNode) : Option Int := do
  let plugins ← cn.agentPlugins
  let metrics ← plugins.metrics
  return metrics.prometheusPort

def agentEnabled (cn : ComputeNode) : Bool :=
  cn.objectMeta.annotations defaultAnnotationJavaAgentEnabled = some "true"

/-- `NewService`, with no result where a nil pointer is dereferenced. -/
def newService (cn : ComputeNode) : Option Service := do
  let selector ← cn.selector
  let ports := (cn.portBindings.getD []).map servicePort
  if agentEnabled cn then
    let port ← prometheusPort cn
    return {
      objectMeta := { cn.objectMeta with annotations := metricsAnnos cn.objectMeta.annotations }
      spec := { type := cn.serviceType, selector := selector, ports := metricsPorts port ports } }
  else
    return {
      objectMeta := { cn.objectMeta with annotations := fun _ => none }
      spec := { type := cn.serviceType, selector := selector, ports := ports } }

end Builder

section Ports

/-- The inner loop of `updateServiceNodePort`, which ends at the first binding of the name. -/
def adoptNodePort (port : ServicePort) : List PortBinding → List PortBinding
  | [] => []
  | pb :: pbs =>
    if port.name = pb.name then
      (if pb.nodePort = 0 then { pb with nodePort := port.nodePort } else pb) :: pbs
    else pb :: adoptNodePort port pbs

def updateServiceNodePort (pbs : List PortBinding) (ports : List ServicePort) : List PortBinding :=
  ports.foldl (fun pbs port => adoptNodePort port pbs) pbs

def updateServiceClusterIP : List PortBinding → List PortBinding
  | [] => []
  | pb :: pbs =>
    if pb.nodePort ≠ 0 then { pb with nodePort := 0 } :: pbs else pb :: updateServiceClusterIP pbs

def updateNodePorts (portbindings : List PortBinding) (svcports : List ServicePort) :
    List ServicePort :=
  portbindings.flatMap (fun pb => (svcports.filter (fun sp => pb.name = sp.name)).map
    (fun sp => { servicePort pb with nodePort := sp.nodePort }))

end Ports

section Controller

/-- What the controller asks of the API server. -/
inductive Op
  | getService (name nameSpace : String)
  | createService (svc : Service)
  | updateService (svc : Service)
  | getComputeNode (name nameSpace : String)
  | updateComputeNode (cn : ComputeNode)
  | panic

@[reducible] def OpR : Op → Type
  | .getService _ _ => Except ApiErr Service
  | .createService _ | .updateService _ | .updateComputeNode _ => Option ApiErr
  | .getComputeNode _ _ => Except ApiErr ComputeNode
  | .panic => Empty

abbrev Rec := Proc Op OpR

abbrev Ev := Event Op OpR Empty

def op (c : Op) : Rec (OpR c) := .call c .ret

/-- `BuildService`. -/
def buildService (cn : ComputeNode) : Rec Service :=
  match newService cn with
  | some svc => return svc
  | none => do
    let x ← op .panic
    nomatch x

def createService (cn : ComputeNode) : Rec (Option Err) := do
  let svc ← buildService cn
  match ← op (.createService svc) with
  | none | some (.alreadyExists _) => return none
  | some err => return some err.text

def updateComputeNodePortBindings (cn : ComputeNode) : Rec (Option Err) := do
  match ← op (.getComputeNode cn.objectMeta.name cn.objectMeta.nameSpace) with
  | .error _ => return none
  | .ok rt =>
    match ← op (.updateComputeNode { rt with portBindings := cn.portBindings }) with
    | some err => return some err.text
    | none => return none

/-- The end of `updateService`, once the port bindings are compared. -/
def syncService (cn : ComputeNode) (s : Service) : Rec (Option Err) := do
  let svc ← buildService cn
  let ports := if cn.serviceType = .nodePort then
      updateNodePorts (cn.portBindings.getD []) s.spec.ports
    else svc.spec.ports
  let exp : Service :=
    { svc with
      objectMeta := s.objectMeta
      spec := { svc.spec with
        clusterIP := s.spec.clusterIP
        clusterIPs := s.spec.clusterIPs
        ports := ports } }
  if exp.spec ≠ s.spec then
    match ← op (.updateService exp) with
    | some err => return some err.text
    | none => return none
  else return none

def adjustPortBindings (cn : ComputeNode) (s : Service) : Option (ComputeNode) :=
  match cn.serviceType with
  | .clusterIP => some { cn with portBindings := cn.portBindings.map updateServiceClusterIP }
  | .externalName | .loadBalancer | .nodePort =>
    some { cn with portBindings := cn.portBindings.map (updateServiceNodePort · s.spec.ports) }
  | .unset => none

/-- `pbs` is meant to hold the port bindings as they were, but `copy` copies from it. -/
def updateService (cn : ComputeNode) (s : Service) : Rec (Option Err) :=
  let pbs : Option (List PortBinding) := some []
  match adjustPortBindings cn s with
  | none => syncService cn s
  | some cn =>
    if cn.portBindings ≠ pbs then updateComputeNodePortBindings cn else syncService cn s

def reconcileService (cn : ComputeNode) : Rec (Option Err) := do
  match ← op (.getService cn.objectMeta.name cn.objectMeta.nameSpace) with
  | .ok svc => updateService cn svc
  | .error (.notFound _) => createService cn
  | .error err => return some err.text

end Controller

end ShardingOnCloud.Operator.ComputeNodeService
