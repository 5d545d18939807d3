import Mathlib.Data.Finmap
import ShardingOnCloud.Operator.StorageNodeTypes

namespace ShardingOnCloud.Operator.ComputeNodeTypes

open ShardingOnCloud.Operator.StorageNodeTypes

/-- The labels of an object, compared as maps. -/
abbrev Labels := Finmap (fun _ : String => String)

inductive ServiceType
  | unset
  | clusterIP
  | nodePort
  | loadBalancer
  | externalName
  deriving DecidableEq, Repr

structure PortBinding where
  name : String
  containerPort : Int
  protocol : String
  hostIP : String := ""
  servicePort : Int
  nodePort : Int := 0
  deriving DecidableEq, Repr

inductive IntOrString
  | int (n : Int)
  | str (s : String)
  deriving DecidableEq, Repr

structure ServicePort where
  name : String
  protocol : String := ""
  appProtocol : Option String := none
  port : Int
  targetPort : IntOrString
  nodePort : Int := 0
  deriving DecidableEq, Repr

/-- The specification of a Service. The fields that only the API server fills in
are kept together. -/
structure ServiceSpec where
  type : ServiceType
  selector : Labels
  ports : List ServicePort
  clusterIP : String := ""
  clusterIPs : List String := []
  defaulted : List (String × String) := []
  deriving DecidableEq

structure ObjectMeta where
  name : String
  nameSpace : String
  labels : Labels
  annotations : Dict

structure Service where
  objectMeta : ObjectMeta
  spec : ServiceSpec
  ingress : List String := []

structure ComputeNodeUser where
  user : String
  password : String

structure ServerConfig where
  users : List ComputeNodeUser
  props : Dict

structure PluginMetrics where
  prometheusPort : Int
  others : List (String × String) := []

/-- The plugins of the agent. The other ones are only rendered, and kept together. -/
structure AgentPlugin where
  metrics : Option PluginMetrics
  others : List (String × String) := []

/-- How a container is asked whether it is up. -/
inductive ProbeHandler
  | unset
  | exec (command : List String)
  | httpGet (path : String) (port : IntOrString) (host scheme : String)
  | tcpSocket (port : IntOrString) (host : String)
  | grpc (port : Int) (service : Option String)
  deriving DecidableEq, Repr

structure Probe where
  handler : ProbeHandler := .unset
  initialDelaySeconds : Int := 0
  timeoutSeconds : Int := 0
  periodSeconds : Int := 0
  successThreshold : Int := 0
  failureThreshold : Int := 0
  terminationGracePeriodSeconds : Option Int := none
  deriving DecidableEq, Repr

/-- The quantities of each resource. A map that is nil is not an empty one. -/
structure ResourceRequirements where
  limits : Option Labels := none
  requests : Option Labels := none
  claims : Option (List String) := none
  deriving DecidableEq

structure ProxyProbe where
  livenessProbe : Option Probe := none
  readinessProbe : Option Probe := none
  startupProbe : Option Probe := none
  deriving DecidableEq, Repr

inductive ConnectorType
  | mySQL
  | postgreSQL
  | other (name : String)
  deriving DecidableEq, Repr

structure StorageNodeConnector where
  type : ConnectorType
  version : String
  deriving DecidableEq, Repr

/-- The types that the controller knows, and any other that a stored status may hold. -/
inductive ConditionType
  | pending
  | deployed
  | initialized
  | started
  | ready
  | unknown
  | failed
  | succeed
  | other (name : String)
  deriving DecidableEq, Repr

inductive ConditionStatus
  | condTrue
  | condFalse
  | condUnknown
  | other (name : String)
  deriving DecidableEq, Repr

structure ComputeNodeCondition where
  type : ConditionType
  status : ConditionStatus
  lastTransitionTime : ℕ
  lastUpdateTime : ℕ
  reason : String
  message : String
  deriving DecidableEq, Repr

inductive ComputeNodePhase
  | unset
  | ready
  | notReady
  deriving DecidableEq, Repr

structure ComputeNodeStatus where
  replicas : Int := 0
  ready : String := ""
  phase : ComputeNodePhase := .unset
  conditions : List ComputeNodeCondition := []
  clusterIP : String := ""
  ingress : List String := []
  selector : String := ""

/-- Port bindings that are nil are not the same as an empty list of them. -/
structure ComputeNode where
  objectMeta : ObjectMeta
  selector : Option Labels
  portBindings : Option (List PortBinding)
  serviceType : ServiceType
  serverConfig : ServerConfig
  agentPlugins : Option AgentPlugin
  storageNodeConnector : Option StorageNodeConnector := none
  serverVersion : String := ""
  replicas : Int := 0
  probes : Option ProxyProbe := none
  resources : ResourceRequirements := {}
  status : ComputeNodeStatus := {}

end ShardingOnCloud.Operator.ComputeNodeTypes
