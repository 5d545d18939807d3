import ShardingOnCloud.Operator.ComputeNodeTypes

namespace ShardingOnCloud.Operator.ProxyTypes

open ShardingOnCloud.Operator.ComputeNodeTypes

structure MySQLDriver where
  version : String
  deriving DecidableEq, Repr

structure MetricTarget where
  type : String := ""
  value : Option String := none
  averageValue : Option String := none
  averageUtilization : Option Int := none
  deriving DecidableEq, Repr

structure ResourceMetricSource where
  name : String
  target : MetricTarget
  deriving DecidableEq, Repr

/-- A metric. The sources that the code never sets are kept together. -/
structure MetricSpec where
  type : String
  resource : Option ResourceMetricSource := none
  others : List (String × String) := []
  deriving DecidableEq, Repr

structure AutomaticScaling where
  enable : Bool := false
  scaleUpWindows : Int := 0
  scaleDownWindows : Int := 0
  target : Int := 0
  maxInstance : Int := 0
  minInstance : Int := 0
  customMetrics : List MetricSpec := []
  deriving DecidableEq, Repr

structure ProxyServiceType where
  type : ServiceType := .unset
  nodePort : Int := 0
  deriving DecidableEq, Repr

structure ProxySpec where
  version : String := ""
  serviceType : ProxyServiceType := {}
  replicas : Int := 0
  automaticScaling : Option AutomaticScaling := none
  imagePullSecrets : Option (List String) := none
  proxyConfigName : String := ""
  port : Int := 0
  mySQLDriver : Option MySQLDriver := none
  resources : ResourceRequirements := {}
  livenessProbe : Option Probe := none
  readinessProbe : Option Probe := none
  startupProbe : Option Probe := none
  deriving DecidableEq

/-- The object, with what the code never looks at one by one kept together: the type, the
other metadata and the status. By default every field has the zero value of its type. -/
structure ShardingSphereProxy where
  name : String := ""
  nameSpace : String := ""
  annotations : Option Labels := none
  others : List (String × String) := []
  spec : ProxySpec := {}
  deriving DecidableEq

/-- The annotation at a key, which is empty when there is none. -/
def ShardingSphereProxy.annotation (proxy : ShardingSphereProxy) (k : String) : String :=
  ((proxy.annotations.getD ∅).lookup k).getD ""

def sampleProxy : ShardingSphereProxy where
  name := "proxy"
  nameSpace := "default"
  spec := { version := "5.3.1", replicas := 2, proxyConfigName := "config", port := 3307 }

structure RollingUpdateDeployment where
  maxUnavailable : Option IntOrString := none
  maxSurge : Option IntOrString := none
  deriving DecidableEq, Repr

structure DeploymentStrategy where
  type : String := ""
  rollingUpdate : Option RollingUpdateDeployment := none
  deriving DecidableEq, Repr

structure EnvVar where
  name : String
  value : String
  deriving DecidableEq, Repr

structure VolumeMount where
  name : String
  mountPath : String
  deriving DecidableEq, Repr

structure Container where
  name : String
  image : String
  imagePullPolicy : String := ""
  command : List String := []
  containerPorts : List Int := []
  env : List EnvVar
  volumeMounts : List VolumeMount
  resources : ResourceRequirements := {}
  livenessProbe : Option Probe := none
  readinessProbe : Option Probe := none
  startupProbe : Option Probe := none
  deriving DecidableEq

structure Volume where
  name : String
  configMap : Option String := none
  emptyDir : Bool := false
  deriving DecidableEq, Repr

structure PodSpec where
  containers : List Container := []
  initContainers : List Container := []
  volumes : List Volume := []
  imagePullSecrets : List String := []
  deriving DecidableEq

structure PodTemplateSpec where
  labels : Option Labels := none
  spec : PodSpec := {}
  deriving DecidableEq

structure DeploymentSpec where
  replicas : Option Int := none
  strategy : DeploymentStrategy := {}
  selector : Option Labels := none
  template : PodTemplateSpec := {}
  deriving DecidableEq

structure Deployment where
  name : String := ""
  nameSpace : String := ""
  spec : DeploymentSpec := {}
  deriving DecidableEq

end ShardingOnCloud.Operator.ProxyTypes
