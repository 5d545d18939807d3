import ShardingOnCloud.Lib.Strconv
import ShardingOnCloud.Operator.ProxyTypes

namespace ShardingOnCloud.Operator.ProxyDeployment

open ShardingOnCloud.Lib.Strconv
open ShardingOnCloud.Operator.ComputeNodeTypes ShardingOnCloud.Operator.ProxyTypes

def imageName : String := "apache/shardingsphere-proxy"

def annoRollingUpdateMaxSurge : String :=
  "shardingsphereproxy.shardingsphere.org/rolling-update-max-surge"
def annoRollingUpdateMaxUnavailable : String :=
  "shardingsphereproxy.shardingsphere.org/rolling-update-max-unavailable"
def mysqlConnectorJarVolumeMountName : String := "mysql-connector-jar"
def downloadMySQLConnectorJarContainerName : String := "download-mysql-connect"

def imageOf (version : String) : String := imageName ++ ":" ++ version

/-- The number in an annotation. What `Atoi` returns with an error is used as well. -/
def annotationNumber (proxy : ShardingSphereProxy) (anno : String) (default : Int) : IntOrString :=
  if proxy.annotation anno ≠ "" then .int (int32 (atoi (proxy.annotation anno)).1)
  else .int default

/-- The strategy, which both functions set from the annotations. -/
def strategyOf (proxy : ShardingSphereProxy) : DeploymentStrategy where
  type := "RollingUpdate"
  rollingUpdate := some
    { maxUnavailable := some (annotationNumber proxy annoRollingUpdateMaxUnavailable 0)
      maxSurge := some (annotationNumber proxy annoRollingUpdateMaxSurge 1) }

section Construct

def script : String :=
  "wget https://repo1.maven.org/maven2/mysql/mysql-connector-java/$\x7bVERSION\x7d/" ++
    "mysql-connector-java-$\x7bVERSION\x7d.jar;\n" ++
  "wget https://repo1.maven.org/maven2/mysql/mysql-connector-java/$\x7bVERSION\x7d/" ++
    "mysql-connector-java-$\x7bVERSION\x7d.jar.md5;\n" ++
  "if [ $(md5sum /mysql-connector-java-$\x7bVERSION\x7d.jar | cut -d ' ' -f1) = " ++
    "$(cat /mysql-connector-java-$\x7bVERSION\x7d.jar.md5) ];\n" ++
  "then echo success;\n" ++
  "else echo failed;exit 1;fi;" ++
    "mv /mysql-connector-java-$\x7bVERSION\x7d.jar /opt/shardingsphere-proxy/ext-lib"

def connectorMount : VolumeMount :=
  ⟨mysqlConnectorJarVolumeMountName, "/opt/shardingsphere-proxy/ext-lib"⟩

def initContainer (mysql : MySQLDriver) : Container where
  name := downloadMySQLConnectorJarContainerName
  image := "busybox:1.35.0"
  command := ["/bin/sh", "-c", script]
  env := [⟨"VERSION", mysql.version⟩]
  volumeMounts := [connectorMount]

/-- The mount goes to the first container, which is always there. -/
def addInitContainer (spec : PodSpec) (mysql : MySQLDriver) : PodSpec :=
  let spec := if spec.initContainers.length = 0 then
      { spec with
        containers := spec.containers.modifyHead
          (fun c => { c with volumeMounts := c.volumeMounts ++ [connectorMount] })
        volumes := spec.volumes ++ [{ name := mysqlConnectorJarVolumeMountName, emptyDir := true }] }
    else spec
  { spec with initContainers := [initContainer mysql] }

def processOptionalParameter (proxy : ShardingSphereProxy) (spec : PodSpec) : PodSpec :=
  match proxy.spec.mySQLDriver with
  | some mysql => addInitContainer spec mysql
  | none => spec

def proxyContainer (proxy : ShardingSphereProxy) : Container where
  name := "proxy"
  image := imageOf proxy.spec.version
  imagePullPolicy := "IfNotPresent"
  containerPorts := [proxy.spec.port]
  env := [⟨"PORT", formatInt proxy.spec.port⟩]
  volumeMounts := [⟨"config", "/opt/shardingsphere-proxy/conf"⟩]
  resources := proxy.spec.resources
  livenessProbe := proxy.spec.livenessProbe
  readinessProbe := proxy.spec.readinessProbe
  startupProbe := proxy.spec.startupProbe

def podSpec (proxy : ShardingSphereProxy) : PodSpec where
  containers := [proxyContainer proxy]
  volumes := [{ name := "config", configMap := some proxy.spec.proxyConfigName }]
  imagePullSecrets := proxy.spec.imagePullSecrets.getD []

/-- An object without anything set gives a Deployment without anything set. -/
def constructCascadingDeployment (proxy : ShardingSphereProxy) : Deployment :=
  if proxy = {} then {}
  else
    { name := proxy.name
      nameSpace := proxy.nameSpace
      spec :=
        { replicas := if proxy.spec.automaticScaling.isNone then some proxy.spec.replicas else none
          strategy := strategyOf proxy
          selector := some (Finmap.singleton "apps" proxy.name)
          template :=
            { labels := some (Finmap.singleton "apps" proxy.name)
              spec := processOptionalParameter proxy (podSpec proxy) } } }

end Construct

section Update

def split (sep : Char) (s : String) : List String := (s.toList.splitOn sep).map String.ofList

def updateReplicas (proxy : ShardingSphereProxy) (act : Deployment) : Option Int := do
  let replicas ← act.spec.replicas
  return if replicas ≠ proxy.spec.replicas then proxy.spec.replicas else replicas

/-- A probe is never taken away. -/
def setProbe (proxy act : Option Probe) : Option Probe :=
  if proxy.isSome ∧ act ≠ proxy then proxy else act

/-- The loop over the environment of a container: the port is only changed where the
variable is, and then in the first of the ports. -/
def updatePort (proxy : ShardingSphereProxy) (act : Container) : Option Container := do
  let proxyPort := formatInt proxy.spec.port
  let env := act.env.map (fun e => if e.name = "PORT" then { e with value := proxyPort } else e)
  if act.env.any (fun e => e.name = "PORT" ∧ e.value ≠ proxyPort) then
    let _ ← act.containerPorts.head?
    return { act with containerPorts := proxy.spec.port :: act.containerPorts.tail, env := env }
  else return { act with env := env }

def updateProxyContainer (proxy : ShardingSphereProxy) (act : Container) : Option Container := do
  let tag ← (split ':' act.image)[1]?
  let exp ← updatePort proxy act
  return { exp with
    image := if tag ≠ proxy.spec.version then imageOf proxy.spec.version else act.image
    resources := proxy.spec.resources
    livenessProbe := setProbe proxy.spec.livenessProbe act.livenessProbe
    readinessProbe := setProbe proxy.spec.readinessProbe act.readinessProbe
    startupProbe := setProbe proxy.spec.startupProbe act.startupProbe }

def updateSSProxyContainer (proxy : ShardingSphereProxy) (act : PodSpec) :
    Option (Option Container) := do
  let updated ← (act.containers.filter (·.name = "proxy")).mapM (updateProxyContainer proxy)
  return updated.getLast?

def updateEnv (envs : List EnvVar) (version : String) : List EnvVar :=
  envs.map (fun e => if e.name = "VERSION" ∧ e.value ≠ version then { e with value := version } else e)

def updateInitContainer (mysql : MySQLDriver) (act : PodSpec) : Option Container :=
  ((act.initContainers.filter (·.name = downloadMySQLConnectorJarContainerName)).map
    (fun c => { c with env := updateEnv c.env mysql.version })).getLast?

def updateConfigName (proxy : ShardingSphereProxy) (act : PodSpec) : Option String := do
  let volume ← act.volumes.head?
  let name ← volume.configMap
  return if name ≠ proxy.spec.proxyConfigName then proxy.spec.proxyConfigName else name

def replaceNamed (name : String) (new : Option Container) (cs : List Container) :
    List Container := cs.map (fun c => if c.name = name then new.getD c else c)

/-- Without a driver nothing is done about the container that downloads it. -/
def updateInitContainers (proxy : ShardingSphereProxy) (act : PodSpec) : List Container :=
  match proxy.spec.mySQLDriver with
  | some mysql => replaceNamed downloadMySQLConnectorJarContainerName
      (updateInitContainer mysql act) act.initContainers
  | none => act.initContainers

def updatePodTemplateSpec (proxy : ShardingSphereProxy) (act : PodTemplateSpec) :
    Option PodTemplateSpec := do
  let ssProxyContainer ← updateSSProxyContainer proxy act.spec
  let configName ← updateConfigName proxy act.spec
  return { act with
    spec := { act.spec with
      containers := replaceNamed "proxy" ssProxyContainer act.spec.containers
      initContainers := updateInitContainers proxy act.spec
      volumes := act.spec.volumes.modifyHead (fun v => { v with configMap := some configName }) } }

/-- `UpdateDeployment`, with no result where it panics. -/
def updateDeployment (proxy : ShardingSphereProxy) (act : Deployment) : Option Deployment := do
  let replicas ←
    if proxy.spec.automaticScaling.all (!·.enable) then (updateReplicas proxy act).map some
    else some act.spec.replicas
  let template ← updatePodTemplateSpec proxy act.spec.template
  return { act with
    spec := { act.spec with
      strategy := strategyOf proxy
      replicas := replicas
      template := template } }

end Update

end ShardingOnCloud.Operator.ProxyDeployment
