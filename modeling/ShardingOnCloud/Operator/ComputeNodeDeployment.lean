import ShardingOnCloud.Lib.Slices
import ShardingOnCloud.Operator.ComputeNodeService
import ShardingOnCloud.Operator.ProxyTypes

namespace ShardingOnCloud.Operator.ComputeNodeDeployment

open ShardingOnCloud.Lib.Slices
open ShardingOnCloud.Operator.StorageNodeTypes ShardingOnCloud.Operator.ComputeNodeTypes
open ShardingOnCloud.Operator.ComputeNodeService
open ShardingOnCloud.Operator.ProxyTypes (EnvVar RollingUpdateDeployment)

section Types

structure ContainerPort where
  name : String
  hostIP : String
  containerPort : Int
  protocol : String
  deriving DecidableEq, Repr

structure VolumeMount where
  name : String := ""
  mountPath : String := ""
  subPath : String := ""
  deriving DecidableEq, Repr

structure Container where
  name : String
  image : String
  command : List String := []
  args : List String := []
  ports : List ContainerPort := []
  env : List EnvVar := []
  volumeMounts : List VolumeMount := []
  resources : ResourceRequirements := {}
  livenessProbe : Option Probe := none
  readinessProbe : Option Probe := none
  startupProbe : Option Probe := none
  deriving DecidableEq

structure KeyToPath where
  key : String
  path : String
  deriving DecidableEq, Repr

structure ConfigMapVolumeSource where
  name : String := ""
  items : List KeyToPath := []
  deriving DecidableEq, Repr

structure Volume where
  name : String := ""
  configMap : Option ConfigMapVolumeSource := none
  emptyDir : Bool := false
  deriving DecidableEq, Repr

structure PodSpec where
  containers : List Container := []
  initContainers : List Container := []
  volumes : List Volume := []
  deriving DecidableEq

/-- Metadata with nothing set. -/
def noMeta : ObjectMeta := ⟨"", "", ∅, fun _ => none⟩

structure PodTemplateSpec where
  objectMeta : ObjectMeta := noMeta
  spec : PodSpec := {}

structure Deployment where
  objectMeta : ObjectMeta := noMeta
  selector : Option Labels := none
  replicas : Option Int := none
  rollingUpdate : Option RollingUpdateDeployment := none
  template : PodTemplateSpec := {}

end Types

section Volumes

structure SharedVolume where
  volume : Volume := {}
  volumeMounts : List VolumeMount := []

namespace SharedVolume

def setVolumeMountSize (b : SharedVolume) (size : ℕ) : SharedVolume :=
  { b with
    volumeMounts := b.volumeMounts ++ List.replicate (size - b.volumeMounts.length) {} }

def setName (b : SharedVolume) (name : String) : SharedVolume where
  volume := { b.volume with name := name }
  volumeMounts := b.volumeMounts.map (fun vm => { vm with name := name })

def setMountPath (b : SharedVolume) (idx : ℕ) (path : String) : SharedVolume :=
  { b with volumeMounts := b.volumeMounts.modify idx (fun vm => { vm with mountPath := path }) }

def setSubPath (b : SharedVolume) (idx : ℕ) (subpath : String) : SharedVolume :=
  { b with volumeMounts := b.volumeMounts.modify idx (fun vm => { vm with subPath := subpath }) }

def setVolumeSourceEmptyDir (b : SharedVolume) : SharedVolume :=
  { b with volume := { b.volume with emptyDir := true } }

def setVolumeSourceConfigMap (b : SharedVolume) (name : String) (kps : List KeyToPath) :
    SharedVolume :=
  let configMap := b.volume.configMap.getD {}
  { b with volume := { b.volume with
      configMap := some
        { configMap with name := name, items := if kps.length > 0 then kps else configMap.items } } }

end SharedVolume

end Volumes

section Containers

def defaultImageName : String := "apache/shardingsphere-proxy"
def defaultContainerName : String := "shardingsphere-proxy"
def defaultConfigVolumeName : String := "shardingsphere-proxy-config"
def defaultConfigVolumeMountPath : String := "/opt/shardingsphere-proxy/conf"
def defaultExtlibPath : String := "/opt/shardingsphere-proxy/ext-lib"
def defaultMySQLDriverEnvName : String := "MYSQL_CONNECTOR_VERSION"
def defaultMySQLDriverVolumeName : String := "mysql-connector-java"
def defaultJavaAgentVolumeName : String := "java-agent-bin"
def defaultJavaAgentVolumeMountPath : String := "/opt/shardingsphere-proxy/agent"
def defaultJavaAgentConfigVolumeName : String := "java-agent-config"
def defaultJavaAgentConfigVolumeMountPath : String := "/opt/shardingsphere-proxy/agent/conf"
def defaultJavaToolOptionsName : String := "JAVA_TOOL_OPTIONS"
def defaultAgentBinVersionEnvName : String := "AGENT_BIN_VERSION"
def configDataKeyForAgent : String := "agent.yaml"

/-- The value of `defaultJavaAgentEnvValue` for a version. -/
def javaAgentEnvValue (version : String) : String :=
  "-javaagent:/opt/shardingsphere-proxy/agent/shardingsphere-agent-" ++ version ++ ".jar"

def relativeMySQLDriverMountName (v : String) : String := "mysql-connector-java-" ++ v ++ ".jar"

def absoluteMySQLDriverMountName (p v : String) : String :=
  p ++ "/" ++ relativeMySQLDriverMountName v

def downloadMysqlJarScript : String :=
  "wget https://repo1.maven.org/maven2/mysql/mysql-connector-java/" ++
    "$\x7bMYSQL_CONNECTOR_VERSION\x7d/mysql-connector-java-$\x7bMYSQL_CONNECTOR_VERSION\x7d.jar;\n" ++
  " wget https://repo1.maven.org/maven2/mysql/mysql-connector-java/" ++
    "$\x7bMYSQL_CONNECTOR_VERSION\x7d/" ++
    "mysql-connector-java-$\x7bMYSQL_CONNECTOR_VERSION\x7d.jar.md5;\n" ++
  " if [ $(md5sum /mysql-connector-java-$\x7bMYSQL_CONNECTOR_VERSION\x7d.jar | " ++
    "cut -d ' ' -f1) = " ++
    "$(cat /mysql-connector-java-$\x7bMYSQL_CONNECTOR_VERSION\x7d.jar.md5) ];\n" ++
  " then echo success;\n" ++
  " else echo failed;exit 1;fi;" ++
    "mv /mysql-connector-java-$\x7bMYSQL_CONNECTOR_VERSION\x7d.jar " ++
    "/opt/shardingsphere-proxy/ext-lib"

def downloadAgentJarScript : String :=
  "wget https://archive.apache.org/dist/shardingsphere/$\x7bAGENT_BIN_VERSION\x7d/" ++
    "apache-shardingsphere-$\x7bAGENT_BIN_VERSION\x7d-shardingsphere-agent-bin.tar.gz;\n" ++
  " tar -zxvf " ++
    "apache-shardingsphere-$\x7bAGENT_BIN_VERSION\x7d-shardingsphere-agent-bin.tar.gz " ++
    "-C /opt/shardingsphere-proxy/agent --strip-component 1;"

def replaceStartScript : String :=
  "sed -i 's#exec \\$JAVA \\$\x7bJAVA_OPTS\x7d \\$\x7bJAVA_MEM_OPTS\x7d " ++
    "-classpath \\$\x7bCLASS_PATH\x7d \\$\x7bMAIN_CLASS\x7d#" ++
    "exec \\$JAVA \\$\x7bJAVA_OPTS\x7d \\$\x7bJAVA_MEM_OPTS\x7d " ++
    "-classpath \\$\x7bCLASS_PATH\x7d \\$\x7bAGENT_PARAM\x7d \\$\x7bMAIN_CLASS\x7d#g' " ++
    "/opt/shardingsphere-proxy/bin/start.sh;\n" ++
  "\tcp /opt/shardingsphere-proxy/bin/start.sh /opt/shardingsphere-proxy/tmpbin/start.sh;"

/-- The container that a builder starts from, with the name that the builder sets first. -/
def defaultContainer (name : String) : Container where
  name := name
  image := "busybox:1.35.0"

def bootstrapContainer (name image script : String) : Container :=
  { defaultContainer name with image := image, command := ["/bin/sh", "-c", script] }

def mysqlJarContainer : Container :=
  bootstrapContainer "download-mysql-jar" "busybox:1.36" downloadMysqlJarScript

def agentBinContainer : Container :=
  bootstrapContainer "download-agent-bin-jar" "busybox:1.36" downloadAgentJarScript

def startScriptsContainer : Container :=
  bootstrapContainer "replace-start-script" (defaultImageName ++ ":" ++ "5.3.2") replaceStartScript

def getContainerPortsFromComputeNode (cn : ComputeNode) : List ContainerPort :=
  (cn.portBindings.getD []).map (fun pb =>
    ⟨pb.name, pb.hostIP, pb.containerPort, pb.protocol⟩)

def buildProbes (cn : ComputeNode) (c : Container) : Container :=
  match cn.probes with
  | none => c
  | some probes =>
    { c with
      livenessProbe := probes.livenessProbe.or c.livenessProbe
      readinessProbe := probes.readinessProbe.or c.readinessProbe
      startupProbe := probes.startupProbe.or c.startupProbe }

end Containers

section Versions

/-- What the code asks of the library for versions. -/
structure Semver where
  isValid : String → Bool
  compare : String → String → Int

def supportedShardingSphereVersion : List String := ["5.3.0", "5.3.1", "5.3.2", "5.4.0", "5.4.1"]

def patchHeadingV (version : String) : String := "v" ++ version

variable (semver : Semver)

def isSupportedShardingSphereVersion (v : String) : Bool :=
  semver.isValid (patchHeadingV v) && supportedShardingSphereVersion.contains v

def versionBetween (version left right : String) : Bool :=
  isSupportedShardingSphereVersion semver version &&
    isSupportedShardingSphereVersion semver left &&
    isSupportedShardingSphereVersion semver right &&
    0 ≤ semver.compare (patchHeadingV version) (patchHeadingV left) &&
    semver.compare (patchHeadingV version) (patchHeadingV right) ≤ 0

def versionGreaterAndEqualThan (version target : String) : Bool :=
  isSupportedShardingSphereVersion semver target &&
    isSupportedShardingSphereVersion semver version &&
    0 ≤ semver.compare (patchHeadingV version) (patchHeadingV target)

def versionExactEqualTo (version target : String) : Bool :=
  isSupportedShardingSphereVersion semver target &&
    isSupportedShardingSphereVersion semver version &&
    semver.compare (patchHeadingV version) (patchHeadingV target) = 0

end Versions

section Builder

/-- The builder of a Deployment. The containers are in two slices, and the builders of containers
are pointers: into one of the slices, or to a container of their own. -/
structure Builder where
  memory : Memory Container := ⟨[[], []]⟩
  containers : ℕ := 0
  initContainers : ℕ := 1
  volumes : List Volume := []
  deployment : Deployment := {}

namespace Builder

variable (room : ℕ → Bool) (b : Builder)

/-- `NewContainerBuilder`, with what is set before the builder is returned. -/
def newContainer (c : Container) : Ptr × Builder :=
  let new := b.memory.alloc [c]
  (⟨new.1, 0⟩, { b with memory := new.2 })

def modify (p : Ptr) (f : Container → Container) : Builder :=
  { b with memory := b.memory.update p f }

def appendEnv (p : Ptr) (envs : List EnvVar) : Builder :=
  b.modify p (fun c => { c with env := c.env ++ envs })

def setArgs (p : Ptr) (args : List String) : Builder := b.modify p (fun c => { c with args := args })

def appendVolumeMounts (p : Ptr) (mounts : List VolumeMount) : Builder :=
  b.modify p (fun c => { c with volumeMounts := c.volumeMounts ++ mounts })

def appendVolumes (vs : List Volume) : Builder := { b with volumes := b.volumes ++ vs }

/-- Where the first container of the name is, in a slice. -/
def findByName (slice : ℕ) (name : String) : Option Ptr :=
  ((b.memory.elements slice).findIdx? (·.name = name)).map (Ptr.mk slice)

def findContainerByName (name : String) : Option Ptr := b.findByName b.containers name

def findInitContainerByName (name : String) : Option Ptr := b.findByName b.initContainers name

/-- A container is copied over the first one of its name, or appended. Whether an array has room
for more is up to the runtime. -/
def updateByName (slice : ℕ) (c : Container) : ℕ × Memory Container :=
  match b.findByName slice c.name with
  | some p => (slice, b.memory.update p (fun _ => c))
  | none => b.memory.append (room (b.memory.elements slice).length) slice [c]

def updateContainerByName (p : Ptr) : Option Builder := do
  let c ← b.memory.load p
  let updated := b.updateByName room b.containers c
  return { b with containers := updated.1, memory := updated.2 }

def updateInitContainerByName (p : Ptr) : Option Builder := do
  let c ← b.memory.load p
  let updated := b.updateByName room b.initContainers c
  return { b with initContainers := updated.1, memory := updated.2 }

def appendContainers (cs : List Container) : Builder :=
  let appended :=
    b.memory.append (room (b.memory.elements b.containers).length) b.containers cs
  { b with containers := appended.1, memory := appended.2 }

/-- The builder of the init container of the name, or a new one for the container that is given. -/
def findOrNewInitContainer (c : Container) : Ptr × Builder :=
  match b.findInitContainerByName c.name with
  | some p => (p, b)
  | none => b.newContainer c

def buildPodSpec : PodSpec where
  containers := b.memory.elements b.containers
  initContainers := b.memory.elements b.initContainers
  volumes := b.volumes

def setTemplateAnnotations (annotations : Dict) : Builder :=
  { b with deployment := { b.deployment with
      template := { b.deployment.template with
        objectMeta := { b.deployment.template.objectMeta with annotations := annotations } } } }

def setPodTemplateSpec (tpl : PodTemplateSpec) : Builder :=
  { b with deployment := { b.deployment with template := tpl } }

end Builder

end Builder

section Features

def configVolume (cn : ComputeNode) : SharedVolume :=
  ((({} : SharedVolume).setVolumeMountSize 1).setName defaultConfigVolumeName
    |>.setVolumeSourceConfigMap cn.objectMeta.name []).setMountPath 0 defaultConfigVolumeMountPath

def agentConfigVolume (cn : ComputeNode) : SharedVolume :=
  ((({} : SharedVolume).setVolumeMountSize 1).setName defaultJavaAgentConfigVolumeName
    |>.setVolumeSourceConfigMap cn.objectMeta.name
      [⟨configDataKeyForAgent, configDataKeyForAgent⟩]).setMountPath 0
        defaultJavaAgentConfigVolumeMountPath

def agentVolume : SharedVolume :=
  ((({} : SharedVolume).setVolumeMountSize 1).setName defaultJavaAgentVolumeName
    |>.setVolumeSourceEmptyDir).setMountPath 0 defaultJavaAgentVolumeMountPath

def scriptVolume : SharedVolume :=
  ((({} : SharedVolume).setVolumeMountSize 1).setName "replace-start-script"
    |>.setVolumeSourceEmptyDir).setMountPath 0 "/opt/shardingsphere-proxy/bin"

def mysqlVolume (version : String) : SharedVolume :=
  ((({} : SharedVolume).setVolumeMountSize 2).setName defaultMySQLDriverVolumeName
    |>.setVolumeSourceEmptyDir |>.setMountPath 0 defaultExtlibPath
    |>.setMountPath 1 (absoluteMySQLDriverMountName defaultExtlibPath version)).setSubPath 1
      (relativeMySQLDriverMountName version)

variable (room : ℕ → Bool) (semver : Semver) (cn : ComputeNode)

/-- `SetMySQLConnector`. A method of a builder that was not found panics. -/
def setMySQLConnector (version : String) (d : Builder) : Option Builder := do
  let proxy ← d.findContainerByName "shardingsphere-proxy"
  let d := d.appendEnv proxy [⟨defaultMySQLDriverEnvName, version⟩]
  let found := d.findOrNewInitContainer mysqlJarContainer
  let cb := found.1
  let d := found.2.appendEnv cb [⟨defaultMySQLDriverEnvName, version⟩]
  let vms := (mysqlVolume version).volumeMounts
  let d := d.appendVolumeMounts cb [← vms[0]?]
  let d := d.appendVolumeMounts proxy [← vms[1]?]
  let d ← d.updateContainerByName room proxy
  let d ← d.updateInitContainerByName room cb
  return d.appendVolumes [(mysqlVolume version).volume]

/-- `SetAgentScript`. The mount of the init container is the same one with another path. -/
def setAgentScript (d : Builder) : Option Builder := do
  let proxy ← d.findContainerByName "shardingsphere-proxy"
  let d := d.appendVolumes [scriptVolume.volume]
  let vm ← scriptVolume.volumeMounts[0]?
  let d := d.appendVolumeMounts proxy [vm]
  let vm := { vm with mountPath := "/opt/shardingsphere-proxy/tmpbin" }
  let found := d.findOrNewInitContainer startScriptsContainer
  let cb := found.1
  let d := found.2.appendVolumeMounts cb [vm]
  d.updateInitContainerByName room cb

def startAgent (proxy : Ptr) (d : Builder) : Builder :=
  if versionBetween semver cn.serverVersion "5.3.0" "5.4.0" then
    d.appendEnv proxy [⟨defaultJavaToolOptionsName, javaAgentEnvValue cn.serverVersion⟩]
  else if versionGreaterAndEqualThan semver cn.serverVersion "5.4.0" then d.setArgs proxy ["-g"]
  else d

/-- `SetAgentBin`. The builder of the proxy is used again after `SetAgentScript` has found the same
container. -/
def setAgentBin (d : Builder) : Option Builder := do
  let d := d.setTemplateAnnotations (metricsAnnos cn.objectMeta.annotations)
  let proxy ← d.findContainerByName "shardingsphere-proxy"
  let d := startAgent semver cn proxy d
  let vmc ← (agentConfigVolume cn).volumeMounts[0]?
  let vma ← agentVolume.volumeMounts[0]?
  let d := d.appendVolumes [(agentConfigVolume cn).volume, agentVolume.volume]
  let found := d.findOrNewInitContainer agentBinContainer
  let cb := found.1
  let d := found.2.appendVolumeMounts cb [vma]
  let d := d.appendEnv cb [⟨defaultAgentBinVersionEnvName, cn.serverVersion⟩]
  let d ← d.updateInitContainerByName room cb
  let d := d.appendVolumeMounts proxy [vmc, vma]
  let d ← (if versionExactEqualTo semver cn.serverVersion "5.3.2" then setAgentScript room d
    else some d)
  d.updateContainerByName room proxy

def proxyContainer : Container :=
  buildProbes cn
    { defaultContainer defaultContainerName with
      image := defaultImageName ++ ":" ++ cn.serverVersion
      ports := getContainerPortsFromComputeNode cn
      resources := cn.resources }

def setConnector (d : Builder) : Option Builder :=
  match cn.storageNodeConnector with
  | some connector =>
    if connector.type = .mySQL then setMySQLConnector room connector.version d else some d
  | none => some d

/-- `buildSpec`. The template that is set at the end has metadata of its own. -/
def buildSpec (b : Builder) : Option Builder := do
  let b := { b with deployment := { b.deployment with
    selector := cn.selector
    replicas := some cn.replicas
    rollingUpdate := some { maxUnavailable := some (.int 0), maxSurge := some (.int 3) } } }
  let new := b.newContainer (proxyContainer cn)
  let scb := new.1
  let b := new.2.appendVolumes [(configVolume cn).volume]
  let b := b.appendVolumeMounts scb [← (configVolume cn).volumeMounts[0]?]
  let b := b.appendContainers room [← b.memory.load scb]
  let b ← (if agentEnabled cn then setAgentBin room semver cn b else some b)
  let b ← setConnector room cn b
  let tpl : PodTemplateSpec :=
    { objectMeta := { noMeta with labels := cn.objectMeta.labels }, spec := b.buildPodSpec }
  return b.setPodTemplateSpec tpl

/-- `BuildDeployment`, with no result where it panics. -/
def buildDeployment : Option Deployment := do
  let b ← buildSpec room semver cn {}
  return { b.deployment with objectMeta := cn.objectMeta }

end Features

end ShardingOnCloud.Operator.ComputeNodeDeployment
