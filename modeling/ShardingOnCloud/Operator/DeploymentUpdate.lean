import ShardingOnCloud.Operator.ProxyDeployment
import ShardingOnCloud.Operator.Rds

namespace ShardingOnCloud.Operator.DeploymentUpdate

open ShardingOnCloud.Lib.Strconv
open ShardingOnCloud.Operator.Rds (before)
open ShardingOnCloud.Operator.ComputeNodeTypes ShardingOnCloud.Operator.ProxyTypes
open ShardingOnCloud.Operator.ProxyDeployment

section Image

theorem head?_splitOn (sep : Char) (cs : List Char) :
    (cs.splitOn sep).head? = some (cs.takeWhile (· ≠ sep)) := by
  induction cs with
  | nil => rfl
  | cons c cs ih =>
    rw [List.splitOn_cons_eq_if_modifyHead]
    by_cases hc : c = sep
    · simp [hc]
    · simp [hc, List.head?_modifyHead, ih]

theorem split_imageOf (version : String) :
    (split ':' (imageOf version))[1]? = some (before ':' version) := by
  have hlist : (imageOf version).toList = imageName.toList ++ ':' :: version.toList := by
    simp [imageOf, String.toList_append]
  have hname : imageName.toList.splitOn ':' = [imageName.toList] :=
    List.splitOn_eq_singleton (by decide)
  rw [split, hlist, List.splitOn_append_cons_self, hname, List.singleton_append, List.map_cons,
    List.getElem?_cons_succ, ← List.head?_eq_getElem?, List.head?_map, head?_splitOn]
  rfl

theorem imageOf_injective {v w : String} (h : imageOf v = imageOf w) : v = w :=
  (String.append_right_inj _).mp h

end Image

section Shape

/-- What comes with a driver, besides the container that downloads it. -/
def extraMounts (driver : Option MySQLDriver) : List VolumeMount :=
  (driver.map (fun _ => connectorMount)).toList

def extraVolumes (driver : Option MySQLDriver) : List Volume :=
  (driver.map (fun _ =>
    ({ name := mysqlConnectorJarVolumeMountName, emptyDir := true } : Volume))).toList

def mounted (proxy : ShardingSphereProxy) : Container :=
  { proxyContainer proxy with
    volumeMounts := (proxyContainer proxy).volumeMounts ++ extraMounts proxy.spec.mySQLDriver }

def configVolume (proxy : ShardingSphereProxy) : Volume :=
  { name := "config", configMap := some proxy.spec.proxyConfigName }

def built (proxy : ShardingSphereProxy) : PodSpec where
  containers := [mounted proxy]
  initContainers := (proxy.spec.mySQLDriver.map initContainer).toList
  volumes := configVolume proxy :: extraVolumes proxy.spec.mySQLDriver
  imagePullSecrets := proxy.spec.imagePullSecrets.getD []

theorem processOptionalParameter_podSpec (proxy : ShardingSphereProxy) :
    processOptionalParameter proxy (podSpec proxy) = built proxy := by
  unfold processOptionalParameter built mounted extraMounts extraVolumes
  cases proxy.spec.mySQLDriver with
  | none => rfl
  | some mysql => rfl

/-- The container after an update from `p` to `q`. -/
def updatedContainer (p q : ShardingSphereProxy) : Container :=
  { mounted p with
    image :=
      if before ':' p.spec.version ≠ q.spec.version then imageOf q.spec.version
      else imageOf p.spec.version
    containerPorts := [q.spec.port]
    env := [⟨"PORT", formatInt q.spec.port⟩]
    resources := q.spec.resources
    livenessProbe := setProbe q.spec.livenessProbe p.spec.livenessProbe
    readinessProbe := setProbe q.spec.readinessProbe p.spec.readinessProbe
    startupProbe := setProbe q.spec.startupProbe p.spec.startupProbe }

/-- A container that says its port once, as it is built and as every update leaves it. -/
theorem updatePort_once {c : Container} {port : Int}
    (henv : c.env = [⟨"PORT", formatInt port⟩]) (hports : c.containerPorts = [port])
    (q : ShardingSphereProxy) :
    updatePort q c = some { c with
      containerPorts := [q.spec.port]
      env := [⟨"PORT", formatInt q.spec.port⟩] } := by
  unfold updatePort
  by_cases hport : port = q.spec.port
  · simp [henv, hports, hport]
  · have hne : formatInt port ≠ formatInt q.spec.port := fun h => hport (formatInt_injective h)
    simp [henv, hports, hne, Bind.bind]

theorem updateProxyContainer_mounted (p q : ShardingSphereProxy) :
    updateProxyContainer q (mounted p) = some (updatedContainer p q) := by
  have himage : (mounted p).image = imageOf p.spec.version := rfl
  unfold updateProxyContainer
  rw [himage, split_imageOf, updatePort_once (c := mounted p) rfl rfl]
  rfl

/-- The init containers after the update: a driver is neither added nor taken away. -/
def updatedInits (p q : ShardingSphereProxy) : List Container :=
  match p.spec.mySQLDriver, q.spec.mySQLDriver with
  | none, _ => []
  | some mysql, none => [initContainer mysql]
  | some _, some mysql => [initContainer mysql]

/-- The init container of a driver becomes the one of the driver that the proxy asks for. -/
theorem updateInitContainers_driver {spec : PodSpec} {driver : Option MySQLDriver}
    (q : ShardingSphereProxy) (h : spec.initContainers = (driver.map initContainer).toList) :
    updateInitContainers q spec =
      ((driver.map (fun mysql => q.spec.mySQLDriver.getD mysql)).map initContainer).toList := by
  have henv : ∀ m n : MySQLDriver, updateEnv (initContainer m).env n.version =
      (initContainer n).env := by
    intro m n
    by_cases hv : m.version = n.version <;> simp [updateEnv, initContainer, hv]
  unfold updateInitContainers
  cases hq : q.spec.mySQLDriver with
  | none => simp [h]
  | some mysql =>
    cases driver with
    | none => simp [h, replaceNamed]
    | some m =>
      have hname : (initContainer m).name = downloadMySQLConnectorJarContainerName := rfl
      simp [h, replaceNamed, updateInitContainer, hname, henv]
      rfl

theorem updateInitContainers_built (p q : ShardingSphereProxy) :
    updateInitContainers q (built p) = updatedInits p q := by
  have hinits : (built p).initContainers = (p.spec.mySQLDriver.map initContainer).toList := rfl
  rw [updateInitContainers_driver q hinits, updatedInits]
  cases p.spec.mySQLDriver <;> cases q.spec.mySQLDriver <;> rfl

theorem updatePodTemplateSpec_built (p q : ShardingSphereProxy) (labels : Option Labels) :
    updatePodTemplateSpec q ⟨labels, built p⟩ =
      some ⟨labels,
        { containers := [updatedContainer p q]
          initContainers := updatedInits p q
          volumes := configVolume q :: extraVolumes p.spec.mySQLDriver
          imagePullSecrets := p.spec.imagePullSecrets.getD [] }⟩ := by
  have hname : (mounted p).name = "proxy" := rfl
  have hcontainer : updateSSProxyContainer q (built p) = some (some (updatedContainer p q)) := by
    simp [updateSSProxyContainer, built, hname, updateProxyContainer_mounted]
  have hconfig : updateConfigName q (built p) = some q.spec.proxyConfigName := by
    simp [updateConfigName, built, configVolume]
  have hreplaced : replaceNamed "proxy" (some (updatedContainer p q)) (built p).containers =
      [updatedContainer p q] := by
    simp [replaceNamed, built, hname]
  unfold updatePodTemplateSpec
  simp only [hcontainer, hconfig, hreplaced, updateInitContainers_built, Option.bind_eq_bind,
    Option.bind_some]
  rfl

end Shape

section Compare

theorem setProbe_eq_iff {p q : Option Probe} : setProbe q p = q ↔ (q = none → p = none) := by
  unfold setProbe
  cases q with
  | none => simp
  | some probe =>
    by_cases hp : p = some probe <;> simp [hp]

theorem image_eq_iff {v w : String} :
    (if before ':' v ≠ w then imageOf w else imageOf v) = imageOf w ↔
      v = w ∨ before ':' v ≠ w := by
  split
  · rename_i h
    simp [h]
  · rename_i h
    constructor
    · intro hx
      exact Or.inl (imageOf_injective hx)
    · rintro (rfl | hx)
      · rfl
      · exact absurd hx h

/-- When an update does what building anew does. -/
structure Rebuilds (p q : ShardingSphereProxy) : Prop where
  setBefore : p ≠ {}
  setAfter : q ≠ {}
  version : p.spec.version = q.spec.version ∨ before ':' p.spec.version ≠ q.spec.version
  livenessProbe : q.spec.livenessProbe = none → p.spec.livenessProbe = none
  readinessProbe : q.spec.readinessProbe = none → p.spec.readinessProbe = none
  startupProbe : q.spec.startupProbe = none → p.spec.startupProbe = none
  imagePullSecrets : p.spec.imagePullSecrets.getD [] = q.spec.imagePullSecrets.getD []
  mySQLDriver : p.spec.mySQLDriver.isSome = q.spec.mySQLDriver.isSome

theorem updatedContainer_eq_iff (p q : ShardingSphereProxy) :
    updatedContainer p q = mounted q ↔
      (p.spec.version = q.spec.version ∨ before ':' p.spec.version ≠ q.spec.version) ∧
      extraMounts p.spec.mySQLDriver = extraMounts q.spec.mySQLDriver ∧
      (q.spec.livenessProbe = none → p.spec.livenessProbe = none) ∧
      (q.spec.readinessProbe = none → p.spec.readinessProbe = none) ∧
      (q.spec.startupProbe = none → p.spec.startupProbe = none) := by
  rw [← image_eq_iff, ← setProbe_eq_iff, ← setProbe_eq_iff, ← setProbe_eq_iff]
  simp only [updatedContainer, mounted, proxyContainer, Container.mk.injEq, true_and,
    List.cons_append, List.nil_append, List.cons.injEq]

theorem drivers_eq_iff (p q : ShardingSphereProxy) :
    (extraMounts p.spec.mySQLDriver = extraMounts q.spec.mySQLDriver ∧
      updatedInits p q = (q.spec.mySQLDriver.map initContainer).toList ∧
      extraVolumes p.spec.mySQLDriver = extraVolumes q.spec.mySQLDriver) ↔
    p.spec.mySQLDriver.isSome = q.spec.mySQLDriver.isSome := by
  unfold updatedInits extraMounts extraVolumes
  cases p.spec.mySQLDriver <;> cases q.spec.mySQLDriver <;> simp

/-- The specification that is built, of pods that are built with it. -/
def specOf (proxy : ShardingSphereProxy) (name : String) (pods : PodSpec) : DeploymentSpec where
  replicas := some proxy.spec.replicas
  strategy := strategyOf proxy
  selector := some (Finmap.singleton "apps" name)
  template := ⟨some (Finmap.singleton "apps" name), pods⟩

theorem construct_eq {p : ShardingSphereProxy} (hp : p ≠ {})
    (hs : p.spec.automaticScaling = none) :
    constructCascadingDeployment p =
      ⟨p.name, p.nameSpace, specOf p p.name (built p)⟩ := by
  rw [constructCascadingDeployment, if_neg hp, hs, processOptionalParameter_podSpec]
  rfl

theorem update_construct {p q : ShardingSphereProxy} (hp : p ≠ {})
    (hps : p.spec.automaticScaling = none) (hqs : q.spec.automaticScaling = none) :
    (updateDeployment q (constructCascadingDeployment p)).map Deployment.spec =
      some (specOf q p.name
        { containers := [updatedContainer p q]
          initContainers := updatedInits p q
          volumes := configVolume q :: extraVolumes p.spec.mySQLDriver
          imagePullSecrets := p.spec.imagePullSecrets.getD [] }) := by
  rw [construct_eq hp hps]
  have hreplicas : updateReplicas q ⟨p.name, p.nameSpace, specOf p p.name (built p)⟩ =
      some q.spec.replicas := by
    simp [updateReplicas, specOf]
  have htemplate := updatePodTemplateSpec_built p q (specOf p p.name (built p)).template.labels
  unfold updateDeployment
  simp only [hqs, Option.all_none, if_true, hreplicas, Option.map_some, Option.bind_eq_bind,
    Option.bind_some]
  rw [specOf] at htemplate ⊢
  rw [htemplate]
  rfl

end Compare

/-- Updating a Deployment is building it anew, unless something was taken away or the driver
was added. -/
theorem update_rebuilds_iff {p q : ShardingSphereProxy} (hname : p.name = q.name)
    (hps : p.spec.automaticScaling = none) (hqs : q.spec.automaticScaling = none) :
    (updateDeployment q (constructCascadingDeployment p)).map Deployment.spec =
      some (constructCascadingDeployment q).spec ↔ Rebuilds p q := by
  by_cases hp : p = {}
  · -- there is no number of replicas to compare with
    have hnone : updateDeployment q (constructCascadingDeployment p) = none := by
      rw [hp, constructCascadingDeployment, if_pos rfl]
      simp [updateDeployment, hqs, updateReplicas]
    rw [hnone]
    refine iff_of_false (by simp) (fun h => h.setBefore hp)
  rw [update_construct hp hps hqs, Option.some_inj]
  by_cases hq : q = {}
  · refine iff_of_false (fun h => ?_) (fun h => h.setAfter hq)
    have hreplicas := congrArg DeploymentSpec.replicas h
    rw [hq, constructCascadingDeployment, if_pos rfl] at hreplicas
    cases hreplicas
  rw [construct_eq hq hqs, hname]
  have hpods : specOf q q.name
        { containers := [updatedContainer p q]
          initContainers := updatedInits p q
          volumes := configVolume q :: extraVolumes p.spec.mySQLDriver
          imagePullSecrets := p.spec.imagePullSecrets.getD [] } = specOf q q.name (built q) ↔
      updatedContainer p q = mounted q ∧
      updatedInits p q = (q.spec.mySQLDriver.map initContainer).toList ∧
      extraVolumes p.spec.mySQLDriver = extraVolumes q.spec.mySQLDriver ∧
      p.spec.imagePullSecrets.getD [] = q.spec.imagePullSecrets.getD [] := by
    simp [specOf, built]
  have hdrivers := drivers_eq_iff p q
  rw [hpods, updatedContainer_eq_iff]
  constructor
  · rintro ⟨⟨hv, hm, hl, hr, hs⟩, hi, hvol, hsec⟩
    exact ⟨hp, hq, hv, hl, hr, hs, hsec, hdrivers.mp ⟨hm, hi, hvol⟩⟩
  · intro h
    obtain ⟨hm, hi, hvol⟩ := hdrivers.mpr h.mySQLDriver
    exact ⟨⟨h.version, hm, h.livenessProbe, h.readinessProbe, h.startupProbe⟩, hi, hvol,
      h.imagePullSecrets⟩

def newerProxy : ShardingSphereProxy :=
  { sampleProxy with
    spec := { sampleProxy.spec with
      version := "5.4.0"
      replicas := 3
      port := 3308
      livenessProbe := some { handler := .tcpSocket (.int 3308) "" } } }

theorem newerProxy_rebuilds :
    (updateDeployment newerProxy (constructCascadingDeployment sampleProxy)).map Deployment.spec =
      some (constructCascadingDeployment newerProxy).spec := by
  refine (update_rebuilds_iff (p := sampleProxy) (q := newerProxy) rfl rfl rfl).mpr
    ⟨by decide, by decide, Or.inr (by decide), ?_, ?_, ?_, rfl, rfl⟩
  · intro h
    cases h
  · exact fun _ => rfl
  · exact fun _ => rfl

/-- The probe is dropped from the object, and stays in the Deployment. -/
theorem not_all_rebuild :
    ¬∀ p q : ShardingSphereProxy, p.name = q.name → p.nameSpace = q.nameSpace →
      p.spec.automaticScaling = none → q.spec.automaticScaling = none →
      (updateDeployment q (constructCascadingDeployment p)).map Deployment.spec =
        some (constructCascadingDeployment q).spec := by
  intro h
  have hspec := h newerProxy sampleProxy rfl rfl rfl rfl
  rw [update_construct (by decide) rfl rfl, construct_eq (by decide) rfl] at hspec
  have hprobe := congrArg (fun s => s.map (fun s =>
    s.template.spec.containers.map Container.livenessProbe)) hspec
  revert hprobe
  decide

end ShardingOnCloud.Operator.DeploymentUpdate
