import ShardingOnCloud.Operator.DeploymentUpdate
import ShardingOnCloud.Operator.ProxyController

namespace ShardingOnCloud.Operator.DeploymentIdempotence

open ShardingOnCloud.Lib.Footprint ShardingOnCloud.Lib.Strconv
open ShardingOnCloud.Operator.Rds (before)
open ShardingOnCloud.Operator.ComputeNodeTypes (Probe)
open ShardingOnCloud.Operator.ProxyTypes ShardingOnCloud.Operator.ProxyDeployment
open ShardingOnCloud.Operator.DeploymentUpdate
open ShardingOnCloud.Operator.ProxyReadiness (ProxyStatus)
open ShardingOnCloud.Operator.ProxyController (State serve reconcileDeployment
  reconcileDeployment_present)

section Parts

/-- What an update can rely on: the one container says its port and its version once, the driver
is downloaded by at most one other container, and the first volume is the configuration. -/
structure Parts (d : Deployment) where
  container : Container
  version : String
  port : Int
  driver : Option MySQLDriver
  volume : Volume
  volumes : List Volume
  containers_eq : d.spec.template.spec.containers = [container]
  name_eq : container.name = "proxy"
  image_eq : container.image = imageOf version
  ports_eq : container.containerPorts = [port]
  env_eq : container.env = [⟨"PORT", formatInt port⟩]
  inits_eq : d.spec.template.spec.initContainers = (driver.map initContainer).toList
  volumes_eq : d.spec.template.spec.volumes = volume :: volumes
  config_set : volume.configMap.isSome

variable {d : Deployment} (q : ShardingSphereProxy)

def renewedVersion (version : String) : String :=
  if before ':' version ≠ q.spec.version then q.spec.version else version

def renewedContainer (version : String) (c : Container) : Container :=
  { c with
    image := imageOf (renewedVersion q version)
    containerPorts := [q.spec.port]
    env := [⟨"PORT", formatInt q.spec.port⟩]
    resources := q.spec.resources
    livenessProbe := setProbe q.spec.livenessProbe c.livenessProbe
    readinessProbe := setProbe q.spec.readinessProbe c.readinessProbe
    startupProbe := setProbe q.spec.startupProbe c.startupProbe }

def renewedDriver (driver : Option MySQLDriver) : Option MySQLDriver :=
  driver.map (fun mysql => q.spec.mySQLDriver.getD mysql)

def unscaled (proxy : ShardingSphereProxy) : Bool := proxy.spec.automaticScaling.all (!·.enable)

def Parts.renew (parts : Parts d) : Deployment :=
  { d with
    spec := { d.spec with
      strategy := strategyOf q
      replicas := if unscaled q then some q.spec.replicas else d.spec.replicas
      template := { d.spec.template with
        spec := { d.spec.template.spec with
          containers := [renewedContainer q parts.version parts.container]
          initContainers := ((renewedDriver q parts.driver).map initContainer).toList
          volumes :=
            { parts.volume with configMap := some q.spec.proxyConfigName } :: parts.volumes } } } }

theorem Parts.updateSSProxyContainer_eq (parts : Parts d) :
    updateSSProxyContainer q d.spec.template.spec =
      some (some (renewedContainer q parts.version parts.container)) := by
  have hupdate : updateProxyContainer q parts.container =
      some (renewedContainer q parts.version parts.container) := by
    unfold updateProxyContainer
    rw [parts.image_eq, split_imageOf, updatePort_once parts.env_eq parts.ports_eq]
    simp only [Option.bind_eq_bind, Option.bind_some, renewedContainer, renewedVersion,
      apply_ite imageOf]
    rfl
  simp [updateSSProxyContainer, parts.containers_eq, parts.name_eq, hupdate]

theorem update_eq (parts : Parts d) (h : d.spec.replicas.isSome ∨ unscaled q = false) :
    updateDeployment q d = some (parts.renew q) := by
  have hconfig : updateConfigName q d.spec.template.spec = some q.spec.proxyConfigName := by
    obtain ⟨config, hc⟩ := Option.isSome_iff_exists.mp parts.config_set
    simp [updateConfigName, parts.volumes_eq, hc]
  have htemplate : updatePodTemplateSpec q d.spec.template =
      some (parts.renew q).spec.template := by
    unfold updatePodTemplateSpec
    simp only [parts.updateSSProxyContainer_eq q, hconfig, Option.bind_eq_bind, Option.bind_some,
      updateInitContainers_driver q parts.inits_eq, parts.containers_eq, parts.volumes_eq,
      replaceNamed, List.map_cons, List.map_nil, parts.name_eq, if_true, Option.getD_some,
      List.modifyHead_cons]
    rfl
  have hrenew : ∀ replicas, (if unscaled q then some q.spec.replicas else d.spec.replicas) =
      replicas → parts.renew q = { d with
        spec := { d.spec with
          strategy := strategyOf q
          replicas := replicas
          template := (parts.renew q).spec.template } } := by
    rintro replicas rfl
    rfl
  unfold updateDeployment
  cases hu : unscaled q with
  | true =>
    obtain ⟨n, hn⟩ := Option.isSome_iff_exists.mp (h.resolve_right (by simp [hu]))
    rw [hrenew (some q.spec.replicas) (if_pos hu)]
    rw [unscaled] at hu
    simp [hu, updateReplicas, hn, htemplate]
  | false =>
    rw [hrenew d.spec.replicas (if_neg (by simp [hu]))]
    rw [unscaled] at hu
    simp [hu, htemplate]

theorem update_none (h : d.spec.replicas = none) (hu : unscaled q = true) :
    updateDeployment q d = none := by
  rw [unscaled] at hu
  simp [updateDeployment, hu, updateReplicas, h]

end Parts

section Again

variable {d : Deployment} (q : ShardingSphereProxy)

/-- An update leaves what the next one can rely on. -/
def Parts.renewed (parts : Parts d) : Parts (parts.renew q) where
  container := renewedContainer q parts.version parts.container
  version := renewedVersion q parts.version
  port := q.spec.port
  driver := renewedDriver q parts.driver
  volume := { parts.volume with configMap := some q.spec.proxyConfigName }
  volumes := parts.volumes
  containers_eq := rfl
  name_eq := parts.name_eq
  image_eq := rfl
  ports_eq := rfl
  env_eq := rfl
  inits_eq := rfl
  volumes_eq := rfl
  config_set := rfl

theorem setProbe_again (p act : Option Probe) : setProbe p (setProbe p act) = setProbe p act := by
  unfold setProbe
  split <;> simp_all

theorem renewedVersion_again (version : String) :
    renewedVersion q (renewedVersion q version) = renewedVersion q version := by
  by_cases h : before ':' version = q.spec.version
  · simp [renewedVersion, h]
  · simp [renewedVersion, h]

theorem renewedDriver_again (driver : Option MySQLDriver) :
    renewedDriver q (renewedDriver q driver) = renewedDriver q driver := by
  unfold renewedDriver
  cases driver with
  | none => rfl
  | some m => cases q.spec.mySQLDriver <;> rfl

theorem renewedContainer_again (version : String) (c : Container) :
    renewedContainer q (renewedVersion q version) (renewedContainer q version c) =
      renewedContainer q version c := by
  simp only [renewedContainer, renewedVersion_again, setProbe_again]

theorem Parts.renew_again (parts : Parts d) : (parts.renewed q).renew q = parts.renew q := by
  have hcontainer := renewedContainer_again q parts.version parts.container
  have hdriver := renewedDriver_again q parts.driver
  simp only [Parts.renew, Parts.renewed, hcontainer, hdriver]
  split <;> rfl

end Again

section Mutation

/-- The environment of the container of the proxy is written in the Deployment that was read. -/
def setPortInPlace (proxy : ShardingSphereProxy) (c : Container) : Container :=
  if c.name = "proxy" then
    { c with env := c.env.map (fun e =>
        if e.name = "PORT" then { e with value := formatInt proxy.spec.port } else e) }
  else c

def setVersionInPlace (proxy : ShardingSphereProxy) (c : Container) : Container :=
  match proxy.spec.mySQLDriver with
  | some mysql =>
    if c.name = downloadMySQLConnectorJarContainerName then
      { c with env := updateEnv c.env mysql.version }
    else c
  | none => c

def setInPlace (proxy : ShardingSphereProxy) (act : Deployment) : Deployment :=
  { act with
    spec := { act.spec with
      template := { act.spec.template with
        spec := { act.spec.template.spec with
          containers := act.spec.template.spec.containers.map (setPortInPlace proxy)
          initContainers :=
            act.spec.template.spec.initContainers.map (setVersionInPlace proxy) } } } }

variable {d : Deployment} (q : ShardingSphereProxy)

theorem setPortInPlace_renewed {c : Container} (h : c.name = "proxy") (version : String) :
    setPortInPlace q (renewedContainer q version c) = renewedContainer q version c := by
  have hname : (renewedContainer q version c).name = "proxy" := h
  rw [setPortInPlace, if_pos hname]
  simp [renewedContainer]

theorem setVersionInPlace_renewed (driver : Option MySQLDriver) :
    ((renewedDriver q driver).map initContainer).toList.map (setVersionInPlace q) =
      ((renewedDriver q driver).map initContainer).toList := by
  cases driver with
  | none => rfl
  | some m =>
    cases hq : q.spec.mySQLDriver with
    | none => simp [renewedDriver, setVersionInPlace, hq]
    | some mysql => simp [renewedDriver, setVersionInPlace, hq, initContainer, updateEnv]

/-- The Deployment that an update returns is left as it is by the next one. -/
theorem Parts.setInPlace_renew (parts : Parts d) :
    setInPlace q (parts.renew q) = parts.renew q := by
  simp only [setInPlace, Parts.renew, List.map_cons, List.map_nil,
    setPortInPlace_renewed q parts.name_eq, setVersionInPlace_renewed]

end Mutation

section Produced

/-- A Deployment that is built for a proxy of the name, and updated any number of times. -/
inductive Obtained (name : String) : Deployment → Prop
  | constructed {q : ShardingSphereProxy} (hname : q.name = name) :
      Obtained name (constructCascadingDeployment q)
  | updated {q : ShardingSphereProxy} {act d : Deployment} (hname : q.name = name)
      (hact : Obtained name act) (h : updateDeployment q act = some d) : Obtained name d

/-- A Deployment that is built can be relied on, unless nothing was set. -/
def builtParts {q : ShardingSphereProxy} (h : q ≠ {}) :
    Parts (constructCascadingDeployment q) where
  container := mounted q
  version := q.spec.version
  port := q.spec.port
  driver := q.spec.mySQLDriver
  volume := configVolume q
  volumes := extraVolumes q.spec.mySQLDriver
  containers_eq := by
    rw [constructCascadingDeployment, if_neg h, processOptionalParameter_podSpec]
    rfl
  name_eq := rfl
  image_eq := rfl
  ports_eq := rfl
  env_eq := rfl
  inits_eq := by
    rw [constructCascadingDeployment, if_neg h, processOptionalParameter_podSpec]
    rfl
  volumes_eq := by
    rw [constructCascadingDeployment, if_neg h, processOptionalParameter_podSpec]
    rfl
  config_set := rfl

theorem update_zero (q : ShardingSphereProxy) : updateDeployment q {} = none := by
  have hconfig : updateConfigName q {} = none := rfl
  have htemplate : updatePodTemplateSpec q {} = none := by
    simp [updatePodTemplateSpec, updateSSProxyContainer, hconfig]
  unfold updateDeployment
  cases (if q.spec.automaticScaling.all (!·.enable) then (updateReplicas q {}).map some
    else some ({} : Deployment).spec.replicas) <;> simp [htemplate]

theorem Parts.of_update {q : ShardingSphereProxy} {act d : Deployment} (parts : Parts act)
    (h : updateDeployment q act = some d) : Nonempty (Parts d) := by
  have hr : act.spec.replicas.isSome ∨ unscaled q = false := by
    by_contra hnot
    push Not at hnot
    have hnone := update_none q (Option.not_isSome_iff_eq_none.mp hnot.1)
      (by simpa using hnot.2)
    rw [hnone] at h
    cases h
  rw [update_eq q parts hr] at h
  cases h
  exact ⟨parts.renewed q⟩

theorem obtained_parts {name : String} {d : Deployment} (h : Obtained name d) :
    d = {} ∨ Nonempty (Parts d) := by
  induction h with
  | @constructed q _ =>
    by_cases hq : q = {}
    · exact Or.inl (by rw [constructCascadingDeployment, if_pos hq])
    · exact Or.inr ⟨builtParts hq⟩
  | updated _ _ hu ih =>
    rcases ih with rfl | ⟨⟨parts⟩⟩
    · rw [update_zero] at hu
      cases hu
    · exact Or.inr (parts.of_update hu)

end Produced

/-- An update that is done again returns the same Deployment, does not touch the one it is given,
and is written by the next reconciliation as it was read. -/
theorem update_idempotent (p : ShardingSphereProxy) {d : Deployment} (h : Obtained p.name d)
    (hr : d.spec.replicas.isSome) :
    ∃ e, updateDeployment p d = some e ∧ updateDeployment p e = some e ∧ setInPlace p e = e ∧
      ∀ (s : State) (status : ProxyStatus), s.rt = some ⟨p, status⟩ → s.deployment = some e →
        Ends serve s reconcileDeployment ({}, none) s := by
  obtain rfl | ⟨⟨parts⟩⟩ := obtained_parts h
  · cases hr
  have hagain : updateDeployment p (parts.renew p) = some (parts.renew p) := by
    have hr' : (parts.renew p).spec.replicas.isSome := by
      simp only [Parts.renew]
      split
      · rfl
      · exact hr
    rw [update_eq p (parts.renewed p) (Or.inl hr'), parts.renew_again]
  refine ⟨parts.renew p, update_eq p parts (Or.inl hr), hagain, parts.setInPlace_renew p, ?_⟩
  intro s status hrt hd
  have hends := reconcileDeployment_present hrt hd hagain
  rwa [← hd] at hends

def drivenProxy : ShardingSphereProxy :=
  { sampleProxy with
    spec := { sampleProxy.spec with mySQLDriver := some ⟨"5.1.47"⟩ } }

theorem drivenProxy_updated_once :
    ∃ e, updateDeployment drivenProxy (constructCascadingDeployment newerProxy) = some e ∧
      updateDeployment drivenProxy e = some e := by
  obtain ⟨e, h, hagain, -⟩ :=
    update_idempotent drivenProxy (d := constructCascadingDeployment newerProxy)
      (.constructed rfl) (by decide)
  exact ⟨e, h, hagain⟩

end ShardingOnCloud.Operator.DeploymentIdempotence
