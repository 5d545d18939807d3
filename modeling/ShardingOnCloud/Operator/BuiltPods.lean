import ShardingOnCloud.Operator.ComputeNodeDeployment

namespace ShardingOnCloud.Operator.BuiltPods

open ShardingOnCloud.Lib.Slices ShardingOnCloud.Lib.Slices.Memory
open ShardingOnCloud.Operator.ComputeNodeTypes ShardingOnCloud.Operator.ComputeNodeService
open ShardingOnCloud.Operator.ProxyTypes (EnvVar)
open ShardingOnCloud.Operator.ComputeNodeDeployment

section Pointers

/-- The pods that a builder has, with its containers in the array `a`. -/
structure Holds (b : Builder) (a : ℕ) (pod : PodSpec) : Prop where
  at_eq : b.containers = a
  apart : a ≠ b.initContainers
  containers_lt : a < b.memory.size
  initContainers_lt : b.initContainers < b.memory.size
  pod_eq : b.buildPodSpec = pod

/-- A container that no pod has yet, behind a pointer. -/
structure Own (b : Builder) (p : Ptr) (c : Container) : Prop where
  index_eq : p.index = 0
  ne_containers : p.array ≠ b.containers
  ne_initContainers : p.array ≠ b.initContainers
  elements_eq : b.memory.elements p.array = [c]

variable {b : Builder} {a : ℕ} {pod : PodSpec} {p : Ptr} {c : Container} {room : ℕ → Bool}

theorem Holds.containers_eq (h : Holds b a pod) : b.memory.elements a = pod.containers := by
  rw [← h.pod_eq, ← h.at_eq]
  rfl

theorem Holds.initContainers_eq (h : Holds b a pod) :
    b.memory.elements b.initContainers = pod.initContainers := by
  rw [← h.pod_eq]
  rfl

theorem Holds.modify (h : Holds b a pod) (i : ℕ) (f : Container → Container) :
    Holds (b.modify ⟨a, i⟩ f) a { pod with containers := pod.containers.modify i f } := by
  refine ⟨h.at_eq, h.apart, ?_, ?_, ?_⟩
  · exact (size_update _ _ _).symm ▸ h.containers_lt
  · exact (size_update _ _ _).symm ▸ h.initContainers_lt
  · have hc := elements_update_self b.memory ⟨a, i⟩ f
    have hi := elements_update_ne b.memory (p := ⟨a, i⟩) f (Ne.symm h.apart)
    rw [h.containers_eq] at hc
    rw [h.initContainers_eq] at hi
    simp only [Builder.buildPodSpec, Builder.modify, h.at_eq, hc, hi, ← h.pod_eq]

theorem Holds.modify_own (h : Holds b a pod) (ho : Own b p c) (f : Container → Container) :
    Holds (b.modify p f) a pod := by
  refine ⟨h.at_eq, h.apart, ?_, ?_, ?_⟩
  · exact (size_update _ _ _).symm ▸ h.containers_lt
  · exact (size_update _ _ _).symm ▸ h.initContainers_lt
  · have hc := elements_update_ne b.memory f (Ne.symm ho.ne_containers)
    have hi := elements_update_ne b.memory f (Ne.symm ho.ne_initContainers)
    rw [← h.pod_eq]
    simp only [Builder.buildPodSpec, Builder.modify, hc, hi]

theorem Own.modify (ho : Own b p c) (f : Container → Container) : Own (b.modify p f) p (f c) := by
  refine ⟨ho.index_eq, ho.ne_containers, ho.ne_initContainers, ?_⟩
  have hc := elements_update_self b.memory p f
  rw [ho.elements_eq, ho.index_eq] at hc
  exact hc

theorem Own.modify_containers (ho : Own b p c) (h : Holds b a pod) (i : ℕ)
    (f : Container → Container) : Own (b.modify ⟨a, i⟩ f) p c := by
  refine ⟨ho.index_eq, ho.ne_containers, ho.ne_initContainers, ?_⟩
  rw [← ho.elements_eq]
  exact elements_update_ne b.memory (p := ⟨a, i⟩) f (h.at_eq ▸ ho.ne_containers)

theorem Own.load_eq (ho : Own b p c) : b.memory.load p = some c := by
  rw [Memory.load, ho.elements_eq, ho.index_eq]
  rfl

theorem Holds.newContainer (h : Holds b a pod) (c : Container) :
    Holds (b.newContainer c).2 a pod ∧ Own (b.newContainer c).2 (b.newContainer c).1 c := by
  have hc := elements_alloc_lt b.memory [c] h.containers_lt
  have hi := elements_alloc_lt b.memory [c] h.initContainers_lt
  refine ⟨⟨h.at_eq, h.apart, ?_, ?_, ?_⟩, ⟨rfl, ?_, ?_, elements_alloc_self b.memory [c]⟩⟩
  · exact (size_alloc b.memory [c]).symm ▸ Nat.lt_succ_of_lt h.containers_lt
  · exact (size_alloc b.memory [c]).symm ▸ Nat.lt_succ_of_lt h.initContainers_lt
  · rw [h.containers_eq] at hc
    rw [h.initContainers_eq] at hi
    rw [← h.pod_eq] at hc hi ⊢
    simp only [Builder.buildPodSpec, Builder.newContainer, h.at_eq] at hc hi ⊢
    rw [hc, hi]
  · rw [Builder.newContainer, h.at_eq]
    exact (Nat.ne_of_lt h.containers_lt).symm
  · exact (Nat.ne_of_lt h.initContainers_lt).symm

theorem Holds.appendVolumes (h : Holds b a pod) (vs : List Volume) :
    Holds (b.appendVolumes vs) a { pod with volumes := pod.volumes ++ vs } := by
  refine ⟨h.at_eq, h.apart, h.containers_lt, h.initContainers_lt, ?_⟩
  rw [← h.pod_eq]
  rfl

theorem Own.appendVolumes (ho : Own b p c) (vs : List Volume) : Own (b.appendVolumes vs) p c :=
  ⟨ho.index_eq, ho.ne_containers, ho.ne_initContainers, ho.elements_eq⟩

theorem Holds.find (h : Holds b a pod) (hc : pod.containers = [c]) :
    b.findContainerByName c.name = some ⟨a, 0⟩ := by
  rw [Builder.findContainerByName, Builder.findByName, h.at_eq, h.containers_eq, hc]
  simp [List.findIdx?_cons]

theorem Holds.find_none (h : Holds b a pod) {name : String}
    (hn : ∀ c ∈ pod.initContainers, c.name ≠ name) : b.findInitContainerByName name = none := by
  rw [Builder.findInitContainerByName, Builder.findByName, h.initContainers_eq,
    List.findIdx?_eq_none_iff.mpr, Option.map_none]
  intro c hc
  exact decide_eq_false (hn c hc)

theorem Holds.findOrNew (h : Holds b a pod) (hn : ∀ c' ∈ pod.initContainers, c'.name ≠ c.name) :
    Holds (b.findOrNewInitContainer c).2 a pod ∧
      Own (b.findOrNewInitContainer c).2 (b.findOrNewInitContainer c).1 c := by
  rw [Builder.findOrNewInitContainer, h.find_none hn]
  exact h.newContainer c

/-- An init container of a new name is appended, whether it has to be moved or not. -/
theorem Holds.updateInit (h : Holds b a pod) (ho : Own b p c) (room : ℕ → Bool)
    (hn : ∀ c' ∈ pod.initContainers, c'.name ≠ c.name) :
    ∃ b', b.updateInitContainerByName room p = some b' ∧
      Holds b' a { pod with initContainers := pod.initContainers ++ [c] } := by
  have hfind : b.findByName b.initContainers c.name = none := h.find_none hn
  let r := room (b.memory.elements b.initContainers).length
  have hself := elements_append_self b.memory r [c] h.initContainers_lt
  have hother := elements_append_ne b.memory r [c] h.containers_lt h.apart
  have hsize := size_append b.memory r b.initContainers [c]
  have hupdate : b.updateInitContainerByName room p = some { b with
      initContainers := (b.memory.append r b.initContainers [c]).1
      memory := (b.memory.append r b.initContainers [c]).2 } := by
    simp only [Builder.updateInitContainerByName, ho.load_eq, Option.bind_eq_bind,
      Option.bind_some, Builder.updateByName, hfind]
    rfl
  refine ⟨_, hupdate, h.at_eq, hother.1, h.containers_lt.trans_le hsize, hself.1, ?_⟩
  simp only [Builder.buildPodSpec, h.at_eq, hother.2, hself.2, h.containers_eq,
    h.initContainers_eq]
  rw [← h.pod_eq]
  rfl

theorem Holds.updateSelf (h : Holds b a pod) (hc : pod.containers = [c]) (room : ℕ → Bool) :
    ∃ b', b.updateContainerByName room ⟨a, 0⟩ = some b' ∧ Holds b' a pod ∧
      ∀ {p : Ptr} {c' : Container}, Own b p c' → Own b' p c' := by
  have hload : b.memory.load ⟨a, 0⟩ = some c := by
    rw [Memory.load, h.containers_eq, hc]
    rfl
  have hfind : b.findByName b.containers c.name = some ⟨a, 0⟩ := h.find hc
  have hmodify := h.modify 0 (fun _ => c)
  have hsame : pod.containers.modify 0 (fun _ => c) = pod.containers := by
    rw [hc]
    rfl
  rw [hsame] at hmodify
  refine ⟨_, ?_, hmodify, fun ho => ho.modify_containers h 0 _⟩
  simp only [Builder.updateContainerByName, hload, Option.bind_eq_bind, Option.bind_some,
    Builder.updateByName, hfind]
  rfl

/-- The containers may move to another array, and the container that is appended is a copy. -/
theorem Holds.appendContainers (h : Holds b a pod) (room : ℕ → Bool) (cs : List Container) :
    ∃ a', Holds (b.appendContainers room cs) a'
      { pod with containers := pod.containers ++ cs } := by
  let r := room (b.memory.elements b.containers).length
  have hself := elements_append_self b.memory r cs h.containers_lt
  have hother := elements_append_ne b.memory r cs h.initContainers_lt (Ne.symm h.apart)
  have hsize := size_append b.memory r a cs
  rw [← h.at_eq] at hself hother hsize
  refine ⟨_, rfl, Ne.symm hother.1, hself.1, h.initContainers_lt.trans_le hsize, ?_⟩
  have hc : b.memory.elements b.containers = pod.containers := h.at_eq ▸ h.containers_eq
  rw [hc] at hself
  rw [h.initContainers_eq] at hother
  rw [← h.pod_eq] at hself hother ⊢
  simp only [Builder.buildPodSpec, Builder.appendContainers] at hself hother ⊢
  rw [hself.2, hother.2]

theorem Holds.setTemplateAnnotations (h : Holds b a pod) (annotations : StorageNodeTypes.Dict) :
    Holds (b.setTemplateAnnotations annotations) a pod :=
  ⟨h.at_eq, h.apart, h.containers_lt, h.initContainers_lt, h.pod_eq⟩

end Pointers

section Parts

def configMount : VolumeMount := ⟨defaultConfigVolumeName, defaultConfigVolumeMountPath, ""⟩

def agentConfigMount : VolumeMount :=
  ⟨defaultJavaAgentConfigVolumeName, defaultJavaAgentConfigVolumeMountPath, ""⟩

def agentMount : VolumeMount := ⟨defaultJavaAgentVolumeName, defaultJavaAgentVolumeMountPath, ""⟩

def scriptMount (path : String) : VolumeMount := ⟨"replace-start-script", path, ""⟩

def jarMount (version : String) : VolumeMount :=
  ⟨defaultMySQLDriverVolumeName, absoluteMySQLDriverMountName defaultExtlibPath version,
    relativeMySQLDriverMountName version⟩

variable (semver : Semver) (cn : ComputeNode)

def equipped (envs : List EnvVar) (c : Container) : Container := { c with env := c.env ++ envs }

def mounted (mounts : List VolumeMount) (c : Container) : Container :=
  { c with volumeMounts := c.volumeMounts ++ mounts }

def started (c : Container) : Container :=
  if versionBetween semver cn.serverVersion "5.3.0" "5.4.0" then
    equipped [⟨defaultJavaToolOptionsName, javaAgentEnvValue cn.serverVersion⟩] c
  else if versionGreaterAndEqualThan semver cn.serverVersion "5.4.0" then
    { c with args := ["-g"] }
  else c

def replacesScript : Bool := versionExactEqualTo semver cn.serverVersion "5.3.2"

/-- What the script of the older version adds to the mounts of the proxy, to the init containers
and to the volumes. -/
def scriptMounts : List VolumeMount :=
  if replacesScript semver cn then [scriptMount "/opt/shardingsphere-proxy/bin"] else []

def scriptInits : List Container :=
  if replacesScript semver cn then
    [mounted [scriptMount "/opt/shardingsphere-proxy/tmpbin"] startScriptsContainer]
  else []

def scriptVolumes : List Volume :=
  if replacesScript semver cn then [scriptVolume.volume] else []

def agentInit : Container :=
  equipped [⟨defaultAgentBinVersionEnvName, cn.serverVersion⟩]
    (mounted [agentMount] agentBinContainer)

def agentContainer (c : Container) : Container :=
  mounted (scriptMounts semver cn) (mounted [agentConfigMount, agentMount] (started semver cn c))

def withAgent (c : Container) (inits : List Container) (vs : List Volume) : PodSpec where
  containers := [agentContainer semver cn c]
  initContainers := inits ++ [agentInit cn] ++ scriptInits semver cn
  volumes := vs ++ [(agentConfigVolume cn).volume, agentVolume.volume] ++ scriptVolumes semver cn

def libMount : VolumeMount := ⟨defaultMySQLDriverVolumeName, defaultExtlibPath, ""⟩

def jarInit (version : String) : Container :=
  mounted [libMount] (equipped [⟨defaultMySQLDriverEnvName, version⟩] mysqlJarContainer)

def jarContainer (version : String) (c : Container) : Container :=
  mounted [jarMount version] (equipped [⟨defaultMySQLDriverEnvName, version⟩] c)

def withJar (version : String) (c : Container) (inits : List Container) (vs : List Volume) :
    PodSpec where
  containers := [jarContainer version c]
  initContainers := inits ++ [jarInit version]
  volumes := vs ++ [(mysqlVolume version).volume]

end Parts

section Features

variable {d : Builder} {a : ℕ} {c : Container} {inits : List Container} {vs : List Volume}
  (room : ℕ → Bool) (semver : Semver) (cn : ComputeNode)

def Free (inits : List Container) (name : String) : Prop := ∀ c ∈ inits, c.name ≠ name

theorem setMySQLConnector_holds (h : Holds d a ⟨[c], inits, vs⟩)
    (hname : c.name = "shardingsphere-proxy") (version : String)
    (hfree : Free inits "download-mysql-jar") :
    ∃ d', setMySQLConnector room version d = some d' ∧
      Holds d' a (withJar version c inits vs) := by
  have hfind : d.findContainerByName "shardingsphere-proxy" = some ⟨a, 0⟩ := hname ▸ h.find rfl
  let addEnv := equipped [⟨defaultMySQLDriverEnvName, version⟩]
  have h₁ := h.modify 0 addEnv
  obtain ⟨h₂, ho₂⟩ := h₁.findOrNew (c := mysqlJarContainer) hfree
  have h₃ := h₂.modify_own ho₂ addEnv
  have ho₃ := ho₂.modify addEnv
  have h₄ := h₃.modify_own ho₃ (mounted [libMount])
  have ho₄ := ho₃.modify (mounted [libMount])
  have h₅ := h₄.modify 0 (mounted [jarMount version])
  have ho₅ := ho₄.modify_containers h₄ 0 (mounted [jarMount version])
  obtain ⟨d₆, e₆, h₆, keep⟩ := h₅.updateSelf rfl room
  obtain ⟨d₇, e₇, h₇⟩ := h₆.updateInit (keep ho₅) room hfree
  refine ⟨_, ?_, h₇.appendVolumes [(mysqlVolume version).volume]⟩
  unfold setMySQLConnector
  refine Option.bind_eq_some_iff.mpr ⟨_, hfind, ?_⟩
  refine Option.bind_eq_some_iff.mpr ⟨_, rfl, ?_⟩
  refine Option.bind_eq_some_iff.mpr ⟨_, rfl, ?_⟩
  refine Option.bind_eq_some_iff.mpr ⟨d₆, e₆, ?_⟩
  exact Option.bind_eq_some_iff.mpr ⟨d₇, e₇, rfl⟩

theorem setAgentScript_holds (h : Holds d a ⟨[c], inits, vs⟩)
    (hname : c.name = "shardingsphere-proxy") (hfree : Free inits "replace-start-script") :
    ∃ d', setAgentScript room d = some d' ∧
      Holds d' a
        ⟨[mounted [scriptMount "/opt/shardingsphere-proxy/bin"] c],
          inits ++ [mounted [scriptMount "/opt/shardingsphere-proxy/tmpbin"] startScriptsContainer],
          vs ++ [scriptVolume.volume]⟩ := by
  have hfind : d.findContainerByName "shardingsphere-proxy" = some ⟨a, 0⟩ := hname ▸ h.find rfl
  have h₁ := h.appendVolumes [scriptVolume.volume]
  have h₂ := h₁.modify 0 (mounted [scriptMount "/opt/shardingsphere-proxy/bin"])
  obtain ⟨h₃, ho₃⟩ := h₂.findOrNew (c := startScriptsContainer) hfree
  have h₄ := h₃.modify_own ho₃ (mounted [scriptMount "/opt/shardingsphere-proxy/tmpbin"])
  have ho₄ := ho₃.modify (mounted [scriptMount "/opt/shardingsphere-proxy/tmpbin"])
  obtain ⟨d₅, e₅, h₅⟩ := h₄.updateInit ho₄ room hfree
  refine ⟨d₅, ?_, h₅⟩
  unfold setAgentScript
  refine Option.bind_eq_some_iff.mpr ⟨_, hfind, ?_⟩
  exact Option.bind_eq_some_iff.mpr ⟨_, rfl, e₅⟩

theorem Holds.startAgent (h : Holds d a ⟨[c], inits, vs⟩) :
    Holds (startAgent semver cn ⟨a, 0⟩ d) a ⟨[started semver cn c], inits, vs⟩ := by
  unfold ComputeNodeDeployment.startAgent started
  by_cases hold : versionBetween semver cn.serverVersion "5.3.0" "5.4.0" = true
  · rw [if_pos hold, if_pos hold]
    exact h.modify 0 _
  · rw [if_neg hold, if_neg hold]
    by_cases hnew : versionGreaterAndEqualThan semver cn.serverVersion "5.4.0" = true
    · rw [if_pos hnew, if_pos hnew]
      exact h.modify 0 _
    · rw [if_neg hnew, if_neg hnew]
      exact h

theorem started_same (c : Container) :
    (started semver cn c).name = c.name ∧
      (started semver cn c).volumeMounts = c.volumeMounts := by
  unfold started
  split
  · exact ⟨rfl, rfl⟩
  · split
    · exact ⟨rfl, rfl⟩
    · exact ⟨rfl, rfl⟩

/-- The pods with what the script adds, when the version asks for it. -/
def withScript (c : Container) (inits : List Container) (vs : List Volume) : PodSpec where
  containers := [mounted (scriptMounts semver cn) c]
  initContainers := inits ++ scriptInits semver cn
  volumes := vs ++ scriptVolumes semver cn

theorem scripted_holds (h : Holds d a ⟨[c], inits, vs⟩) (hname : c.name = "shardingsphere-proxy")
    (hfree : Free inits "replace-start-script") :
    ∃ d', (if replacesScript semver cn then setAgentScript room d else some d) = some d' ∧
      Holds d' a (withScript semver cn c inits vs) := by
  unfold withScript scriptMounts scriptInits scriptVolumes
  by_cases hscript : replacesScript semver cn = true
  · simp only [if_pos hscript]
    exact setAgentScript_holds room h hname hfree
  · simp only [if_neg hscript, List.append_nil]
    exact ⟨d, rfl, by simpa only [mounted, List.append_nil] using h⟩

theorem agentInit_name : (agentInit cn).name = "download-agent-bin-jar" := rfl

theorem setAgentBin_holds (h : Holds d a ⟨[c], inits, vs⟩)
    (hname : c.name = "shardingsphere-proxy") (hbin : Free inits "download-agent-bin-jar")
    (hscript : Free inits "replace-start-script") :
    ∃ d', setAgentBin room semver cn d = some d' ∧
      Holds d' a (withAgent semver cn c inits vs) := by
  have hfind := (h.setTemplateAnnotations (metricsAnnos cn.objectMeta.annotations)).find rfl
  rw [hname] at hfind
  have h₁ := (h.setTemplateAnnotations (metricsAnnos cn.objectMeta.annotations)).startAgent
    semver cn
  have h₂ := h₁.appendVolumes [(agentConfigVolume cn).volume, agentVolume.volume]
  obtain ⟨h₃, ho₃⟩ := h₂.findOrNew (c := agentBinContainer) hbin
  let addEnv := equipped [⟨defaultAgentBinVersionEnvName, cn.serverVersion⟩]
  have h₄ := h₃.modify_own ho₃ (mounted [agentMount])
  have ho₄ := ho₃.modify (mounted [agentMount])
  have h₅ := h₄.modify_own ho₄ addEnv
  have ho₅ := ho₄.modify addEnv
  obtain ⟨d₆, e₆, h₆⟩ := h₅.updateInit ho₅ room hbin
  have h₇ := h₆.modify 0 (mounted [agentConfigMount, agentMount])
  have hfree : Free (inits ++ [agentInit cn]) "replace-start-script" := by
    intro c' hc'
    rcases List.mem_append.mp hc' with hc' | hc'
    · exact hscript c' hc'
    · rw [List.mem_singleton.mp hc', agentInit_name]
      decide
  obtain ⟨d₈, e₈, h₈⟩ := scripted_holds room semver cn h₇
    ((started_same semver cn c).1.trans hname) hfree
  obtain ⟨d₉, e₉, h₉, -⟩ := h₈.updateSelf rfl room
  refine ⟨d₉, ?_, h₉⟩
  unfold setAgentBin
  refine Option.bind_eq_some_iff.mpr ⟨_, hfind, ?_⟩
  refine Option.bind_eq_some_iff.mpr ⟨_, rfl, ?_⟩
  refine Option.bind_eq_some_iff.mpr ⟨_, rfl, ?_⟩
  refine Option.bind_eq_some_iff.mpr ⟨d₆, e₆, ?_⟩
  refine Option.bind_eq_some_iff.mpr ⟨d₈, e₈, ?_⟩
  exact e₉

end Features

end ShardingOnCloud.Operator.BuiltPods
