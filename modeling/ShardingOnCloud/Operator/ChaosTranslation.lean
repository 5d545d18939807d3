import ShardingOnCloud.Operator.ChaosMesh

namespace ShardingOnCloud.Operator.ChaosTranslation

open ShardingOnCloud.Operator.ChaosTypes ShardingOnCloud.Operator.ChaosMesh

section Meaning

inductive PodFault
  | kill (p : PodKillParams)
  | failure (p : PodFailureParams)
  | containerKill (p : ContainerKillParams)
  deriving DecidableEq

inductive NetworkFault
  | delay (p : DelayParams)
  | loss (p : LossParams)
  | duplication (p : DuplicationParams)
  | corruption (p : CorruptionParams)
  | partition
  | bandwidth (p : BandwidthSpec)
  deriving DecidableEq

/-- The fault that an object asks for, if the parameters of its action are there. -/
def requestedPod (c : Chaos) : Option PodFault := do
  let chao ← c.spec.podChaos
  if chao.action = podKill then chao.params.podKill.map .kill
  else if chao.action = podFailure then chao.params.podFailure.map .failure
  else if chao.action = containerKill then chao.params.containerKill.map .containerKill
  else none

/-- The parameters of a limited bandwidth are annotations, which are always there. -/
def requestedNetwork (c : Chaos) : Option NetworkFault := do
  let chao ← c.spec.networkChaos
  if chao.action = delay then chao.params.delay.map .delay
  else if chao.action = loss then chao.params.loss.map .loss
  else if chao.action = duplication then chao.params.duplication.map .duplication
  else if chao.action = corruption then chao.params.corruption.map .corruption
  else if chao.action = partition then some .partition
  else if chao.action = bandwidth then some (.bandwidth (bandwidthOf c))
  else none

variable (m : MeshActions)

def injectedPod (pc : PodChaos) : Option PodFault :=
  if pc.spec.action = m.podKillAction then some (.kill ⟨pc.spec.gracePeriod⟩)
  else if pc.spec.action = m.podFailureAction then some (.failure ⟨pc.spec.duration⟩)
  else if pc.spec.action = m.containerKillAction then
    some (.containerKill ⟨pc.spec.containerSelector.containerNames⟩)
  else none

def injectedNetwork (nc : NetworkChaos) : Option NetworkFault :=
  let tc := nc.spec.tcParameter
  if nc.spec.action = m.delayAction then tc.delay.map .delay
  else if nc.spec.action = m.lossAction then tc.loss.map .loss
  else if nc.spec.action = m.duplicateAction then tc.duplicate.map .duplication
  else if nc.spec.action = m.corruptAction then tc.corrupt.map .corruption
  else if nc.spec.action = m.partitionAction then some .partition
  else if nc.spec.action = m.bandwidthAction then tc.bandwidth.map .bandwidth
  else none

structure Preserves (c : Chaos) : Prop where
  pod : ∀ fault, requestedPod c = some fault →
    (newPodChaos m c).bind (injectedPod m) = some fault
  network : ∀ fault, requestedNetwork c = some fault →
    (newNetworkChaos m c).bind (injectedNetwork m) = some fault

/-- The requests that `SetAction` knows, with a target where there has to be one. -/
structure Translated (c : Chaos) : Prop where
  noKill : ∀ p, requestedPod c ≠ some (.kill p)
  noDelay : ∀ p, requestedNetwork c ≠ some (.delay p)
  noBandwidth : ∀ p, requestedNetwork c ≠ some (.bandwidth p)
  target : ∀ fault chao, requestedNetwork c = some fault → c.spec.networkChaos = some chao →
    chao.target ≠ none

end Meaning

variable {m : MeshActions} {c : Chaos}

section Pod

theorem requestedPod_cases {fault : PodFault} (h : requestedPod c = some fault) :
    ∃ chao, c.spec.podChaos = some chao ∧
      ((∃ p, fault = .kill p ∧ chao.action = podKill ∧ chao.params.podKill = some p) ∨
      (∃ p, fault = .failure p ∧ chao.action = podFailure ∧ chao.params.podFailure = some p) ∨
      ∃ p, fault = .containerKill p ∧ chao.action = containerKill ∧
        chao.params.containerKill = some p) := by
  obtain ⟨chao, hchao, hf⟩ := Option.bind_eq_some_iff.mp h
  refine ⟨chao, hchao, ?_⟩
  split at hf
  · obtain ⟨p, hp, rfl⟩ := Option.map_eq_some_iff.mp hf
    exact Or.inl ⟨p, rfl, by assumption, hp⟩
  split at hf
  · obtain ⟨p, hp, rfl⟩ := Option.map_eq_some_iff.mp hf
    exact Or.inr (Or.inl ⟨p, rfl, by assumption, hp⟩)
  split at hf
  · obtain ⟨p, hp, rfl⟩ := Option.map_eq_some_iff.mp hf
    exact Or.inr (Or.inr ⟨p, rfl, by assumption, hp⟩)
  · cases hf

theorem setPodAction_podKill (cur : String) : setPodAction m podKill.text cur = cur := by
  have hsmall := m.podKill_small
  simp only [List.mem_cons, not_or] at hsmall
  have hf : (⟨podKill.text⟩ : PodChaosAction) ≠ podFailure := by decide
  have hc : (⟨podKill.text⟩ : PodChaosAction) ≠ containerKill := by decide
  simp only [setPodAction, if_neg hf, if_neg hc, if_neg (Ne.symm hsmall.1)]

theorem setPodAction_podFailure (cur : String) :
    setPodAction m podFailure.text cur = m.podFailureAction := by
  have hsmall := m.podKill_small
  simp only [List.mem_cons, not_or] at hsmall
  have hf : (⟨podFailure.text⟩ : PodChaosAction) = podFailure := rfl
  have hc : (⟨podFailure.text⟩ : PodChaosAction) ≠ containerKill := by decide
  simp only [setPodAction, hf, if_true, if_neg hc, if_neg (Ne.symm hsmall.2.1)]

theorem setPodAction_containerKill (cur : String) :
    setPodAction m containerKill.text cur = m.containerKillAction := by
  have hsmall := m.podKill_small
  simp only [List.mem_cons, not_or] at hsmall
  have hc : (⟨containerKill.text⟩ : PodChaosAction) = containerKill := rfl
  simp only [setPodAction, hc, if_true, if_neg (Ne.symm hsmall.2.2.1)]

theorem injectedPod_eq (pc : PodChaos) :
    (pc.spec.action = m.podKillAction → injectedPod m pc = some (.kill ⟨pc.spec.gracePeriod⟩)) ∧
    (pc.spec.action = m.podFailureAction →
      injectedPod m pc = some (.failure ⟨pc.spec.duration⟩)) ∧
    (pc.spec.action = m.containerKillAction →
      injectedPod m pc =
        some (.containerKill ⟨pc.spec.containerSelector.containerNames⟩)) := by
  have hnodup := m.pod_nodup
  simp only [List.nodup_cons, List.mem_cons, List.not_mem_nil, or_false, not_or] at hnodup
  obtain ⟨⟨hkf, hkc⟩, hfc, -⟩ := hnodup
  refine ⟨fun h => ?_, fun h => ?_, fun h => ?_⟩
  · rw [injectedPod, if_pos h]
  · rw [injectedPod, h, if_neg (Ne.symm hkf), if_pos rfl]
  · rw [injectedPod, h, if_neg (Ne.symm hkc), if_neg (Ne.symm hfc), if_pos rfl]

theorem newPodChaos_eq {chao : PodChaosSpec} (h : c.spec.podChaos = some chao) :
    newPodChaos m c =
      (setPodParams chao
        { action := setPodAction m chao.action.text m.containerKillAction
          duration := some "1m"
          containerSelector := { podSelector := podSelectorOf c chao.selector } }).map
        (fun spec => { objectMeta := objectMetaOf c, spec := spec }) := by
  rw [newPodChaos, h, Option.map_eq_bind]
  rfl

theorem pod_kill {p : PodKillParams} (h : requestedPod c = some (.kill p)) :
    (newPodChaos m c).bind (injectedPod m) = some (.containerKill ⟨[]⟩) := by
  obtain ⟨chao, hchao, ⟨p', -, ha, hp⟩ | ⟨_, hf, -⟩ | ⟨_, hf, -⟩⟩ := requestedPod_cases h
  · rw [newPodChaos_eq hchao, setPodParams, if_pos ha, hp, ha, setPodAction_podKill]
    exact (injectedPod_eq _).2.2 rfl
  · cases hf
  · cases hf

theorem pod_failure {p : PodFailureParams} (h : requestedPod c = some (.failure p)) :
    (newPodChaos m c).bind (injectedPod m) = some (.failure p) := by
  obtain ⟨chao, hchao, ⟨_, hf, -⟩ | ⟨p', hf, ha, hp⟩ | ⟨_, hf, -⟩⟩ := requestedPod_cases h
  · cases hf
  · cases hf
    have hne : podFailure ≠ podKill := by decide
    rw [newPodChaos_eq hchao, setPodParams, ha, if_neg hne, if_pos rfl, hp,
      setPodAction_podFailure]
    exact (injectedPod_eq _).2.1 rfl
  · cases hf

theorem pod_containerKill {p : ContainerKillParams}
    (h : requestedPod c = some (.containerKill p)) :
    (newPodChaos m c).bind (injectedPod m) = some (.containerKill p) := by
  obtain ⟨chao, hchao, ⟨_, hf, -⟩ | ⟨_, hf, -⟩ | ⟨p', hf, ha, hp⟩⟩ := requestedPod_cases h
  · cases hf
  · cases hf
  · cases hf
    have hk : containerKill ≠ podKill := by decide
    have hf : containerKill ≠ podFailure := by decide
    rw [newPodChaos_eq hchao, setPodParams, ha, if_neg hk, if_neg hf, if_pos rfl, hp,
      setPodAction_containerKill]
    exact (injectedPod_eq _).2.2 rfl

theorem pod_preserved_iff {fault : PodFault} (h : requestedPod c = some fault) :
    (newPodChaos m c).bind (injectedPod m) = some fault ↔ ∀ p, fault ≠ .kill p := by
  cases fault with
  | kill p =>
    rw [pod_kill h]
    simp
  | failure p =>
    rw [pod_failure h]
    simp
  | containerKill p =>
    rw [pod_containerKill h]
    simp

end Pod

section Network

theorem requestedNetwork_cases {fault : NetworkFault} (h : requestedNetwork c = some fault) :
    ∃ chao, c.spec.networkChaos = some chao ∧
      ((∃ p, fault = .delay p ∧ chao.action = delay ∧ chao.params.delay = some p) ∨
      (∃ p, fault = .loss p ∧ chao.action = loss ∧ chao.params.loss = some p) ∨
      (∃ p, fault = .duplication p ∧ chao.action = duplication ∧
        chao.params.duplication = some p) ∨
      (∃ p, fault = .corruption p ∧ chao.action = corruption ∧
        chao.params.corruption = some p) ∨
      (fault = .partition ∧ chao.action = partition) ∨
      (fault = .bandwidth (bandwidthOf c) ∧ chao.action = bandwidth)) := by
  obtain ⟨chao, hchao, hf⟩ := Option.bind_eq_some_iff.mp h
  refine ⟨chao, hchao, ?_⟩
  split at hf
  · obtain ⟨p, hp, rfl⟩ := Option.map_eq_some_iff.mp hf
    exact Or.inl ⟨p, rfl, by assumption, hp⟩
  split at hf
  · obtain ⟨p, hp, rfl⟩ := Option.map_eq_some_iff.mp hf
    exact Or.inr (Or.inl ⟨p, rfl, by assumption, hp⟩)
  split at hf
  · obtain ⟨p, hp, rfl⟩ := Option.map_eq_some_iff.mp hf
    exact Or.inr (Or.inr (Or.inl ⟨p, rfl, by assumption, hp⟩))
  split at hf
  · obtain ⟨p, hp, rfl⟩ := Option.map_eq_some_iff.mp hf
    exact Or.inr (Or.inr (Or.inr (Or.inl ⟨p, rfl, by assumption, hp⟩)))
  split at hf
  · cases hf
    exact Or.inr (Or.inr (Or.inr (Or.inr (Or.inl ⟨rfl, by assumption⟩))))
  split at hf
  · cases hf
    exact Or.inr (Or.inr (Or.inr (Or.inr (Or.inr ⟨rfl, by assumption⟩))))
  · cases hf

theorem setNetworkAction_unknown {action : NetworkChaosAction}
    (h : action = delay ∨ action = bandwidth) (cur : String) :
    setNetworkAction m action.text cur = cur := by
  have hsmall := m.bandwidth_small
  simp only [List.mem_cons, List.not_mem_nil, or_false, not_or] at hsmall
  have hne : ∀ a ∈ [corruption, partition, loss, duplication],
      (⟨action.text⟩ : NetworkChaosAction) ≠ a := by
    rcases h with rfl | rfl <;> decide
  have hb : action.text ≠ m.bandwidthAction := by
    rcases h with rfl | rfl
    · exact Ne.symm hsmall.2
    · exact Ne.symm hsmall.1
  simp only [List.forall_mem_cons] at hne
  simp only [setNetworkAction, if_neg hb, if_neg hne.1, if_neg hne.2.1, if_neg hne.2.2.1,
    if_neg hne.2.2.2.1]

theorem setNetworkAction_known (cur : String) :
    setNetworkAction m loss.text cur = m.lossAction ∧
    setNetworkAction m duplication.text cur = m.duplicateAction ∧
    setNetworkAction m corruption.text cur = m.corruptAction ∧
    setNetworkAction m partition.text cur = m.partitionAction := by
  refine ⟨?_, ?_, ?_, ?_⟩ <;>
  simp [setNetworkAction, loss, duplication, corruption, partition]

theorem injectedNetwork_eq (nc : NetworkChaos) :
    (nc.spec.action = m.lossAction →
      injectedNetwork m nc = nc.spec.tcParameter.loss.map .loss) ∧
    (nc.spec.action = m.duplicateAction →
      injectedNetwork m nc = nc.spec.tcParameter.duplicate.map .duplication) ∧
    (nc.spec.action = m.corruptAction →
      injectedNetwork m nc = nc.spec.tcParameter.corrupt.map .corruption) ∧
    (nc.spec.action = m.partitionAction → injectedNetwork m nc = some .partition) := by
  have hnodup := m.network_nodup
  simp only [List.nodup_cons, List.mem_cons, List.not_mem_nil, or_false, not_or] at hnodup
  obtain ⟨⟨hdl, hdd, hdc, hdp, -⟩, ⟨hld, hlc, hlp, -⟩, ⟨hdc', hdp', -⟩, ⟨hcp, -⟩, -⟩ := hnodup
  refine ⟨fun h => ?_, fun h => ?_, fun h => ?_, fun h => ?_⟩
  · simp only [injectedNetwork, h, Ne.symm hdl, if_true, if_false]
  · simp only [injectedNetwork, h, Ne.symm hdd, Ne.symm hld, if_true, if_false]
  · simp only [injectedNetwork, h, Ne.symm hdc, Ne.symm hlc, Ne.symm hdc', if_true, if_false]
  · simp only [injectedNetwork, h, Ne.symm hdp, Ne.symm hlp, Ne.symm hdp', Ne.symm hcp, if_true,
      if_false]

theorem network_untargeted {chao : NetworkChaosSpec} (h : c.spec.networkChaos = some chao)
    (ht : chao.target = none) : newNetworkChaos m c = none := by
  simp only [newNetworkChaos, h, ht, Option.bind_eq_bind, Option.bind_some, Option.bind_none]
  cases networkParams c chao <;> rfl

theorem network_built {chao : NetworkChaosSpec} {target : PodSelector} (tc : TcParameter)
    (h : c.spec.networkChaos = some chao) (ht : chao.target = some target)
    (hp : networkParams c chao = some tc) :
    ∃ nc, newNetworkChaos m c = some nc ∧
      nc.spec.action = setNetworkAction m chao.action.text m.partitionAction ∧
      nc.spec.tcParameter = tc := by
  simp only [newNetworkChaos, h, ht, hp, Option.bind_eq_bind, Option.bind_some]
  exact ⟨_, rfl, rfl, rfl⟩

theorem network_preserved_iff {fault : NetworkFault} {chao : NetworkChaosSpec}
    (h : requestedNetwork c = some fault) (hchao : c.spec.networkChaos = some chao) :
    (newNetworkChaos m c).bind (injectedNetwork m) = some fault ↔
      (∀ p, fault ≠ .delay p) ∧ (∀ p, fault ≠ .bandwidth p) ∧ chao.target ≠ none := by
  cases ht : chao.target with
  | none => simp [network_untargeted hchao ht]
  | some target =>
    obtain ⟨hl, hd, hc, hp⟩ := setNetworkAction_known (m := m) m.partitionAction
    obtain ⟨chao', hchao', hcases⟩ := requestedNetwork_cases h
    obtain rfl : chao' = chao := Option.some.inj (hchao'.symm.trans hchao)
    obtain ⟨p, rfl, ha, hparams⟩ | ⟨p, rfl, ha, hparams⟩ | ⟨p, rfl, ha, hparams⟩ |
      ⟨p, rfl, ha, hparams⟩ | ⟨rfl, ha⟩ | ⟨rfl, ha⟩ := hcases
    · obtain ⟨nc, hnc, haction, -⟩ := network_built (m := m) { delay := some p } hchao ht
        (by simp [networkParams, ha, hparams])
      rw [setNetworkAction_unknown (Or.inl ha)] at haction
      simp [hnc, (injectedNetwork_eq nc).2.2.2 haction]
    · obtain ⟨nc, hnc, haction, htc⟩ := network_built (m := m) { loss := some p } hchao ht
        (by simp [networkParams, ha, hparams, loss, delay, corruption, duplication])
      rw [ha, hl] at haction
      simp [hnc, (injectedNetwork_eq nc).1 haction, htc]
    · obtain ⟨nc, hnc, haction, htc⟩ := network_built (m := m) { duplicate := some p }
        hchao ht (by simp [networkParams, ha, hparams, delay, corruption, duplication])
      rw [ha, hd] at haction
      simp [hnc, (injectedNetwork_eq nc).2.1 haction, htc]
    · obtain ⟨nc, hnc, haction, htc⟩ := network_built (m := m) { corrupt := some p }
        hchao ht (by simp [networkParams, ha, hparams, delay, corruption])
      rw [ha, hc] at haction
      simp [hnc, (injectedNetwork_eq nc).2.2.1 haction, htc]
    · obtain ⟨nc, hnc, haction, -⟩ := network_built (m := m) {} hchao ht
        (by simp [networkParams, ha, delay, corruption, duplication, loss, bandwidth, partition])
      rw [ha, hp] at haction
      simp [hnc, (injectedNetwork_eq nc).2.2.2 haction]
    · obtain ⟨nc, hnc, haction, -⟩ := network_built (m := m)
        { bandwidth := some (bandwidthOf c) } hchao ht
        (by simp [networkParams, ha, delay, corruption, duplication, loss, bandwidth])
      rw [setNetworkAction_unknown (Or.inr ha)] at haction
      simp [hnc, (injectedNetwork_eq nc).2.2.2 haction]

end Network

/-- The fault that is asked for is the one that is injected, unless it is a kill of pods, a delay
or a limited bandwidth, or a fault of the network without a target. -/
theorem preserves_iff_translated (m : MeshActions) (c : Chaos) :
    Preserves m c ↔ Translated c := by
  constructor
  · intro h
    have hnetwork : ∀ fault chao, requestedNetwork c = some fault →
        c.spec.networkChaos = some chao → (∀ p, fault ≠ .delay p) ∧ (∀ p, fault ≠ .bandwidth p) ∧
          chao.target ≠ none :=
      fun fault chao hf hchao => (network_preserved_iff hf hchao).mp (h.network fault hf)
    refine ⟨fun p hp => ?_, fun p hp => ?_, fun p hp => ?_, fun fault chao hf hchao => ?_⟩
    · exact (pod_preserved_iff hp).mp (h.pod _ hp) p rfl
    · obtain ⟨chao, hchao, -⟩ := requestedNetwork_cases hp
      exact (hnetwork _ chao hp hchao).1 p rfl
    · obtain ⟨chao, hchao, -⟩ := requestedNetwork_cases hp
      exact (hnetwork _ chao hp hchao).2.1 p rfl
    · exact (hnetwork fault chao hf hchao).2.2
  · intro h
    refine ⟨fun fault hf => ?_, fun fault hf => ?_⟩
    · refine (pod_preserved_iff hf).mpr ?_
      rintro p rfl
      exact h.noKill p hf
    · obtain ⟨chao, hchao, -⟩ := requestedNetwork_cases hf
      refine (network_preserved_iff hf hchao).mpr ⟨?_, ?_, h.target fault chao hf hchao⟩
      · rintro p rfl
        exact h.noDelay p hf
      · rintro p rfl
        exact h.noBandwidth p hf

def killingChaos : Chaos where
  name := "chaos"
  nameSpace := "default"
  spec := { podChaos := some { action := podKill, params := { podKill := some ⟨30⟩ } } }

theorem not_all_preserved : ¬∀ (m : MeshActions) (c : Chaos), Preserves m c := by
  intro h
  have hkill : requestedPod killingChaos = some (.kill ⟨30⟩) := rfl
  have hpod := (h .documented killingChaos).pod _ hkill
  rw [pod_kill hkill] at hpod
  cases hpod

end ShardingOnCloud.Operator.ChaosTranslation
