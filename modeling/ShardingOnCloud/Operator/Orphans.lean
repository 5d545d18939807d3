import ShardingOnCloud.Operator.StorageUnits

namespace ShardingOnCloud.Operator.Orphans

open ShardingOnCloud.Lib.Program ShardingOnCloud.Lib.Pool ShardingOnCloud.Lib.Footprint
open ShardingOnCloud.Operator.StorageNodeTypes ShardingOnCloud.Operator.Calls
open ShardingOnCloud.Operator.StorageNodeController ShardingOnCloud.Operator.StorageNodeSpec
open ShardingOnCloud.Operator.StorageNodeRuns ShardingOnCloud.Operator.Provisioning
open ShardingOnCloud.Operator.StorageNodeWrites ShardingOnCloud.Operator.Finalizer
open ShardingOnCloud.Operator.StorageUnits

section Invariant

abbrev NoStatus (c : Op) : Prop := ∀ m, c ≠ .statusUpdate m

theorem finalizeCloudNativePG_noStatus (n : StorageNode) :
    Only NoStatus (finalizeCloudNativePG n) := by
  have hquiet : ∀ {c : Op}, kind c ≠ .write → NoStatus c := by
    rintro c hc m rfl
    exact hc rfl
  have hget := (only_avoids (getClusterByNamespacedName_only n.name n.nameSpace)
    (by decide : Kind.write ∉ [Kind.describe])).mono (fun _ hc => hquiet hc)
  refine only_bind hget (fun r => ?_)
  cases r with
  | error err => trivial
  | ok cluster =>
    have hdelete : Only NoStatus (deleteCloudNativePGCluster cluster) := by
      cases cluster with
      | none => trivial
      | some cluster => exact only_last (by simp [NoStatus])
    refine only_bind hdelete (fun r => ?_)
    cases r with
    | some err => trivial
    | none =>
      refine only_op (by simp [NoStatus]) (fun err => ?_)
      cases err <;> trivial

theorem status_kept {n t : StorageNode} {tr : List Ev} (h : ∀ e ∈ tr, NoStatus (about e))
    (hp : api.Path (some n) tr (some t)) : t.status = n.status := by
  refine api_path_keeps (P := NoStatus) (K := fun m => m.status = n.status) (fun _ _ hold _ => hold)
    (fun _ _ _ hs => absurd rfl (hs _)) h hp ?_ t rfl
  rintro m ⟨⟩
  rfl

structure Settled (m : StorageNode) : Prop where
  deletion : m.status.phase = .deleting ∨ m.status.phase = .deleteComplete →
    m.deletionTimestamp = true
  unregistered : finalizerName ∈ m.finalizers → m.status.phase = .deleteComplete →
    m.status.registered = false

theorem finalize_settled {n t : StorageNode} {sp : StorageProvider} {tr : List Ev}
    (hf : finalizerName ∈ n.finalizers) (hn : Settled n) (hcut : Cut alone (finalize n sp) tr)
    (hp : api.Path (some n) tr (some t)) :
    t.status.phase = .deleteComplete → t.status.registered = false := by
  obtain ⟨-, hupd⟩ | ⟨-, -, hpg⟩ | ⟨-, -, hdb⟩ := finalize_cases hcut
  · rw [status_kept (fun e he => by simp [NoStatus, hupd e he]) hp]
    exact hn.unregistered hf
  · rw [status_kept ((finalizeCloudNativePG_noStatus _).events hpg) hp]
    exact hn.unregistered hf
  · refine api_keeps (K := fun m => m.status.phase = .deleteComplete → m.status.registered = false)
      (fun _ _ _ hu => hu.elim) ?_ (finalizeDatabase_stores _ sp) hdb hp (hn.unregistered hf)
    rintro old new - ⟨c, is, hnew⟩ -
    change new.status.registered = false
    rw [hnew]
    rfl

theorem settled_kept : Kept (fun _ => True) Settled where
  created hn := by
    constructor
    · intro hphase
      simp [hn.status_eq] at hphase
    · intro _ hphase
      simp [hn.status_eq] at hphase
  edit he hold := by
    constructor
    · intro hphase
      rw [he.status_eq] at hphase
      exact he.deletion (hold.deletion hphase)
    · intro hf hphase
      rw [he.status_eq] at hphase ⊢
      exact hold.unregistered (he.finalizer_iff.mp hf) hphase
  pass {n sp tr t} _ hcut hpath hn := by
    obtain ⟨hd, hf, hfin⟩ | ⟨hnot, hrec⟩ | ⟨hd, -, had⟩ := handle_cases hcut
    · have hdel := api_path_keeps (P := fun _ => True) (K := fun m => m.deletionTimestamp = true)
        (fun _ _ h _ => h) (fun _ _ h _ => h) (fun _ _ => trivial) hpath
        (by rintro m ⟨⟩; exact hd) t rfl
      exact ⟨fun _ => hdel, fun _ => finalize_settled hf hn hfin hpath⟩
    · have hkeeps := api_keeps (K := fun m => (m.finalizers = n.finalizers ∧
          m.deletionTimestamp = n.deletionTimestamp) ∧ Settled m) (fun _ _ _ hu => hu.elim) ?_
        (reconcile_stores sp n) hrec hpath ⟨⟨rfl, rfl⟩, hn⟩
      · exact hkeeps.2
      · rintro old new ⟨⟨hfin, hdel⟩, -⟩ hnew
        refine ⟨⟨hfin, hdel⟩, ⟨fun hphase => ?_, fun hf hphase => ?_⟩⟩
        · exact hdel.trans (hn.deletion (Or.inl (hnew.deletion hphase)))
        · exact absurd ⟨hn.deletion (Or.inl (hnew.deletion (Or.inr hphase))), hfin ▸ hf⟩ hnot
    · have halive : n.status.phase ≠ .deleting ∧ n.status.phase ≠ .deleteComplete := by
        constructor
        · intro hphase
          simp [hn.deletion (Or.inl hphase)] at hd
        · intro hphase
          simp [hn.deletion (Or.inr hphase)] at hd
      have hkeeps := api_keeps
        (K := fun m => m.status.phase ≠ .deleting ∧ m.status.phase ≠ .deleteComplete)
        (fun _ _ hold _ => hold) ?_ (adopt_stores n sp) had hpath halive
      · exact ⟨fun hphase => (hphase.elim hkeeps.1 hkeeps.2).elim, fun _ hphase =>
          absurd hphase hkeeps.2⟩
      · intro old new _ hnew
        have hstored := (hnew.resolve_left (by simp)).deletion
        exact ⟨fun hphase => halive.1 (hstored (Or.inl hphase)),
          fun hphase => halive.1 (hstored (Or.inr hphase))⟩

end Invariant

/-- What a pass has to find, and how it has to go on, for the units to be accounted for. -/
structure Accounted (pre : List (List Ev)) (tr : List Ev) : Prop where
  /-- the units of CloudNativePG clusters are not unregistered -/
  unregisters : ∀ n sp, Reads tr n sp → n.deletionTimestamp = true →
    finalizerName ∈ n.finalizers → n.status.registered = true → sp.provisioner ≠ .cloudNativePG
  /-- a registration that was confirmed is recorded -/
  records : (∃ e ∈ tr, registers e = true) → ∃ m, .main (.reply (.statusUpdate m) none) ∈ tr
  /-- the annotations still name the unit that was registered -/
  names : ∀ n sp, Reads tr n sp → n.deletionTimestamp = true →
    finalizerName ∈ n.finalizers → n.status.registered = true →
    ∀ u ∈ unitsAfter pre.flatten, u = unitOf n

theorem readEvents_registers {n : StorageNode} {sp : StorageProvider} :
    ∀ e ∈ readEvents n sp, registers e = false := by
  intro e he
  by_contra hreg
  exact readEvents_kind he (by decide) (registers_kind (by simpa using hreg))

theorem unitsAfter_subset (tr : List Ev) {tr' : List Ev} (h : ∀ e ∈ tr', registers e = false) :
    unitsAfter (tr ++ tr') ⊆ unitsAfter tr := by
  rw [unitsAfter, after_append]
  exact after_subset h

theorem recorded_stored {n t m : StorageNode} {tr : List Ev}
    (hm : .main (.reply (.statusUpdate m) none) ∈ tr)
    (hall : ∀ e ∈ tr, ∀ m, about e = .statusUpdate m → m.status.registered = true)
    (hp : api.Path (some n) tr (some t)) : t.status.registered = true := by
  obtain ⟨as, bs, rfl⟩ := List.append_of_mem hm
  obtain ⟨u, -, v, hstep, hv⟩ := World.path_append.mp hp
  have hregistered : ∀ x, v = some x → x.status.registered = true := by
    obtain ⟨herr, -⟩ | ⟨old, -, rfl⟩ := hstep
    · cases herr
    · intro x hx
      rw [settle_eq_some hx]
      exact hall _ hm m rfl
  refine api_path_keeps (P := fun c => ∀ m, c = .statusUpdate m → m.status.registered = true)
    (K := fun x => x.status.registered = true) (fun _ _ hold _ => hold) (fun _ new _ hs => hs new rfl)
    (fun e he => hall e (by simp [he])) hv hregistered t rfl

theorem unregistered_units {n m : StorageNode} {sp : StorageProvider} {tr tr₀ : List Ev} {e : Ev}
    (h : Cut alone (finalizeDatabase n sp) tr) (hreg : n.status.registered = true) (he : e ∈ tr)
    (hm : about e = .statusUpdate m) (hnames : ∀ u ∈ unitsAfter tr₀, u = unitOf n) :
    unitsAfter (tr₀ ++ tr) = [] := by
  obtain ⟨tr₁, r, tr₂, hrun, hcut, rfl, he₂⟩ :=
    cut_past h (unregisterStorageUnit_only n) he (by simp [hm, Of, kind])
  cases r with
  | error err =>
    cases hcut
    cases he₂
  | ok m' =>
    have hrest : ∀ e ∈ tr₂, registers e = false := by
      refine @registers_not_of [.describe, .delete, .write] _ _ _ ?_ hcut (by decide)
      refine only_bind (only_widen (deleteDatabaseCluster_only m' sp) (by decide)) (fun r => ?_)
      cases r with
      | error err => trivial
      | ok m => exact only_widen (storeStatus_only m) (by decide)
    have hsub := unitsAfter_subset (tr₀ ++ tr₁) hrest
    have hnone : unitsAfter (tr₀ ++ tr₁) = [] := by
      rw [unitsAfter, after_append, unregisterStorageUnit_after hrun hreg]
      refine List.filter_eq_nil_iff.mpr (fun u hu => ?_)
      simp [hnames u hu]
    rw [hnone, List.append_assoc] at hsub
    exact List.subset_nil.mp hsub

theorem pass_unregistered {pre : List (List Ev)} {n t : StorageNode} {sp : StorageProvider}
    {tr : List Ev} (hacc : Accounted pre (readEvents n sp ++ tr)) (hcut : Cut alone (handle n sp) tr)
    (hp : api.Path (some n) tr (some t)) (hnone : unitsAfter pre.flatten = [])
    (ht : t.status.registered = false) : unitsAfter (pre.flatten ++ (readEvents n sp ++ tr)) = [] := by
  have hquiet : (∀ e ∈ tr, registers e = false) →
      unitsAfter (pre.flatten ++ (readEvents n sp ++ tr)) = [] := by
    intro hreg
    have hall : ∀ e ∈ readEvents n sp ++ tr, registers e = false := fun e he =>
      (List.mem_append.mp he).elim (readEvents_registers e) (hreg e)
    have hsub := unitsAfter_subset pre.flatten hall
    rw [hnone] at hsub
    exact List.subset_nil.mp hsub
  by_cases hreg : ∃ e ∈ tr, registers e = true
  · exfalso
    obtain ⟨e, he, hreg⟩ := hreg
    obtain ⟨m, hm⟩ := hacc.records ⟨e, List.mem_append_right _ he, hreg⟩
    have hm' := (List.mem_append.mp hm).resolve_left
      (fun hx => readEvents_kind (k := .write) hx (by decide) rfl)
    have hall : ∀ e' ∈ tr, ∀ m, about e' = .statusUpdate m → m.status.registered = true := by
      intro e' he' m' hupd
      obtain ⟨-, -, hfin⟩ | ⟨-, hrec⟩ | ⟨-, -, had⟩ := handle_cases hcut
      · have := registers_not_of (finalize_only n sp) hfin (by decide) e he
        simp [hreg] at this
      · exact reconcile_records hrec he hreg he' hupd
      · exact adopt_records had he hreg he' hupd
    have := recorded_stored hm' hall hp
    simp [ht] at this
  · exact hquiet (by simpa using hreg)

theorem pass_unregisters {pre : List (List Ev)} {n t : StorageNode} {sp : StorageProvider}
    {tr : List Ev} (hacc : Accounted pre (readEvents n sp ++ tr)) (hcut : Cut alone (handle n sp) tr)
    (hp : api.Path (some n) tr (some t)) (hn : n.status.registered = true)
    (ht : t.status.registered = false) : unitsAfter (pre.flatten ++ (readEvents n sp ++ tr)) = [] := by
  have hstays : t.status.registered ≠ true := by simp [ht]
  have hstored : ∀ {old new : StorageNode}, Stored n new → (statusUpdated old new).status.registered = true :=
    fun hnew => hnew.registered hn
  obtain ⟨hd, hf, hfin⟩ | ⟨-, hrec⟩ | ⟨-, -, had⟩ := handle_cases hcut
  · have hkept : (∀ e ∈ tr, NoStatus (about e)) → False := by
      intro hno
      rw [status_kept hno hp] at hstays
      exact hstays hn
    obtain ⟨-, hupd⟩ | ⟨-, -, hpg⟩ | ⟨-, -, hdb⟩ := finalize_cases hfin
    · exact (hkept (fun e he => by simp [NoStatus, hupd e he])).elim
    · exact (hkept ((finalizeCloudNativePG_noStatus _).events hpg)).elim
    · by_cases hno : ∀ e ∈ tr, NoStatus (about e)
      · exact (hkept hno).elim
      · simp only [NoStatus, not_forall, not_not] at hno
        obtain ⟨e, he, m, hm⟩ := hno
        have hnames : ∀ u ∈ unitsAfter (pre.flatten ++ readEvents n sp), u = unitOf n :=
          fun u hu => hacc.names n sp ⟨tr, rfl⟩ hd hf hn u
            (unitsAfter_subset _ readEvents_registers hu)
        rw [← List.append_assoc]
        exact unregistered_units hdb hn he hm hnames
  · exact absurd (api_keeps (K := fun m => m.status.registered = true) (fun _ _ _ hu => hu.elim)
      (fun _ _ _ hs => hstored hs) (reconcile_stores sp n) hrec hp hn) hstays
  · refine absurd (api_keeps (K := fun m => m.status.registered = true) (fun _ _ hold _ => hold)
      (fun _ _ _ hs => hstored ?_) (adopt_stores n sp) had hp hn) hstays
    exact hs.resolve_left (by simp)

theorem runs_units {aws : AwsConfig} {trs : List (List Ev)} {s : Option StorageNode}
    (h : Runs aws trs s) (hacc : ∀ pre tr post, trs = pre ++ tr :: post → Accounted pre tr) :
    ∀ m, s = some m → m.status.registered = false → unitsAfter trs.flatten = [] := by
  induction h with
  | created _ => exact fun _ _ _ => rfl
  | @pass trs s t tr hr hc hp ih =>
    intro m hm hreg
    have hpre : ∀ pre tr' post, trs = pre ++ tr' :: post → Accounted pre tr' :=
      fun pre tr' post htrs => hacc pre tr' (post ++ [tr]) (by simp [htrs])
    have hlast := hacc trs tr [] rfl
    rw [List.flatten_append, List.flatten_singleton]
    obtain hread | ⟨n, sp, tr', rfl, hcut⟩ := pass_cases hc
    · have hts := api_quiet_path hp (fun e he => by simp [hread e he])
      have hall : ∀ e ∈ tr, registers e = false := by
        intro e he
        by_contra hx
        have := registers_kind (e := e) (by simpa using hx)
        simp [hread e he] at this
      have hsub := unitsAfter_subset trs.flatten hall
      rw [ih hpre m (hts ▸ hm) hreg] at hsub
      exact List.subset_nil.mp hsub
    · obtain ⟨rfl, hp'⟩ := pass_path hp
      rw [hm] at hp'
      cases hn : n.status.registered with
      | false => exact pass_unregistered hlast hcut hp' (ih hpre n rfl hn) hreg
      | true => exact pass_unregisters hlast hcut hp' hn hreg
  | edit hr he ih =>
    intro m hm hreg
    rw [settle_eq_some hm, he.status_eq] at hreg
    exact ih hacc _ rfl hreg

/-- The finalizer is given up only when the unit is no longer registered: neither by the
status nor in a proxy. -/
theorem finalizer_outlives_units {aws : AwsConfig} {pre post : List (List Ev)}
    {tr tr₁ tr₂ : List Ev} {s : Option StorageNode} {m : StorageNode}
    (h : Runs aws (pre ++ tr :: post) s)
    (hacc : ∀ pre' tr' post', pre ++ tr :: post = pre' ++ tr' :: post' → Accounted pre' tr')
    (htr : tr = tr₁ ++ .main (.issue (.update m)) :: tr₂) (hm : finalizerName ∉ m.finalizers) :
    (∃ n, Observes tr n ∧ n.status.registered = false) ∧ unitsAfter (pre.flatten ++ tr₁) = [] := by
  have hlast := hacc pre tr post rfl
  obtain ⟨s₁, t₁, hr, hc, hp⟩ := runs_split h
  have hunits := runs_units hr (fun pre' tr' post' hpre =>
    hacc pre' tr' (post' ++ tr :: post) (by simp [hpre]))
  obtain hread | ⟨n, sp, tr', rfl, hcut⟩ := pass_cases hc
  · have := hread (.main (.issue (.update m))) (by simp [htr])
    cases this
  obtain ⟨rfl, -⟩ := pass_path hp
  have hsettled := runs_kept settled_kept hr (fun _ _ => trivial) n rfl
  have hreads : Reads (readEvents n sp ++ tr') n sp := ⟨tr', rfl⟩
  have hmem : Event.main (.issue (.update m)) ∈ tr' := by
    have hin : Event.main (.issue (.update m)) ∈ readEvents n sp ++ tr' := by simp [htr]
    refine (List.mem_append.mp hin).resolve_left (fun hx => ?_)
    exact readEvents_kind (k := .write) hx (by decide) rfl
  obtain ⟨hd, hf, hfin⟩ | ⟨-, hrec⟩ | ⟨-, -, had⟩ := handle_cases hcut
  · have hreg : n.status.registered = false := by
      obtain ⟨hphase, -⟩ | ⟨-, hpg, -⟩ | ⟨-, -, hdb⟩ := finalize_cases hfin
      · exact hsettled.unregistered hf hphase
      · by_contra hx
        exact hlast.unregisters n sp hreads hd hf (by simpa using hx) hpg
      · exact ((finalizeDatabase_stores _ sp).events hdb _ hmem).elim
    refine ⟨⟨n, hreads.observes, hreg⟩, ?_⟩
    have hquiet : ∀ e ∈ tr₁, registers e = false := by
      intro e he
      have hmem' : e ∈ readEvents n sp ++ tr' := by simp [htr, he]
      exact (List.mem_append.mp hmem').elim (readEvents_registers e)
        (registers_not_of (finalize_only n sp) hfin (by decide) e)
    have hsub := unitsAfter_subset pre.flatten hquiet
    rw [hunits n rfl hreg] at hsub
    exact List.subset_nil.mp hsub
  · exact ((reconcile_stores sp n).events hrec _ hmem).elim
  · obtain hu | hs := (adopt_stores n sp).events had _ hmem
    · cases hu
      simp [addFinalizer] at hm
    · exact hs.elim

section Samples

def recorded : Ev → Bool
  | .main (.reply (.statusUpdate _) none) => true
  | _ => false

def issued : Ev → Bool
  | .main (.issue _) => true
  | _ => false

theorem issued_about {e : Ev} (h : issued e = true) : e = .main (.issue (about e)) := by
  unfold issued at h
  split at h
  · rfl
  · cases h

theorem recorded_iff {e : Ev} :
    recorded e = true ↔ ∃ m, e = .main (.reply (.statusUpdate m) none) := by
  constructor
  · intro h
    unfold recorded at h
    split at h
    · exact ⟨_, rfl⟩
    · cases h
  · rintro ⟨m, rfl⟩
    rfl

/-- That a pass over `n` with the events `tr` is accounted for. -/
def accountsFor (pre : List (List Ev)) (n : StorageNode) (w : Cloud) (tr : List Ev) : Bool :=
  (!n.deletionTimestamp || !n.status.registered ||
    (w.provider.provisioner ≠ .cloudNativePG &&
      (unitsAfter pre.flatten).all (· = unitOf n))) &&
  (!tr.any registers || tr.any recorded)

theorem accountsFor_accounted {pre : List (List Ev)} {n : StorageNode} {w : Cloud}
    (h : accountsFor pre n w (pass sampleAws w.answer (some n)).1 = true) :
    Accounted pre (pass sampleAws w.answer (some n)).1 := by
  obtain ⟨hread, hrec⟩ := Bool.and_eq_true_iff.mp h
  have hcase : ∀ n' sp, Reads (pass sampleAws w.answer (some n)).1 n' sp →
      n'.deletionTimestamp = true → n'.status.registered = true →
      sp.provisioner ≠ .cloudNativePG ∧ ∀ u ∈ unitsAfter pre.flatten, u = unitOf n' := by
    intro n' sp hr hd hreg
    obtain ⟨hn, rfl⟩ := pass_reads hr
    cases hn
    simpa [hd, hreg] using hread
  refine ⟨fun n' sp hr hd _ hreg => (hcase n' sp hr hd hreg).1, ?_,
    fun n' sp hr hd _ hreg => (hcase n' sp hr hd hreg).2⟩
  rintro ⟨e, he, hreg⟩
  have hany : (pass sampleAws w.answer (some n)).1.any registers = true :=
    List.any_eq_true.mpr ⟨e, he, hreg⟩
  rw [hany, Bool.not_true, Bool.false_or] at hrec
  obtain ⟨e', he', hr'⟩ := List.any_eq_true.mp hrec
  obtain ⟨m, rfl⟩ := recorded_iff.mp hr'
  exact ⟨m, he'⟩

def accounts (pre : List (List Ev)) : Option StorageNode → List Cloud → Bool
  | none, ws => ws.isEmpty
  | some _, [] => true
  | some n, w :: ws =>
    accountsFor pre n w (pass sampleAws w.answer (some n)).1 &&
      accounts (pre ++ [(pass sampleAws w.answer (some n)).1])
        (pass sampleAws w.answer (some n)).2 ws

theorem accounts_accounted (pre pre' : List (List Ev)) {s : Option StorageNode} {ws : List Cloud}
    {tr : List Ev} {post : List (List Ev)} (h : accounts pre s ws = true)
    (htr : (passes sampleAws s ws).1 = pre' ++ tr :: post) : Accounted (pre ++ pre') tr := by
  induction ws generalizing pre pre' s with
  | nil => simp [passes] at htr
  | cons w ws ih =>
    cases s with
    | none => simp [accounts] at h
    | some n =>
      obtain ⟨hfirst, hrest⟩ := Bool.and_eq_true_iff.mp h
      cases pre' with
      | nil =>
        simp only [passes, List.nil_append, List.cons.injEq] at htr
        obtain ⟨rfl, -⟩ := htr
        rw [List.append_nil]
        exact accountsFor_accounted hfirst
      | cons tr' pre' =>
        simp only [passes, List.cons_append, List.cons.injEq] at htr
        obtain ⟨rfl, htr⟩ := htr
        have := ih _ pre' hrest htr
        rwa [List.append_assoc, List.singleton_append] at this

theorem around_accounted {n : StorageNode} {ws ws' : List Cloud}
    (h : accounts [] (some n) ws = true)
    (h' : accounts (passes sampleAws (some n) ws).1
      (delete (passes sampleAws (some n) ws).2) ws' = true)
    {pre : List (List Ev)} {tr : List Ev} {post : List (List Ev)}
    (htr : around sampleAws n ws ws' = pre ++ tr :: post) : Accounted pre tr := by
  obtain ⟨c, rfl, hc⟩ | ⟨c, hc, hpost⟩ := List.append_eq_append_iff.mp htr
  · exact accounts_accounted _ c h' hc
  · cases c with
    | nil =>
      rw [List.append_nil] at hc
      have := accounts_accounted _ [] h' (by simpa using hpost.symm)
      rwa [List.append_nil, hc] at this
    | cons x c =>
      rw [List.cons_append, List.cons.injEq] at hpost
      obtain ⟨rfl, -⟩ := hpost
      exact accounts_accounted [] pre h hc

/-- The unit is registered, unregistered with the deletion, and then the finalizer goes. -/
def registeredPasses : List (List Ev) :=
  around sampleAws sampleNode [availableCloud, availableCloud] [availableCloud, emptyCloud, emptyCloud]

theorem sampleNode_outlives :
    registeredPasses.any (fun tr => tr.any registers) = true ∧
    ∃ pre tr post tr₁ tr₂ m, registeredPasses = pre ++ tr :: post ∧
      tr = tr₁ ++ .main (.issue (.update m)) :: tr₂ ∧ finalizerName ∉ m.finalizers ∧
      (∃ n, Observes tr n ∧ n.status.registered = false) ∧ unitsAfter (pre.flatten ++ tr₁) = [] := by
  obtain ⟨s, hruns⟩ := runs_around sampleNode_created [availableCloud, availableCloud]
    [availableCloud, emptyCloud, emptyCloud]
  have hbefore : accounts [] (some sampleNode) [availableCloud, availableCloud] = true := by
    decide +kernel
  have hafter : accounts (passes sampleAws (some sampleNode) [availableCloud, availableCloud]).1
      (delete (passes sampleAws (some sampleNode) [availableCloud, availableCloud]).2)
      [availableCloud, emptyCloud, emptyCloud] = true := by decide +kernel
  have hdrops : registeredPasses.any (fun tr => tr.any (fun e => issued e && drops (about e))) =
      true := by decide +kernel
  refine ⟨by decide +kernel, ?_⟩
  obtain ⟨tr, htr, hany⟩ := List.any_eq_true.mp hdrops
  obtain ⟨e, he, hd⟩ := List.any_eq_true.mp hany
  obtain ⟨hi, hd⟩ := Bool.and_eq_true_iff.mp hd
  obtain ⟨m, hm, hf⟩ := drops_iff.mp hd
  obtain ⟨pre, post, hpre⟩ := List.append_of_mem htr
  obtain ⟨tr₁, tr₂, rfl⟩ := List.append_of_mem he
  have hissue := issued_about hi
  rw [hm] at hissue
  subst hissue
  rw [registeredPasses] at hpre
  rw [hpre] at hruns
  refine ⟨pre, _, post, tr₁, tr₂, m, hpre, rfl, hf, ?_⟩
  exact finalizer_outlives_units hruns
    (fun pre' tr' post' heq => around_accounted hbefore hafter (hpre.trans heq)) rfl hf

def switchedCloud : Cloud :=
  { emptyCloud with provider := ⟨.cloudNativePG, sampleParameters, .delete⟩ }

/-- A node whose instance was registered before the change is deleted after it. -/
def switchedNode : Option StorageNode :=
  delete (passes sampleAws (some sampleNode) [availableCloud, availableCloud]).2

/-- Its finalizer goes while its unit is registered. -/
theorem not_all_outlive :
    ¬∀ (aws : AwsConfig) (pre post : List (List Ev)) (tr tr₁ tr₂ : List Ev)
      (s : Option StorageNode) (m : StorageNode), Runs aws (pre ++ tr :: post) s →
      tr = tr₁ ++ .main (.issue (.update m)) :: tr₂ → finalizerName ∉ m.finalizers →
      ∃ n, Observes tr n ∧ n.status.registered = false := by
  intro h
  have hcreated : Runs sampleAws [] (some sampleNode) := .created sampleNode_created
  have hruns := runs_pass (s := switchedNode)
    (runs_delete (runs_passes hcreated [availableCloud, availableCloud])) switchedCloud.answer
  have hdrops : (pass sampleAws switchedCloud.answer switchedNode).1.any
      (fun e => issued e && drops (about e)) = true := by decide +kernel
  have hreg : switchedNode.any (·.status.registered) = true := by decide +kernel
  generalize switchedNode = s at hruns hdrops hreg
  cases s with
  | none => cases hreg
  | some n =>
    obtain ⟨e, he, hd⟩ := List.any_eq_true.mp hdrops
    obtain ⟨hi, hd⟩ := Bool.and_eq_true_iff.mp hd
    obtain ⟨m, hm, hf⟩ := drops_iff.mp hd
    obtain ⟨tr₁, tr₂, htr⟩ := List.append_of_mem he
    have hissue := issued_about hi
    rw [hm] at hissue
    rw [hissue] at htr
    obtain ⟨n', hn', hr'⟩ := h _ _ [] _ _ _ _ m hruns htr hf
    cases pass_observes.unique hn'
    change n.status.registered = true at hreg
    simp [hreg] at hr'

end Samples

end ShardingOnCloud.Operator.Orphans
