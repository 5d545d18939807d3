import ShardingOnCloud.Operator.Provisioning
import ShardingOnCloud.Operator.StorageNodeWrites

namespace ShardingOnCloud.Operator.Finalizer

open ShardingOnCloud.Lib.Program ShardingOnCloud.Lib.Pool ShardingOnCloud.Lib.Footprint
open ShardingOnCloud.Operator.StorageNodeTypes ShardingOnCloud.Operator.Calls
open ShardingOnCloud.Operator.Rds
open ShardingOnCloud.Operator.StorageNodeController ShardingOnCloud.Operator.StorageNodeSpec
open ShardingOnCloud.Operator.StorageNodeRuns ShardingOnCloud.Operator.Provisioning
open ShardingOnCloud.Operator.StorageNodeWrites

def identifier (n : StorageNode) : Provisioner → String
  | .awsRdsInstance => n.annotations.get annotationsInstanceIdentifier
  | _ => n.annotations.get annotationsClusterIdentifier

/-- The provider was asked for the database of the node, and has nothing of it. -/
def ReportedGone (tr : List Ev) (n : StorageNode) (p : Provisioner) : Prop :=
  match p with
  | .awsRdsInstance => .main (.reply (.describeInstance (identifier n p)) (.ok none)) ∈ tr
  | .awsRdsCluster => .main (.reply (.describeCluster (identifier n p)) (.ok none)) ∈ tr ∧
      .main (.reply (members n) (Except.ok [])) ∈ tr
  | .awsAurora => .main (.reply (.describeAurora (identifier n p)) (.ok none)) ∈ tr ∧
      .main (.reply (members n) (Except.ok [])) ∈ tr
  | _ => False

/-- There is nothing to delete: the provider says so, or nothing was ever known. -/
def Gone (tr : List Ev) (n : StorageNode) (p : Provisioner) : Prop :=
  ReportedGone tr n p ∨
    (identifier n p = "" ∧ n.status.cluster.status = "" ∧ n.status.instances = [])

def Described (tr : List Ev) : Prop :=
  ∀ id d, (.main (.reply (.describeCluster id) (.ok (some d))) ∈ tr ∨
    .main (.reply (.describeAurora id) (.ok (some d))) ∈ tr) → d.status ≠ ""

theorem Described.mono {tr tr' : List Ev} (h : Described tr) (hs : ∀ e ∈ tr', e ∈ tr) :
    Described tr' :=
  fun id d hd => h id d (hd.imp (hs _) (hs _))

theorem Gone.mono {tr tr' : List Ev} {n : StorageNode} {p : Provisioner} (h : Gone tr' n p)
    (hs : ∀ e ∈ tr', e ∈ tr) : Gone tr n p := by
  refine h.imp (fun hr => ?_) id
  cases p with
  | awsRdsInstance => exact hs _ hr
  | awsRdsCluster => exact ⟨hs _ hr.1, hs _ hr.2⟩
  | awsAurora => exact ⟨hs _ hr.1, hs _ hr.2⟩
  | cloudNativePG => exact hr
  | unsupported name => exact hr

section Delete

theorem deleteAWSRDSInstance_run {n m : StorageNode} {sp : StorageProvider} {tr : List Ev}
    (h : Run alone (deleteAWSRDSInstance n sp) tr (.ok m)) :
    ∃ is, m = withDatabase n n.status.cluster is ∧
      (n.status.cluster.status = "" → is = [] → Gone tr n .awsRdsInstance) := by
  unfold deleteAWSRDSInstance at h
  split at h
  · rename_i hid
    obtain ⟨-, hm⟩ := run_ret.mp h
    cases hm
    exact ⟨n.status.instances, rfl, fun hc hi => Or.inr ⟨hid, hc, hi⟩⟩
  obtain ⟨tr₁, r, tr₂, h₁, h₂, rfl⟩ := run_bind.mp h
  cases r with
  | error err => cases (run_ret.mp h₂).2
  | ok ins =>
    cases ins with
    | none =>
      obtain ⟨-, hm⟩ := run_ret.mp h₂
      cases hm
      exact ⟨[], rfl, fun _ _ => Or.inl (List.mem_append_left _ (getInstance_run h₁))⟩
    | some ins =>
      have hheld : m = withDatabase n n.status.cluster [instanceStatus ins] := by
        change Run alone (if _ then _ else _) tr₂ _ at h₂
        split at h₂
        · cases (run_ret.mp h₂).2
          rfl
        · obtain ⟨tr₃, r, tr₄, -, h₄, rfl⟩ := run_bind.mp h₂
          cases r with
          | some err => cases (run_ret.mp h₄).2
          | none =>
            cases (run_ret.mp h₄).2
            rfl
      exact ⟨_, hheld, fun _ hi => by cases hi⟩

theorem deleteCluster_run {what : String} {get : Dict → Rec (Except Err (Option DescCluster))}
    {delete : Dict → ReclaimPolicy → Rec (Option Err)} {n m : StorageNode} {sp : StorageProvider}
    {tr : List Ev} {reply : Option DescCluster → Ev}
    (hget : ∀ {tr cluster}, Run alone (get n.annotations) tr (.ok cluster) → reply cluster ∈ tr)
    (h : Run alone (deleteCluster what get delete n sp) tr (.ok m)) :
    (n.annotations.get annotationsClusterIdentifier = "" ∧ m = n) ∨
      ∃ (cluster : Option DescCluster) (ins : List DescInstance), reply cluster ∈ tr ∧
        .main (.reply (members n) (Except.ok ins)) ∈ tr ∧
        m = withDatabase n (clusterStatus cluster) (ins.map instanceStatus) := by
  unfold deleteCluster at h
  split at h
  · rename_i hid
    cases (run_ret.mp h).2
    exact Or.inl ⟨hid, rfl⟩
  obtain ⟨tr₁, r, tr₂, h₁, h₂, rfl⟩ := run_bind.mp h
  have hnote : ∀ (tr₃ : List Ev) {tr₄ cluster}, tr₂ = tr₃ ++ tr₄ → r = .ok cluster →
      Run alone (noteCluster n cluster) tr₄ (.ok m) →
      ∃ (cluster : Option DescCluster) (ins : List DescInstance), reply cluster ∈ tr₁ ++ tr₂ ∧
        .main (.reply (members n) (Except.ok ins)) ∈ tr₁ ++ tr₂ ∧
        m = withDatabase n (clusterStatus cluster) (ins.map instanceStatus) := by
    intro tr₃ tr₄ cluster htr hr hrun
    rw [hr] at h₁
    obtain ⟨ins, hins, hm⟩ := noteCluster_run hrun
    exact ⟨cluster, ins, List.mem_append_left _ (hget h₁), by simp [htr, hins], hm⟩
  cases r with
  | error err => cases (run_ret.mp h₂).2
  | ok cluster =>
    right
    cases cluster with
    | none => exact hnote [] rfl rfl h₂
    | some cluster =>
      change Run alone (if _ then _ else _) tr₂ _ at h₂
      split at h₂
      · exact hnote [] rfl rfl h₂
      · obtain ⟨tr₃, r, tr₄, -, h₄, htr⟩ := run_bind.mp h₂
        cases r with
        | some err => cases (run_ret.mp h₄).2
        | none => exact hnote tr₃ htr rfl h₄

theorem wrapErr_run {what : String} {p : Rec (Except Err StorageNode)} {tr : List Ev}
    {m : StorageNode}
    (h : Run alone (p >>= fun r => pure (wrapErr what r)) tr (.ok m)) : Run alone p tr (.ok m) := by
  obtain ⟨tr₁, r, tr₂, h₁, h₂, rfl⟩ := run_bind.mp h
  obtain ⟨rfl, hm⟩ := run_ret.mp h₂
  rw [List.append_nil]
  cases r with
  | error err => cases hm
  | ok m' =>
    cases hm
    exact h₁

theorem deleteDatabaseCluster_run {n m : StorageNode} {sp : StorageProvider} {tr : List Ev}
    (h : Run alone (deleteDatabaseCluster n sp) tr (.ok m)) :
    ∃ c is, m = withDatabase n c is ∧
      (Described tr → c.status = "" → is = [] → Gone tr n sp.provisioner) := by
  unfold deleteDatabaseCluster at h
  split at h
  · rename_i hp
    rw [hp]
    obtain ⟨is, hm, hgone⟩ := deleteAWSRDSInstance_run (wrapErr_run h)
    exact ⟨_, is, hm, fun _ => hgone⟩
  · rename_i hp
    rw [hp]
    obtain ⟨hid, rfl⟩ | ⟨cluster, ins, hc, hi, hm⟩ :=
      deleteCluster_run getRDSCluster_run (wrapErr_run h)
    · exact ⟨_, _, rfl, fun _ hc hi => Or.inr ⟨hid, hc, hi⟩⟩
    · refine ⟨_, _, hm, fun hd hs his => Or.inl ?_⟩
      cases cluster with
      | some d => exact absurd hs (hd _ d (Or.inl hc))
      | none =>
        rw [List.map_eq_nil_iff.mp his] at hi
        exact ⟨hc, hi⟩
  · rename_i hp
    rw [hp]
    obtain ⟨hid, rfl⟩ | ⟨cluster, ins, hc, hi, hm⟩ :=
      deleteCluster_run getAuroraCluster_run (wrapErr_run h)
    · exact ⟨_, _, rfl, fun _ hc hi => Or.inr ⟨hid, hc, hi⟩⟩
    · refine ⟨_, _, hm, fun hd hs his => Or.inl ?_⟩
      cases cluster with
      | some d => exact absurd hs (hd _ d (Or.inr hc))
      | none =>
        rw [List.map_eq_nil_iff.mp his] at hi
        exact ⟨hc, hi⟩
  · cases (run_ret.mp h).2
  · cases (run_ret.mp h).2

def Emptied (n m : StorageNode) : Prop :=
  ∃ c is, m.status = computeDesiredState (withDatabase (unregistered n) c is).status

theorem finalizeDatabase_stores (n : StorageNode) (sp : StorageProvider) :
    Only (Stores (Emptied n)) (finalizeDatabase n sp) := by
  refine only_bind_run (only_stores (unregisterStorageUnit_only n) (by decide)) ?_
  intro tr r hrun
  cases r with
  | error err => trivial
  | ok m =>
    obtain ⟨rfl, -⟩ := unregisterStorageUnit_run hrun
    refine only_bind_run (only_stores (deleteDatabaseCluster_only _ sp) (by decide)) ?_
    intro tr' r' hrun'
    cases r' with
    | error err => trivial
    | ok m' =>
      obtain ⟨c, is, rfl, -⟩ := deleteDatabaseCluster_run hrun'
      exact storeStatus_stores ⟨c, is, rfl⟩

theorem finalizeDatabase_gone {n m : StorageNode} {sp : StorageProvider} {tr : List Ev} {e : Ev}
    (h : Cut alone (finalizeDatabase n sp) tr) (hd : Described tr) (he : e ∈ tr)
    (hm : about e = .statusUpdate m) (hphase : m.status.phase = .deleteComplete) :
    m.status.registered = false ∧ Gone tr n sp.provisioner := by
  obtain ⟨tr₁, r, tr₂, hrun, hcut, rfl, he₂⟩ :=
    cut_past h (unregisterStorageUnit_only n) he (by simp [hm, Of, kind])
  cases r with
  | error err =>
    cases hcut
    cases he₂
  | ok n' =>
    obtain ⟨rfl, -⟩ := unregisterStorageUnit_run hrun
    obtain ⟨tr₃, r, tr₄, hrun', hcut', rfl, he₄⟩ :=
      cut_past hcut (deleteDatabaseCluster_only _ sp) he₂ (by simp [hm, Of, kind, deletion])
    cases r with
    | error err =>
      cases hcut'
      cases he₄
    | ok m' =>
      obtain ⟨c, is, rfl, hgone⟩ := deleteDatabaseCluster_run hrun'
      have hstored := (storeStatus_stores (Q := fun m => m.status =
        computeDesiredState (withDatabase (unregistered n) c is).status) rfl).events hcut' e he₄
      rw [hm] at hstored
      rw [hstored, computeDesiredState_phase, computePhase_eq_deleteComplete] at hphase
      refine ⟨by rw [hstored]; rfl, ?_⟩
      have hsub : ∀ e ∈ tr₃, e ∈ tr₁ ++ (tr₃ ++ tr₄) := fun e he => by simp [he]
      exact (hgone (hd.mono hsub) hphase.2.1 hphase.2.2).mono hsub

end Delete

section Invariant

def DeletingHeld (n : StorageNode) : Prop :=
  n.status.phase = .deleting → n.deletionTimestamp = true ∧ finalizerName ∈ n.finalizers

abbrev OnAws (tr : List Ev) : Prop := ∀ n sp, Reads tr n sp → sp.provisioner.isAws = true

theorem isAws_ne {p : Provisioner} (h : p.isAws = true) : p ≠ .cloudNativePG := by
  rintro rfl
  cases h

theorem deletingHeld_kept : Kept OnAws DeletingHeld where
  created hn hphase := by
    rw [hn.status_eq] at hphase
    cases hphase
  edit he hold hphase := by
    rw [he.status_eq] at hphase
    obtain ⟨hd, hf⟩ := hold hphase
    exact ⟨he.deletion hd, he.finalizer_iff.mpr hf⟩
  pass {n sp tr t} hA hcut hpath hn := by
    have hquiet : ∀ {α : Type} {p : Rec α}, n.status.phase ≠ .deleting →
        Only (fun c => c = .update (addFinalizer n) ∨ Stores (Stored n) c) p →
        Cut alone p tr → DeletingHeld t := by
      intro α p hphase hp hc ht
      refine absurd ht (api_keeps (K := fun m => m.status.phase ≠ .deleting)
        (fun _ _ hold _ => hold) ?_ hp hc hpath hphase)
      intro old new _ hnew hdel
      exact hphase ((hnew.resolve_left (by simp)).deletion (Or.inl hdel))
    obtain ⟨hd, hf, hfin⟩ | ⟨hnot, hrec⟩ | ⟨hd, -, had⟩ := handle_cases hcut
    · obtain ⟨hphase, hupd⟩ | ⟨-, hpg, -⟩ | ⟨-, -, hdb⟩ := finalize_cases hfin
      · have hdone := api_path_keeps (P := (· = .update (removeFinalizer n finalizerName)))
          (K := fun m => m.status.phase = .deleteComplete) (fun _ _ hold _ => hold)
          (fun _ _ _ hs => by cases hs) hupd hpath (by rintro m ⟨⟩; exact hphase) t rfl
        intro ht
        rw [hdone] at ht
        cases ht
      · exact absurd hpg (isAws_ne (hA n sp ⟨tr, rfl⟩))
      · have hkeeps := api_keeps
          (K := fun m => m.deletionTimestamp = true ∧ finalizerName ∈ m.finalizers)
          (fun _ _ _ hu => hu.elim) (fun _ _ hold _ => hold) (finalizeDatabase_stores _ sp) hdb hpath
          ⟨hd, hf⟩
        exact fun _ => hkeeps
    · exact hquiet (fun hp => hnot (hn hp)) ((reconcile_stores sp n).mono fun _ => Or.inr) hrec
    · refine hquiet (fun hp => ?_) (adopt_stores n sp) had
      rw [(hn hp).1] at hd
      cases hd

theorem pass_drops {n m : StorageNode} {sp : StorageProvider} {tr : List Ev} {e : Ev}
    (haws : sp.provisioner.isAws = true) (hcut : Cut alone (handle n sp) tr) (he : e ∈ tr)
    (hm : about e = .update m) (hfin : finalizerName ∉ m.finalizers) :
    n.status.phase = .deleteComplete := by
  obtain ⟨-, -, hfinal⟩ | ⟨-, hrec⟩ | ⟨-, -, had⟩ := handle_cases hcut
  · obtain ⟨hphase, -⟩ | ⟨-, hpg, -⟩ | ⟨-, -, hdb⟩ := finalize_cases hfinal
    · exact hphase
    · exact absurd hpg (isAws_ne haws)
    · have hs := (finalizeDatabase_stores _ sp).events hdb e he
      rw [hm] at hs
      exact hs.elim
  · have hs := (reconcile_stores sp n).events hrec e he
    rw [hm] at hs
    exact hs.elim
  · obtain hu | hs := (adopt_stores n sp).events had e he
    · rw [hm] at hu
      cases hu
      simp [addFinalizer] at hfin
    · rw [hm] at hs
      exact hs.elim

theorem pass_completes {n m : StorageNode} {sp : StorageProvider} {tr : List Ev} {e : Ev}
    (haws : sp.provisioner.isAws = true) (hn : DeletingHeld n) (hcut : Cut alone (handle n sp) tr)
    (he : e ∈ tr) (hm : about e = .statusUpdate m) (hphase : m.status.phase = .deleteComplete) :
    n.deletionTimestamp = true ∧ finalizerName ∈ n.finalizers ∧
      Cut alone (finalizeDatabase (ending n) sp) tr := by
  obtain ⟨hd, hf, hfinal⟩ | ⟨hnot, hrec⟩ | ⟨hd, -, had⟩ := handle_cases hcut
  · obtain ⟨-, hupd⟩ | ⟨-, hpg, -⟩ | ⟨-, -, hdb⟩ := finalize_cases hfinal
    · rw [hupd e he] at hm
      cases hm
    · exact absurd hpg (isAws_ne haws)
    · exact ⟨hd, hf, hdb⟩
  · have hs := (reconcile_stores sp n).events hrec e he
    rw [hm] at hs
    exact absurd (hn (hs.deletion (Or.inr hphase))) hnot
  · have hs := ((adopt_stores n sp).events had e he).resolve_left (by simp [hm])
    rw [hm] at hs
    rw [(hn (hs.deletion (Or.inr hphase))).1] at hd
    cases hd

end Invariant

/-- The finalizer is given up by a pass that finds the deletion complete, and the deletion
is complete when there is nothing left to delete and nothing left to unregister. -/
theorem finalizer_guards_database {aws : AwsConfig} {trs : List (List Ev)}
    {s : Option StorageNode} (h : Runs aws trs s)
    (haws : ∀ tr ∈ trs, ∀ n sp, Reads tr n sp → sp.provisioner.isAws = true)
    (hdesc : ∀ tr ∈ trs, Described tr) {tr : List Ev} (htr : tr ∈ trs) {e : Ev} (he : e ∈ tr) :
    (∀ m, about e = .update m → finalizerName ∉ m.finalizers →
      ∃ n, Observes tr n ∧ n.status.phase = .deleteComplete) ∧
    (∀ m, about e = .statusUpdate m → m.status.phase = .deleteComplete →
      ∃ n sp, Reads tr n sp ∧ n.deletionTimestamp = true ∧ finalizerName ∈ n.finalizers ∧
        m.status.registered = false ∧ Gone tr n sp.provisioner) := by
  constructor
  · intro m hm hfin
    obtain ⟨n, sp, tr', rfl, hcut, he', -⟩ :=
      runs_handle deletingHeld_kept h haws htr he (by simp [hm, kind])
    have hread : Reads (readEvents n sp ++ tr') n sp := ⟨tr', rfl⟩
    exact ⟨n, hread.observes, pass_drops (haws _ htr n sp hread) hcut he' hm hfin⟩
  · intro m hm hphase
    obtain ⟨n, sp, tr', rfl, hcut, he', hn⟩ :=
      runs_handle deletingHeld_kept h haws htr he (by simp [hm, kind])
    have hread : Reads (readEvents n sp ++ tr') n sp := ⟨tr', rfl⟩
    obtain ⟨hd, hf, hdb⟩ := pass_completes (haws _ htr n sp hread) hn hcut he' hm hphase
    have hsub : ∀ e ∈ tr', e ∈ readEvents n sp ++ tr' := fun e he => by simp [he]
    obtain ⟨hreg, hgone⟩ := finalizeDatabase_gone hdb ((hdesc _ htr).mono hsub) he' hm hphase
    exact ⟨n, sp, hread, hd, hf, hreg, Gone.mono (n := n) hgone hsub⟩

def drops : Op → Bool
  | .update m => finalizerName ∉ m.finalizers
  | _ => false

def completes : Op → Bool
  | .statusUpdate m => m.status.phase = .deleteComplete
  | _ => false

theorem drops_iff {c : Op} : drops c = true ↔ ∃ m, c = .update m ∧ finalizerName ∉ m.finalizers := by
  cases c <;> simp [drops]

theorem completes_iff {c : Op} :
    completes c = true ↔ ∃ m, c = .statusUpdate m ∧ m.status.phase = .deleteComplete := by
  cases c <;> simp [completes]

theorem passes_described {aws : AwsConfig} {s : Option StorageNode} {ws : List Cloud}
    (h : ∀ w ∈ ws, ∀ d, w.cluster = some d → d.status ≠ "") :
    ∀ tr ∈ (passes aws s ws).1, Described tr := by
  induction ws generalizing s with
  | nil => simp [passes]
  | cons w ws ih =>
    intro tr htr
    rcases List.mem_cons.mp htr with rfl | htr
    · intro id d hd
      refine h w (by simp) d ?_
      obtain hd | hd := hd
      · obtain ⟨u, t, henv⟩ := drive_reply hd
        cases u <;>
        · simp only [serve, Cloud.answer, Option.map_some, Option.some.injEq, Prod.mk.injEq,
            Except.ok.injEq] at henv
          exact henv.1
      · obtain ⟨u, t, henv⟩ := drive_reply hd
        cases u <;>
        · simp only [serve, Cloud.answer, Option.map_some, Option.some.injEq, Prod.mk.injEq,
            Except.ok.injEq] at henv
          exact henv.1
    · exact ih (fun w hw => h w (by simp [hw])) tr htr

def deletedPasses : List (List Ev) :=
  (passes sampleAws (some sampleNode) [availableCloud]).1 ++
    (passes sampleAws (deletedAfter sampleNode) [availableCloud, emptyCloud, emptyCloud]).1

theorem sampleNode_guarded :
    (∃ tr ∈ deletedPasses, ∃ e ∈ tr, ∃ m, about e = .update m ∧ finalizerName ∉ m.finalizers ∧
      ∃ n, Observes tr n ∧ n.status.phase = .deleteComplete) ∧
    (∃ tr ∈ deletedPasses, ∃ e ∈ tr, ∃ m, about e = .statusUpdate m ∧
      m.status.phase = .deleteComplete ∧
      ∃ n sp, Reads tr n sp ∧ n.deletionTimestamp = true ∧ finalizerName ∈ n.finalizers ∧
        m.status.registered = false ∧ Gone tr n sp.provisioner) := by
  have hruns := deletedAfter_runs sampleNode_created [availableCloud, emptyCloud, emptyCloud]
  have hclusters : ∀ w ∈ [availableCloud, emptyCloud], ∀ d, w.cluster = some d → d.status ≠ "" := by
    simp [availableCloud, emptyCloud]
  have haws : ∀ tr ∈ deletedPasses, ∀ n sp, Reads tr n sp → sp.provisioner.isAws = true := by
    intro tr htr n sp h
    have hfirst : everyRead sampleAws (fun _ sp => sp.provisioner.isAws) (some sampleNode)
        [availableCloud] = true := by decide +kernel
    have hrest : everyRead sampleAws (fun _ sp => sp.provisioner.isAws) (deletedAfter sampleNode)
        [availableCloud, emptyCloud, emptyCloud] = true := by decide +kernel
    rcases List.mem_append.mp htr with htr | htr
    · exact everyRead_reads hfirst htr h
    · exact everyRead_reads hrest htr h
  have hdesc : ∀ tr ∈ deletedPasses, Described tr := by
    intro tr htr
    rcases List.mem_append.mp htr with htr | htr
    · exact passes_described (by simpa using hclusters availableCloud) tr htr
    · exact passes_described (by simpa using hclusters) tr htr
  have hdrops : deletedPasses.any (fun tr => tr.any (fun e => drops (about e))) = true := by
    decide +kernel
  have hcompletes : deletedPasses.any (fun tr => tr.any (fun e => completes (about e))) = true := by
    decide +kernel
  obtain ⟨tr, htr, hany⟩ := List.any_eq_true.mp hdrops
  obtain ⟨e, he, hd⟩ := List.any_eq_true.mp hany
  obtain ⟨m, hm, hf⟩ := drops_iff.mp hd
  obtain ⟨tr', htr', hany'⟩ := List.any_eq_true.mp hcompletes
  obtain ⟨e', he', hc⟩ := List.any_eq_true.mp hany'
  obtain ⟨m', hm', hp⟩ := completes_iff.mp hc
  exact ⟨⟨tr, htr, e, he, m, hm, hf,
      (finalizer_guards_database hruns haws hdesc htr he).1 m hm hf⟩,
    ⟨tr', htr', e', he', m', hm', hp,
      (finalizer_guards_database hruns haws hdesc htr' he').2 m' hm' hp⟩⟩

end ShardingOnCloud.Operator.Finalizer
