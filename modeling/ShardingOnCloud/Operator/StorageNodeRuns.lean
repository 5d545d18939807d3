import ShardingOnCloud.Operator.StorageNodeSpec

namespace ShardingOnCloud.Operator.StorageNodeRuns

open ShardingOnCloud.Lib.Program ShardingOnCloud.Lib.Pool ShardingOnCloud.Lib.Footprint
open ShardingOnCloud.Operator.StorageNodeTypes ShardingOnCloud.Operator.Calls
open ShardingOnCloud.Operator.ComputeNodeTypes (ComputeNode Service)
open ShardingOnCloud.Operator.StorageNodeController ShardingOnCloud.Operator.StorageNodeSpec

/-- An object that is to be deleted goes away with its last finalizer. -/
def settle (n : StorageNode) : Option StorageNode :=
  if n.deletionTimestamp ∧ n.finalizers = [] then none else some n

/-- What is stored after `Update`: the status is a resource of its own, and the
deletion timestamp belongs to the API server. -/
def updated (old new : StorageNode) : StorageNode :=
  { new with status := old.status, deletionTimestamp := old.deletionTimestamp }

def statusUpdated (old new : StorageNode) : StorageNode := { old with status := new.status }

/-- A write that is answered without an error is done. One that is answered with an
error may have been done all the same. -/
def Wrote (f : StorageNode → StorageNode) (err : Option ApiErr) (s t : Option StorageNode) :
    Prop :=
  (err.isSome = true ∧ t = s) ∨ ∃ old, s = some old ∧ t = settle (f old)

/-- The API server, as far as the node is concerned. A pass works on one version of the
object: once somebody else has changed it, the writes of the pass are refused. -/
def api : World (Option StorageNode) Ev := ⟨fun s e t =>
  match e with
  | .main (.reply .getNode (.ok n)) => s = some n ∧ t = s
  | .main (.reply (.update n) err) => Wrote (updated · n) err s t
  | .main (.reply (.statusUpdate n) err) => Wrote (statusUpdated · n) err s t
  | _ => t = s⟩

/-- What others may do to the object: all but write its status, touch the finalizer of
this controller, or take back a deletion. -/
structure Edited (old new : StorageNode) : Prop where
  name_eq : new.name = old.name
  nameSpace_eq : new.nameSpace = old.nameSpace
  status_eq : new.status = old.status
  finalizer_iff : finalizerName ∈ new.finalizers ↔ finalizerName ∈ old.finalizers
  deletion : old.deletionTimestamp = true → new.deletionTimestamp = true

structure Created (n : StorageNode) : Prop where
  status_eq : n.status = {}
  alive : n.deletionTimestamp = false

/-- The runs of the controller over one object from its creation: the events of every
pass, each up to an arbitrary moment, and what is stored in the end. -/
inductive Runs (aws : AwsConfig) : List (List Ev) → Option StorageNode → Prop
  | created {n : StorageNode} : Created n → Runs aws [] (some n)
  | pass {trs : List (List Ev)} {s t : Option StorageNode} {tr : List Ev} :
      Runs aws trs s → Cut alone (reconcileStorageNode aws) tr → api.Path s tr t →
      Runs aws (trs ++ [tr]) t
  | edit {trs : List (List Ev)} {old new : StorageNode} :
      Runs aws trs (some old) → Edited old new → Runs aws trs (settle new)

theorem settle_eq_some {n m : StorageNode} (h : settle n = some m) : m = n := by
  unfold settle at h
  split at h
  · cases h
  · exact (Option.some.inj h).symm

theorem api_cases {s t : Option StorageNode} {e : Ev} (h : api.step s e t) :
    t = s ∨ (∃ old new, about e = .update new ∧ s = some old ∧ t = settle (updated old new)) ∨
      ∃ old new, about e = .statusUpdate new ∧ s = some old ∧
        t = settle (statusUpdated old new) := by
  unfold api at h
  dsimp only at h
  split at h
  · exact Or.inl h.2
  · obtain ⟨-, ht⟩ | ⟨old, hs, ht⟩ := h
    · exact Or.inl ht
    · exact Or.inr (Or.inl ⟨old, _, rfl, hs, ht⟩)
  · obtain ⟨-, ht⟩ | ⟨old, hs, ht⟩ := h
    · exact Or.inl ht
    · exact Or.inr (Or.inr ⟨old, _, rfl, hs, ht⟩)
  · exact Or.inl h

theorem api_quiet {s t : Option StorageNode} {e : Ev} (h : api.step s e t)
    (he : kind (about e) ≠ .write) : t = s := by
  obtain ht | ⟨old, new, hu, -⟩ | ⟨old, new, hu, -⟩ := api_cases h
  · exact ht
  · rw [hu] at he
    exact absurd rfl he
  · rw [hu] at he
    exact absurd rfl he

theorem api_quiet_path {s t : Option StorageNode} {tr : List Ev} (h : api.Path s tr t)
    (he : ∀ e ∈ tr, kind (about e) ≠ .write) : t = s :=
  World.path_keeps (K := (· = s)) h (fun e hm _ _ hst hs => (api_quiet hst (he e hm)).trans hs) rfl

theorem api_path_keeps {P : Op → Prop} {K : StorageNode → Prop} {tr : List Ev}
    {s t : Option StorageNode} (hu : ∀ old new, K old → P (.update new) → K (updated old new))
    (hs : ∀ old new, K old → P (.statusUpdate new) → K (statusUpdated old new))
    (htr : ∀ e ∈ tr, P (about e)) (h : api.Path s tr t) (hK : ∀ m, s = some m → K m) :
    ∀ m, t = some m → K m := by
  refine World.path_keeps (K := fun s => ∀ m, s = some m → K m) h ?_ hK
  intro e he s u hst hs' m hm
  have hP := htr e he
  obtain rfl | ⟨old, new, hnew, rfl, rfl⟩ | ⟨old, new, hnew, rfl, rfl⟩ := api_cases hst
  · exact hs' m hm
  · rw [hnew] at hP
    rw [settle_eq_some hm]
    exact hu old new (hs' old rfl) hP
  · rw [hnew] at hP
    rw [settle_eq_some hm]
    exact hs old new (hs' old rfl) hP

theorem api_keeps {P : Op → Prop} {K : StorageNode → Prop} {α : Type} {p : Rec α} {tr : List Ev}
    {n t : StorageNode} (hu : ∀ old new, K old → P (.update new) → K (updated old new))
    (hs : ∀ old new, K old → P (.statusUpdate new) → K (statusUpdated old new))
    (hp : Only P p) (hc : Cut alone p tr) (ht : api.Path (some n) tr (some t)) (hn : K n) :
    K t := by
  refine api_path_keeps hu hs (hp.events hc) ht ?_ t rfl
  rintro m ⟨⟩
  exact hn

def readEvents (n : StorageNode) (sp : StorageProvider) : List Ev :=
  whole Op.getNode (.ok n) [] ++ whole (Op.getStorageProvider n.storageProviderName) (.ok sp) []

theorem readEvents_kind {n : StorageNode} {sp : StorageProvider} {e : Ev} {k : Kind}
    (h : e ∈ readEvents n sp) (hk : k ≠ .read) : kind (about e) ≠ k := by
  simp only [readEvents, whole, List.map_nil, List.cons_append, List.nil_append,
    List.mem_cons, List.not_mem_nil, or_false] at h
  obtain rfl | rfl | rfl | rfl := h <;> exact hk.symm

def Reads (tr : List Ev) (n : StorageNode) (sp : StorageProvider) : Prop :=
  ∃ tr', tr = readEvents n sp ++ tr'

def Observes (tr : List Ev) (n : StorageNode) : Prop := ∃ tr', tr = whole Op.getNode (.ok n) [] ++ tr'

theorem Reads.observes {tr : List Ev} {n : StorageNode} {sp : StorageProvider}
    (h : Reads tr n sp) : Observes tr n := by
  obtain ⟨tr', rfl⟩ := h
  exact ⟨_, List.append_assoc _ _ _⟩

theorem Observes.unique {tr : List Ev} {n m : StorageNode} (hn : Observes tr n)
    (hm : Observes tr m) : n = m := by
  obtain ⟨tr₁, rfl⟩ := hn
  obtain ⟨tr₂, h⟩ := hm
  cases (whole_inj h).1
  rfl

theorem Observes.stored {tr : List Ev} {n : StorageNode} {s t : Option StorageNode}
    (h : Observes tr n) (hp : api.Path s tr t) : s = some n := by
  obtain ⟨tr', rfl⟩ := h
  obtain ⟨u, ⟨v, hv, w, ⟨hw, -⟩, -⟩, -⟩ := World.path_append.mp hp
  cases hv
  exact hw

theorem getStorageProvider_run {aws : AwsConfig} {n : StorageNode} {tr : List Ev}
    {sp : StorageProvider} (h : Run alone (getStorageProvider aws n) tr (.ok sp)) :
    tr = whole (Op.getStorageProvider n.storageProviderName) (.ok sp) [] := by
  unfold getStorageProvider at h
  split at h
  · cases (run_ret.mp h).2
  obtain ⟨r, tr', h', rfl⟩ := run_alone h
  cases r with
  | error err => cases (run_ret.mp h').2
  | ok sp' =>
    change Run alone (if _ then _ else _) tr' _ at h'
    split at h'
    · cases (run_ret.mp h').2
    · obtain ⟨rfl, hsp⟩ := run_ret.mp h'
      cases hsp
      exact List.append_nil _

theorem pass_cases {aws : AwsConfig} {tr : List Ev} (h : Cut alone (reconcileStorageNode aws) tr) :
    (∀ e ∈ tr, kind (about e) = .read) ∨
      ∃ n sp tr', tr = readEvents n sp ++ tr' ∧ Cut alone (handle n sp) tr' := by
  have hread : Only (Of [.read]) (op .getNode) := only_last rfl
  have hall : ∀ {tr : List Ev}, (∀ e ∈ tr, Of [.read] (about e)) →
      ∀ e ∈ tr, kind (about e) = .read := by
    intro tr hof e he
    simpa [Of] using hof e he
  obtain hcut | ⟨tr₁, r, tr₂, hrun, hcut, rfl⟩ := cut_bind h
  · exact Or.inl (hall (hread.events hcut))
  have h₁ := hread.events hrun.cut
  cases r with
  | error err =>
    have hnil : tr₂ = [] := by
      cases err <;>
      · cases hcut
        rfl
    subst hnil
    rw [List.append_nil]
    exact Or.inl (hall h₁)
  | ok n =>
    have hprov := getStorageProvider_only aws n
    obtain hcut | ⟨tr₃, r, tr₄, hrun', hcut, rfl⟩ := cut_bind hcut
    · refine Or.inl (hall ?_)
      intro e he
      rcases List.mem_append.mp he with he | he
      · exact h₁ e he
      · exact hprov.events hcut e he
    · cases r with
      | error err =>
        have hnil : tr₄ = [] := by
          cases hcut
          rfl
        subst hnil
        refine Or.inl (hall ?_)
        intro e he
        rw [List.append_nil] at he
        rcases List.mem_append.mp he with he | he
        · exact h₁ e he
        · exact hprov.events hrun'.cut e he
      | ok sp =>
        refine Or.inr ⟨n, sp, tr₄, ?_, hcut⟩
        obtain ⟨r, tr', hret, rfl⟩ := run_alone hrun
        obtain ⟨rfl, hn⟩ := run_ret.mp hret
        cases hn
        rw [getStorageProvider_run hrun', readEvents, List.append_nil, List.append_assoc]

theorem Reads.handle {aws : AwsConfig} {n : StorageNode} {sp : StorageProvider} {tr : List Ev}
    {e : Ev} (h : Reads tr n sp) (hc : Cut alone (reconcileStorageNode aws) tr) (he : e ∈ tr)
    (hk : kind (about e) ≠ .read) :
    ∃ tr', tr = readEvents n sp ++ tr' ∧ Cut alone (StorageNodeController.handle n sp) tr' ∧
      e ∈ tr' := by
  obtain hread | ⟨n', sp', tr', rfl, hcut⟩ := pass_cases hc
  · exact absurd (hread e he) hk
  · have hn : Observes (readEvents n' sp' ++ tr') n' := Reads.observes ⟨tr', rfl⟩
    cases hn.unique h.observes
    obtain ⟨tr'', heq⟩ := h
    rw [readEvents, readEvents, List.append_assoc, List.append_assoc] at heq
    cases (whole_inj (List.append_cancel_left heq)).1
    refine ⟨tr', rfl, hcut, ?_⟩
    exact (List.mem_append.mp he).resolve_left (fun hx => readEvents_kind hx hk rfl)

theorem pass_path {n : StorageNode} {sp : StorageProvider} {tr : List Ev}
    {s t : Option StorageNode} (h : api.Path s (readEvents n sp ++ tr) t) :
    s = some n ∧ api.Path (some n) tr t := by
  obtain ⟨u, ⟨v, hv, w, ⟨rfl, hw⟩, x, hx, y, hy, rfl⟩, hp⟩ := World.path_append.mp h
  cases hv
  cases hw
  cases hx
  cases hy
  exact ⟨rfl, hp⟩

/-- What holds of every stored version of the object, when every pass satisfies `A`. -/
structure Kept (A : List Ev → Prop) (K : StorageNode → Prop) : Prop where
  created : ∀ {n}, Created n → K n
  pass : ∀ {n sp tr t}, A (readEvents n sp ++ tr) → Cut alone (handle n sp) tr →
    api.Path (some n) tr (some t) → K n → K t
  edit : ∀ {old new}, Edited old new → K old → K new

variable {aws : AwsConfig} {A : List Ev → Prop} {K : StorageNode → Prop} {trs : List (List Ev)}
  {s : Option StorageNode}

theorem runs_kept (hK : Kept A K) (h : Runs aws trs s) (hA : ∀ tr ∈ trs, A tr) :
    ∀ m, s = some m → K m := by
  induction h with
  | created hn =>
    rintro m ⟨⟩
    exact hK.created hn
  | @pass trs s t tr hr hc hp ih =>
    intro m hm
    have hs := ih (fun tr htr => hA tr (List.mem_append_left _ htr))
    obtain hread | ⟨n, sp, tr', rfl, hcut⟩ := pass_cases hc
    · have hts := api_quiet_path hp (fun e he => by simp [hread e he])
      exact hs m (hts ▸ hm)
    · obtain ⟨rfl, hp'⟩ := pass_path hp
      rw [hm] at hp'
      exact hK.pass (hA _ (by simp)) hcut hp' (hs n rfl)
  | edit hr he ih =>
    intro m hm
    rw [settle_eq_some hm]
    exact hK.edit he (ih hA _ rfl)

/-- Whatever a pass does but reading, it does for a stored version of the object. -/
theorem runs_handle (hK : Kept A K) (h : Runs aws trs s) (hA : ∀ tr ∈ trs, A tr) {tr : List Ev}
    (htr : tr ∈ trs) {e : Ev} (he : e ∈ tr) (hk : kind (about e) ≠ .read) :
    ∃ n sp tr', tr = readEvents n sp ++ tr' ∧ Cut alone (handle n sp) tr' ∧ e ∈ tr' ∧ K n := by
  induction h with
  | created hn => cases htr
  | @pass trs s t tr₁ hr hc hp ih =>
    have hA' : ∀ tr ∈ trs, A tr := fun tr htr => hA tr (List.mem_append_left _ htr)
    rcases List.mem_append.mp htr with htr | htr
    · exact ih hA' htr
    · cases List.mem_singleton.mp htr
      obtain hread | ⟨n, sp, tr', rfl, hcut⟩ := pass_cases hc
      · exact absurd (hread e he) hk
      · obtain ⟨rfl, -⟩ := pass_path hp
        refine ⟨n, sp, tr', rfl, hcut, ?_, runs_kept hK hr hA' n rfl⟩
        exact (List.mem_append.mp he).resolve_left (fun hread => readEvents_kind hread hk rfl)
  | edit _ _ ih => exact ih hA htr

theorem runs_event (h : Runs aws trs s) {tr : List Ev} (htr : tr ∈ trs) {e : Ev} (he : e ∈ tr)
    (hk : kind (about e) ≠ .read) :
    ∃ n sp tr', tr = readEvents n sp ++ tr' ∧ Cut alone (handle n sp) tr' ∧ e ∈ tr' := by
  have hkept : Kept (fun _ => True) (fun _ => True) := ⟨fun _ => trivial, fun _ _ _ _ => trivial,
    fun _ _ => trivial⟩
  obtain ⟨n, sp, tr', htr', hcut, he', -⟩ := runs_handle hkept h (fun _ _ => trivial) htr he hk
  exact ⟨n, sp, tr', htr', hcut, he'⟩

theorem runs_split {trs₁ trs₂ : List (List Ev)} {tr : List Ev}
    (h : Runs aws (trs₁ ++ tr :: trs₂) s) :
    ∃ s₁ t₁, Runs aws trs₁ s₁ ∧ Cut alone (reconcileStorageNode aws) tr ∧ api.Path s₁ tr t₁ := by
  generalize hall : trs₁ ++ tr :: trs₂ = trs at h
  induction h generalizing trs₂ with
  | created hn => simp at hall
  | @pass trs s t tr' hr hc hp ih =>
    rcases List.eq_nil_or_concat trs₂ with rfl | ⟨trs₃, x, rfl⟩
    · obtain ⟨rfl, htr⟩ := List.append_inj' hall rfl
      cases htr
      exact ⟨s, t, hr, hc, hp⟩
    · rw [List.concat_eq_append, ← List.cons_append, ← List.append_assoc] at hall
      exact ih (List.append_inj' hall rfl).1
  | edit _ _ ih => exact ih hall

theorem handle_cases {n : StorageNode} {sp : StorageProvider} {tr : List Ev}
    (h : Cut alone (handle n sp) tr) :
    (n.deletionTimestamp = true ∧ finalizerName ∈ n.finalizers ∧ Cut alone (finalize n sp) tr) ∨
    (¬(n.deletionTimestamp = true ∧ finalizerName ∈ n.finalizers) ∧
      Cut alone (reconcile sp n) tr) ∨
    (n.deletionTimestamp = false ∧ finalizerName ∉ n.finalizers ∧ Cut alone (adopt n sp) tr) := by
  unfold handle at h
  cases hd : n.deletionTimestamp with
  | true =>
    rw [hd] at h
    by_cases hf : finalizerName ∈ n.finalizers
    · rw [if_neg (by simp), if_pos hf] at h
      exact Or.inl ⟨rfl, hf, h⟩
    · rw [if_neg (by simp), if_neg hf] at h
      exact Or.inr (Or.inl ⟨fun hx => hf hx.2, h⟩)
  | false =>
    rw [hd] at h
    by_cases hf : finalizerName ∈ n.finalizers
    · rw [if_pos (by simp), if_pos hf] at h
      exact Or.inr (Or.inl ⟨fun hx => by simp at hx, h⟩)
    · rw [if_pos (by simp), if_neg hf] at h
      exact Or.inr (Or.inr ⟨rfl, hf, h⟩)

/-- The node as `finalize` goes on with it after the switch over the phase. -/
def ending (n : StorageNode) : StorageNode :=
  { n with status := { n.status with phase := finalizePhase n.status.phase } }

theorem finalize_cases {n : StorageNode} {sp : StorageProvider} {tr : List Ev}
    (h : Cut alone (finalize n sp) tr) :
    (n.status.phase = .deleteComplete ∧
      ∀ e ∈ tr, about e = .update (removeFinalizer n finalizerName)) ∨
    (n.status.phase ≠ .deleteComplete ∧ sp.provisioner = .cloudNativePG ∧
      Cut alone (finalizeCloudNativePG (ending n)) tr) ∨
    (n.status.phase ≠ .deleteComplete ∧ sp.provisioner ≠ .cloudNativePG ∧
      Cut alone (finalizeDatabase (ending n) sp) tr) := by
  unfold finalize at h
  split at h
  · rename_i hphase
    have honly : Only (· = .update (removeFinalizer n finalizerName))
        (op (.update (removeFinalizer n finalizerName)) >>= fun _ =>
          (pure ({}, none) : Rec Res)) := only_op rfl (fun _ => trivial)
    exact Or.inl ⟨hphase, honly.events h⟩
  · rename_i hphase
    dsimp only at h
    split at h
    · rename_i hpg
      exact Or.inr (Or.inl ⟨hphase, hpg, h⟩)
    · rename_i hpg
      exact Or.inr (Or.inr ⟨hphase, hpg, h⟩)

section Served

/-- An API server that does every write, next to answers of the others. -/
def serve (others : (c : Op) → Option (OpR c)) :
    Option StorageNode → (c : Op) → Option (OpR c × Option StorageNode)
  | none, .getNode => some (.error (.notFound ""), none)
  | some n, .getNode => some (.ok n, some n)
  | none, .update _ => none
  | some old, .update new => some (none, settle (updated old new))
  | none, .statusUpdate _ => none
  | some old, .statusUpdate new => some (none, settle (statusUpdated old new))
  | s, c => (others c).map (fun r => (r, s))

theorem serve_step {others : (c : Op) → Option (OpR c)} {s t : Option StorageNode} {c : Op}
    {r : OpR c} (h : serve others s c = some (r, t)) : api.step s (.main (.reply c r)) t := by
  unfold serve at h
  split at h
  · cases h
    rfl
  · cases h
    exact ⟨rfl, rfl⟩
  · cases h
  · cases h
    exact Or.inr ⟨_, rfl, rfl⟩
  · cases h
  · cases h
    exact Or.inr ⟨_, rfl, rfl⟩
  · rename_i hnone hsome hu hu' hs hs'
    obtain ⟨r', -, hr⟩ := Option.map_eq_some_iff.mp h
    cases hr
    cases c with
    | getNode => cases s <;> simp_all
    | update new => cases s <;> simp_all
    | statusUpdate new => cases s <;> simp_all
    | _ => rfl

theorem serve_others {others : (c : Op) → Option (OpR c)} {s t : Option StorageNode} {c : Op}
    {r : OpR c} (h : serve others s c = some (r, t)) (hc : c ≠ .getNode) (hw : kind c ≠ .write) :
    others c = some r := by
  unfold serve at h
  split at h
  · exact absurd rfl hc
  · exact absurd rfl hc
  · exact absurd rfl hw
  · exact absurd rfl hw
  · exact absurd rfl hw
  · exact absurd rfl hw
  · obtain ⟨r', hr', heq⟩ := Option.map_eq_some_iff.mp h
    cases heq
    exact hr'

/-- The events of a pass, and what is stored after it. -/
def pass (aws : AwsConfig) (others : (c : Op) → Option (OpR c)) (s : Option StorageNode) :
    List Ev × Option StorageNode :=
  drive (serve others) s (reconcileStorageNode aws)

theorem runs_pass {aws : AwsConfig} {trs : List (List Ev)} {s : Option StorageNode}
    (h : Runs aws trs s) (others : (c : Op) → Option (OpR c)) :
    Runs aws (trs ++ [(pass aws others s).1]) (pass aws others s).2 :=
  h.pass (drive_cut _ _) (drive_path (W := api) (fun _ _ => rfl) serve_step _ _)

def delete (s : Option StorageNode) : Option StorageNode :=
  s.bind (fun n => settle { n with deletionTimestamp := true })

theorem runs_delete {aws : AwsConfig} {trs : List (List Ev)} {s : Option StorageNode}
    (h : Runs aws trs s) : Runs aws trs (delete s) := by
  cases s with
  | none => exact h
  | some n => exact h.edit ⟨rfl, rfl, rfl, Iff.rfl, fun _ => rfl⟩

/-- What the provider knows of the database and how it answers a deletion, and the
proxy that the units are registered with. -/
structure Cloud where
  computeNode : ComputeNode
  service : Service
  provider : StorageProvider
  instance_ : Option DescInstance := none
  cluster : Option DescCluster := none
  members : List DescInstance := []
  pgCluster : Option PGCluster := none
  deletion : Option Err := none

/-- The answers of the provider and of a proxy that accepts every statement. -/
def Cloud.answer (w : Cloud) : (c : Op) → Option (OpR c)
  | .getStorageProvider _ => some (.ok w.provider)
  | .getComputeNode _ _ => some (.ok w.computeNode)
  | .getService _ _ => some (.ok w.service)
  | .describeInstance _ => some (.ok w.instance_)
  | .describeInstances _ => some (.ok w.members)
  | .describeCluster _ | .describeAurora _ => some (.ok w.cluster)
  | .createInstance _ | .createCluster _ | .createAurora _ => some none
  | .deleteInstance _ | .deleteCluster _ | .deleteAurora _ => some w.deletion
  | .getPGCluster _ _ => some (match w.pgCluster with
    | some cluster => .ok cluster
    | none => .error (.notFound ""))
  | .createPGCluster _ _ _ | .updatePGCluster _ _ _ | .deletePGCluster _ _ => some none
  | .sqlOpen _ _ | .dbPing | .dbExec _ | .dbClose => some none
  | .dbQuery _ => some (.ok ⟨[], none⟩)
  | .rangeMap keys => some ⟨keys, .refl _⟩
  | .randInt _ => some (.ok 7)
  | .stringN _ => some "AbCdEfGh"
  | .stringCustom _ _ => some "0a1b2c3d4e5f6g7"
  | _ => none

theorem pass_reads {aws : AwsConfig} {w : Cloud} {s : Option StorageNode} {n : StorageNode}
    {sp : StorageProvider} (h : Reads (pass aws w.answer s).1 n sp) :
    s = some n ∧ sp = w.provider := by
  obtain ⟨tr, htr⟩ := h
  have hpath : api.Path s (pass aws w.answer s).1 (pass aws w.answer s).2 :=
    drive_path (fun _ _ => rfl) serve_step _ _
  rw [htr] at hpath
  refine ⟨(pass_path hpath).1, ?_⟩
  have hm : .main (.reply (.getStorageProvider n.storageProviderName) (.ok sp)) ∈
      (pass aws w.answer s).1 := by
    rw [htr]
    simp [readEvents, whole]
  obtain ⟨u, t, henv⟩ := drive_reply hm
  cases u <;>
  · cases henv
    rfl

theorem pass_reads_some {aws : AwsConfig} {w : Cloud} {s : Option StorageNode} {e : Ev}
    (he : e ∈ (pass aws w.answer s).1) (hk : kind (about e) ≠ .read) :
    ∃ n, s = some n ∧ Reads (pass aws w.answer s).1 n w.provider := by
  have hc : Cut alone (reconcileStorageNode aws) (pass aws w.answer s).1 := drive_cut _ _
  obtain hread | ⟨n, sp, tr', htr, -⟩ := pass_cases hc
  · exact absurd (hread e he) hk
  · have hn : Reads (pass aws w.answer s).1 n sp := ⟨tr', htr⟩
    obtain ⟨hs, rfl⟩ := pass_reads hn
    exact ⟨n, hs, hn⟩

/-- Passes one after the other, each against what the provider knows then. -/
def passes (aws : AwsConfig) : Option StorageNode → List Cloud →
    List (List Ev) × Option StorageNode
  | s, [] => ([], s)
  | s, w :: ws =>
    let rest := passes aws (pass aws w.answer s).2 ws
    ((pass aws w.answer s).1 :: rest.1, rest.2)

theorem runs_passes {aws : AwsConfig} {trs : List (List Ev)} {s : Option StorageNode}
    (h : Runs aws trs s) (ws : List Cloud) :
    Runs aws (trs ++ (passes aws s ws).1) (passes aws s ws).2 := by
  induction ws generalizing trs s with
  | nil => simpa [passes] using h
  | cons w ws ih => simpa [passes] using ih (runs_pass h w.answer)

/-- That `f` holds of what each of the passes reads. -/
def everyRead (aws : AwsConfig) (f : StorageNode → StorageProvider → Bool) :
    Option StorageNode → List Cloud → Bool
  | _, [] => true
  | s, w :: ws => s.all (f · w.provider) && everyRead aws f (pass aws w.answer s).2 ws

theorem everyRead_reads {aws : AwsConfig} {f : StorageNode → StorageProvider → Bool}
    {s : Option StorageNode} {ws : List Cloud} {tr : List Ev} {n : StorageNode}
    {sp : StorageProvider} (hf : everyRead aws f s ws = true) (htr : tr ∈ (passes aws s ws).1)
    (h : Reads tr n sp) : f n sp = true := by
  induction ws generalizing s with
  | nil => cases htr
  | cons w ws ih =>
    obtain ⟨hs, hws⟩ := Bool.and_eq_true_iff.mp hf
    rcases List.mem_cons.mp htr with rfl | htr
    · obtain ⟨rfl, rfl⟩ := pass_reads h
      exact hs
    · exact ih hws htr

theorem pass_observes {aws : AwsConfig} {others : (c : Op) → Option (OpR c)} {n : StorageNode} :
    Observes (pass aws others (some n)).1 n := ⟨_, rfl⟩

def around (aws : AwsConfig) (n : StorageNode) (ws ws' : List Cloud) : List (List Ev) :=
  (passes aws (some n) ws).1 ++ (passes aws (delete (passes aws (some n) ws).2) ws').1

theorem runs_around {aws : AwsConfig} {n : StorageNode} (hn : Created n) (ws ws' : List Cloud) :
    ∃ s, Runs aws (around aws n ws ws') s :=
  ⟨_, runs_passes (runs_delete (runs_passes (.created hn) ws)) ws'⟩

end Served

end ShardingOnCloud.Operator.StorageNodeRuns
