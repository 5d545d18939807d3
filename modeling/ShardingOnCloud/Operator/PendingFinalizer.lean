import ShardingOnCloud.Operator.Provisioning

namespace ShardingOnCloud.Operator.PendingFinalizer

open ShardingOnCloud.Lib.Program ShardingOnCloud.Lib.Pool ShardingOnCloud.Lib.Footprint
open ShardingOnCloud.Operator.StorageNodeTypes ShardingOnCloud.Operator.Calls
open ShardingOnCloud.Operator.CloudNativePG
open ShardingOnCloud.Operator.StorageNodeController ShardingOnCloud.Operator.StorageNodeSpec
open ShardingOnCloud.Operator.StorageNodeRuns ShardingOnCloud.Operator.Provisioning

/-- The result of a pass after which the queue brings the object up again. -/
def Retries (res : Res) : Prop :=
  res.2 ≠ none ∨ res.1.requeue = true ∨ 0 < res.1.requeueAfter

def Pending (t : Option StorageNode) : Prop := ∃ m, t = some m ∧ finalizerName ∈ m.finalizers

/-- The API server, which does not say of a stored object that there is none. -/
def server : World (Option StorageNode) Ev :=
  ⟨fun s e t => api.step s e t ∧
    ∀ err, e = .main (.reply .getNode (.error (.notFound err))) → s = none⟩

theorem server_api {s t : Option StorageNode} {tr : List Ev} (h : server.Path s tr t) :
    api.Path s tr t := World.path_map (W := server) (f := id) (fun h => h.1) h

section Results

theorem retries_after : Retries ({ requeueAfter := defaultRequeueTime }, none) :=
  Or.inr (Or.inr (by decide))

theorem retries_error (res : Result) (err : Err) : Retries (res, some err) := Or.inl (by simp)

theorem storeStatus_retries (node : StorageNode) : Yields Retries (storeStatus node) := by
  intro err
  cases err with
  | none => exact retries_after
  | some err => exact retries_error _ _

theorem finalizeCloudNativePG_retries (node : StorageNode) :
    Yields Retries (finalizeCloudNativePG node) := by
  refine yields_bind yields_true (fun cluster _ => ?_)
  cases cluster with
  | error err => exact retries_error _ _
  | ok cluster =>
    refine yields_bind yields_true (fun err _ => ?_)
    cases err with
    | some err => exact retries_error _ _
    | none =>
      intro err
      cases err with
      | some err => exact retries_error _ _
      | none => exact retries_after

theorem finalizeDatabase_retries (node : StorageNode) (sp : StorageProvider) :
    Yields Retries (finalizeDatabase node sp) := by
  refine yields_bind yields_true (fun node _ => ?_)
  cases node with
  | error err => exact retries_error _ _
  | ok node =>
    refine yields_bind yields_true (fun node _ => ?_)
    cases node with
    | error err => exact retries_error _ _
    | ok node => exact storeStatus_retries node

/-- Each way out of `finalize` but the first asks for another pass. -/
theorem finalize_retries {node : StorageNode} {sp : StorageProvider}
    (hphase : node.status.phase ≠ .deleteComplete) : Yields Retries (finalize node sp) := by
  unfold finalize
  rw [if_neg hphase]
  dsimp only
  split
  · exact finalizeCloudNativePG_retries _
  · exact finalizeDatabase_retries _ sp

/-- The first way out, which is the same whatever the API server answers. -/
theorem finalize_complete {node : StorageNode} {sp : StorageProvider} {tr : List Ev} {res : Res}
    (hphase : node.status.phase = .deleteComplete) (h : Run alone (finalize node sp) tr res) :
    ∃ err, tr = whole (Op.update (removeFinalizer node finalizerName)) err [] ∧
      res = ({}, none) := by
  unfold finalize at h
  rw [if_pos hphase] at h
  obtain ⟨err, tr', h', rfl⟩ := run_alone h
  obtain ⟨rfl, rfl⟩ := run_ret.mp h'
  exact ⟨err, List.append_nil _, rfl⟩

end Results

section Pass

variable {aws : AwsConfig} {n : StorageNode} {tr : List Ev} {res : Res}

/-- A pass over a stored node fails before it comes to work on it, or it comes to that. -/
theorem pass_run {t : Option StorageNode} (h : Run alone (reconcileStorageNode aws) tr res)
    (hp : server.Path (some n) tr t) :
    (Retries res ∧ ∀ e ∈ tr, kind (about e) = .read) ∨
      ∃ sp tr', tr = readEvents n sp ++ tr' ∧ Run alone (handle n sp) tr' res := by
  obtain ⟨r, tr₁, h₁, rfl⟩ := run_alone h
  obtain ⟨u, ⟨v, ⟨hv, -⟩, w, ⟨hw, hfound⟩, rfl⟩, -⟩ := World.path_append.mp hp
  cases hv
  have hget : ∀ e ∈ whole Op.getNode r [], kind (about e) = .read := by
    simp [whole, about, kind]
  cases r with
  | error err =>
    left
    cases err with
    | notFound err => cases hfound err rfl
    | alreadyExists err =>
      obtain ⟨rfl, rfl⟩ := run_ret.mp h₁
      exact ⟨retries_error _ _, by simpa using hget⟩
    | other err =>
      obtain ⟨rfl, rfl⟩ := run_ret.mp h₁
      exact ⟨retries_error _ _, by simpa using hget⟩
  | ok n' =>
    obtain ⟨⟨⟩, -⟩ := hw
    change Run alone (getStorageProvider aws n >>= _) tr₁ res at h₁
    obtain ⟨tr₂, r, tr₃, h₂, h₃, rfl⟩ := run_bind.mp h₁
    cases r with
    | error err =>
      left
      obtain ⟨rfl, rfl⟩ := run_ret.mp h₃
      refine ⟨retries_error _ _, fun e he => ?_⟩
      rw [List.append_nil] at he
      rcases List.mem_append.mp he with he | he
      · exact hget e he
      · simpa [Of] using (getStorageProvider_only aws n).events h₂.cut e he
    | ok sp =>
      right
      refine ⟨sp, tr₃, ?_, h₃⟩
      rw [getStorageProvider_run h₂, readEvents, List.append_assoc]

theorem handle_finalizes {sp : StorageProvider} (hd : n.deletionTimestamp = true)
    (hf : finalizerName ∈ n.finalizers) : handle n sp = finalize n sp := by
  unfold handle
  rw [hd, if_neg (by simp), if_pos hf]

theorem removed_not_pending :
    ¬ Pending (settle (updated n (removeFinalizer n finalizerName))) := by
  rintro ⟨m, hm, hfin⟩
  rw [settle_eq_some hm] at hfin
  simp [updated, removeFinalizer] at hfin

theorem refused_path {m : StorageNode} {sp : StorageProvider} {err : ApiErr}
    {t : Option StorageNode} (hu : server.Path (some n) (readEvents n sp) t) :
    server.Path (some n) (readEvents n sp ++ whole (Op.update m) (some err) []) (some n) := by
  have hquiet : t = some n :=
    api_quiet_path (server_api hu) (fun e he => readEvents_kind he (by decide))
  subst hquiet
  refine World.path_append.mpr ⟨_, hu, some n, ⟨rfl, nofun⟩, some n, ⟨Or.inl ⟨rfl, rfl⟩, nofun⟩, rfl⟩

theorem accepted_path {m : StorageNode} {sp : StorageProvider} {t : Option StorageNode}
    (hp : server.Path (some n) (readEvents n sp ++ whole (Op.update m) none []) t) :
    t = settle (updated n m) := by
  obtain ⟨-, u, hu, v, hv, hvt⟩ := pass_path (server_api hp)
  cases hu
  cases hvt
  obtain ⟨hx, -⟩ | ⟨old, hold, ht⟩ := hv
  · cases hx
  · cases hold
    exact ht

end Pass

/-- A pass that was to give up the finalizer and could not is the last one. -/
theorem pending_finalizer_retried_iff {aws : AwsConfig} {n : StorageNode} {tr : List Ev} {res : Res}
    (hd : n.deletionTimestamp = true) (hf : finalizerName ∈ n.finalizers)
    (h : Run alone (reconcileStorageNode aws) tr res) (hp : ∃ t, server.Path (some n) tr t) :
    (∀ t, server.Path (some n) tr t → Pending t → Retries res) ↔
      (n.status.phase = .deleteComplete →
        ∀ m err, .main (.reply (.update m) (some err)) ∉ tr) := by
  obtain ⟨t₀, hp⟩ := hp
  obtain ⟨hretries, hread⟩ | ⟨sp, tr', rfl, hrun⟩ := pass_run h hp
  · constructor
    · intro _ _ m err hm
      cases hread _ hm
    · intro _ _ _ _
      exact hretries
  rw [handle_finalizes hd hf] at hrun
  by_cases hphase : n.status.phase = .deleteComplete
  · obtain ⟨err, rfl, rfl⟩ := finalize_complete hphase hrun
    have hstops : ¬ Retries ({}, none) := by simp [Retries]
    cases err with
    | some err =>
      have hrefused : Event.main (.reply (Op.update (removeFinalizer n finalizerName)) (some err)) ∈
          readEvents n sp ++ whole (Op.update (removeFinalizer n finalizerName)) (some err) [] := by
        simp [whole]
      constructor
      · intro hall
        obtain ⟨u, hu, -⟩ := World.path_append.mp hp
        exact absurd (hall (some n) (refused_path hu) ⟨n, rfl, hf⟩) hstops
      · intro hnone
        exact absurd hrefused (hnone hphase _ err)
    | none =>
      constructor
      · intro _ _ m err hm
        simp [readEvents, whole] at hm
      · intro _ t ht hpending
        rw [accepted_path ht] at hpending
        exact absurd hpending removed_not_pending
  · constructor
    · intro _ hx
      exact absurd hx hphase
    · intro _ _ _ _
      exact (finalize_retries hphase).run hrun

section Samples

def completeNode : StorageNode :=
  { sampleNode with
    finalizers := [finalizerName]
    deletionTimestamp := true
    status := { phase := .deleteComplete } }

/-- A pass that finds the deletion complete, with an answer to its update. -/
def lastEvents (err : Option ApiErr) : List Ev :=
  readEvents completeNode sampleProvider ++
    whole (Op.update (removeFinalizer completeNode finalizerName)) err []

theorem lastEvents_run (err : Option ApiErr) :
    Run alone (reconcileStorageNode sampleAws) (lastEvents err) ({}, none) := by
  rw [lastEvents, readEvents, List.append_assoc, ← List.append_nil (whole (Op.update _) _ _)]
  exact Run.call rfl (Run.call rfl (Run.call rfl (Run.ret _)))

theorem refused_server (err : ApiErr) :
    server.Path (some completeNode) (lastEvents (some err)) (some completeNode) := by
  refine refused_path (t := some completeNode) ?_
  exact ⟨_, ⟨rfl, nofun⟩, _, ⟨⟨rfl, rfl⟩, nofun⟩, _, ⟨rfl, nofun⟩, _, ⟨rfl, nofun⟩, rfl⟩

/-- The finalizer is given up, so that there is nothing to come back to. -/
theorem accepted_server : server.Path (some completeNode) (lastEvents none) none :=
  ⟨_, ⟨rfl, nofun⟩, _, ⟨⟨rfl, rfl⟩, nofun⟩, _, ⟨rfl, nofun⟩, _, ⟨rfl, nofun⟩, _, ⟨rfl, nofun⟩, _,
    ⟨Or.inr ⟨_, rfl, rfl⟩, nofun⟩, rfl⟩

end Samples

theorem completeNode_retried_iff :
    ((∀ t, server.Path (some completeNode) (lastEvents none) t → Pending t → Retries ({}, none)) ↔
      (completeNode.status.phase = .deleteComplete →
        ∀ m err, .main (.reply (.update m) (some err)) ∉ lastEvents none)) ∧
    ((∀ t, server.Path (some completeNode) (lastEvents (some (.other "conflict"))) t →
        Pending t → Retries ({}, none)) ↔
      (completeNode.status.phase = .deleteComplete →
        ∀ m err, .main (.reply (.update m) (some err)) ∉ lastEvents (some (.other "conflict")))) :=
  ⟨pending_finalizer_retried_iff rfl (by simp [completeNode]) (lastEvents_run none)
      ⟨_, accepted_server⟩,
    pending_finalizer_retried_iff rfl (by simp [completeNode]) (lastEvents_run _)
      ⟨_, refused_server _⟩⟩

/-- The update is refused with a conflict, and no pass is asked for. -/
theorem not_all_pending_retried :
    ¬ ∀ (aws : AwsConfig) (n : StorageNode) (tr : List Ev) (res : Res) (t : Option StorageNode),
      n.deletionTimestamp = true → finalizerName ∈ n.finalizers →
      Run alone (reconcileStorageNode aws) tr res → server.Path (some n) tr t → Pending t →
      Retries res := by
  intro h
  have hretries := h sampleAws completeNode _ _ _ rfl (by simp [completeNode])
    (lastEvents_run (some (.other "conflict"))) (refused_server _)
    ⟨_, rfl, by simp [completeNode]⟩
  simp [Retries] at hretries

end ShardingOnCloud.Operator.PendingFinalizer
