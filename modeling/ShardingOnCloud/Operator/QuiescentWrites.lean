import ShardingOnCloud.Operator.ChaosController
import ShardingOnCloud.Operator.StorageNodeController

namespace ShardingOnCloud.Operator.QuiescentWrites

open ShardingOnCloud.Lib.Program ShardingOnCloud.Lib.Pool ShardingOnCloud.Operator.StorageNodeTypes

section DeepEqual

/-- What `reflect.DeepEqual` is given: a value, or a pointer to one. -/
inductive Arg (α : Type)
  | value (a : α)
  | pointer (a : α)

/-- Arguments of different types are never equal. -/
def deepEqual {α : Type} [DecidableEq α] : Arg α → Arg α → Bool
  | .value a, .value b => a = b
  | .pointer a, .pointer b => a = b
  | _, _ => false

end DeepEqual

namespace StorageNodes

open ShardingOnCloud.Operator.Calls ShardingOnCloud.Operator.StorageNodeController

/-- `reconcile` up to the status that it computes the new one from. -/
def observe (sp : StorageProvider) (node : StorageNode) : Rec (Except Res StorageNode) :=
  match reconcileProvisioner node sp with
  | none => return .error ({ requeueAfter := defaultRequeueTime }, none)
  | some provision => do
    match ← provision with
    | .error err => return .error ({ requeueAfter := defaultRequeueTime }, some err)
    | .ok (node, sp) =>
      match ← registerStorageUnit node sp with
      | .error err => return .error ({ requeue := true }, some err)
      | .ok node => return .ok node

/-- The end of `reconcile`, with the comparison as it is written: `oldStatus` is a pointer. -/
def compare (oldStatus : StorageNodeStatus) (node : StorageNode) : Rec Res :=
  let desiredState := computeDesiredState node.status
  if !deepEqual (.pointer oldStatus) (.value desiredState) then do
    match ← op (.statusUpdate { node with status := desiredState }) with
    | some err => return ({ requeue := true }, some err.text)
    | none => return ({ requeueAfter := defaultRequeueTime }, none)
  else return ({ requeueAfter := defaultRequeueTime }, none)

def conclude (oldStatus : StorageNodeStatus) : Except Res StorageNode → Rec Res
  | .error res => return res
  | .ok node => compare oldStatus node

theorem compare_eq (oldStatus : StorageNodeStatus) (node : StorageNode) :
    compare oldStatus node = storeStatus node := by
  simp only [compare, storeStatus, deepEqual, Bool.not_false, if_true]
  congr 1
  funext err
  cases err with
  | none => rfl
  | some err => rfl

theorem reconcile_eq (sp : StorageProvider) (node : StorageNode) :
    reconcile sp node = observe sp node >>= conclude node.status := by
  unfold reconcile observe
  cases reconcileProvisioner node sp with
  | none => rfl
  | some provision =>
    simp only [bind_assoc]
    congr 1
    funext held
    cases held with
    | error err => rfl
    | ok held =>
      simp only [bind_assoc]
      congr 1
      funext registered
      cases registered with
      | error err => rfl
      | ok registered => exact (compare_eq node.status registered).symm

/-- The pass has computed the status that is stored already. The times of the conditions are no
part of the model. -/
def Quiescent (sp : StorageProvider) (node : StorageNode) (tr : List Ev) : Prop :=
  ∃ tr₁ observed tr₂, Run alone (observe sp node) tr₁ (.ok observed) ∧
    computeDesiredState observed.status = node.status ∧ tr = tr₁ ++ tr₂

def Silent (tr : List Ev) : Prop := ∀ n, .main (.issue (.statusUpdate n)) ∉ tr

theorem quiescent_not_silent {sp : StorageProvider} {node : StorageNode} {tr : List Ev} {res : Res}
    (h : Run alone (reconcile sp node) tr res) (hq : Quiescent sp node tr) : ¬ Silent tr := by
  obtain ⟨tr₁, observed, tr₂, h₁, -, rfl⟩ := hq
  rw [reconcile_eq] at h
  obtain ⟨r, is, tr₃, -, -, rfl⟩ := run_call.mp (h₁.rest h)
  intro hsilent
  exact hsilent _ (List.mem_append_right _ List.mem_cons_self)

end StorageNodes

namespace Chaoses

open ShardingOnCloud.Operator.ChaosTypes ShardingOnCloud.Operator.ChaosMesh
open ShardingOnCloud.Operator.ChaosController

/-- The end of `reconcileStatus`, where `cur` is a pointer. -/
def compare (cur : ChaosCondition) (chaos : Chaos) : Rec (Option Err) :=
  if deepEqual (.pointer cur) (.value chaos.status) then return none
  else do
    match ← op (.statusUpdate chaos) with
    | some err => return some err.text
    | none => return none

def conclude (cur : ChaosCondition) : Except Err Chaos → Rec (Option Err)
  | .error err => return some err
  | .ok chaos => compare cur chaos

theorem reconcileStatus_eq (chaos : Chaos) :
    reconcileStatus chaos = updateChaosCondition chaos >>= conclude chaos.status := by
  unfold reconcileStatus
  congr 1

def Quiescent (m : MeshActions) (chaos : Chaos) (tr : List Ev) : Prop :=
  ∃ tr₁ err tr₂ observed tr₃, Run alone (reconcileChaos m chaos) tr₁ err ∧
    Run alone (updateChaosCondition chaos) tr₂ (.ok observed) ∧ observed.status = chaos.status ∧
    tr = tr₁ ++ (tr₂ ++ tr₃)

def Silent (tr : List Ev) : Prop := ∀ c, .main (.issue (.statusUpdate c)) ∉ tr

theorem quiescent_not_silent {m : MeshActions} {chaos : Chaos} {tr : List Ev} {res : Res}
    (h : Run alone (steady m chaos) tr res) (hq : Quiescent m chaos tr) : ¬ Silent tr := by
  obtain ⟨tr₁, err, tr₂, observed, tr₃, h₁, h₂, -, rfl⟩ := hq
  have hstatus := h₁.rest h
  rw [reconcileStatus_eq, bind_assoc] at hstatus
  obtain ⟨r, is, tr₄, -, -, rfl⟩ := run_call.mp (h₂.rest hstatus)
  intro hsilent
  refine hsilent _ (List.mem_append_right _ (List.mem_append_right _ List.mem_cons_self))

end Chaoses

section NodeSample

open ShardingOnCloud.Operator.Calls ShardingOnCloud.Operator.StorageNodeController

def settledProvider : StorageProvider :=
  { provisioner := .awsRdsInstance, parameters := fun _ => none }

def settledInstance : DescInstance := ⟨"available", ⟨"db-1.rds", 3306⟩⟩

def settledNode : StorageNode where
  name := "node-1"
  nameSpace := "default"
  annotations := fun k => if k = annotationsInstanceIdentifier then some "db-1" else none
  finalizers := [finalizerName]
  deletionTimestamp := false
  storageProviderName := "rds"
  replicas := 1
  status :=
    { phase := .ready
      conditions :=
        [⟨.available, .condTrue, "All instances are ready", ""⟩,
         ⟨.registered, .condFalse, "StorageNode is not registered", ""⟩]
      instances := [⟨"available", ⟨"db-1.rds", 3306⟩⟩] }

def settledEvents : List Ev :=
  whole (Op.describeInstance "db-1") (.ok (some settledInstance)) [] ++
    whole (Op.statusUpdate settledNode) none []

theorem settledNode_observe :
    Run alone (StorageNodes.observe settledProvider settledNode)
      (whole (Op.describeInstance "db-1") (.ok (some settledInstance)) []) (.ok settledNode) := by
  rw [← List.append_nil (whole _ _ _)]
  exact Run.call rfl (Run.ret _)

theorem settledNode_run :
    Run alone (reconcile settledProvider settledNode) settledEvents
      ({ requeueAfter := defaultRequeueTime }, none) := by
  rw [StorageNodes.reconcile_eq]
  refine run_bind.mpr ⟨_, _, _, settledNode_observe, ?_, rfl⟩
  rw [← List.append_nil (whole _ _ _)]
  exact Run.call rfl (Run.ret _)

theorem settledNode_quiescent : StorageNodes.Quiescent settledProvider settledNode settledEvents :=
  ⟨_, _, _, settledNode_observe, by decide, rfl⟩

end NodeSample

section ChaosSample

open ShardingOnCloud.Operator.ChaosTypes ShardingOnCloud.Operator.ChaosMesh
open ShardingOnCloud.Operator.ChaosController

def settledChaos : Chaos where
  name := "failure"
  nameSpace := "default"
  finalizers := [ChaosController.chaosFinalizerName]
  spec :=
    { podChaos := some { action := podFailure, params := { podFailure := some ⟨some "1m"⟩ } } }
  status := .allInjected

def settledObject : PodChaos where
  objectMeta := objectMetaOf settledChaos
  spec :=
    { action := "pod-failure"
      duration := some "1m"
      containerSelector := { podSelector := podSelectorOf settledChaos {} } }
  status := ⟨[(.selected, true), (.allInjected, true)], some .running⟩

def readObject : List Ev := whole (Op.get .pod) (.ok settledObject) []

theorem settledChaos_reconcile :
    Run alone (reconcileChaos .documented settledChaos) readObject none := by
  rw [← List.append_nil readObject]
  exact Run.call rfl (Run.ret _)

theorem settledChaos_observe :
    Run alone (updateChaosCondition settledChaos) readObject (.ok settledChaos) := by
  rw [← List.append_nil readObject]
  exact Run.call rfl (Run.ret _)

def settledChaosEvents : List Ev :=
  readObject ++ (readObject ++ whole (Op.statusUpdate settledChaos) none [])

theorem settledChaos_run :
    Run alone (steady .documented settledChaos) settledChaosEvents
      ({ requeueAfter := true }, none) := by
  refine run_bind.mpr ⟨_, _, _, settledChaos_reconcile, ?_, rfl⟩
  rw [Chaoses.reconcileStatus_eq, bind_assoc]
  refine run_bind.mpr ⟨_, _, _, settledChaos_observe, ?_, rfl⟩
  rw [← List.append_nil (whole _ _ _)]
  exact Run.call rfl (Run.ret _)

theorem settledChaos_quiescent :
    Chaoses.Quiescent .documented settledChaos settledChaosEvents :=
  ⟨_, _, _, _, _, settledChaos_reconcile, settledChaos_observe, rfl, rfl⟩

end ChaosSample

open ShardingOnCloud.Operator.ChaosTypes ShardingOnCloud.Operator.ChaosMesh

/-- A status is sent although it is the one that is stored, by both controllers. -/
theorem quiescent_reconciles_write {sp : StorageProvider} {node : StorageNode}
    {tr : List Calls.Ev} {res : StorageNodeController.Res} {m : MeshActions} {chaos : Chaos}
    {tr' : List ChaosController.Ev} {res' : ChaosController.Res}
    (hnode : Run alone (StorageNodeController.reconcile sp node) tr res)
    (hnodeq : StorageNodes.Quiescent sp node tr)
    (hchaos : Run alone (ChaosController.steady m chaos) tr' res')
    (hchaosq : Chaoses.Quiescent m chaos tr') :
    ¬ StorageNodes.Silent tr ∧ ¬ Chaoses.Silent tr' :=
  ⟨StorageNodes.quiescent_not_silent hnode hnodeq, Chaoses.quiescent_not_silent hchaos hchaosq⟩

theorem settled_objects_written :
    ¬ StorageNodes.Silent settledEvents ∧ ¬ Chaoses.Silent settledChaosEvents :=
  quiescent_reconciles_write settledNode_run settledNode_quiescent settledChaos_run
    settledChaos_quiescent

theorem not_all_quiescent_silent :
    ¬ (∀ sp node tr res, Run alone (StorageNodeController.reconcile sp node) tr res →
      StorageNodes.Quiescent sp node tr → StorageNodes.Silent tr) ∧
    ¬ (∀ m chaos tr res, Run alone (ChaosController.steady m chaos) tr res →
      Chaoses.Quiescent m chaos tr → Chaoses.Silent tr) := by
  constructor
  · intro h
    refine h _ _ _ _ settledNode_run settledNode_quiescent settledNode ?_
    simp [settledEvents, whole]
  · intro h
    refine h _ _ _ _ settledChaos_run settledChaos_quiescent settledChaos ?_
    simp [settledChaosEvents, readObject, whole]

end ShardingOnCloud.Operator.QuiescentWrites
