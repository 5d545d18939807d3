import ShardingOnCloud.Lib.Footprint
import ShardingOnCloud.Operator.ChaosMesh

namespace ShardingOnCloud.Operator.ChaosController

open ShardingOnCloud.Lib.Program
open ShardingOnCloud.Operator.StorageNodeTypes (Err ApiErr)
open ShardingOnCloud.Operator.ChaosTypes ShardingOnCloud.Operator.ChaosMesh

def chaosFinalizerName : String := "shardingsphere.apache.org/finalizer"

section Calls

/-- The kinds of objects that the controller keeps for a Chaos, under its name. -/
inductive Kind
  | pod
  | stress
  | network
  deriving DecidableEq, Repr

@[reducible] def Obj : Kind → Type
  | .pod => PodChaos
  | .stress => StressChaos
  | .network => NetworkChaos

/-- What the controller asks of the API server. -/
inductive Op
  | getChaos
  | updateChaos (c : Chaos)
  | statusUpdate (c : Chaos)
  | get (k : Kind)
  | create (k : Kind) (o : Obj k)
  | update (k : Kind) (o : Obj k)
  | delete (k : Kind)
  | panic

@[reducible] def OpR : Op → Type
  | .getChaos => Except ApiErr Chaos
  | .updateChaos _ | .statusUpdate _ => Option ApiErr
  | .get k => Except ApiErr (Obj k)
  | .create _ _ | .update _ _ | .delete _ => Option ApiErr
  | .panic => Empty

abbrev Rec := Proc Op OpR

abbrev Ev := Event Op OpR Empty

def op (c : Op) : Rec (OpR c) := .call c .ret

end Calls

section Objects

variable (m : MeshActions)

/-- The object of a kind that belongs to a Chaos, with no result where the code panics. -/
def build (chaos : Chaos) : (k : Kind) → Option (Except Err (Obj k))
  | .pod => (newPodChaos m chaos).map .ok
  | .stress => newStressChaos chaos
  | .network => (newNetworkChaos m chaos).map .ok

/-- The same object with another specification, and whether that is another one. -/
def withSpecOf : (k : Kind) → Obj k → Obj k → Obj k × Bool
  | .pod, s, t => ({ t with spec := s.spec }, s.spec ≠ t.spec)
  | .stress, s, t => ({ t with spec := s.spec }, s.spec ≠ t.spec)
  | .network, s, t => ({ t with spec := s.spec }, s.spec ≠ t.spec)

def statusOf : (k : Kind) → Obj k → MeshStatus
  | .pod, o => o.status
  | .stress, o => o.status
  | .network, o => o.status

def getByNamespacedName (k : Kind) : Rec (Except Err (Option (Obj k))) := do
  match ← op (.get k) with
  | .ok o => return .ok (some o)
  | .error (.notFound _) => return .ok none
  | .error err => return .error err.text

def built (chaos : Chaos) (k : Kind) : Rec (Except Err (Obj k)) :=
  match build m chaos k with
  | some res => return res
  | none => do
    let x ← op .panic
    nomatch x

def createObject (chaos : Chaos) (k : Kind) : Rec (Option Err) := do
  match ← built m chaos k with
  | .error err => return some err
  | .ok o =>
    match ← op (.create k o) with
    | some err => return some err.text
    | none => return none

def updateObject (chaos : Chaos) (k : Kind) (t : Obj k) : Rec (Option Err) := do
  match ← built m chaos k with
  | .error err => return some err
  | .ok s =>
    if (withSpecOf k s t).2 then
      match ← op (.update k (withSpecOf k s t).1) with
      | some err => return some err.text
      | none => return none
    else return none

def reconcileObject (chaos : Chaos) (k : Kind) : Rec (Option Err) := do
  match ← getByNamespacedName k with
  | .error err => return some err
  | .ok (some o) => updateObject m chaos k o
  | .ok none => createObject m chaos k

def deleteObject (k : Kind) : Rec (Option Err) := do
  match ← getByNamespacedName k with
  | .error err => return some err
  | .ok none => return none
  | .ok (some _) =>
    match ← op (.delete k) with
    | some err => return some err.text
    | none => return none

def deletePodChaos : Rec (Option Err) := deleteObject .pod
def deleteStressChaos : Rec (Option Err) := deleteObject .stress
def deleteNetworkChaos : Rec (Option Err) := deleteObject .network

end Objects

section Reconcile

variable (m : MeshActions)

/-- The kind of object that an action on pods is carried out with. -/
def podKind (action : PodChaosAction) : Option Kind :=
  if action = podFailure ∨ action = containerKill ∨ action = podKill then some .pod
  else if action = cpuStress ∨ action = memoryStress then some .stress
  else none

def reconcilePodChaos (chaos : Chaos) (podChaos : PodChaosSpec) : Rec (Option Err) :=
  match podKind podChaos.action with
  | some k => reconcileObject m chaos k
  | none => return none

def reconcileNetworkChaos (chaos : Chaos) : Rec (Option Err) := reconcileObject m chaos .network

/-- The end of `reconcileChaos`. -/
def reconcileNetwork (chaos : Chaos) : Rec (Option Err) :=
  match chaos.spec.networkChaos with
  | some _ => reconcileNetworkChaos m chaos
  | none => return none

def reconcileChaos (chaos : Chaos) : Rec (Option Err) :=
  match chaos.spec.podChaos with
  | some podChaos => do
    match ← reconcilePodChaos m chaos podChaos with
    | some err => return some err
    | none => reconcileNetwork m chaos
  | none => reconcileNetwork m chaos

def conditionOf (chaos : Chaos) (k : Kind) : Rec (Except Err Chaos) := do
  match ← getByNamespacedName k with
  | .error err => return .error err
  | .ok o => return .ok { chaos with status := convertChaosStatus (o.map (statusOf k)) }

def updateNetworkCondition (chaos : Chaos) : Rec (Except Err Chaos) :=
  match chaos.spec.networkChaos with
  | some _ => conditionOf chaos .network
  | none => return .ok chaos

def updateChaosCondition (chaos : Chaos) : Rec (Except Err Chaos) :=
  match chaos.spec.podChaos.bind (fun podChaos => podKind podChaos.action) with
  | some k => do
    match ← conditionOf chaos k with
    | .error err => return .error err
    | .ok chaos => updateNetworkCondition chaos
  | none => updateNetworkCondition chaos

/-- A pointer is compared with a value, so that the status is always sent. -/
def reconcileStatus (chaos : Chaos) : Rec (Option Err) := do
  match ← updateChaosCondition chaos with
  | .error err => return some err
  | .ok chaos =>
    match ← op (.statusUpdate chaos) with
    | some err => return some err.text
    | none => return none

/-- Only the kind of the current action is deleted, and the network is not looked at when there
is something about pods. -/
def deleteExternalResources (chao : Chaos) : Rec (Option Err) :=
  match chao.spec.podChaos with
  | some podChaos =>
    match podKind podChaos.action with
    | some .stress => deleteStressChaos
    | some _ => deletePodChaos
    | none => return none
  | none =>
    match chao.spec.networkChaos with
    | some _ => deleteNetworkChaos
    | none => return none

structure Result where
  requeue : Bool := false
  requeueAfter : Bool := false

abbrev Res := Result × Option Err

def addFinalizer (c : Chaos) : Chaos := { c with finalizers := c.finalizers ++ [chaosFinalizerName] }

def removeFinalizer (c : Chaos) : Chaos :=
  { c with finalizers := c.finalizers.filter (· ≠ chaosFinalizerName) }

/-- The end of `finalize`. -/
def release (ssChaos : Chaos) : Rec Res := do
  match ← op (.updateChaos (removeFinalizer ssChaos)) with
  | some err => return ({}, some err.text)
  | none => return ({}, none)

def finalize (ssChaos : Chaos) : Rec Res := do
  match ← deleteExternalResources ssChaos with
  | some err => return ({}, some err)
  | none => release ssChaos

/-- The second half of `Reconcile`. The error that is returned is that of the first read. -/
def steady (ssChaos : Chaos) : Rec Res := do
  let err ← reconcileChaos m ssChaos
  let err' ← reconcileStatus ssChaos
  if err.isSome ∨ err'.isSome then return ({ requeue := true }, none)
  else return ({ requeueAfter := true }, none)

def adopt (ssChaos : Chaos) : Rec Res := do
  match ← op (.updateChaos (addFinalizer ssChaos)) with
  | some err => return ({}, some err.text)
  | none => steady m (addFinalizer ssChaos)

/-- `Reconcile` with the object at hand. One that is to be deleted and no longer has the finalizer
is treated like any other. -/
def handle (ssChaos : Chaos) : Rec Res :=
  if !ssChaos.deletionTimestamp then
    if chaosFinalizerName ∈ ssChaos.finalizers then steady m ssChaos else adopt m ssChaos
  else if chaosFinalizerName ∈ ssChaos.finalizers then finalize ssChaos
  else steady m ssChaos

def reconcile : Rec Res := do
  match ← op .getChaos with
  | .error (.notFound _) => return ({}, none)
  | .error err => return ({}, some err.text)
  | .ok ssChaos => handle m ssChaos

end Reconcile

end ShardingOnCloud.Operator.ChaosController
