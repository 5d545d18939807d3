import ShardingOnCloud.Operator.ComputeNodeService
import ShardingOnCloud.Operator.ComputeNodeStatus

namespace ShardingOnCloud.Operator.ComputeNodeController

open ShardingOnCloud.Lib.Program
open ShardingOnCloud.Operator.StorageNodeTypes ShardingOnCloud.Operator.ComputeNodeTypes
open ShardingOnCloud.Operator.ComputeNodeService (updateService adjustPortBindings)
open ShardingOnCloud.Operator.ComputeNodeStatus

/-- The objects that are built, compared with what is stored, and written as a whole. -/
inductive Kind
  | deployment
  | configMap
  deriving DecidableEq

/-- An object, with the part of it that is compared: the specification of a Deployment,
and the data of a ConfigMap. -/
structure Object (D : Type) where
  objectMeta : ObjectMeta
  content : D

/-- `BuildDeployment` and `BuildConfigMap`, with no result where they panic. -/
abbrev Builder (T : Kind → Type) := (k : Kind) → ComputeNode → Option (Object (T k))

section Controller

variable {T : Kind → Type}

/-- What the controller asks of the API server. -/
inductive Op (T : Kind → Type)
  | getComputeNode (name nameSpace : String)
  | listPods (nameSpace : String) (labels : Labels)
  | updateStatus (cn : ComputeNode)
  | get (k : Kind) (name nameSpace : String)
  | create (k : Kind) (object : Object (T k))
  | update (k : Kind) (object : Object (T k))
  | service (c : ComputeNodeService.Op)

@[reducible] def OpR : Op T → Type
  | .getComputeNode _ _ => Except ApiErr ComputeNode
  | .listPods _ _ => Except ApiErr (List Pod)
  | .get k _ _ => Except ApiErr (Object (T k))
  | .updateStatus _ | .create _ _ | .update _ _ => Option ApiErr
  | .service c => ComputeNodeService.OpR c

abbrev Rec (T : Kind → Type) := Proc (Op T) OpR

abbrev Ev (T : Kind → Type) := Event (Op T) OpR Empty

def op (c : Op T) : Rec T (OpR c) := .call c .ret

def onService {α : Type} : ComputeNodeService.Rec α → Rec T α
  | .ret a => .ret a
  | .call c k => .call (.service c) (fun r => onService (k r))

def panic {α : Type} : Rec T α := .call (.service .panic) (fun r => nomatch r)

def build (b : Builder T) (k : Kind) (cn : ComputeNode) : Rec T (Object (T k)) :=
  match b k cn with
  | some object => return object
  | none => panic

/-- `createDeployment` and `createConfigMap`. -/
def create (b : Builder T) (k : Kind) (cn : ComputeNode) : Rec T (Option Err) := do
  let object ← build b k cn
  match ← op (.create k object) with
  | none | some (.alreadyExists _) => return none
  | some err => return some err.text

/-- `updateDeployment` and `updateConfigMap`. -/
def update [∀ k, DecidableEq (T k)] (b : Builder T) (k : Kind) (cn : ComputeNode)
    (old : Object (T k)) : Rec T (Option Err) := do
  let exp ← build b k cn
  if old.content ≠ exp.content then
    match ← op (.update k { exp with objectMeta := old.objectMeta }) with
    | some err => return some err.text
    | none => return none
  else return none

/-- `reconcileDeployment` and `reconcileConfigMap`. -/
def reconcileObject [∀ k, DecidableEq (T k)] (b : Builder T) (k : Kind) (cn : ComputeNode) :
    Rec T (Option Err) := do
  match ← op (.get k cn.objectMeta.name cn.objectMeta.nameSpace) with
  | .ok old => update b k cn old
  | .error (.notFound _) => create b k cn
  | .error err => return some err.text

def reconcileDeployment [∀ k, DecidableEq (T k)] (b : Builder T) (cn : ComputeNode) :
    Rec T (Option Err) :=
  reconcileObject b .deployment cn

def reconcileConfigMap [∀ k, DecidableEq (T k)] (b : Builder T) (cn : ComputeNode) :
    Rec T (Option Err) :=
  reconcileObject b .configMap cn

/-- The port bindings of the ComputeNode that was passed are changed in place, which the
steps that come later see. -/
def reconcileService (cn : ComputeNode) : Rec T (Option Err × ComputeNode) := do
  match ← op (.service (.getService cn.objectMeta.name cn.objectMeta.nameSpace)) with
  | .ok svc =>
    let err ← onService (updateService cn svc)
    return (err, (adjustPortBindings cn svc).getD cn)
  | .error (.notFound _) =>
    let err ← onService (ComputeNodeService.createService cn)
    return (err, cn)
  | .error err => return (some err.text, cn)

def noService : Service where
  objectMeta := ⟨"", "", ∅, fun _ => none⟩
  spec := { type := .unset, selector := ∅, ports := [] }

/-- What `metav1.LabelSelectorAsSelector` makes of a selector, as a text. There is none where
it returns an error, for which match expressions may be the reason, too. -/
abbrev Selectors := Labels → Option String

/-- The end of `reconcileStatus`. The status of the ComputeNode that was passed is changed in
place. -/
def writeStatus (clock : Clock) (selector : String) (cn : ComputeNode) (pods : List Pod)
    (svc : Service) : Rec T (Option Err × ComputeNode) := do
  let cn := { cn with status := reconcileComputeNodeStatus clock pods svc cn }
  match ← op (.getComputeNode cn.objectMeta.name cn.objectMeta.nameSpace) with
  | .error err => return (some err.text, cn)
  | .ok rt =>
    let cn := { cn with status := { cn.status with selector := selector } }
    match ← op (.updateStatus { rt with status := cn.status }) with
    | some err => return (some err.text, cn)
    | none => return (none, cn)

def reconcileStatus (clock : Clock) (sel : Selectors) (cn : ComputeNode) :
    Rec T (Option Err × ComputeNode) :=
  match cn.selector with
  | none => panic
  | some labels =>
    match sel labels with
    | none => return (some "error retrieving ComputeNode labels", cn)
    | some selector => do
      match ← op (.listPods cn.objectMeta.nameSpace labels) with
      | .error err => return (some err.text, cn)
      | .ok pods =>
        match ← op (.service (.getService cn.objectMeta.name cn.objectMeta.nameSpace)) with
        | .error (.notFound _) => writeStatus clock selector cn pods noService
        | .error err => return (some err.text, cn)
        | .ok svc => writeStatus clock selector cn pods svc

/-- What `Reconcile` does with the ComputeNode. An error of the status is only logged, and the
error of one of the three objects does not keep the others from being reconciled. -/
def reconcileFound [∀ k, DecidableEq (T k)] (b : Builder T) (clock : Clock) (sel : Selectors)
    (cn : ComputeNode) : Rec T (Option Err) := do
  let status ← reconcileStatus clock sel cn
  let deployErr ← reconcileDeployment b status.2
  let svc ← reconcileService status.2
  let cmErr ← reconcileConfigMap b svc.2
  return [deployErr, svc.1, cmErr].reduceOption.head?

/-- `Reconcile`. -/
def reconcile [∀ k, DecidableEq (T k)] (b : Builder T) (clock : Clock) (sel : Selectors)
    (name nameSpace : String) : Rec T (Option Err) := do
  match ← op (.getComputeNode name nameSpace) with
  | .error (.notFound _) => return none
  | .error err => return some err.text
  | .ok cn => reconcileFound b clock sel cn

end Controller

end ShardingOnCloud.Operator.ComputeNodeController
