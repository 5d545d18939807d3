import ShardingOnCloud.Lib.Footprint
import ShardingOnCloud.Operator.ProxyHPA
import ShardingOnCloud.Operator.ProxyReadiness
import ShardingOnCloud.Operator.ProxyService

namespace ShardingOnCloud.Operator.ProxyController

open ShardingOnCloud.Lib.Program ShardingOnCloud.Lib.Pool ShardingOnCloud.Lib.Footprint
open ShardingOnCloud.Operator.StorageNodeTypes (Err ApiErr)
open ShardingOnCloud.Operator.ComputeNodeTypes (Service)
open ShardingOnCloud.Operator.ComputeNodeStatus (Pod)
open ShardingOnCloud.Operator.ProxyTypes ShardingOnCloud.Operator.ProxyDeployment
open ShardingOnCloud.Operator.ProxyReadiness ShardingOnCloud.Operator.ProxyHPA
open ShardingOnCloud.Operator.ProxyService

section Controller

/-- An object as it is read: what is asked for, and its status. -/
structure Stored where
  proxy : ShardingSphereProxy
  status : ProxyStatus

/-- What the controller asks of the API server, always under the name of the request. -/
inductive Op
  | getProxy
  | getDeployment
  | createDeployment (deploy : Deployment)
  | updateDeployment (deploy : Deployment)
  | getService
  | createService (service : Service)
  | updateService (service : Service)
  | listPods
  | updateStatus (status : ProxyStatus)
  | getHPA
  | createHPA (hpa : HorizontalPodAutoscaler)
  | updateHPA (hpa : HorizontalPodAutoscaler)
  | deleteHPA
  | panic

@[reducible] def OpR : Op → Type
  | .getProxy => Except ApiErr Stored
  | .getDeployment => Except ApiErr Deployment
  | .getService => Except ApiErr Service
  | .getHPA => Except ApiErr HorizontalPodAutoscaler
  | .listPods => Except ApiErr (List Pod)
  | .createDeployment _ | .updateDeployment _ | .createService _ | .updateService _
  | .updateStatus _ | .createHPA _ | .updateHPA _ | .deleteHPA => Option ApiErr
  | .panic => Empty

abbrev Rec := Proc Op OpR

abbrev Ev := Event Op OpR Empty

def op (c : Op) : Rec (OpR c) := .call c .ret

structure Result where
  requeue : Bool := false
  requeueAfter : ℕ := 0
  deriving DecidableEq, Repr

abbrev Res := Result × Option Err

/-- `WaitingForReady`, in seconds. -/
def waitingForReady : ℕ := 10

def computed {α : Type} : Option α → Rec α
  | some a => return a
  | none => do
    let x ← op .panic
    nomatch x

def written (res : Result) (c : Rec (Option ApiErr)) : Rec Res := do
  match ← c with
  | some err => return (res, some err.text)
  | none => return ({}, none)

/-- The error of the read is returned even when the object could be created. -/
def reconcileDeployment : Rec Res := do
  match ← op .getProxy with
  | .error err => return ({}, some err.text)
  | .ok rt =>
    match ← op .getDeployment with
    | .error (.notFound notFound) =>
      match ← op (.createDeployment (constructCascadingDeployment rt.proxy)) with
      | some err => return ({}, some err.text)
      | none => return ({}, some notFound)
    | .error err => return ({}, some err.text)
    | .ok deploy =>
      let exp ← computed (updateDeployment rt.proxy deploy)
      written { requeue := true } (op (.updateDeployment exp))

def reconcileService : Rec Res := do
  match ← op .getProxy with
  | .error err => return ({}, some err.text)
  | .ok rt =>
    match ← op .getService with
    | .error (.notFound notFound) =>
      match ← op (.createService (constructCascadingService rt.proxy)) with
      | some err => return ({}, some err.text)
      | none => return ({}, some notFound)
    | .error err => return ({}, some err.text)
    | .ok service =>
      let exp ← computed (updateService rt.proxy service)
      written {} (op (.updateService exp))

def reconcilePodList (clock : Clock) : Rec Res := do
  match ← op .listPods with
  | .error err => return ({}, some err.text)
  | .ok podList =>
    match ← op .getProxy with
    | .error err => return ({}, some err.text)
    | .ok rt =>
      written {} (op (.updateStatus (reconcileStatus clock podList rt.proxy rt.status)))

def scalingEnabled (proxy : ShardingSphereProxy) : Bool :=
  proxy.spec.automaticScaling.any (·.enable)

def reconcileHPA : Rec Res := do
  match ← op .getProxy with
  | .error err => return ({}, some err.text)
  | .ok rt =>
    match ← op .getHPA with
    | .error (.notFound _) =>
      if scalingEnabled rt.proxy then
        let exp ← computed (constructHPA rt.proxy)
        written {} (op (.createHPA exp))
      else return ({}, none)
    | .error err => return ({}, some err.text)
    | .ok hpa =>
      if scalingEnabled rt.proxy then
        let exp ← computed (updateHPA rt.proxy hpa)
        written {} (op (.updateHPA exp))
      else written {} (op .deleteHPA)

/-- The steps are done one after the other, until one of them fails. -/
def inTurn : List (Rec Res) → Rec Res
  | [] => return ({ requeueAfter := waitingForReady }, none)
  | step :: steps => do
    match ← step with
    | (res, some err) => return (res, some err)
    | (_, none) => inTurn steps

def reconcile (clock : Clock) : Rec Res :=
  inTurn [reconcileDeployment, reconcileService, reconcilePodList clock, reconcileHPA]

/-- `Reconcile`. An object that is gone is left alone. -/
def reconcileRequest (clock : Clock) : Rec Res := do
  match ← op .getProxy with
  | .error (.notFound _) => return ({}, none)
  | .error err => return ({}, some err.text)
  | .ok _ => reconcile clock

end Controller

section World

/-- What is stored under the name of the request, the pods of the proxy, and what a deletion is
answered. -/
structure State where
  rt : Option Stored
  deployment : Option Deployment
  service : Option Service
  hpa : Option HorizontalPodAutoscaler
  pods : List Pod
  deleteErr : Option ApiErr := none

def read {α : Type} : Option α → Except ApiErr α
  | some a => .ok a
  | none => .error (.notFound "not found")

/-- An API server on which everything succeeds but perhaps the deletion. -/
def serve (s : State) : (c : Op) → Option (OpR c × State)
  | .getProxy => some (read s.rt, s)
  | .getDeployment => some (read s.deployment, s)
  | .createDeployment deploy | .updateDeployment deploy =>
    some (none, { s with deployment := some deploy })
  | .getService => some (read s.service, s)
  | .createService service | .updateService service =>
    some (none, { s with service := some service })
  | .listPods => some (.ok s.pods, s)
  | .updateStatus status =>
    some (none, { s with rt := s.rt.map (fun rt => { rt with status := status }) })
  | .getHPA => some (read s.hpa, s)
  | .createHPA hpa | .updateHPA hpa => some (none, { s with hpa := some hpa })
  | .deleteHPA => match s.deleteErr with
    | some err => some (some err, s)
    | none => some (none, { s with hpa := none })
  | .panic => none

end World

section Steps

variable {s t u : State} {rt : Stored} {α β : Type}

theorem op_ends {c : Op} {r : OpR c} {f : OpR c → Rec α} {a : α} (hc : serve s c = some (r, t))
    (h : Ends serve t (f r) a u) : Ends serve s (op c >>= f) a u := ends_call hc h

theorem op_alone {c : Op} {r : OpR c} (hc : serve s c = some (r, t)) : Ends serve s (op c) r t :=
  ends_call hc (ends_ret _ _)

theorem op_stops {c : Op} {r : OpR c} {f : OpR c → Rec α} (hc : serve s c = some (r, t))
    (h : Stops serve t (f r)) : Stops serve s (op c >>= f) := stops_call hc h

theorem written_ends {res : Result} {c : Rec (Option ApiErr)} {err : Option ApiErr}
    (hc : Ends serve s c err t) :
    Ends serve s (written res c) (if err.isSome then res else {}, err.map ApiErr.text) t := by
  refine ends_bind hc ?_
  cases err <;> exact ends_ret _ _

theorem written_ok {res : Result} {c : Rec (Option ApiErr)} (hc : Ends serve s c none t) :
    Ends serve s (written res c) ({}, none) t := written_ends hc

theorem computed_ends {a : α} {f : α → Rec β} {b : β} {x : Option α} (hx : x = some a)
    (h : Ends serve s (f a) b t) : Ends serve s (computed x >>= f) b t := by
  subst hx
  exact h

theorem computed_stops {f : α → Rec β} {x : Option α} (hx : x = none) :
    Stops serve s (computed x >>= f) := by
  subst hx
  rfl

theorem serve_getProxy (h : s.rt = some rt) : serve s .getProxy = some (.ok rt, s) := by
  rw [serve, h]
  rfl

theorem serve_getDeployment {d : Option Deployment} (h : s.deployment = d) :
    serve s .getDeployment = some (read d, s) := by
  rw [serve, h]

theorem serve_getService {d : Option Service} (h : s.service = d) :
    serve s .getService = some (read d, s) := by
  rw [serve, h]

theorem serve_getHPA {d : Option HorizontalPodAutoscaler} (h : s.hpa = d) :
    serve s .getHPA = some (read d, s) := by
  rw [serve, h]

theorem reconcileDeployment_present {d e : Deployment} (hrt : s.rt = some rt)
    (hd : s.deployment = some d) (hu : updateDeployment rt.proxy d = some e) :
    Ends serve s reconcileDeployment ({}, none) { s with deployment := some e } := by
  refine op_ends (serve_getProxy hrt) ?_
  refine op_ends (serve_getDeployment hd) ?_
  exact computed_ends hu (written_ok (op_alone rfl))

theorem reconcileDeployment_panics {d : Deployment} (hrt : s.rt = some rt)
    (hd : s.deployment = some d) (hu : updateDeployment rt.proxy d = none) :
    Stops serve s reconcileDeployment := by
  refine op_stops (serve_getProxy hrt) ?_
  refine op_stops (serve_getDeployment hd) ?_
  exact computed_stops hu

theorem reconcileDeployment_absent (hrt : s.rt = some rt) (hd : s.deployment = none) :
    Ends serve s reconcileDeployment ({}, some "not found")
      { s with deployment := some (constructCascadingDeployment rt.proxy) } := by
  refine op_ends (serve_getProxy hrt) ?_
  refine op_ends (serve_getDeployment hd) ?_
  exact op_ends rfl (ends_ret _ _)

theorem reconcileService_present {d e : Service} (hrt : s.rt = some rt)
    (hd : s.service = some d) (hu : updateService rt.proxy d = some e) :
    Ends serve s reconcileService ({}, none) { s with service := some e } := by
  refine op_ends (serve_getProxy hrt) ?_
  refine op_ends (serve_getService hd) ?_
  exact computed_ends hu (written_ok (op_alone rfl))

theorem reconcileService_absent (hrt : s.rt = some rt) (hd : s.service = none) :
    Ends serve s reconcileService ({}, some "not found")
      { s with service := some (constructCascadingService rt.proxy) } := by
  refine op_ends (serve_getProxy hrt) ?_
  refine op_ends (serve_getService hd) ?_
  exact op_ends rfl (ends_ret _ _)

def reported (clock : Clock) (rt : Stored) (s : State) : State :=
  { s with rt := some ⟨rt.proxy, reconcileStatus clock s.pods rt.proxy rt.status⟩ }

theorem reconcilePodList_ends (clock : Clock) (hrt : s.rt = some rt) :
    Ends serve s (reconcilePodList clock) ({}, none) (reported clock rt s) := by
  have hserve : serve s (.updateStatus (reconcileStatus clock s.pods rt.proxy rt.status)) =
      some (none, reported clock rt s) := by
    rw [serve, hrt]
    rfl
  refine op_ends (c := .listPods) rfl ?_
  refine op_ends (serve_getProxy hrt) ?_
  exact written_ok (op_alone hserve)

theorem reconcileHPA_created {hpa : HorizontalPodAutoscaler} (hrt : s.rt = some rt)
    (hd : s.hpa = none) (hen : scalingEnabled rt.proxy = true)
    (hu : constructHPA rt.proxy = some hpa) :
    Ends serve s reconcileHPA ({}, none) { s with hpa := some hpa } := by
  refine op_ends (serve_getProxy hrt) ?_
  refine op_ends (serve_getHPA hd) ?_
  simp only [read, hen, if_true]
  exact computed_ends hu (written_ok (op_alone rfl))

theorem reconcileHPA_updated {d hpa : HorizontalPodAutoscaler} (hrt : s.rt = some rt)
    (hd : s.hpa = some d) (hen : scalingEnabled rt.proxy = true)
    (hu : updateHPA rt.proxy d = some hpa) :
    Ends serve s reconcileHPA ({}, none) { s with hpa := some hpa } := by
  refine op_ends (serve_getProxy hrt) ?_
  refine op_ends (serve_getHPA hd) ?_
  simp only [read, hen, if_true]
  exact computed_ends hu (written_ok (op_alone rfl))

theorem reconcileHPA_unwanted (hrt : s.rt = some rt) (hd : s.hpa = none)
    (hen : scalingEnabled rt.proxy = false) : Ends serve s reconcileHPA ({}, none) s := by
  refine op_ends (serve_getProxy hrt) ?_
  refine op_ends (serve_getHPA hd) ?_
  simp only [read, hen]
  exact ends_ret _ _

theorem reconcileHPA_deleted {d : HorizontalPodAutoscaler} (hrt : s.rt = some rt)
    (hd : s.hpa = some d) (hen : scalingEnabled rt.proxy = false) :
    Ends serve s reconcileHPA ({}, s.deleteErr.map ApiErr.text)
      (if s.deleteErr.isSome then s else { s with hpa := none }) := by
  have hserve : serve s .deleteHPA =
      some (s.deleteErr, if s.deleteErr.isSome then s else { s with hpa := none }) := by
    rw [serve]
    cases s.deleteErr <;> rfl
  refine op_ends (serve_getProxy hrt) ?_
  refine op_ends (serve_getHPA hd) ?_
  simp only [read, hen]
  have hends : Ends serve s (written {} (op .deleteHPA))
      (if s.deleteErr.isSome then {} else {}, s.deleteErr.map ApiErr.text) _ :=
    written_ends (op_alone hserve)
  rwa [ite_self] at hends

theorem inTurn_ok {step : Rec Res} {steps : List (Rec Res)} {res : Result} {r : Res}
    (h : Ends serve s step (res, none) t) (hs : Ends serve t (inTurn steps) r u) :
    Ends serve s (inTurn (step :: steps)) r u := ends_bind h hs

theorem inTurn_err {step : Rec Res} {res : Result} {err : Err}
    (h : Ends serve s step (res, some err) t) (steps : List (Rec Res)) :
    Ends serve s (inTurn (step :: steps)) (res, some err) t := ends_bind h (ends_ret _ _)

theorem inTurn_stops {step : Rec Res} (h : Stops serve s step) (steps : List (Rec Res)) :
    Stops serve s (inTurn (step :: steps)) := stops_bind h

end Steps

end ShardingOnCloud.Operator.ProxyController
