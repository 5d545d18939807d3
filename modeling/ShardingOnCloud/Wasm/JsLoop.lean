import Mathlib

namespace ShardingOnCloud.Wasm.JsLoop

section Tasks

inductive NetPollEvent
  | accept
  | read
  | connect
  deriving DecidableEq

inductive IoError
  | os (code : ℕ)
  | connectionAborted
  | other
  deriving DecidableEq

inductive PollResult
  | timeout
  | accept (conn : ℕ)
  | read (data : List UInt8)
  | connect (conn : ℕ)
  | error (e : IoError)
  deriving DecidableEq

inductive PollTask (κ : Type)
  | timeout (timeout : ℕ) (callback : κ)
  | socket (s : ℕ) (event : NetPollEvent) (callback : κ)
  | socketTimeout (s : ℕ) (event : NetPollEvent) (timeout : ℕ) (callback : κ)
  deriving DecidableEq

variable {κ : Type}

def PollTask.callback : PollTask κ → κ
  | .timeout _ callback => callback
  | .socket _ _ callback => callback
  | .socketTimeout _ _ _ callback => callback

inductive Eventtype
  | clock
  | fdRead
  | fdWrite
  deriving DecidableEq

inductive SubscriptionUU
  | clock (timeout : ℕ)
  | fdRead (fileDescriptor : ℕ)
  deriving DecidableEq

structure Subscription where
  userdata : ℕ
  tag : Eventtype
  u : SubscriptionUU
  deriving DecidableEq

def clockSubscription (timeout index : ℕ) : Subscription :=
  ⟨index, .clock, .clock (timeout % 2 ^ 64)⟩

def socketSubscription (s : ℕ) (event : NetPollEvent) (index : ℕ) : Subscription :=
  match event with
  | .accept | .read => ⟨index, .fdRead, .fdRead (s % 2 ^ 32)⟩
  | .connect => ⟨index, .fdWrite, .fdRead (s % 2 ^ 32)⟩

def PollTask.asSubscription (task : PollTask κ) (index : ℕ) : List Subscription :=
  match task with
  | .timeout t _ => [clockSubscription t index]
  | .socket s event _ => [socketSubscription s event index]
  | .socketTimeout s event t _ => [socketSubscription s event index, clockSubscription t index]

structure Event where
  userdata : ℕ
  error : ℕ
  type : Eventtype
  flags : ℕ
  deriving DecidableEq

/-- The slots of the selector. -/
abbrev Tasks (κ : Type) := List (Option (PollTask κ))

def addTask : Tasks κ → PollTask κ → Tasks κ × ℕ
  | [], task => ([some task], 0)
  | none :: tasks, task => (some task :: tasks, 0)
  | some t :: tasks, task =>
    let r := addTask tasks task
    (some t :: r.1, r.2 + 1)

def deleteTask (tasks : Tasks κ) (id : ℕ) : Tasks κ × Option (PollTask κ) :=
  (tasks.set id none, tasks[id]?.join)

/-- The task a call of `clear_timeout` takes. -/
def timeoutAt (tasks : Tasks κ) (timeoutId : ℕ) : Option (PollTask κ) :=
  match tasks[timeoutId]?.join with
  | some (.timeout timeout callback) => some (.timeout timeout callback)
  | _ => none

def subscriptionsFrom : ℕ → Tasks κ → List Subscription
  | _, [] => []
  | i, none :: tasks => subscriptionsFrom (i + 1) tasks
  | i, some task :: tasks => task.asSubscription i ++ subscriptionsFrom (i + 1) tasks

def subscriptions (tasks : Tasks κ) : List Subscription := subscriptionsFrom 0 tasks

end Tasks

section Loop

/-- What JavaScript code asks of the loop, with the names of the callbacks it hands over. -/
inductive Op (κ : Type)
  | setTimeout (deadline : ℕ) (callback : κ)
  | clearTimeout (timeoutId : ℕ)
  | setNextTick (callback : κ)
  | await (s : ℕ) (event : NetPollEvent) (deadline : Option ℕ) (callback : κ)

/-- What happens to callbacks, in its order. -/
inductive Entry (κ : Type)
  | queued (callback : κ)
  | ticked (callback : κ)
  | added (callback : κ)
  | cleared (callback : κ)
  | called (callback : κ) (result : PollResult)
  | dropped (callback : κ)
  | polled
  deriving DecidableEq

/-- The fields of the source, with a count of the times that control left the loop and a log. -/
structure EventLoop (κ : Type) where
  nextTickQueue : List κ := []
  tasks : Tasks κ := []
  time : ℕ := 0
  log : List (Entry κ) := []

/-- The code and the host around the loop, by the time at which they have control. -/
structure Outside (κ : Type) where
  script : ℕ → List (Op κ)
  pendingJobs : ℕ → List (Op κ) × Bool
  pollOneoff : ℕ → List Subscription → Except ℕ (List Event)
  accept : ℕ → ℕ → Except IoError ℕ
  read : ℕ → ℕ → Except IoError (List UInt8)

variable {κ : Type}

def EventLoop.note (L : EventLoop κ) (e : Entry κ) : EventLoop κ := { L with log := L.log ++ [e] }

def EventLoop.add (L : EventLoop κ) (task : PollTask κ) : EventLoop κ :=
  { L with tasks := (addTask L.tasks task).1 }.note (.added task.callback)

def EventLoop.clearTimeout (L : EventLoop κ) (timeoutId : ℕ) : EventLoop κ :=
  match timeoutAt L.tasks timeoutId with
  | some task => { L with tasks := L.tasks.set timeoutId none }.note (.cleared task.callback)
  | none => L

def EventLoop.setNextTick (L : EventLoop κ) (callback : κ) : EventLoop κ :=
  { L with nextTickQueue := L.nextTickQueue ++ [callback] }.note (.queued callback)

def perform (L : EventLoop κ) : Op κ → EventLoop κ
  | .setTimeout deadline callback => L.add (.timeout deadline callback)
  | .clearTimeout timeoutId => L.clearTimeout timeoutId
  | .setNextTick callback => L.setNextTick callback
  | .await s event none callback => L.add (.socket s event callback)
  | .await s event (some deadline) callback => L.add (.socketTimeout s event deadline callback)

def performAll (L : EventLoop κ) (ops : List (Op κ)) : EventLoop κ := ops.foldl perform L

def call (O : Outside κ) (L : EventLoop κ) : EventLoop κ :=
  performAll { L with time := L.time + 1 } (O.script L.time)

def netResult (O : Outside κ) (time : ℕ) (e : Event) (s : ℕ) : NetPollEvent → PollResult
  | .accept =>
    match O.accept time s with
    | .ok conn => .accept conn
    | .error err => .error err
  | .read =>
    match O.read time s with
    | .ok data => .read data
    | .error err => .error err
  | .connect => if 0 < e.flags &&& 1 then .error .connectionAborted else .connect s

def socketResult (O : Outside κ) (time : ℕ) (e : Event) (s : ℕ) (event : NetPollEvent) :
    PollResult :=
  if 0 < e.error then .error (.os e.error) else netResult O time e s event

/-- What the callback of a task is called with, where it is called. -/
def pollResult (O : Outside κ) (time : ℕ) (e : Event) : PollTask κ → Option PollResult
  | .timeout _ _ => if e.type = .clock then some .timeout else none
  | .socketTimeout s event _ _ =>
    if e.type = .clock then some .timeout else some (socketResult O time e s event)
  | .socket s event _ => if e.type = .clock then none else some (socketResult O time e s event)

def handle (O : Outside κ) (L : EventLoop κ) (e : Event) : EventLoop κ :=
  match deleteTask L.tasks e.userdata with
  | (_, none) => L
  | (tasks, some task) =>
    match pollResult O L.time e task with
    | some result => call O ({ L with tasks := tasks }.note (.called task.callback result))
    | none => { L with tasks := tasks }.note (.dropped task.callback)

def handleAll (O : Outside κ) (L : EventLoop κ) (es : List Event) : EventLoop κ :=
  es.foldl (handle O) L

def poll (O : Outside κ) (L : EventLoop κ) : Except IoError ℕ × EventLoop κ :=
  if subscriptions L.tasks = [] then (.ok 0, L)
  else
    match O.pollOneoff L.time (subscriptions L.tasks) with
    | .error code => (.error (.os code), { L with time := L.time + 1 }.note .polled)
    | .ok es => (.ok es.length, handleAll O ({ L with time := L.time + 1 }.note .polled) es)

def runTickTask (O : Outside κ) : ℕ → EventLoop κ → (ℕ × Bool) × EventLoop κ
  | 0, L => ((0, L.nextTickQueue.isEmpty), L)
  | fuel + 1, L =>
    match L.nextTickQueue with
    | [] => ((0, true), L)
    | f :: queue =>
      let r := runTickTask O fuel (call O ({ L with nextTickQueue := queue }.note (.ticked f)))
      ((r.1.1 + 1, r.1.2), r.2)

inductive Status
  | running
  | finished (r : Except IoError ℕ)

def runOnce (O : Outside κ) (fuel : ℕ) (L : EventLoop κ) : Status × EventLoop κ :=
  match runTickTask O fuel L with
  | ((_, false), L) => (.running, L)
  | ((0, true), L) =>
    let r := poll O L
    (.finished r.1, r.2)
  | ((n + 1, true), L) => (.finished (.ok (n + 1)), L)

def runPendingJobs (O : Outside κ) (L : EventLoop κ) : Bool × EventLoop κ :=
  let jobs := O.pendingJobs L.time
  (jobs.2, performAll { L with time := L.time + 1 } jobs.1)

def jsLoop (O : Outside κ) (ticks : ℕ) : ℕ → EventLoop κ → Status × EventLoop κ
  | 0, L => (.running, L)
  | fuel + 1, L =>
    match runPendingJobs O L with
    | (false, L) => (.finished (.error .other), L)
    | (true, L) =>
      match runOnce O ticks L with
      | (.running, L) => (.running, L)
      | (.finished (.error e), L) => (.finished (.error e), L)
      | (.finished (.ok 0), L) => (.finished (.ok 0), L)
      | (.finished (.ok (_ + 1)), L) => jsLoop O ticks fuel L

end Loop

section Timers

/-- The deadline of a timer in nanoseconds, for the milliseconds that JavaScript code gives. -/
def deadline (now : ℕ) (timeout : BitVec 32) : ℕ := now + (timeout.signExtend 64).toNat * 10 ^ 6

/-- The conversions of a negative timeout cancel out. -/
theorem clockSubscription_deadline (now : ℕ) (timeout : BitVec 32) (i : ℕ) :
    (clockSubscription (deadline now timeout) i).u =
      .clock ((now + timeout.toInt * 10 ^ 6) % 2 ^ 64).toNat := by
  have hsign : (timeout.signExtend 64).toInt = timeout.toInt :=
    BitVec.toInt_signExtend_of_le (by decide)
  have hnat := BitVec.toInt_eq_toNat_cond (timeout.signExtend 64)
  rw [hsign] at hnat
  have hnanos : (now + (timeout.signExtend 64).toNat * 10 ^ 6) % 2 ^ 64 =
      ((now + timeout.toInt * 10 ^ 6) % 2 ^ 64).toNat := by
    split at hnat
    · omega
    · omega
  rw [← hnanos]
  rfl

end Timers

section Rules

variable {κ : Type}

/-- What keeps `P` while JavaScript code has control. -/
structure Code (P : EventLoop κ → Prop) : Prop where
  time : ∀ L t, P L → P { L with time := t }
  add : ∀ L task, P L → P (L.add task)
  clear : ∀ L i t k, P L → L.tasks[i]?.join = some (.timeout t k) →
    P ({ L with tasks := L.tasks.set i none }.note (.cleared k))
  queue : ∀ L k, P L → P (L.setNextTick k)

/-- What keeps `P` in each of the places where the loop changes. -/
structure Rounds (O : Outside κ) (P : EventLoop κ → Prop) : Prop extends Code P where
  tick : ∀ L f queue, P L → L.nextTickQueue = f :: queue →
    P ({ L with nextTickQueue := queue }.note (.ticked f))
  poll : ∀ L, P L → L.nextTickQueue = [] → P (poll O L).2

variable {O : Outside κ} {P : EventLoop κ → Prop} {L : EventLoop κ}

namespace Code

theorem clearTimeout (h : Code P) (hL : P L) (i : ℕ) : P (L.clearTimeout i) := by
  unfold EventLoop.clearTimeout timeoutAt
  cases htask : L.tasks[i]?.join with
  | none => exact hL
  | some task =>
    cases task with
    | timeout t k => exact h.clear L i t k hL htask
    | socket s event k => exact hL
    | socketTimeout s event t k => exact hL

theorem performAll (h : Code P) (hL : P L) (ops : List (Op κ)) : P (performAll L ops) := by
  induction ops generalizing L with
  | nil => exact hL
  | cons op ops ih =>
    apply ih
    cases op with
    | setTimeout deadline k => exact h.add L _ hL
    | clearTimeout i => exact h.clearTimeout hL i
    | setNextTick k => exact h.queue L k hL
    | await s event deadline k =>
      cases deadline with
      | none => exact h.add L _ hL
      | some deadline => exact h.add L _ hL

theorem call (h : Code P) (O : Outside κ) (hL : P L) : P (call O L) :=
  h.performAll (h.time L _ hL) _

end Code

theorem handle_cases (O : Outside κ) (L : EventLoop κ) (e : Event) :
    (L.tasks[e.userdata]?.join = none ∧ handle O L e = L) ∨
      (∃ task r, L.tasks[e.userdata]?.join = some task ∧ pollResult O L.time e task = some r ∧
        handle O L e = call O ({ L with tasks := L.tasks.set e.userdata none }.note
          (.called task.callback r))) ∨
      ∃ task, L.tasks[e.userdata]?.join = some task ∧ pollResult O L.time e task = none ∧
        handle O L e = { L with tasks := L.tasks.set e.userdata none }.note
          (.dropped task.callback) := by
  unfold handle deleteTask
  cases htask : L.tasks[e.userdata]?.join with
  | none => exact .inl ⟨rfl, rfl⟩
  | some task =>
    cases hresult : pollResult O L.time e task with
    | none => exact .inr (.inr ⟨task, rfl, hresult, by simp [hresult]⟩)
    | some r => exact .inr (.inl ⟨task, r, rfl, hresult, by simp [hresult]⟩)

/-- A poll ends at once, with an error of the host or with its events. -/
theorem poll_cases (O : Outside κ) (L : EventLoop κ) :
    (subscriptions L.tasks = [] ∧ poll O L = (.ok 0, L)) ∨
      (∃ code, O.pollOneoff L.time (subscriptions L.tasks) = .error code ∧
        poll O L = (.error (.os code), { L with time := L.time + 1 }.note .polled)) ∨
      ∃ es, O.pollOneoff L.time (subscriptions L.tasks) = .ok es ∧ subscriptions L.tasks ≠ [] ∧
        poll O L = (.ok es.length, handleAll O ({ L with time := L.time + 1 }.note .polled) es) := by
  unfold poll
  by_cases hempty : subscriptions L.tasks = []
  · exact .inl ⟨hempty, if_pos hempty⟩
  · rw [if_neg hempty]
    cases hhost : O.pollOneoff L.time (subscriptions L.tasks) with
    | error code => exact .inr (.inl ⟨code, rfl, rfl⟩)
    | ok es => exact .inr (.inr ⟨es, rfl, hempty, rfl⟩)

theorem runTickTask_empty (O : Outside κ) (fuel : ℕ) (L : EventLoop κ)
    (h : (runTickTask O fuel L).1.2 = true) : (runTickTask O fuel L).2.nextTickQueue = [] := by
  induction fuel generalizing L with
  | zero => exact List.isEmpty_iff.mp h
  | succ fuel ih =>
    unfold runTickTask at h ⊢
    cases hqueue : L.nextTickQueue with
    | nil => exact hqueue
    | cons f queue =>
      rw [hqueue] at h
      exact ih _ h

namespace Rounds

theorem runTickTask (h : Rounds O P) (fuel : ℕ) (hL : P L) : P (runTickTask O fuel L).2 := by
  induction fuel generalizing L with
  | zero => exact hL
  | succ fuel ih =>
    unfold JsLoop.runTickTask
    cases hqueue : L.nextTickQueue with
    | nil => exact hL
    | cons f queue => exact ih (h.toCode.call O (h.tick L f queue hL hqueue))

theorem runOnce (h : Rounds O P) (fuel : ℕ) (hL : P L) : P (runOnce O fuel L).2 := by
  have hticks := h.runTickTask fuel hL
  have hempty := runTickTask_empty O fuel L
  unfold JsLoop.runOnce
  generalize JsLoop.runTickTask O fuel L = r at hticks hempty
  obtain ⟨⟨n, b⟩, L'⟩ := r
  cases b with
  | false => exact hticks
  | true =>
    cases n with
    | zero => exact h.poll L' hticks (hempty rfl)
    | succ n => exact hticks

/-- What every change keeps is kept by the whole loop, whatever code and host do. -/
theorem jsLoop (h : Rounds O P) (ticks fuel : ℕ) (hL : P L) : P (jsLoop O ticks fuel L).2 := by
  induction fuel generalizing L with
  | zero => exact hL
  | succ fuel ih =>
    have hjobs : P (runPendingJobs O L).2 := h.toCode.performAll (h.time L _ hL) _
    unfold JsLoop.jsLoop
    generalize runPendingJobs O L = jobs at hjobs
    obtain ⟨ok, L'⟩ := jobs
    cases ok with
    | false => exact hjobs
    | true =>
      have honce := h.runOnce ticks hjobs
      dsimp only
      generalize JsLoop.runOnce O ticks L' = r at honce
      obtain ⟨status, L''⟩ := r
      cases status with
      | running => exact honce
      | finished r =>
        cases r with
        | error e => exact honce
        | ok n =>
          cases n with
          | zero => exact honce
          | succ n => exact ih honce

end Rounds

theorem poll_of_events (hcode : Code P) (hL : P L)
    (hpolled : ∀ L, P L → L.nextTickQueue = [] → P (L.note .polled))
    (hcalled : ∀ L i (task : PollTask κ) r, P L → L.tasks[i]?.join = some task →
      P ({ L with tasks := L.tasks.set i none }.note (.called task.callback r)))
    (hdropped : ∀ L i (task : PollTask κ), P L → L.tasks[i]?.join = some task →
      P ({ L with tasks := L.tasks.set i none }.note (.dropped task.callback)))
    (hqueue : L.nextTickQueue = []) : P (poll O L).2 := by
  have hstep : ∀ L e, P L → P (handle O L e) := by
    intro L e hL
    obtain ⟨-, heq⟩ | ⟨task, r, htask, -, heq⟩ | ⟨task, htask, -, heq⟩ := handle_cases O L e
    · rwa [heq]
    · rw [heq]
      exact hcode.call O (hcalled L _ task r hL htask)
    · rw [heq]
      exact hdropped L _ task hL htask
  have hall : ∀ es L, P L → P (handleAll O L es) := by
    intro es
    induction es with
    | nil => exact fun L hL => hL
    | cons e es ih => exact fun L hL => ih _ (hstep L e hL)
  have hstart : P ({ L with time := L.time + 1 }.note .polled) :=
    hpolled _ (hcode.time L _ hL) hqueue
  obtain ⟨-, heq⟩ | ⟨code, -, heq⟩ | ⟨es, -, -, heq⟩ := poll_cases O L
  · rwa [heq]
  · rwa [heq]
  · rw [heq]
    exact hall es _ hstart

end Rules

end ShardingOnCloud.Wasm.JsLoop
