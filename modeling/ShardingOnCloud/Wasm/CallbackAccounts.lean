import Mathlib.Data.List.Induction
import ShardingOnCloud.Wasm.JsLoop

namespace ShardingOnCloud.Wasm.CallbackAccounts

open ShardingOnCloud.Wasm.JsLoop

variable {κ : Type}

section Accounts

def queuedIn (log : List (Entry κ)) : List κ :=
  log.filterMap (fun | .queued k => some k | _ => none)

def tickedIn (log : List (Entry κ)) : List κ :=
  log.filterMap (fun | .ticked k => some k | _ => none)

def addedIn (log : List (Entry κ)) : List κ :=
  log.filterMap (fun | .added k => some k | _ => none)

def settledIn (log : List (Entry κ)) : List κ :=
  log.filterMap (fun | .called k _ => some k | .cleared k => some k | .dropped k => some k | _ => none)

def waiting (tasks : Tasks κ) : List κ := tasks.filterMap (fun t => t.map PollTask.callback)

theorem waiting_addTask (tasks : Tasks κ) (task : PollTask κ) :
    (waiting (addTask tasks task).1).Perm (task.callback :: waiting tasks) := by
  induction tasks with
  | nil => exact List.Perm.refl _
  | cons t tasks ih =>
    cases t with
    | none => exact List.Perm.refl _
    | some t => exact (ih.cons t.callback).trans (List.Perm.swap _ _ _)

theorem waiting_set_none {tasks : Tasks κ} {i : ℕ} {task : PollTask κ}
    (h : tasks[i]?.join = some task) :
    (waiting tasks).Perm (task.callback :: waiting (tasks.set i none)) := by
  induction tasks generalizing i with
  | nil => simp at h
  | cons t tasks ih =>
    cases i with
    | zero =>
      have ht : t = some task := by simpa using h
      rw [ht]
      exact List.Perm.refl _
    | succ i =>
      have htail := ih (i := i) (by simpa using h)
      cases t with
      | none => exact htail
      | some t => exact (htail.cons t.callback).trans (List.Perm.swap _ _ _)

/-- What has been handed over to the loop is waiting or done with. -/
structure Accounted (L : EventLoop κ) : Prop where
  ticks : queuedIn L.log = tickedIn L.log ++ L.nextTickQueue
  tasks : (addedIn L.log).Perm (waiting L.tasks ++ settledIn L.log)
  polls : ∀ before after, L.log = before ++ .polled :: after → queuedIn before = tickedIn before

theorem split_concat {log before after : List (Entry κ)} {x : Entry κ} (hx : x ≠ .polled)
    (h : log ++ [x] = before ++ .polled :: after) :
    ∃ rest, log = before ++ .polled :: rest := by
  induction after using List.reverseRecOn with
  | nil =>
    have hlast := List.append_inj_right' h rfl
    exact absurd (List.singleton_inj.mp hlast) hx
  | append_singleton rest y _ =>
    rw [← List.cons_append, ← List.append_assoc] at h
    exact ⟨rest, List.append_inj_left' h rfl⟩

theorem polls_note {L : EventLoop κ} {x : Entry κ} (hx : x ≠ .polled)
    (h : ∀ before after, L.log = before ++ .polled :: after → queuedIn before = tickedIn before) :
    ∀ before after, (L.note x).log = before ++ .polled :: after →
      queuedIn before = tickedIn before := by
  intro before after hlog
  obtain ⟨rest, hrest⟩ := split_concat hx hlog
  exact h before rest hrest

@[simp]
theorem queuedIn_concat (log : List (Entry κ)) (x : Entry κ) :
    queuedIn (log ++ [x]) = queuedIn log ++ queuedIn [x] := List.filterMap_append

@[simp]
theorem tickedIn_concat (log : List (Entry κ)) (x : Entry κ) :
    tickedIn (log ++ [x]) = tickedIn log ++ tickedIn [x] := List.filterMap_append

@[simp]
theorem addedIn_concat (log : List (Entry κ)) (x : Entry κ) :
    addedIn (log ++ [x]) = addedIn log ++ addedIn [x] := List.filterMap_append

@[simp]
theorem settledIn_concat (log : List (Entry κ)) (x : Entry κ) :
    settledIn (log ++ [x]) = settledIn log ++ settledIn [x] := List.filterMap_append

theorem Accounted.settle {L : EventLoop κ} (h : Accounted L) {i : ℕ} {task : PollTask κ}
    {x : Entry κ} (htask : L.tasks[i]?.join = some task) (hx : x ≠ .polled)
    (hqueued : queuedIn [x] = []) (hticked : tickedIn [x] = []) (hadded : addedIn [x] = [])
    (hsettled : settledIn [x] = [task.callback]) :
    Accounted ({ L with tasks := L.tasks.set i none }.note x) where
  ticks := by
    simp [EventLoop.note, hqueued, hticked, h.ticks]
  tasks := by
    have hslot : (waiting L.tasks ++ settledIn L.log).Perm
        (waiting (L.tasks.set i none) ++ (settledIn L.log ++ [task.callback])) := by
      rw [← List.append_assoc]
      exact ((waiting_set_none htask).append_right _).trans (List.perm_append_singleton _ _).symm
    simpa [EventLoop.note, hadded, hsettled] using h.tasks.trans hslot
  polls := polls_note hx h.polls

theorem Accounted.tasks_note {L : EventLoop κ} (h : Accounted L) {x : Entry κ}
    (hadded : addedIn [x] = []) (hsettled : settledIn [x] = []) :
    (addedIn (L.log ++ [x])).Perm (waiting L.tasks ++ settledIn (L.log ++ [x])) := by
  simpa [hadded, hsettled] using h.tasks

theorem code_accounted : Code (Accounted (κ := κ)) where
  time L t h := ⟨h.ticks, h.tasks, h.polls⟩
  add L task h := by
    refine ⟨?_, ?_, polls_note (by simp) h.polls⟩
    · simpa [EventLoop.add, EventLoop.note, queuedIn, tickedIn] using h.ticks
    · have hslot : (addedIn L.log ++ [task.callback]).Perm
          (waiting (addTask L.tasks task).1 ++ settledIn L.log) :=
        ((List.perm_append_singleton _ _).trans (h.tasks.cons _)).trans
          ((waiting_addTask L.tasks task).symm.append_right _)
      simpa [EventLoop.add, EventLoop.note, addedIn, settledIn] using hslot
  clear L i t k h htask := h.settle htask (by simp) rfl rfl rfl rfl
  queue L k h := by
    refine ⟨?_, h.tasks_note rfl rfl, polls_note (by simp) h.polls⟩
    change queuedIn (L.log ++ [_]) = tickedIn (L.log ++ [_]) ++ (L.nextTickQueue ++ [k])
    rw [queuedIn_concat, tickedIn_concat, h.ticks]
    simp [queuedIn, tickedIn]

theorem Accounted.polled {L : EventLoop κ} (h : Accounted L) (hqueue : L.nextTickQueue = []) :
    Accounted (L.note .polled) := by
  refine ⟨?_, h.tasks_note rfl rfl, ?_⟩
  · simpa [EventLoop.note, queuedIn, tickedIn] using h.ticks
  · intro before after hlog
    cases after using List.reverseRecOn with
    | nil =>
      have hbefore : before = L.log := (List.append_inj_left' hlog rfl).symm
      rw [hbefore, h.ticks, hqueue, List.append_nil]
    | append_singleton rest y =>
      rw [← List.cons_append, ← List.append_assoc] at hlog
      exact h.polls before rest (List.append_inj_left' hlog rfl)

theorem rounds_accounted (O : Outside κ) : Rounds O Accounted where
  toCode := code_accounted
  tick L f queue h hqueue := by
    refine ⟨?_, h.tasks_note rfl rfl, polls_note (by simp) h.polls⟩
    change queuedIn (L.log ++ [_]) = tickedIn (L.log ++ [_]) ++ queue
    rw [queuedIn_concat, tickedIn_concat, h.ticks, hqueue]
    simp [queuedIn, tickedIn]
  poll L h hqueue := poll_of_events code_accounted h (fun _ h hq => h.polled hq)
    (fun _ _ _ _ h htask => h.settle htask (by simp) rfl rfl rfl rfl)
    (fun _ _ _ h htask => h.settle htask (by simp) rfl rfl rfl rfl) hqueue

theorem accounted_start : Accounted ({} : EventLoop κ) := by
  refine ⟨rfl, List.Perm.refl _, ?_⟩
  intro before after hlog
  simp at hlog

/-- In every run the callbacks that were handed over are waiting or done with, each as often. -/
theorem jsLoop_accounted (O : Outside κ) (ticks fuel : ℕ) :
    Accounted (jsLoop O ticks fuel {}).2 :=
  (rounds_accounted O).jsLoop ticks fuel accounted_start

end Accounts

section End

def Waits (O : Outside κ) : Prop := ∀ t subs, subs ≠ [] → O.pollOneoff t subs ≠ .ok []

theorem waiting_of_subscriptionsFrom {tasks : Tasks κ} {i : ℕ}
    (h : subscriptionsFrom i tasks = []) : waiting tasks = [] := by
  induction tasks generalizing i with
  | nil => rfl
  | cons t tasks ih =>
    cases t with
    | none => exact ih h
    | some task =>
      have hnone := (List.append_eq_nil_iff.mp h).1
      cases task <;> simp [PollTask.asSubscription] at hnone

theorem runTickTask_zero {O : Outside κ} {fuel : ℕ} {L L' : EventLoop κ}
    (h : runTickTask O fuel L = ((0, true), L')) : L'.nextTickQueue = [] := by
  have hempty := runTickTask_empty O fuel L
  rw [h] at hempty
  exact hempty rfl

theorem runOnce_zero {O : Outside κ} (hO : Waits O) {fuel : ℕ} {L L' : EventLoop κ}
    (h : runOnce O fuel L = (.finished (.ok 0), L')) :
    L'.nextTickQueue = [] ∧ waiting L'.tasks = [] := by
  unfold runOnce at h
  cases hticks : runTickTask O fuel L with
  | mk r M =>
    obtain ⟨n, b⟩ := r
    rw [hticks] at h
    cases b with
    | false => simp at h
    | true =>
      cases n with
      | succ n => simp at h
      | zero =>
        have hqueue := runTickTask_zero hticks
        obtain ⟨hsubs, heq⟩ | ⟨code, -, heq⟩ | ⟨es, hhost, hsubs, heq⟩ := poll_cases O M
        · simp only [heq, Prod.mk.injEq, true_and] at h
          rw [← h]
          exact ⟨hqueue, waiting_of_subscriptionsFrom hsubs⟩
        · simp [heq] at h
        · have hes : es = [] := by simpa [heq] using (congrArg Prod.fst h)
          rw [hes] at hhost
          exact absurd hhost (hO _ _ hsubs)

theorem jsLoop_end {O : Outside κ} (hO : Waits O) {ticks fuel n : ℕ} {L L' : EventLoop κ}
    (h : jsLoop O ticks fuel L = (.finished (.ok n), L')) :
    L'.nextTickQueue = [] ∧ waiting L'.tasks = [] := by
  induction fuel generalizing L with
  | zero => simp [jsLoop] at h
  | succ fuel ih =>
    unfold jsLoop at h
    cases hjobs : runPendingJobs O L with
    | mk ok M =>
      rw [hjobs] at h
      cases ok with
      | false => simp at h
      | true =>
        cases honce : runOnce O ticks M with
        | mk status M' =>
          simp only [honce] at h
          cases status with
          | running => simp at h
          | finished r =>
            cases r with
            | error e => simp at h
            | ok m =>
              cases m with
              | zero =>
                have hM : M' = L' := congrArg Prod.snd h
                exact runOnce_zero hO (hM ▸ honce)
              | succ m => exact ih h

/-- When the loop returns, every tick has run, in its order, and every other callback is done
with. -/
theorem jsLoop_settles {O : Outside κ} (hO : Waits O) {ticks fuel n : ℕ} {L : EventLoop κ}
    (h : jsLoop O ticks fuel {} = (.finished (.ok n), L)) :
    tickedIn L.log = queuedIn L.log ∧ (settledIn L.log).Perm (addedIn L.log) := by
  have haccounts := (rounds_accounted O).jsLoop ticks fuel accounted_start
  obtain ⟨hqueue, hwaiting⟩ := jsLoop_end hO h
  rw [h] at haccounts
  constructor
  · rw [haccounts.ticks, hqueue, List.append_nil]
  · have htasks := haccounts.tasks
    rw [hwaiting, List.nil_append] at htasks
    exact htasks.symm

def firstEvent (subs : List Subscription) : Except ℕ (List Event) :=
  .ok (subs.head?.toList.map (fun s => ⟨s.userdata, 0, s.tag, 0⟩))

def timerAndTick : Outside ℕ where
  script _ := []
  pendingJobs t := (if t = 0 then [.setTimeout 7 1, .setNextTick 2] else [], true)
  pollOneoff _ subs := firstEvent subs
  accept _ s := .ok s
  read _ _ := .ok []

theorem waits_timerAndTick : Waits timerAndTick := by
  intro t subs hsubs
  cases subs with
  | nil => exact absurd rfl hsubs
  | cons s subs => simp [timerAndTick, firstEvent]

theorem jsLoop_settles_timerAndTick :
    tickedIn (jsLoop timerAndTick 9 9 {}).2.log = queuedIn (jsLoop timerAndTick 9 9 {}).2.log ∧
      (settledIn (jsLoop timerAndTick 9 9 {}).2.log).Perm
        (addedIn (jsLoop timerAndTick 9 9 {}).2.log) :=
  jsLoop_settles waits_timerAndTick
    (rfl : jsLoop timerAndTick 9 9 {} = (.finished (.ok 0), (jsLoop timerAndTick 9 9 {}).2))

end End

end ShardingOnCloud.Wasm.CallbackAccounts
