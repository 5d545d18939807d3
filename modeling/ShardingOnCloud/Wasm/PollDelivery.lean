import ShardingOnCloud.Wasm.CallbackAccounts

namespace ShardingOnCloud.Wasm.PollDelivery

open ShardingOnCloud.Wasm.JsLoop ShardingOnCloud.Wasm.CallbackAccounts

variable {κ : Type}

section Slots

theorem addTask_slot {tasks : Tasks κ} {task t : PollTask κ} {i : ℕ}
    (h : (addTask tasks task).1[i]?.join = some t) : tasks[i]?.join = some t ∨ t = task := by
  induction tasks generalizing i with
  | nil =>
    cases i with
    | zero => exact .inr (Option.some.inj h).symm
    | succ i => simp [addTask] at h
  | cons x tasks ih =>
    cases x with
    | none =>
      cases i with
      | zero => exact .inr (Option.some.inj h).symm
      | succ i => exact .inl h
    | some x =>
      cases i with
      | zero => exact .inl h
      | succ i => exact ih (by simpa [addTask] using h)

theorem addTask_kept {tasks : Tasks κ} {t : PollTask κ} {i : ℕ} (task : PollTask κ)
    (h : tasks[i]?.join = some t) : (addTask tasks task).1[i]?.join = some t := by
  induction tasks generalizing i with
  | nil => simp at h
  | cons x tasks ih =>
    cases x with
    | none =>
      cases i with
      | zero => simp at h
      | succ i => exact h
    | some x =>
      cases i with
      | zero => exact h
      | succ i => simpa [addTask] using ih (by simpa using h)

theorem set_none_slot {tasks : Tasks κ} {t : PollTask κ} {i j : ℕ}
    (h : (tasks.set i none)[j]?.join = some t) : i ≠ j ∧ tasks[j]?.join = some t := by
  by_cases hij : i = j
  · subst hij
    by_cases hlt : i < tasks.length
    · rw [List.getElem?_set_self hlt] at h
      cases h
    · rw [List.getElem?_eq_none (by simpa using hlt)] at h
      cases h
  · rw [List.getElem?_set_ne hij] at h
    exact ⟨hij, h⟩

theorem set_none_kept {tasks : Tasks κ} {t : PollTask κ} {i j : ℕ} (hij : i ≠ j)
    (h : tasks[j]?.join = some t) : (tasks.set i none)[j]?.join = some t := by
  rw [List.getElem?_set_ne hij]
  exact h

theorem mem_subscriptionsFrom {tasks : Tasks κ} {n : ℕ} {s : Subscription}
    (h : s ∈ subscriptionsFrom n tasks) :
    ∃ i, ∃ task : PollTask κ, tasks[i]?.join = some task ∧ s ∈ task.asSubscription (n + i) := by
  induction tasks generalizing n with
  | nil => cases h
  | cons x tasks ih =>
    cases x with
    | none =>
      obtain ⟨i, task, htask, hs⟩ := ih h
      exact ⟨i + 1, task, htask, by rwa [Nat.add_assoc, Nat.add_comm 1] at hs⟩
    | some x =>
      obtain hs | hs := List.mem_append.mp h
      · exact ⟨0, x, rfl, hs⟩
      · obtain ⟨i, task, htask, hs⟩ := ih hs
        exact ⟨i + 1, task, htask, by rwa [Nat.add_assoc, Nat.add_comm 1] at hs⟩

/-- An event of a task's own subscription is one that its callback is called with. -/
theorem pollResult_isSome (O : Outside κ) (t : ℕ) {task : PollTask κ} {i : ℕ} {s : Subscription}
    {e : Event} (hs : s ∈ task.asSubscription i) (he : s.tag = e.type) :
    ∃ r, pollResult O t e task = some r := by
  cases task with
  | timeout deadline k =>
    have htag : s.tag = .clock := by rw [List.mem_singleton.mp hs]; rfl
    exact ⟨.timeout, if_pos (he ▸ htag)⟩
  | socket fd event k =>
    have htag : s.tag ≠ .clock := by
      rw [List.mem_singleton.mp hs]
      cases event <;> simp [socketSubscription]
    exact ⟨_, if_neg (he ▸ htag)⟩
  | socketTimeout fd event deadline k =>
    by_cases hclock : e.type = .clock
    · exact ⟨.timeout, if_pos hclock⟩
    · exact ⟨_, if_neg hclock⟩

theorem userdata_asSubscription {task : PollTask κ} {i : ℕ} {s : Subscription}
    (hs : s ∈ task.asSubscription i) : s.userdata = i := by
  cases task with
  | timeout t k => rw [List.mem_singleton.mp hs]; rfl
  | socket fd event k => rw [List.mem_singleton.mp hs]; cases event <;> rfl
  | socketTimeout fd event t k =>
    obtain rfl | hs := List.mem_cons.mp hs
    · cases event <;> rfl
    · rw [List.mem_singleton.mp hs]; rfl

def Subscribed (O : Outside κ) : Prop := ∀ t subs es, O.pollOneoff t subs = .ok es → ∀ e ∈ es,
  ∃ s ∈ subs, s.userdata = e.userdata ∧ s.tag = e.type

/-- An event belongs to the task that was in its slot when the poll began. -/
def Belongs (O : Outside κ) (tasks : Tasks κ) (e : Event) : Prop :=
  ∃ task, tasks[e.userdata]?.join = some task ∧ ∀ t, ∃ r, pollResult O t e task = some r

theorem belongs_of_subscribed {O : Outside κ} (hO : Subscribed O) {t : ℕ} {tasks : Tasks κ}
    {es : List Event} (h : O.pollOneoff t (subscriptions tasks) = .ok es) {e : Event}
    (he : e ∈ es) : Belongs O tasks e := by
  obtain ⟨s, hs, hdata, htag⟩ := hO t _ es h e he
  obtain ⟨i, task, htask, hsub⟩ := mem_subscriptionsFrom hs
  have hi : i = e.userdata := by
    rw [← hdata, userdata_asSubscription hsub, Nat.zero_add]
  exact ⟨task, hi ▸ htask, fun t => pollResult_isSome O t hsub htag⟩

end Slots

section Drops

/-- What a poll has done, from its beginning with `log` and `tasks` on. -/
structure Within (log : List (Entry κ)) (tasks : Tasks κ) (new : List (Entry κ))
    (L : EventLoop κ) : Prop where
  log_eq : L.log = log ++ new
  no_poll : .polled ∉ new
  slots : ∀ (i : ℕ) (task : PollTask κ), L.tasks[i]?.join = some task →
    tasks[i]?.join = some task ∨ .added task.callback ∈ new
  drops : ∀ before after k, new = before ++ .dropped k :: after → .added k ∈ before

variable {log : List (Entry κ)} {tasks : Tasks κ} {new : List (Entry κ)} {L : EventLoop κ}

theorem drops_concat {x : Entry κ}
    (h : ∀ before after k, new = before ++ .dropped k :: after → .added k ∈ before)
    (hx : ∀ k, x = .dropped k → .added k ∈ new) :
    ∀ before after k, new ++ [x] = before ++ .dropped k :: after → .added k ∈ before := by
  intro before after k hsplit
  cases after using List.reverseRecOn with
  | nil =>
    have hbefore := List.append_inj_left' hsplit rfl
    have hlast := List.append_inj_right' hsplit rfl
    rw [← hbefore]
    exact hx k (List.singleton_inj.mp hlast)
  | append_singleton rest y =>
    rw [← List.cons_append, ← List.append_assoc] at hsplit
    exact h before rest k (List.append_inj_left' hsplit rfl)

theorem Within.free (h : Within log tasks new L) {i : ℕ} {x : Entry κ} (hpoll : x ≠ .polled)
    (hx : ∀ k, x = .dropped k → .added k ∈ new) :
    Within log tasks (new ++ [x]) ({ L with tasks := L.tasks.set i none }.note x) where
  log_eq := by
    change L.log ++ [x] = _
    rw [h.log_eq, List.append_assoc]
  no_poll := by
    simp [h.no_poll, Ne.symm hpoll]
  slots j task htask := (h.slots j task (set_none_slot htask).2).imp_right
    (List.mem_append_left _)
  drops := drops_concat h.drops hx

theorem code_within : Code (fun L => ∃ new, Within log tasks new L) where
  time L t := by
    rintro ⟨new, h⟩
    exact ⟨new, h.log_eq, h.no_poll, h.slots, h.drops⟩
  add L task := by
    rintro ⟨new, h⟩
    refine ⟨new ++ [.added task.callback], ?_, ?_, ?_, drops_concat h.drops (by simp)⟩
    · change L.log ++ [_] = _
      rw [h.log_eq, List.append_assoc]
    · simp [h.no_poll]
    · intro i t ht
      obtain hold | rfl := addTask_slot ht
      · exact (h.slots i t hold).imp_right (List.mem_append_left _)
      · exact .inr (by simp)
  clear L i t k := by
    rintro ⟨new, h⟩ htask
    exact ⟨_, h.free (by simp) (by simp)⟩
  queue L k := by
    rintro ⟨new, h⟩
    refine ⟨new ++ [.queued k], ?_, ?_, ?_, drops_concat h.drops (by simp)⟩
    · change L.log ++ [_] = _
      rw [h.log_eq, List.append_assoc]
    · simp [h.no_poll]
    · exact fun i t ht => (h.slots i t ht).imp_right (List.mem_append_left _)

theorem handle_within {O : Outside κ} {e : Event} (he : Belongs O tasks e)
    (h : ∃ new, Within log tasks new L) : ∃ new, Within log tasks new (handle O L e) := by
  obtain ⟨new, hnew⟩ := h
  obtain ⟨-, heq⟩ | ⟨task, r, -, -, heq⟩ | ⟨task, htask, hresult, heq⟩ := handle_cases O L e
  · rw [heq]
    exact ⟨new, hnew⟩
  · rw [heq]
    exact code_within.call O ⟨_, hnew.free (by simp) (by simp)⟩
  · rw [heq]
    obtain ⟨first, hfirst, hcalls⟩ := he
    refine ⟨_, hnew.free (by simp) ?_⟩
    intro k hk
    cases hk
    obtain hold | hadded := hnew.slots _ _ htask
    · obtain ⟨r, hr⟩ := hcalls L.time
      rw [Option.some.inj (hfirst.symm.trans hold), hresult] at hr
      cases hr
    · exact hadded

theorem handleAll_within {O : Outside κ} {es : List Event} (he : ∀ e ∈ es, Belongs O tasks e)
    (h : ∃ new, Within log tasks new L) : ∃ new, Within log tasks new (handleAll O L es) := by
  induction es generalizing L with
  | nil => exact h
  | cons e es ih =>
    exact ih (fun e' he' => he e' (List.mem_cons_of_mem e he'))
      (handle_within (he e List.mem_cons_self) h)

/-- A callback is dropped only in the poll in which it was handed over. -/
def DropsLate (log : List (Entry κ)) : Prop :=
  ∀ before after k, log = before ++ .dropped k :: after →
    ∃ earlier poll, before = earlier ++ .polled :: poll ∧ .polled ∉ poll ∧ .added k ∈ poll

theorem DropsLate.concat {x : Entry κ} (h : DropsLate log) (hx : ∀ k, x ≠ .dropped k) :
    DropsLate (log ++ [x]) := by
  intro before after k hsplit
  cases after using List.reverseRecOn with
  | nil => exact absurd (List.singleton_inj.mp (List.append_inj_right' hsplit rfl)) (hx k)
  | append_singleton rest y =>
    rw [← List.cons_append, ← List.append_assoc] at hsplit
    exact h before rest k (List.append_inj_left' hsplit rfl)

theorem DropsLate.poll (h : DropsLate log) (hw : Within (log ++ [.polled]) tasks new L) :
    DropsLate L.log := by
  intro before after k hsplit
  rw [hw.log_eq] at hsplit
  obtain ⟨mid, hbefore, hmid⟩ | ⟨mid, hlog, hmid⟩ := List.append_eq_append_iff.mp hsplit
  · refine ⟨log, mid, ?_, ?_, hw.drops mid after k hmid⟩
    · rw [hbefore, List.append_assoc]
      rfl
    · intro hpolled
      exact hw.no_poll (hmid ▸ List.mem_append_left _ hpolled)
  · cases mid with
    | nil =>
      have hadded := hw.drops [] after k (by simpa using hmid.symm)
      cases hadded
    | cons x mid =>
      obtain ⟨rfl, -⟩ := List.cons_eq_cons.mp hmid
      exact h.concat (by simp) before mid k hlog

theorem rounds_dropsLate {O : Outside κ} (hO : Subscribed O) :
    Rounds O (fun L => DropsLate L.log) where
  time L t h := h
  add L task h := h.concat (by simp)
  clear L i t k h htask := h.concat (by simp)
  queue L k h := h.concat (by simp)
  tick L f queue h hqueue := h.concat (by simp)
  poll L h hqueue := by
    obtain ⟨-, heq⟩ | ⟨code, -, heq⟩ | ⟨es, hhost, -, heq⟩ := poll_cases O L
    · rwa [heq]
    · rw [heq]
      exact h.concat (by simp)
    · have hstart : Within (L.log ++ [.polled]) L.tasks []
          ({ L with time := L.time + 1 }.note .polled) :=
        ⟨(List.append_nil _).symm, by simp, fun i task htask => .inl htask, by simp⟩
      obtain ⟨new, hnew⟩ := handleAll_within
        (fun e he => belongs_of_subscribed hO hhost he) ⟨[], hstart⟩
      rw [heq]
      exact h.poll hnew

/-- What was waiting when a poll began is never dropped by it. -/
theorem jsLoop_dropsLate {O : Outside κ} (hO : Subscribed O) (ticks fuel : ℕ) :
    DropsLate (jsLoop O ticks fuel {}).2.log :=
  (rounds_dropsLate hO).jsLoop ticks fuel (by simp [DropsLate])

/-- A socket whose timeout fires together with it, and code that waits for another one then. -/
def bothEvents : Outside ℕ where
  script t := if t = 2 then [.await 4 .read none 2] else []
  pendingJobs t := (if t = 0 then [.await 3 .read (some 7) 1] else [], true)
  pollOneoff _ subs := .ok (subs.map (fun s => ⟨s.userdata, 0, s.tag, 0⟩))
  accept _ s := .ok s
  read _ _ := .ok []

theorem subscribed_bothEvents : Subscribed bothEvents := by
  intro t subs es hes e he
  cases hes
  obtain ⟨s, hs, rfl⟩ := List.mem_map.mp he
  exact ⟨s, hs, rfl, rfl⟩

theorem jsLoop_dropsLate_bothEvents :
    .dropped 2 ∈ (jsLoop bothEvents 9 9 {}).2.log ∧ DropsLate (jsLoop bothEvents 9 9 {}).2.log :=
  ⟨by decide, jsLoop_dropsLate subscribed_bothEvents 9 9⟩

end Drops

section Delivery

/-- The callbacks that events took out of their slots, and whether they were called. -/
def outcomesIn (log : List (Entry κ)) : List (κ × Bool) :=
  log.filterMap (fun | .called k _ => some (k, true) | .dropped k => some (k, false) | _ => none)

theorem outcomesIn_append (log log' : List (Entry κ)) :
    outcomesIn (log ++ log') = outcomesIn log ++ outcomesIn log' := List.filterMap_append

theorem code_outcomes (log : List (Entry κ)) :
    Code (fun L => ∃ new, L.log = log ++ new ∧ outcomesIn new = []) := by
  have hnote : ∀ (L : EventLoop κ) x, outcomesIn [x] = [] →
      (∃ new, L.log = log ++ new ∧ outcomesIn new = []) →
      ∃ new, L.log ++ [x] = log ++ new ∧ outcomesIn new = [] := by
    rintro L x hx ⟨new, hlog, hnew⟩
    exact ⟨new ++ [x], by rw [hlog, List.append_assoc], by rw [outcomesIn_append, hnew, hx]; rfl⟩
  exact ⟨fun L t h => h, fun L task h => hnote L _ rfl h, fun L i t k h _ => hnote L _ rfl h,
    fun L k h => hnote L _ rfl h⟩

theorem timeoutAt_congr {tasks tasks' : Tasks κ} {i : ℕ}
    (h : tasks[i]?.join = tasks'[i]?.join) : timeoutAt tasks i = timeoutAt tasks' i := by
  unfold timeoutAt
  rw [h]

/-- Code keeps a task that it does not clear, or that `clear_timeout` does not take. -/
theorem perform_kept {L : EventLoop κ} {op : Op κ} {j : ℕ} {t : PollTask κ}
    (hop : op = .clearTimeout j → timeoutAt L.tasks j = none) (h : L.tasks[j]?.join = some t) :
    (perform L op).tasks[j]?.join = some t := by
  cases op with
  | setTimeout deadline k => exact addTask_kept _ h
  | setNextTick k => exact h
  | await s event deadline k =>
    cases deadline with
    | none => exact addTask_kept _ h
    | some deadline => exact addTask_kept _ h
  | clearTimeout i =>
    change (L.clearTimeout i).tasks[j]?.join = some t
    unfold EventLoop.clearTimeout
    cases hi : timeoutAt L.tasks i with
    | none => exact h
    | some task =>
      refine set_none_kept ?_ h
      rintro rfl
      rw [hop rfl] at hi
      cases hi

theorem performAll_kept {L : EventLoop κ} {ops : List (Op κ)} {j : ℕ} {t : PollTask κ}
    (hops : .clearTimeout j ∈ ops → timeoutAt L.tasks j = none)
    (h : L.tasks[j]?.join = some t) : (performAll L ops).tasks[j]?.join = some t := by
  induction ops generalizing L with
  | nil => exact h
  | cons op ops ih =>
    have hkept : (perform L op).tasks[j]?.join = some t :=
      perform_kept (fun hop => hops (hop ▸ List.mem_cons_self)) h
    refine ih (fun hmem => ?_) hkept
    rw [timeoutAt_congr (hkept.trans h.symm)]
    exact hops (List.mem_cons_of_mem op hmem)

/-- The callbacks of the events have control from the time `t` on, one after the other, and
none of them clears a timer whose own event is still to come. -/
def SparesLater (O : Outside κ) (tasks : Tasks κ) : ℕ → List Event → Prop
  | _, [] => True
  | t, _ :: es =>
    (∀ e ∈ es, .clearTimeout e.userdata ∈ O.script t → timeoutAt tasks e.userdata = none) ∧
      SparesLater O tasks (t + 1) es

theorem SparesLater.congr {O : Outside κ} {tasks tasks' : Tasks κ} {t : ℕ} {es : List Event}
    (h : SparesLater O tasks t es)
    (heq : ∀ e ∈ es, tasks'[e.userdata]?.join = tasks[e.userdata]?.join) :
    SparesLater O tasks' t es := by
  induction es generalizing t with
  | nil => trivial
  | cons e es ih =>
    refine ⟨fun e' he' hmem => ?_, ih h.2 (fun e' he' => heq e' (List.mem_cons_of_mem e he'))⟩
    rw [timeoutAt_congr (heq e' (List.mem_cons_of_mem e he'))]
    exact h.1 e' he' hmem

theorem perform_time (L : EventLoop κ) (op : Op κ) : (perform L op).time = L.time := by
  cases op with
  | setTimeout deadline k => rfl
  | setNextTick k => rfl
  | await s event deadline k => cases deadline <;> rfl
  | clearTimeout i =>
    change (L.clearTimeout i).time = L.time
    unfold EventLoop.clearTimeout
    cases timeoutAt L.tasks i <;> rfl

theorem performAll_time (L : EventLoop κ) (ops : List (Op κ)) :
    (performAll L ops).time = L.time := by
  induction ops generalizing L with
  | nil => rfl
  | cons op ops ih => exact (ih (perform L op)).trans (perform_time L op)

theorem handle_called {O : Outside κ} {L : EventLoop κ} {e : Event} {task : PollTask κ}
    {r : PollResult} (htask : L.tasks[e.userdata]?.join = some task)
    (hr : pollResult O L.time e task = some r) :
    handle O L e = call O ({ L with tasks := L.tasks.set e.userdata none }.note
      (.called task.callback r)) := by
  simp [handle, deleteTask, htask, hr]

/-- A task stays in its slot while the event of another one is handled. -/
theorem handle_kept {O : Outside κ} {L : EventLoop κ} {e : Event} {task task' : PollTask κ}
    {r : PollResult} {slot : ℕ} (htask : L.tasks[e.userdata]?.join = some task)
    (hr : pollResult O L.time e task = some r) (hne : e.userdata ≠ slot)
    (hslot : L.tasks[slot]?.join = some task')
    (hclear : .clearTimeout slot ∈ O.script L.time → timeoutAt L.tasks slot = none) :
    (handle O L e).tasks[slot]?.join = some task' := by
  have hfree : (L.tasks.set e.userdata none)[slot]?.join = some task' := set_none_kept hne hslot
  rw [handle_called htask hr]
  refine performAll_kept (fun hmem => ?_) hfree
  have hsame : timeoutAt (L.tasks.set e.userdata none) slot = timeoutAt L.tasks slot :=
    timeoutAt_congr (hfree.trans hslot.symm)
  exact hsame.trans (hclear hmem)

theorem handleAll_outcomes {O : Outside κ} {es : List Event} {L : EventLoop κ}
    (hes : ∀ e ∈ es, Belongs O L.tasks e) (hdistinct : (es.map Event.userdata).Nodup)
    (hclear : SparesLater O L.tasks L.time es) :
    ∃ new, (handleAll O L es).log = L.log ++ new ∧ outcomesIn new =
      es.filterMap (fun e => L.tasks[e.userdata]?.join.map (fun task => (task.callback, true))) := by
  induction es generalizing L with
  | nil => exact ⟨[], (List.append_nil _).symm, rfl⟩
  | cons e es ih =>
    obtain ⟨task, htask, hcalls⟩ := hes e List.mem_cons_self
    obtain ⟨r, hr⟩ := hcalls L.time
    obtain ⟨hfresh, hdistinct⟩ := List.nodup_cons.mp hdistinct
    have hkept : ∀ e' ∈ es, (handle O L e).tasks[e'.userdata]?.join =
        L.tasks[e'.userdata]?.join := by
      intro e' he'
      obtain ⟨task', htask', -⟩ := hes e' (List.mem_cons_of_mem e he')
      have hne : e.userdata ≠ e'.userdata := fun heq => hfresh (heq ▸ List.mem_map_of_mem he')
      rw [handle_kept htask hr hne htask' (hclear.1 e' he'), htask']
    have htime : (handle O L e).time = L.time + 1 := by
      rw [handle_called htask hr]
      exact performAll_time _ _
    obtain ⟨first, hfirst, hquiet⟩ := (code_outcomes (L.log ++ [.called task.callback r])).call O
      (L := { L with tasks := L.tasks.set e.userdata none }.note (.called task.callback r))
      ⟨[], (List.append_nil _).symm, rfl⟩
    obtain ⟨rest, hrest, houtcomes⟩ := ih (L := handle O L e)
      (fun e' he' => by
        obtain ⟨task', htask', hcalls'⟩ := hes e' (List.mem_cons_of_mem e he')
        exact ⟨task', (hkept e' he').trans htask', hcalls'⟩)
      hdistinct (htime ▸ hclear.2.congr hkept)
    refine ⟨.called task.callback r :: first ++ rest, ?_, ?_⟩
    · change (handleAll O (handle O L e) es).log = _
      rw [hrest, handle_called htask hr, hfirst]
      simp
    · rw [outcomesIn_append, houtcomes, List.filterMap_cons, htask,
        List.filterMap_congr (fun e' he' => by rw [hkept e' he'])]
      change (task.callback, true) :: outcomesIn first ++ _ = _
      rw [hquiet]
      rfl

/-- Where no slot has two events and no callback clears a timer before its event, each event
calls the callback that was waiting for it. -/
theorem poll_delivers {O : Outside κ} (hO : Subscribed O) {L : EventLoop κ} {es : List Event}
    (hsubs : subscriptions L.tasks ≠ [])
    (hhost : O.pollOneoff L.time (subscriptions L.tasks) = .ok es)
    (hdistinct : (es.map Event.userdata).Nodup)
    (hclear : SparesLater O L.tasks (L.time + 1) es) :
    ∃ new, (poll O L).2.log = L.log ++ .polled :: new ∧ outcomesIn new =
      es.filterMap (fun e => L.tasks[e.userdata]?.join.map (fun task => (task.callback, true))) := by
  obtain ⟨new, hlog, hnew⟩ := handleAll_outcomes
    (L := { L with time := L.time + 1 }.note .polled)
    (fun e he => belongs_of_subscribed hO hhost he) hdistinct hclear
  refine ⟨new, ?_, hnew⟩
  have hpoll : poll O L =
      (.ok es.length, handleAll O ({ L with time := L.time + 1 }.note .polled) es) := by
    rw [poll, if_neg hsubs, hhost]
  rw [hpoll, hlog]
  exact List.append_assoc _ _ _

/-- All but the timer of 9 have an event. The first callback adds a timer in the slot
that it had itself, clears one without an event and tries to clear a socket with one; the
second clears the timer that the first has added, and waits for a socket; the third clears
its own slot and adds a timer and a tick. -/
def busyCallbacks : Outside ℕ where
  script t :=
    if t = 1 then [.setTimeout 50 10, .clearTimeout 2, .clearTimeout 1]
    else if t = 2 then [.clearTimeout 0, .await 5 .read none 11]
    else if t = 3 then [.clearTimeout 3, .setNextTick 12, .setTimeout 60 13]
    else []
  pendingJobs _ := ([], true)
  pollOneoff _ subs := .ok ((subs.filter (fun s => s.u ≠ .clock 9)).map
    (fun s => ⟨s.userdata, 0, s.tag, 0⟩))
  accept _ s := .ok s
  read _ _ := .ok []

theorem subscribed_busyCallbacks : Subscribed busyCallbacks := by
  intro t subs es hes e he
  cases hes
  obtain ⟨s, hs, rfl⟩ := List.mem_map.mp he
  exact ⟨s, List.mem_of_mem_filter hs, rfl, rfl⟩

def busyTasks : Tasks ℕ :=
  [some (.timeout 7 1), some (.socket 3 .read 2), some (.timeout 9 3), some (.timeout 5 4)]

theorem poll_delivers_busyCallbacks :
    (poll busyCallbacks { tasks := busyTasks }).2.log =
      [.polled, .called 1 .timeout, .added 10, .cleared 3, .called 2 (.read []), .cleared 10,
        .added 11, .called 4 .timeout, .queued 12, .added 13] ∧
    ∃ new, (poll busyCallbacks { tasks := busyTasks }).2.log = [] ++ .polled :: new ∧
      outcomesIn new = [(1, true), (2, true), (4, true)] := by
  have hpolled : busyCallbacks.pollOneoff 0 (subscriptions busyTasks) =
      .ok [⟨0, 0, .clock, 0⟩, ⟨1, 0, .fdRead, 0⟩, ⟨3, 0, .clock, 0⟩] := rfl
  refine ⟨by decide, poll_delivers subscribed_busyCallbacks (L := { tasks := busyTasks })
    (by decide) hpolled (by decide) ?_⟩
  simp [SparesLater, busyCallbacks, busyTasks, timeoutAt]

end Delivery

end ShardingOnCloud.Wasm.PollDelivery
