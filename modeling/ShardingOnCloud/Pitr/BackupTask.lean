import Mathlib.Data.Stream.Init
import ShardingOnCloud.Pitr.Progress
import ShardingOnCloud.Pitr.Rendering

namespace ShardingOnCloud.Pitr.BackupTask

open ShardingOnCloud.Lib.Program ShardingOnCloud.Lib.Pool ShardingOnCloud.Lib.Schedules
open ShardingOnCloud.Pitr.Model ShardingOnCloud.Pitr.Calls ShardingOnCloud.Pitr.Backup
open ShardingOnCloud.Pitr.Progress ShardingOnCloud.Pitr.Rendering

/-- What `ShowDetail` returns. -/
abbrev Outcome := Except Err BackupInfo

/-- The states in which `checkProgress` is finished. -/
def Terminal (status : BackupStatus) : Prop :=
  status = ssBackupStatusCompleted ∨ status = ssBackupStatusFailed

instance : DecidablePred Terminal := fun _ => inferInstanceAs (Decidable (_ ∨ _))

def isError : Outcome → Bool
  | .error _ => true
  | .ok _ => false

def Ending : Outcome → Prop
  | .error _ => False
  | .ok info => Terminal info.status

def errors (os : List Outcome) : ℕ := os.countP isError

@[simp] theorem ending_error (err : Err) : Ending (.error err) ↔ False := Iff.rfl

@[simp] theorem ending_ok (info : BackupInfo) : Ending (.ok info) ↔ Terminal info.status := Iff.rfl

@[simp] theorem errors_nil : errors [] = 0 := rfl

@[simp] theorem errors_error (err : Err) (os : List Outcome) :
    errors (.error err :: os) = errors os + 1 := List.countP_cons_of_pos rfl

@[simp] theorem errors_ok (info : BackupInfo) (os : List Outcome) :
    errors (.ok info :: os) = errors os := List.countP_cons_of_neg Bool.false_ne_true

/-- The status that comes of these outcomes with `retries` retries, once there is one. -/
def verdict : ℕ → List Outcome → Option BackupStatus
  | _, [] => none
  | 0, .error _ :: _ => some ssBackupStatusCheckError
  | retries + 1, .error _ :: os => verdict retries os
  | retries, .ok info :: os =>
    if Terminal info.status then some info.status else verdict retries os

section Verdict

variable {k : ℕ} {os : List Outcome} {status : BackupStatus}

theorem verdict_append (h : verdict k os = some status) (os' : List Outcome) :
    verdict k (os ++ os') = some status := by
  induction os generalizing k with
  | nil => cases h
  | cons x os ih =>
    cases x with
    | error err =>
      cases k with
      | zero => exact h
      | succ k => exact ih h
    | ok info =>
      rw [verdict] at h
      rw [List.cons_append, verdict]
      split
      · next hterminal => rwa [if_pos hterminal] at h
      · next hterminal =>
        rw [if_neg hterminal] at h
        exact ih h

theorem verdict_eq_none_iff : verdict k os = none ↔ (∀ x ∈ os, ¬Ending x) ∧ errors os ≤ k := by
  induction os generalizing k with
  | nil => simp [verdict]
  | cons x os ih =>
    rw [List.forall_mem_cons]
    cases x with
    | error err =>
      cases k with
      | zero => simp [verdict]
      | succ k => simp [verdict, ih]
    | ok info =>
      rw [verdict]
      by_cases hterminal : Terminal info.status
      · simp [hterminal]
      · simp [hterminal, ih]

theorem verdict_snoc (h : verdict k os = none) {x : Outcome}
    (hx : verdict k (os ++ [x]) = some status) :
    (isError x = true ∧ errors os = k ∧ status = ssBackupStatusCheckError) ∨
      ∃ info, x = .ok info ∧ Terminal info.status ∧ status = info.status := by
  induction os generalizing k with
  | nil =>
    cases x with
    | error err =>
      cases k with
      | zero => exact Or.inl ⟨rfl, rfl, (Option.some.inj hx).symm⟩
      | succ k => cases hx
    | ok info =>
      rw [List.nil_append, verdict] at hx
      split at hx
      · next hterminal => exact Or.inr ⟨info, rfl, hterminal, (Option.some.inj hx).symm⟩
      · cases hx
  | cons y os ih =>
    cases y with
    | error err =>
      cases k with
      | zero => cases h
      | succ k =>
        obtain ⟨hx', herrors, hstatus⟩ | hinfo := ih h hx
        · refine Or.inl ⟨hx', ?_, hstatus⟩
          rw [errors_error, herrors]
        · exact Or.inr hinfo
    | ok info =>
      rw [verdict] at h
      rw [List.cons_append, verdict] at hx
      split at h
      · cases h
      · next hterminal =>
        rw [if_neg hterminal] at hx
        obtain ⟨hx', herrors, hstatus⟩ | hinfo := ih h hx
        · refine Or.inl ⟨hx', ?_, hstatus⟩
          rw [errors_ok, herrors]
        · exact Or.inr hinfo

end Verdict

/-- The fourth error comes before the first state in which the backup is over. -/
def FourthErrorFirst (o : Stream' Outcome) : Prop :=
  ∃ m, isError (o.get m) = true ∧ errors (o.take m) = 3 ∧ ∀ i < m, ¬Ending (o.get i)

def FirstEnding (o : Stream' Outcome) (status : BackupStatus) : Prop :=
  ∃ m info, o.get m = .ok info ∧ Terminal info.status ∧ info.status = status ∧
    ∀ i < m, ¬Ending (o.get i)

def Ends (o : Stream' Outcome) : Prop :=
  (∃ m, Ending (o.get m)) ∨ ∃ n, 4 ≤ errors (o.take n)

section Streams

variable {o : Stream' Outcome} {n : ℕ} {status : BackupStatus}

theorem mem_take {x : Outcome} : x ∈ o.take n ↔ ∃ i < n, o.get i = x := by
  induction n with
  | zero => simp
  | succ n ih =>
    rw [Stream'.take_succ', List.mem_append, ih, List.mem_singleton]
    constructor
    · rintro (⟨i, hi, rfl⟩ | rfl)
      · exact ⟨i, Nat.lt_succ_of_lt hi, rfl⟩
      · exact ⟨n, Nat.lt_succ_self n, rfl⟩
    · rintro ⟨i, hi, rfl⟩
      obtain hi | rfl := Nat.lt_succ_iff_lt_or_eq.mp hi
      · exact Or.inl ⟨i, hi, rfl⟩
      · exact Or.inr rfl

theorem verdict_take_mono {m : ℕ} (h : verdict 3 (o.take m) = some status) (hmn : m ≤ n) :
    verdict 3 (o.take n) = some status := by
  obtain ⟨os, hos⟩ := (Stream'.take_prefix_take_left m n o hmn)
  rw [← hos]
  exact verdict_append h os

theorem verdict_take (h : verdict 3 (o.take n) = some status) :
    ∃ m, (∀ i < m, ¬Ending (o.get i)) ∧ errors (o.take m) ≤ 3 ∧
      ((isError (o.get m) = true ∧ errors (o.take m) = 3 ∧ status = ssBackupStatusCheckError) ∨
        ∃ info, o.get m = .ok info ∧ Terminal info.status ∧ status = info.status) := by
  induction n with
  | zero => cases h
  | succ n ih =>
    cases hn : verdict 3 (o.take n) with
    | some status' =>
      have hsame := verdict_take_mono hn (Nat.le_succ n)
      rw [h, Option.some.injEq] at hsame
      exact ih (hsame ▸ hn)
    | none =>
      obtain ⟨hnot, herrors⟩ := verdict_eq_none_iff.mp hn
      rw [Stream'.take_succ'] at h
      refine ⟨n, fun i hi => hnot _ (mem_take.mpr ⟨i, hi, rfl⟩), herrors, verdict_snoc hn h⟩

theorem verdict_checkError_iff (h : verdict 3 (o.take n) = some status) :
    status = ssBackupStatusCheckError ↔ FourthErrorFirst o := by
  obtain ⟨m, hnot, hle, ⟨herror, herrors, hstatus⟩ | ⟨info, hinfo, hterminal, hstatus⟩⟩ :=
    verdict_take h
  · exact iff_of_true hstatus ⟨m, herror, herrors, hnot⟩
  · refine iff_of_false ?_ ?_
    · rintro rfl
      rw [← hstatus] at hterminal
      exact absurd hterminal (by decide)
    · rintro ⟨m', herror, herrors, hnot'⟩
      have hlt : m' < m := by
        by_contra hge
        obtain hlt | rfl := Nat.lt_or_eq_of_le (Nat.le_of_not_lt hge)
        · refine hnot' m hlt ?_
          rw [hinfo]
          exact hterminal
        · rw [hinfo] at herror
          cases herror
      -- the fourth error is one of the outcomes before the state
      obtain ⟨os, hos⟩ := Stream'.take_prefix_take_left (m' + 1) m o hlt
      rw [← hos, Stream'.take_succ', errors, List.countP_append, List.countP_append, ← errors,
        herrors, List.countP_singleton, herror] at hle
      simp only [if_true] at hle
      omega

theorem verdict_firstEnding (h : verdict 3 (o.take n) = some status) (hnot : ¬FourthErrorFirst o) :
    FirstEnding o status := by
  obtain ⟨m, hbefore, -, ⟨herror, herrors, -⟩ | ⟨info, hinfo, hterminal, hstatus⟩⟩ := verdict_take h
  · exact absurd ⟨m, herror, herrors, hbefore⟩ hnot
  · exact ⟨m, info, hinfo, hterminal, hstatus.symm, hbefore⟩

theorem ends_iff : Ends o ↔ ∃ n, verdict 3 (o.take n) ≠ none := by
  constructor
  · rintro (⟨m, hm⟩ | ⟨n, hn⟩)
    · refine ⟨m + 1, fun hnone => ?_⟩
      exact (verdict_eq_none_iff.mp hnone).1 _ (mem_take.mpr ⟨m, Nat.lt_succ_self m, rfl⟩) hm
    · refine ⟨n, fun hnone => ?_⟩
      have hle := (verdict_eq_none_iff.mp hnone).2
      omega
  · rintro ⟨n, hn⟩
    by_contra hends
    rw [Ends, not_or, not_exists, not_exists] at hends
    refine hn (verdict_eq_none_iff.mpr ⟨fun x hx => ?_, ?_⟩)
    · obtain ⟨i, -, rfl⟩ := mem_take.mp hx
      exact hends.1 i
    · have hlt := hends.2 n
      omega

end Streams

def outcome : Label Act ActR → Option Outcome
  | .reply (.showDetail _ _) r => some r
  | _ => none

def seen (ls : List (Label Act ActR)) : List Outcome := ls.filterMap outcome

def key (dn : DataNode) : String × UInt16 × String := (dn.ip, dn.port, dn.backupID)

/-- What a task sends about the data node `dn₀`. -/
def Reported (dn₀ : DataNode) (ls : List (Label Act ActR)) (dn : DataNode) : Prop :=
  key dn = key dn₀ ∧ verdict defaultShowDetailRetryTimes (seen ls) = some dn.status

/-- A task that has nothing to report yet. The retries that it has left are all that it needs to
know of the outcomes before. -/
structure Polling (dn₀ : DataNode) (t : ℕ × DataNode) (ls : List (Label Act ActR)) : Prop where
  unsent : sends .dataNode ls = []
  node : key t.2 = key dn₀
  left : ∀ os, verdict defaultShowDetailRetryTimes (seen ls ++ os) = verdict t.1 os

/-- A call of `checkProgress` has reported, or it has seen more than `n` outcomes and the
task goes on. -/
def Looked (dn₀ : DataNode) (n : ℕ) (ls : List (Label Act ActR))
    (x : (ℕ × DataNode) × Bool × Option Err) : Prop :=
  ((x.2.1 = true ∨ x.2.2 ≠ none) ∧ (sends .dataNode ls).length = 1) ∨
    (x.2 = (false, none) ∧ Polling dn₀ x.1 ls ∧ n < (seen ls).length)

/-- The acts of `checkProgress`. -/
def looks : Act → Bool
  | .showDetail _ _ | .sleep | .now | .sendDataNode _ => true
  | _ => false

section Looks

variable {dn₀ dn : DataNode} {k n : ℕ} {ls : List (Label Act ActR)} {T : Contract .dataNode}

theorem reported_append (ls ls' : List (Label Act ActR)) (dn : DataNode)
    (h : Reported dn₀ ls dn) : Reported dn₀ (ls ++ ls') dn := by
  refine ⟨h.1, ?_⟩
  rw [seen, List.filterMap_append]
  exact verdict_append h.2 _

theorem seen_act (ls : List (Label Act ActR)) (a : Act) (r : ActR a) :
    seen (ls ++ [Label.issue a, .reply a r]) = seen ls ++ (outcome (.reply a r)).toList := by
  have hsplit : [Label.issue a, .reply a r] = [Label.issue a] ++ [Label.reply a r] := rfl
  have hissue : seen [.issue a] = [] := rfl
  rw [seen, List.filterMap_append, hsplit, List.filterMap_append, ← seen, ← seen, hissue,
    List.nil_append]
  cases hr : outcome (.reply a r) with
  | none => exact congrArg (seen ls ++ ·) (List.filterMap_cons_none hr)
  | some x => exact congrArg (seen ls ++ ·) (List.filterMap_cons_some hr)

theorem Polling.act {k' : ℕ} {dn' : DataNode} (h : Polling dn₀ (k, dn) ls) {a : Act} {r : ActR a}
    (hsend : received .dataNode (.reply a r) = none) (hnode : key dn' = key dn)
    (hleft : ∀ os, verdict k ((outcome (.reply a r)).toList ++ os) = verdict k' os) :
    Polling dn₀ (k', dn') (ls ++ [Label.issue a, .reply a r]) where
  unsent := by
    rw [sends_act, hsend, h.unsent]
    rfl
  node := hnode.trans h.node
  left os := by
    rw [seen_act, List.append_assoc, h.left]
    exact hleft os

theorem Polling.retry {addr : String} {i : ShowDetailIn} {err : Err}
    (h : Polling dn₀ (k + 1, dn) ls) : Polling dn₀ (k, dn) (ls ++
      [Label.issue (Act.showDetail addr i), .reply (.showDetail addr i) (Except.error err)]) :=
  h.act rfl rfl (fun _ => rfl)

variable (hvalue : ∀ ls dn, Reported dn₀ ls dn → T.value ls dn)
  (hbefore : ∀ ls a, T.answers ls → looks a = true → T.before ls a)

include hbefore in
theorem fulfils_act {α : Type} {Q : List (Label Act ActR) → α → Prop} {a : Act}
    {p : ActR a → Go α} (ha : looks a = true) (hsend : ∀ r, received .dataNode (.reply a r) = none)
    (hls : T.answers ls) (hp : ∀ r, T.answers (ls ++ [Label.issue a, .reply a r]) →
      Fulfils T Q (ls ++ [Label.issue a, .reply a r]) (p r)) : Fulfils T Q ls (.call a p) := by
  refine ⟨hbefore ls a hls ha, fun r v hv => ?_, hp⟩
  rw [hsend r] at hv
  cases hv

include hvalue hbefore in
/-- The end of the last call of `checkProgress`. -/
theorem fulfils_send {x : (ℕ × DataNode) × Bool × Option Err} (hls : T.answers ls)
    (hunsent : sends .dataNode ls = []) (hdn : Reported dn₀ ls dn)
    (hx : x.2.1 = true ∨ x.2.2 ≠ none) :
    Fulfils T (Looked dn₀ n) ls (.call (.sendDataNode dn) (fun _ => .ret x)) := by
  refine ⟨hbefore ls _ hls rfl, fun _ v hv => ?_, fun _ _ => Or.inl ⟨hx, ?_⟩⟩
  · cases hv
    exact ⟨hunsent, hvalue ls dn hdn⟩
  · rw [sends_act, hunsent]
    rfl

include hvalue hbefore in
theorem noteDetail_fulfils {info : BackupInfo} (hp : Polling dn₀ (k, dn) ls)
    {a : Act} {r : ActR a} (hsend : received .dataNode (.reply a r) = none)
    (hout : outcome (.reply a r) = some (.ok info)) (hn : n ≤ (seen ls).length)
    (hls : T.answers (ls ++ [Label.issue a, .reply a r])) :
    Fulfils T (Looked dn₀ n) (ls ++ [Label.issue a, .reply a r]) (noteDetail k dn info) := by
  refine fulfils_act (a := .now) hbefore rfl (fun _ => rfl) hls (fun endTime hls' => ?_)
  have hseen : seen (ls ++ [Label.issue a, .reply a r] ++
      [Label.issue Act.now, .reply .now endTime]) = seen ls ++ [Except.ok info] := by
    rw [seen_act, seen_act, hout]
    exact List.append_nil _
  change Fulfils T _ _ (if Terminal info.status then _ else _)
  split
  · next hterminal =>
    refine fulfils_send hvalue hbefore hls' ?_ ⟨hp.node, ?_⟩ (Or.inl rfl)
    · rw [sends_act, sends_act, hsend, hp.unsent]
      rfl
    · rw [hseen, hp.left, verdict, if_pos hterminal]
  · next hterminal =>
    refine Or.inr ⟨rfl, ?_, ?_⟩
    · have hleft : ∀ os, verdict k ((outcome (.reply a r)).toList ++ os) = verdict k os := by
        intro os
        rw [hout]
        change verdict k (.ok info :: os) = _
        rw [verdict, if_neg hterminal]
      have hnode : key { dn with status := info.status, endTime := endTime } = key dn := rfl
      exact (hp.act hsend hnode hleft).act rfl rfl (fun _ => rfl)
    · rw [hseen, List.length_append, List.length_singleton]
      exact Nat.lt_succ_of_le hn

include hvalue hbefore in
theorem checkBackupProgress_fulfils (f : Flags) (sn : StorageNode)
    (hp : Polling dn₀ (k, dn) ls) (hn : n ≤ (seen ls).length) (hls : T.answers ls) :
    Fulfils T (Looked dn₀ n) ls (checkBackupProgress f sn k dn) := by
  induction k generalizing ls with
  | zero =>
    rw [checkBackupProgress]
    refine fulfils_act (a := .showDetail _ _) hbefore rfl (fun _ => rfl) hls (fun res hls' => ?_)
    cases res with
    | error err =>
      refine fulfils_send hvalue hbefore hls' ?_ ⟨hp.node, ?_⟩ (Or.inr nofun)
      · rw [sends_act, hp.unsent]
        rfl
      · rw [seen_act, hp.left]
        rfl
    | ok info => exact noteDetail_fulfils hvalue hbefore hp rfl rfl hn hls'
  | succ k ih =>
    rw [checkBackupProgress]
    refine fulfils_act (a := .showDetail _ _) hbefore rfl (fun _ => rfl) hls (fun res hls' => ?_)
    cases res with
    | error err =>
      refine fulfils_act (a := .sleep) hbefore rfl (fun _ => rfl) hls' (fun _ hls'' => ?_)
      refine ih (hp.retry.act rfl rfl (fun _ => rfl)) ?_ hls''
      rw [seen_act, seen_act, List.length_append, List.length_append]
      omega
    | ok info => exact noteDetail_fulfils hvalue hbefore hp rfl rfl hn hls'

end Looks

def Sees (o : Stream' Outcome) (ls : List (Label Act ActR)) : Prop :=
  o.take (seen ls).length = seen ls

section Sees

variable {o : Stream' Outcome} {ls : List (Label Act ActR)}

theorem sees_nil (o : Stream' Outcome) : Sees o [] := rfl

theorem sees_append (ls' : List (Label Act ActR)) (h : Sees o (ls ++ ls')) : Sees o ls := by
  rw [Sees, seen, List.filterMap_append, ← seen, ← seen] at h
  have hle : (seen ls).length ≤ (seen ls ++ seen ls').length := by
    rw [List.length_append]
    exact Nat.le_add_right _ _
  calc o.take (seen ls).length
      = (o.take (seen ls ++ seen ls').length).take (seen ls).length := by
        rw [Stream'.take_take, min_eq_right hle]
    _ = seen ls := by rw [h, List.take_left]

theorem sees_issue {a : Act} (h : Sees o ls) : Sees o (ls ++ [Label.issue a]) := by
  have hsame : seen (ls ++ [Label.issue a]) = seen ls := by
    rw [seen, List.filterMap_append]
    exact List.append_nil _
  rwa [Sees, hsame]

theorem sees_silent {a : Act} {r : ActR a} (hout : outcome (.reply a r) = none) (h : Sees o ls) :
    Sees o (ls ++ [Label.issue a, .reply a r]) := by
  rw [Sees, seen_act, hout, Option.toList_none, List.append_nil]
  exact h

theorem sees_next (addr : String) (i : ShowDetailIn) (h : Sees o ls) :
    Sees o (ls ++ [Label.issue (Act.showDetail addr i),
      .reply (.showDetail addr i) (o.get (seen ls).length)]) := by
  have hout : outcome (.reply (.showDetail addr i) (o.get (seen ls).length)) =
      some (o.get (seen ls).length) := rfl
  rw [Sees, seen_act, hout, Option.toList_some, List.length_append, List.length_singleton,
    Stream'.take_succ', h]

theorem sees_looks {a : Act} (ha : looks a = true) (h : Sees o ls) :
    ∃ r, Sees o (ls ++ [Label.issue a, .reply a r]) := by
  cases a with
  | showDetail addr i => exact ⟨_, sees_next addr i h⟩
  | sleep => exact ⟨(), sees_silent rfl h⟩
  | now => exact ⟨"", sees_silent rfl h⟩
  | sendDataNode dn => exact ⟨(), sees_silent rfl h⟩
  | _ => cases ha

/-- As long as there is nothing to report, the stream has not come to its end. -/
theorem Polling.not_ended {dn₀ : DataNode} {t : ℕ × DataNode} {N : ℕ} (h : Polling dn₀ t ls)
    (hls : Sees o ls) (hN : verdict 3 (o.take N) ≠ none) : (seen ls).length < N := by
  by_contra hge
  obtain ⟨status, hstatus⟩ := Option.ne_none_iff_exists'.mp hN
  have hsome := verdict_take_mono hstatus (Nat.le_of_not_lt hge)
  have hnone := h.left []
  rw [List.append_nil, ← hls] at hnone
  cases t
  cases hsome.symm.trans hnone

end Sees

def calling {σ : Type} : Place σ → Bool
  | .update t => t.result.isNone
  | _ => false

/-- A goroutine in `UpdateProgress`, and what its update function does and is answered
within `E`. -/
inductive Observed {σ : Type} (updateF : σ → Go (σ × Bool × Option Err))
    (E : List (Label Act ActR) → Prop) :
    Updater σ × List (Label Act ActR) → Updater σ × List (Label Act ActR) → Prop
  | act {t u : Thread Act ActR (σ × Bool × Option Err)} {l : Label Act ActR} {d : Bool} {c : ℕ}
      {ls : List (Label Act ActR)} : t.Step l u → E (ls ++ [l]) →
      Observed updateF E (⟨.update t, d, c⟩, ls) (⟨.update u, d, c⟩, ls ++ [l])
  | other {u v : Updater σ} {ls : List (Label Act ActR)} : calling u.place = false →
      Own updateF u v → Observed updateF E (u, ls) (v, ls)

section Observed

variable {σ : Type} {updateF : σ → Go (σ × Bool × Option Err)} {E : List (Label Act ActR) → Prop}
  {P : Updater σ × List (Label Act ActR) → Prop} {ls : List (Label Act ActR)}

theorem step_calling {t u : Thread Act ActR (σ × Bool × Option Err)} {l : Label Act ActR}
    (h : t.Step l u) : calling (.update t) = true := by
  cases h <;> rfl

theorem inevitable_own {u v : Updater σ} (hu : calling u.place = false) (hv : Own updateF u v)
    (hall : ∀ w, Own updateF u w → w = v) (h : Inevitable (Observed updateF E) P (v, ls)) :
    Inevitable (Observed updateF E) P (u, ls) := by
  refine Inevitable.later ⟨_, .other hu hv⟩ (fun S hS => ?_)
  cases hS with
  | act hstep _ => cases (step_calling hstep).symm.trans hu
  | other _ hw =>
    rw [hall _ hw]
    exact h

theorem inevitable_call {κ : Chan} {T : Contract κ}
    {Q : List (Label Act ActR) → σ × Bool × Option Err → Prop} {d : Bool} {c : ℕ}
    {p : Go (σ × Bool × Option Err)}
    (hissue : ∀ ls a, T.answers ls → T.answers (ls ++ [Label.issue a]))
    (hbefore : ∀ ls a, T.before ls a → ∃ r, T.answers (ls ++ [Label.issue a, .reply a r]))
    (h : Fulfils T Q ls p) (hls : T.answers ls)
    (hend : ∀ ls x, Q ls x → T.answers ls →
      Inevitable (Observed updateF T.answers) P (⟨.update (.run (.ret x)), d, c⟩, ls)) :
    Inevitable (Observed updateF T.answers) P (⟨.update (.run p), d, c⟩, ls) := by
  induction p generalizing ls with
  | ret x => exact hend ls x h hls
  | call a k ih =>
    obtain ⟨hnext, -, hk⟩ := h
    have hjoin : ∀ r, ls ++ [Label.issue a] ++ [Label.reply a r] =
        ls ++ [Label.issue a, .reply a r] := by simp
    refine Inevitable.later ⟨_, .act (.issue a k) (hissue ls a hls)⟩ (fun S hS => ?_)
    cases hS with
    | other hcalling _ => cases hcalling
    | act hstep _ =>
      cases hstep
      obtain ⟨r, hr⟩ := hbefore ls a hnext
      rw [← hjoin r] at hr
      refine Inevitable.later ⟨_, .act (.reply a k r) hr⟩ (fun S hS => ?_)
      cases hS with
      | other hcalling _ => cases hcalling
      | act hstep hr' =>
        cases hstep
        rw [hjoin] at hr' ⊢
        exact ih _ (hk _ hr') hr'

end Observed

/-- The method value that `UpdateProgress` is given. -/
def checkProgress (f : Flags) (sn : StorageNode) (t : ℕ × DataNode) :
    Go ((ℕ × DataNode) × Bool × Option Err) :=
  checkBackupProgress f sn t.1 t.2

section Task

variable {f : Flags} {sn : StorageNode} {dn₀ : DataNode} {o : Stream' Outcome} {c : ℕ}
  {S : Updater (ℕ × DataNode) × List (Label Act ActR)} {ls : List (Label Act ActR)}

/-- The task sends one data node, with the status that comes of the outcomes, and it has sent it
when it comes to say that it is done. -/
def reporting (dn₀ : DataNode) : Contract .dataNode where
  value := Reported dn₀
  answers _ := True
  before ls a := a = .sendDone → (sends .dataNode ls).length = 1

theorem reporting_before (ls : List (Label Act ActR)) {a : Act} (ha : a ≠ .sendDone) :
    (reporting dn₀).before ls a := fun h => absurd h ha

theorem reporting_looks (ls : List (Label Act ActR)) (a : Act) (ha : looks a = true) :
    (reporting dn₀).before ls a := by
  refine reporting_before ls ?_
  rintro rfl
  cases ha

def following (dn₀ : DataNode) (o : Stream' Outcome) : Contract .dataNode where
  value := Reported dn₀
  answers := Sees o
  before ls a := ∃ r, Sees o (ls ++ [.issue a, .reply a r])

/-- What holds of the task at the places of `UpdateProgress`. -/
def Holds (dn₀ : DataNode) (ls : List (Label Act ActR)) : Place (ℕ × DataNode) → Prop
  | .head s | .select s | .rest s false => Polling dn₀ s ls
  | .update t => StillFulfils (reporting dn₀) (Looked dn₀ 0) ls t
  | _ => True

theorem polling_start (dn₀ : DataNode) : Polling dn₀ (defaultShowDetailRetryTimes, dn₀) [] where
  unsent := rfl
  node := rfl
  left _ := rfl

theorem observed_holds {S' : Updater (ℕ × DataNode) × List (Label Act ActR)}
    (h : Holds dn₀ S.2 S.1.place ∧ Once (reporting dn₀) S.2 ∧ Sees o S.2)
    (hstep : Observed (checkProgress f sn) (Sees o) S S') :
    Holds dn₀ S'.2 S'.1.place ∧ Once (reporting dn₀) S'.2 ∧ Sees o S'.2 := by
  obtain ⟨hholds, honce, hsees⟩ := h
  cases hstep with
  | act hstep hl =>
    obtain ⟨hstill, honce'⟩ := step_fulfils (T := reporting dn₀) reported_append hholds honce hstep trivial
    exact ⟨hstill, honce', hl⟩
  | other hcalling hown =>
    refine ⟨?_, honce, hsees⟩
    cases hown with
    | leave => trivial
    | enter => exact hholds
    | tick =>
      exact checkBackupProgress_fulfils (fun _ _ h => h) (fun ls a _ => reporting_looks ls a) f sn
        hholds (Nat.zero_le _) trivial
    | act hstep => cases (step_calling hstep).symm.trans hcalling
    | errored => trivial
    | @fine s finished =>
      cases finished with
      | true => trivial
      | false =>
        obtain ⟨hreported | hreported, -⟩ | ⟨-, hpolling, -⟩ := hholds
        · cases hreported
        · exact absurd rfl hreported
        · exact hpolling
    | finished => trivial
    | again => exact hholds

theorem reached_once
    (h : Reaches (Observed (checkProgress f sn) (Sees o))
      (⟨.head (defaultShowDetailRetryTimes, dn₀), false, c⟩, []) S) :
    Once (reporting dn₀) S.2 ∧ Sees o S.2 := by
  refine (h.keeps (I := fun S => Holds dn₀ S.2 S.1.place ∧ Once (reporting dn₀) S.2 ∧ Sees o S.2)
    (fun _ _ hS hstep => observed_holds hS hstep) ?_).2
  exact ⟨polling_start dn₀, once_nil, sees_nil o⟩

theorem inevitable_head {N : ℕ} (hN : verdict 3 (o.take N) ≠ none) {m : ℕ} {s : ℕ × DataNode}
    (hp : Polling dn₀ s ls) (hls : Sees o ls) (hm : N ≤ (seen ls).length + m) :
    Inevitable (Observed (checkProgress f sn) (Sees o))
      (fun S => (sends .dataNode S.2).length = 1) (⟨.head s, false, c⟩, ls) := by
  induction m generalizing s ls with
  | zero => exact absurd (hp.not_ended hls hN) (by omega)
  | succ m ih =>
    refine inevitable_own rfl .enter (fun w hw => by cases hw; rfl) ?_
    refine inevitable_own rfl .tick (fun w hw => by cases hw; rfl) ?_
    have hlook : Fulfils (following dn₀ o) (Looked dn₀ (seen ls).length) ls (checkProgress f sn s) :=
      checkBackupProgress_fulfils (fun _ _ h => h) (fun _ _ h ha => sees_looks ha h) f sn hp
        (le_refl _) hls
    refine inevitable_call (T := following dn₀ o) (fun _ _ h => sees_issue h) (fun _ _ h => h)
      hlook hls (fun ls' x hx hls' => ?_)
    obtain ⟨s', finished, err⟩ := x
    obtain ⟨-, hone⟩ | ⟨hquiet, hp', hlt⟩ := hx
    · exact Inevitable.now hone
    · obtain ⟨rfl, rfl⟩ := Prod.mk.injEq .. ▸ hquiet
      have hfine : ∀ w, Own (checkProgress f sn) ⟨.update (.run (.ret (s', false, none))), false, c⟩ w →
          w = ⟨.rest s' false, false, c⟩ := by
        intro w hw
        cases hw with
        | act hstep => cases hstep
        | fine => rfl
      refine inevitable_own rfl .fine hfine ?_
      refine inevitable_own rfl .again (fun w hw => by cases hw; rfl) ?_
      exact ih hp' hls' (by omega)

/-- Whatever the outcomes are, the task sends at most one data node. It comes to send one if and
only if they have a state in which the backup is over or four errors, and its status says which
of the two came first. -/
theorem backup_task_reports_once (f : Flags) (sn : StorageNode) (dn₀ : DataNode)
    (o : Stream' Outcome) (c : ℕ) :
    (∀ S, Reaches (Observed (checkProgress f sn) (Sees o))
        (⟨.head (defaultShowDetailRetryTimes, dn₀), false, c⟩, []) S →
      (sends .dataNode S.2).length ≤ 1 ∧ ∀ dn ∈ sends .dataNode S.2, key dn = key dn₀ ∧ Ends o ∧
        (dn.status = ssBackupStatusCheckError ↔ FourthErrorFirst o) ∧
        (¬FourthErrorFirst o → FirstEnding o dn.status)) ∧
    (Inevitable (Observed (checkProgress f sn) (Sees o))
        (fun S => (sends .dataNode S.2).length = 1)
        (⟨.head (defaultShowDetailRetryTimes, dn₀), false, c⟩, []) ↔ Ends o) := by
  have hsafe : ∀ S, Reaches (Observed (checkProgress f sn) (Sees o))
      (⟨.head (defaultShowDetailRetryTimes, dn₀), false, c⟩, []) S →
      (sends .dataNode S.2).length ≤ 1 ∧ ∀ dn ∈ sends .dataNode S.2, key dn = key dn₀ ∧ Ends o ∧
        (dn.status = ssBackupStatusCheckError ↔ FourthErrorFirst o) ∧
        (¬FourthErrorFirst o → FirstEnding o dn.status) := by
    intro S hS
    obtain ⟨⟨hone, hvalues⟩, hsees⟩ := reached_once hS
    refine ⟨hone, fun dn hdn => ?_⟩
    obtain ⟨hkey, hverdict⟩ := hvalues dn hdn
    have htake : verdict 3 (o.take (seen S.2).length) = some dn.status := by
      rw [hsees]
      exact hverdict
    refine ⟨hkey, ends_iff.mpr ⟨(seen S.2).length, ?_⟩, verdict_checkError_iff htake, verdict_firstEnding htake⟩
    rw [htake]
    exact Option.some_ne_none _
  refine ⟨hsafe, fun h => ?_, fun h => ?_⟩
  · obtain ⟨S, hS, hone⟩ := h.reached
    obtain ⟨dn, hdn⟩ := List.length_eq_one_iff.mp hone
    exact ((hsafe S hS).2 dn (by rw [hdn]; exact List.mem_singleton.mpr rfl)).2.1
  · obtain ⟨N, hN⟩ := ends_iff.mp h
    exact inevitable_head hN (polling_start dn₀) (sees_nil o) (Nat.le_add_left N _)

end Task

end ShardingOnCloud.Pitr.BackupTask
