import ShardingOnCloud.Lib.Schedules
import ShardingOnCloud.Pitr.Backup

namespace ShardingOnCloud.Pitr.Progress

open ShardingOnCloud.Lib.Program ShardingOnCloud.Lib.Assertions ShardingOnCloud.Lib.Pool
open ShardingOnCloud.Lib.Schedules ShardingOnCloud.Pitr.Model ShardingOnCloud.Pitr.Calls
open ShardingOnCloud.Pitr.Backup

/-- The places in `UpdateProgress`, with the state that the update function keeps. -/
inductive Place (σ : Type)
  /-- at `for !tracker.IsDone()` -/
  | head (s : σ)
  /-- in the `select` over `done` and the ticker -/
  | select (s : σ)
  /-- in the update function -/
  | update (t : Thread Act ActR (σ × Bool × Option Err))
  /-- at the send that follows `MarkAsErrored` -/
  | sendErrored (s : σ) (finished : Bool)
  /-- at `if finished` -/
  | rest (s : σ) (finished : Bool)
  /-- at the send that follows `MarkAsDone` -/
  | sendFinished (s : σ)
  | returned

def Place.afterSend {σ : Type} : Place σ → Option (Place σ)
  | .sendErrored s finished => some (.rest s finished)
  | .sendFinished s => some (.head s)
  | _ => none

/-- A goroutine in `UpdateProgress`: where it is, whether its tracker is done, and the channel
`done` that it has made. -/
structure Updater (σ : Type) where
  place : Place σ
  isDone : Bool
  done : ℕ

/-- What a goroutine does without another one. The ticker fires again and again. -/
inductive Own {σ : Type} (updateF : σ → Go (σ × Bool × Option Err)) : Updater σ → Updater σ → Prop
  | leave {s : σ} {c : ℕ} : Own updateF ⟨.head s, true, c⟩ ⟨.returned, true, c⟩
  | enter {s : σ} {c : ℕ} : Own updateF ⟨.head s, false, c⟩ ⟨.select s, false, c⟩
  | tick {s : σ} {d : Bool} {c : ℕ} :
      Own updateF ⟨.select s, d, c⟩ ⟨.update (.run (updateF s)), d, c⟩
  | act {t u : Thread Act ActR (σ × Bool × Option Err)} {l : Label Act ActR} {d : Bool} {c : ℕ} :
      t.Step l u → Own updateF ⟨.update t, d, c⟩ ⟨.update u, d, c⟩
  | errored {s : σ} {finished : Bool} {err : Err} {d : Bool} {c : ℕ} :
      Own updateF ⟨.update (.run (.ret (s, finished, some err))), d, c⟩
        ⟨.sendErrored s finished, true, c⟩
  | fine {s : σ} {finished : Bool} {d : Bool} {c : ℕ} :
      Own updateF ⟨.update (.run (.ret (s, finished, none))), d, c⟩ ⟨.rest s finished, d, c⟩
  | finished {s : σ} {d : Bool} {c : ℕ} :
      Own updateF ⟨.rest s true, d, c⟩ ⟨.sendFinished s, true, c⟩
  | again {s : σ} {d : Bool} {c : ℕ} : Own updateF ⟨.rest s false, d, c⟩ ⟨.head s, d, c⟩

section System

variable {ι : Type} [DecidableEq ι] {σ : ι → Type}

/-- The goroutines that have been started, and the number of channels made so far. -/
structure System (σ : ι → Type) where
  gos : ∀ i, Option (Updater (σ i))
  channels : ℕ

def System.set (S : System σ) (i : ι) (u : Updater (σ i)) : System σ :=
  { S with gos := Function.update S.gos i (some u) }

/-- A goroutine is started and makes its channel, one goes on alone, or two meet at a channel:
`done` is not buffered, so that a send ends only when another goroutine receives. -/
inductive Step (updateF : ∀ i, σ i → Go (σ i × Bool × Option Err)) (s₀ : ∀ i, σ i) :
    System σ → System σ → Prop
  | go {S : System σ} {i : ι} : S.gos i = none →
      Step updateF s₀ S { S.set i ⟨.head (s₀ i), false, S.channels⟩ with channels := S.channels + 1 }
  | own {S : System σ} {i : ι} {u v : Updater (σ i)} : S.gos i = some u → Own (updateF i) u v →
      Step updateF s₀ S (S.set i v)
  | meet {S : System σ} {i j : ι} {u : Updater (σ i)} {v : Updater (σ j)} {p : Place (σ i)}
      {s : σ j} : i ≠ j → S.gos i = some u → u.place.afterSend = some p → S.gos j = some v →
      v.place = .select s → u.done = v.done →
      Step updateF s₀ S ((S.set i { u with place := p }).set j { v with place := .returned })

def System.idle : System σ := ⟨fun _ => none, 0⟩

/-- Every goroutine has a channel of its own. One whose tracker is done is at one of the two
sends, and none has returned. -/
structure Sound (S : System σ) : Prop where
  made : ∀ {i u}, S.gos i = some u → u.done < S.channels
  own : ∀ {i j u v}, S.gos i = some u → S.gos j = some v → u.done = v.done → i = j
  sending : ∀ {i u}, S.gos i = some u → u.isDone = true → u.place.afterSend ≠ none
  stays : ∀ {i u}, S.gos i = some u → u.place ≠ .returned

theorem set_self (S : System σ) (i : ι) (u : Updater (σ i)) : (S.set i u).gos i = some u :=
  Function.update_self _ _ _

/-- The goroutine that is found after a change is the changed one, or it was there before. -/
theorem set_cases {S : System σ} {i j : ι} {u : Updater (σ i)} {v : Updater (σ j)}
    (h : (S.set i u).gos j = some v) : (∃ hij : i = j, hij ▸ u = v) ∨ (j ≠ i ∧ S.gos j = some v) := by
  by_cases hij : j = i
  · subst hij
    rw [set_self, Option.some.injEq] at h
    exact Or.inl ⟨rfl, h⟩
  · have hsame : (S.set i u).gos j = S.gos j := Function.update_of_ne hij _ _
    exact Or.inr ⟨hij, hsame ▸ h⟩

theorem Sound.set {S : System σ} (h : Sound S) {i : ι} {u v : Updater (σ i)}
    (hi : S.gos i = some u) (hdone : v.done = u.done)
    (hsending : v.isDone = true → v.place.afterSend ≠ none) (hstays : v.place ≠ .returned) :
    Sound (S.set i v) where
  made := by
    intro j w hj
    obtain ⟨rfl, rfl⟩ | ⟨-, hj⟩ := set_cases hj
    · exact hdone ▸ h.made hi
    · exact h.made hj
  own := by
    intro j k w w' hj hk heq
    obtain ⟨rfl, rfl⟩ | ⟨-, hj⟩ := set_cases hj
    · obtain ⟨rfl, rfl⟩ | ⟨-, hk⟩ := set_cases hk
      · rfl
      · exact h.own hi hk (hdone ▸ heq)
    · obtain ⟨rfl, rfl⟩ | ⟨-, hk⟩ := set_cases hk
      · exact h.own hj hi (heq.trans hdone)
      · exact h.own hj hk heq
  sending := by
    intro j w hj
    obtain ⟨rfl, rfl⟩ | ⟨-, hj⟩ := set_cases hj
    · exact hsending
    · exact h.sending hj
  stays := by
    intro j w hj
    obtain ⟨rfl, rfl⟩ | ⟨-, hj⟩ := set_cases hj
    · exact hstays
    · exact h.stays hj

theorem Sound.go {S : System σ} (h : Sound S) {i : ι} (s : σ i) :
    Sound { S.set i ⟨.head s, false, S.channels⟩ with channels := S.channels + 1 } where
  made := by
    intro j w hj
    obtain ⟨rfl, rfl⟩ | ⟨-, hj⟩ := set_cases hj
    · exact Nat.lt_succ_self _
    · exact Nat.lt_succ_of_lt (h.made hj)
  own := by
    intro j k w w' hj hk heq
    obtain ⟨rfl, rfl⟩ | ⟨-, hj⟩ := set_cases hj
    · obtain ⟨rfl, rfl⟩ | ⟨-, hk⟩ := set_cases hk
      · rfl
      · exact absurd heq (Nat.ne_of_gt (h.made hk))
    · obtain ⟨rfl, rfl⟩ | ⟨-, hk⟩ := set_cases hk
      · exact absurd heq (Nat.ne_of_lt (h.made hj))
      · exact h.own hj hk heq
  sending := by
    intro j w hj
    obtain ⟨rfl, rfl⟩ | ⟨-, hj⟩ := set_cases hj
    · exact nofun
    · exact h.sending hj
  stays := by
    intro j w hj
    obtain ⟨rfl, rfl⟩ | ⟨-, hj⟩ := set_cases hj
    · exact nofun
    · exact h.stays hj

variable {updateF : ∀ i, σ i → Go (σ i × Bool × Option Err)} {s₀ : ∀ i, σ i} {S T : System σ}

/-- No two goroutines ever meet: the sender of a channel is the only one that holds it. -/
theorem step_sound (h : Sound S) (hstep : Step updateF s₀ S T) : Sound T := by
  cases hstep with
  | go hi => exact h.go _
  | own hi hown =>
    have hsend := h.sending hi
    cases hown with
    | leave => exact absurd rfl (hsend rfl)
    | enter => exact h.set hi rfl nofun nofun
    | tick => exact h.set hi rfl (fun hd => absurd rfl (hsend hd)) nofun
    | act _ => exact h.set hi rfl (fun hd => absurd rfl (hsend hd)) nofun
    | errored => exact h.set hi rfl (fun _ => nofun) nofun
    | fine => exact h.set hi rfl (fun hd => absurd rfl (hsend hd)) nofun
    | finished => exact h.set hi rfl (fun _ => nofun) nofun
    | again => exact h.set hi rfl (fun hd => absurd rfl (hsend hd)) nofun
  | meet hij hi _ hj _ hdone => exact absurd (h.own hi hj hdone) hij

omit [DecidableEq ι] in
theorem idle_sound : Sound (System.idle : System σ) where
  made := nofun
  own := nofun
  sending := nofun
  stays := nofun

theorem reached_sound (h : Reaches (Step updateF s₀) .idle S) : Sound S :=
  h.keeps (fun _ _ hS hstep => step_sound hS hstep) idle_sound

end System

section Reports

variable {σ : Type} {updateF : σ → Go (σ × Bool × Option Err)}

/-- Called again and again from the state `s`, the update function may come to report that it
is finished, or to return an error. -/
inductive Reports (updateF : σ → Go (σ × Bool × Option Err)) : σ → Prop
  | now {s s' : σ} {finished : Bool} {err : Option Err} {tr : List (Event Act ActR Empty)} :
      Run alone (updateF s) tr (s', finished, err) → finished = true ∨ err ≠ none →
      Reports updateF s
  | later {s s' : σ} {tr : List (Event Act ActR Empty)} :
      Run alone (updateF s) tr (s', false, none) → Reports updateF s' → Reports updateF s

/-- A call of the update function has just reported that it is finished, or returned an error. -/
def Updater.Reported (u : Updater σ) : Prop :=
  ∃ s finished err, u.place = .update (.run (.ret (s, finished, err))) ∧
    (finished = true ∨ err ≠ none)

theorem reaches_update {t u : Thread Act ActR (σ × Bool × Option Err)} {ls : List (Label Act ActR)}
    (h : Thread.Path t ls u) (d : Bool) (c : ℕ) :
    Reaches (Own updateF) ⟨.update t, d, c⟩ ⟨.update u, d, c⟩ := by
  induction ls generalizing t with
  | nil =>
    cases h
    exact .refl
  | cons l ls ih =>
    obtain ⟨v, hv, hu⟩ := h
    exact .head (.act hv) (ih hu)

theorem reaches_call {s : σ} {u : Thread Act ActR (σ × Bool × Option Err)}
    {ls : List (Label Act ActR)} (h : Thread.Path (.run (updateF s)) ls u) (c : ℕ) :
    Reaches (Own updateF) ⟨.head s, false, c⟩ ⟨.update u, false, c⟩ :=
  .head .enter (.head .tick (reaches_update h false c))

theorem reports_reached {s : σ} (h : Reports updateF s) (c : ℕ) :
    ∃ v, Reaches (Own updateF) ⟨.head s, false, c⟩ v ∧ v.Reported := by
  induction h with
  | now hrun hlast =>
    obtain ⟨ls, hpath⟩ := path_of_run hrun
    exact ⟨_, reaches_call hpath c, _, _, _, rfl, hlast⟩
  | later hrun _ ih =>
    obtain ⟨ls, hpath⟩ := path_of_run hrun
    obtain ⟨v, hv, hreported⟩ := ih
    refine ⟨v, ?_, hreported⟩
    exact (reaches_call hpath c).trans (.head .fine (.head .again hv))

/-- The goroutine is where it comes with an update function that reports nothing. -/
def Quiet (updateF : σ → Go (σ × Bool × Option Err)) (u : Updater σ) : Prop :=
  u.isDone = false ∧ ∃ s, ¬Reports updateF s ∧ (u.place = .head s ∨ u.place = .select s ∨
    u.place = .rest s false ∨
    ∃ ls t, u.place = .update t ∧ Thread.Path (.run (updateF s)) ls t)

theorem Quiet.not_reported {u : Updater σ} (h : Quiet updateF u) : ¬u.Reported := by
  rintro ⟨s', finished, err, hplace, hlast⟩
  obtain ⟨-, s, hs, hat | hat | hat | ⟨ls, t, hat, hpath⟩⟩ := h
  · cases hplace.symm.trans hat
  · cases hplace.symm.trans hat
  · cases hplace.symm.trans hat
  · cases hplace.symm.trans hat
    exact hs (.now (run_of_path hpath) hlast)

theorem Quiet.no_send {u : Updater σ} (h : Quiet updateF u) : u.place.afterSend = none := by
  obtain ⟨-, s, -, hat | hat | hat | ⟨ls, t, hat, -⟩⟩ := h <;> rw [hat] <;> rfl

theorem own_quiet {u v : Updater σ} (h : Quiet updateF u) (hown : Own updateF u v) :
    Quiet updateF v := by
  have hnot := h.not_reported
  obtain ⟨hdone, s, hs, hat⟩ := h
  cases hown with
  | leave => cases hdone
  | enter =>
    obtain hat | hat | hat | ⟨ls, t, hat, -⟩ := hat <;> cases hat
    exact ⟨hdone, _, hs, Or.inr (Or.inl rfl)⟩
  | tick =>
    obtain hat | hat | hat | ⟨ls, t, hat, -⟩ := hat <;> cases hat
    exact ⟨hdone, _, hs, Or.inr (Or.inr (Or.inr ⟨[], _, rfl, rfl⟩))⟩
  | @act _ _ l _ _ hstep =>
    obtain hat | hat | hat | ⟨ls, t, hat, hpath⟩ := hat <;> cases hat
    refine ⟨hdone, s, hs, Or.inr (Or.inr (Or.inr ⟨ls ++ [l], _, rfl, ?_⟩))⟩
    exact World.path_append.mpr ⟨_, hpath, _, hstep, rfl⟩
  | errored => exact absurd ⟨_, _, _, rfl, Or.inr (Option.some_ne_none _)⟩ hnot
  | @fine s' finished =>
    obtain hat | hat | hat | ⟨ls, t, hat, hpath⟩ := hat <;> cases hat
    cases finished with
    | true => exact absurd ⟨_, _, _, rfl, Or.inl rfl⟩ hnot
    | false =>
      refine ⟨hdone, s', fun hreports => hs ?_, Or.inr (Or.inr (Or.inl rfl))⟩
      exact .later (run_of_path hpath) hreports
  | finished => obtain hat | hat | hat | ⟨ls, t, hat, -⟩ := hat <;> cases hat
  | again =>
    obtain hat | hat | hat | ⟨ls, t, hat, -⟩ := hat <;> cases hat
    exact ⟨hdone, _, hs, Or.inl rfl⟩

end Reports

section Finish

variable {ι : Type} [DecidableEq ι] {σ : ι → Type}
  {updateF : ∀ i, σ i → Go (σ i × Bool × Option Err)} {s₀ : ∀ i, σ i} {S : System σ}

/-- In some continuation goroutine `i` returns from `UpdateProgress`. -/
def Returns (updateF : ∀ i, σ i → Go (σ i × Bool × Option Err)) (s₀ : ∀ i, σ i) (S : System σ)
    (i : ι) : Prop :=
  ∃ T u, Reaches (Step updateF s₀) S T ∧ T.gos i = some u ∧ u.place = .returned

/-- A goroutine whose update function has reported that it is finished, or returned an error,
can at least return. -/
def UpdatersFinish (updateF : ∀ i, σ i → Go (σ i × Bool × Option Err)) (s₀ : ∀ i, σ i) : Prop :=
  ∀ S, Reaches (Step updateF s₀) .idle S → ∀ i u, S.gos i = some u → u.Reported →
    Returns updateF s₀ S i

/-- `UpdateProgress` never returns. -/
theorem not_returns (h : Reaches (Step updateF s₀) .idle S) (i : ι) : ¬Returns updateF s₀ S i := by
  rintro ⟨T, u, hT, hu, hplace⟩
  exact (reached_sound (h.trans hT)).stays hu hplace

theorem own_reaches {i : ι} {u v : Updater (σ i)} (hu : S.gos i = some u)
    (h : Reaches (Own (updateF i)) u v) :
    ∃ T, Reaches (Step updateF s₀) S T ∧ T.gos i = some v := by
  induction h with
  | refl => exact ⟨S, .refl, hu⟩
  | tail _ hown ih =>
    obtain ⟨T, hT, hw⟩ := ih
    exact ⟨_, hT.tail (.own hw hown), set_self _ _ _⟩

theorem reached_quiet (hquiet : ∀ i, ¬Reports (updateF i) (s₀ i))
    (h : Reaches (Step updateF s₀) .idle S) : ∀ i u, S.gos i = some u → Quiet (updateF i) u := by
  refine h.keeps (I := fun S => ∀ i u, S.gos i = some u → Quiet (updateF i) u) ?_ nofun
  intro S T hS hstep
  cases hstep with
  | go hi =>
    intro j w hj
    obtain ⟨rfl, rfl⟩ | ⟨-, hj⟩ := set_cases hj
    · exact ⟨rfl, _, hquiet _, Or.inl rfl⟩
    · exact hS j w hj
  | own hi hown =>
    intro j w hj
    obtain ⟨rfl, rfl⟩ | ⟨-, hj⟩ := set_cases hj
    · exact own_quiet (hS _ _ hi) hown
    · exact hS j w hj
  | meet _ hi hsend _ _ _ => cases (hS _ _ hi).no_send.symm.trans hsend

theorem updatersFinish_iff : UpdatersFinish updateF s₀ ↔ ∀ i, ¬Reports (updateF i) (s₀ i) := by
  constructor
  · intro h i hreports
    let S : System σ := { System.idle.set i ⟨.head (s₀ i), false, 0⟩ with channels := 1 }
    have hgo : Reaches (Step updateF s₀) .idle S := .tail .refl (.go rfl)
    have hstart : S.gos i = some ⟨.head (s₀ i), false, 0⟩ := set_self System.idle i _
    obtain ⟨v, hv, hreported⟩ := reports_reached hreports 0
    obtain ⟨T, hT, hw⟩ := own_reaches hstart hv
    have hreached := hgo.trans hT
    exact not_returns hreached i (h T hreached i v hw hreported)
  · intro hquiet S hS i u hu hreported
    exact absurd hreported (reached_quiet hquiet hS i u hu).not_reported

end Finish

section Goroutines

variable {σ : Type} {updateF : σ → Go (σ × Bool × Option Err)} {n : ℕ} {s : σ}
  {ls : List (Label Act ActR)} {u : Thread Act ActR Unit}

def afterUpdate (updateF : σ → Go (σ × Bool × Option Err)) (n : ℕ) : σ × Bool × Option Err → Go Unit
  | (_, _, some _) => .call .markAsErrored (fun _ => sendDone)
  | (_, true, none) => .call .markAsDone (fun _ => sendDone)
  | (s, false, none) => updateLoop updateF n s

theorem updateLoop_succ (n : ℕ) (s : σ) :
    updateLoop updateF (n + 1) s = updateF s >>= afterUpdate updateF n := by
  rw [updateLoop]
  congr 1
  funext x
  obtain ⟨s', finished, _ | err⟩ := x
  · cases finished <;> rfl
  · rfl

/-- The goroutine is at a send on `done`. -/
def Stranded (u : Thread Act ActR Unit) : Prop := u = .run sendDone ∨ ∃ k, u = .wait .sendDone k

theorem Stranded.result {u : Thread Act ActR Unit} (h : Stranded u) : u.result = none := by
  obtain rfl | ⟨k, rfl⟩ := h <;> rfl

theorem sendDone_stranded (h : Thread.Path (.run sendDone) ls u) : Stranded u := by
  obtain ⟨-, rfl⟩ | ⟨-, rfl⟩ | ⟨r, -⟩ := Thread.path_run_call.mp h
  · exact Or.inl rfl
  · exact Or.inr ⟨_, rfl⟩
  · cases r

/-- The goroutine of a pool and the updater are at the same place. -/
inductive Mirrors (updateF : σ → Go (σ × Bool × Option Err)) :
    Thread Act ActR Unit → Updater σ → Prop
  | select {u : Thread Act ActR Unit} {ls : List (Label Act ActR)} {s : σ} {c : ℕ} :
      Thread.Path (.run (updateLoop updateF 0 s)) ls u → Mirrors updateF u ⟨.select s, false, c⟩
  | update {t : Thread Act ActR (σ × Bool × Option Err)} {n c : ℕ} :
      Mirrors updateF (t.bind (afterUpdate updateF n)) ⟨.update t, false, c⟩
  | marking {a : Act} {k : ActR a → Go Unit} {p : Place σ} {c : ℕ} :
      (∀ r, marks (.reply a r) = true) → p.afterSend ≠ none → Mirrors updateF (.wait a k) ⟨p, true, c⟩
  | sending {u : Thread Act ActR Unit} {p : Place σ} {c : ℕ} :
      Stranded u → p.afterSend ≠ none → Mirrors updateF u ⟨p, true, c⟩

theorem marking_mirrors {a : Act} {p : Place σ} {v : Updater σ} {c : ℕ}
    (h : Thread.Path (.run (.call a (fun _ => sendDone))) ls u)
    (ha : ∀ r, marks (.reply a r) = true) (hp : p.afterSend ≠ none)
    (hv : Mirrors updateF (.run (.call a (fun _ => sendDone))) v)
    (hown : Reaches (Own updateF) v ⟨p, true, c⟩) :
    ∃ w, Reaches (Own updateF) v w ∧ Mirrors updateF u w := by
  obtain ⟨-, rfl⟩ | ⟨-, rfl⟩ | ⟨r, ls', -, h'⟩ := Thread.path_run_call.mp h
  · exact ⟨v, .refl, hv⟩
  · exact ⟨_, hown, .marking ha hp⟩
  · exact ⟨_, hown, .sending (sendDone_stranded h') hp⟩

theorem updateLoop_mirrors (h : Thread.Path (.run (updateLoop updateF n s)) ls u) (c : ℕ) :
    ∃ v, Reaches (Own updateF) ⟨.head s, false, c⟩ v ∧ Mirrors updateF u v := by
  induction n generalizing s ls with
  | zero => exact ⟨_, .single .enter, .select h⟩
  | succ n ih =>
    rw [updateLoop_succ] at h
    obtain ⟨t, ht, rfl⟩ | ⟨ls₁, ⟨s', finished, err⟩, ls₂, h₁, h₂, -⟩ := Thread.path_bind h
    · exact ⟨_, reaches_call ht c, .update⟩
    · have hcall := reaches_call h₁ c
      have hat : Mirrors updateF (.run (afterUpdate updateF n (s', finished, err)))
          ⟨.update (.run (.ret (s', finished, err))), false, c⟩ :=
        @Mirrors.update σ updateF (.run (.ret (s', finished, err))) n c
      cases err with
      | some err =>
        obtain ⟨w, hw, hm⟩ := marking_mirrors (a := .markAsErrored) (p := .sendErrored s' finished)
          h₂ (fun _ => rfl) nofun hat (.single .errored)
        exact ⟨w, hcall.trans hw, hm⟩
      | none =>
        cases finished with
        | true =>
          obtain ⟨w, hw, hm⟩ := marking_mirrors (a := .markAsDone) (p := .sendFinished s') h₂
            (fun _ => rfl) nofun hat (.head .fine (.single .finished))
          exact ⟨w, hcall.trans hw, hm⟩
        | false =>
          obtain ⟨w, hw, hm⟩ := ih h₂
          exact ⟨w, hcall.trans (.head .fine (.head .again hw)), hm⟩

def Markless {α : Type} (p : Go α) : Prop :=
  Emits alone (onMain (fun l => marks l = false)) p (fun _ => True)

theorem Markless.any_marks {α : Type} {p : Go α} {t : Thread Act ActR α} (hp : Markless p)
    (h : Thread.Path (.run p) ls t) : ls.any marks = false := by
  rw [List.any_eq_false]
  intro l hl
  have hfalse : marks l = false := hp.cut (cut_of_path h) (.main l) (List.mem_map_of_mem hl)
  simp [hfalse]

/-- A goroutine whose tracker is marked is at a send on `done`. -/
theorem updateLoop_marked (hF : ∀ s, Markless (updateF s))
    (h : Thread.Path (.run (updateLoop updateF n s)) ls u) (hm : ls.any marks = true) :
    Stranded u := by
  induction n generalizing s ls with
  | zero =>
    obtain ⟨rfl, -⟩ | ⟨rfl, -⟩ | ⟨r, -⟩ := Thread.path_run_call.mp h
    · cases hm
    · cases hm
    · cases r
  | succ n ih =>
    rw [updateLoop_succ] at h
    obtain ⟨t, ht, -⟩ | ⟨ls₁, ⟨s', finished, err⟩, ls₂, h₁, h₂, rfl⟩ := Thread.path_bind h
    · rw [(hF s).any_marks ht] at hm
      cases hm
    · rw [List.any_append, (hF s).any_marks h₁, Bool.false_or] at hm
      have hlast : ∀ a : Act, Thread.Path (.run (.call a (fun _ => sendDone))) ls₂ u → Stranded u := by
        intro a ha
        obtain ⟨rfl, -⟩ | ⟨rfl, -⟩ | ⟨r, ls', -, h'⟩ := Thread.path_run_call.mp ha
        · cases hm
        · cases hm
        · exact sendDone_stranded h'
      cases err with
      | some err => exact hlast _ h₂
      | none =>
        cases finished with
        | true => exact hlast _ h₂
        | false => exact ih h₂ hm

theorem updateProgress_marked (hF : ∀ s, Markless (updateF s))
    (h : Thread.Path (.run (updateProgress updateF s)) ls u) (hm : ls.any marks = true) :
    Stranded u := by
  obtain ⟨rfl, -⟩ | ⟨rfl, -⟩ | ⟨ticks, ls', rfl, h'⟩ := Thread.path_run_call.mp h
  · cases hm
  · cases hm
  · exact updateLoop_marked hF h' hm

end Goroutines

end ShardingOnCloud.Pitr.Progress
