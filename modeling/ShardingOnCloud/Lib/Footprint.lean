import ShardingOnCloud.Lib.Pool

namespace ShardingOnCloud.Lib.Footprint

open ShardingOnCloud.Lib.Program ShardingOnCloud.Lib.Pool

variable {C : Type} {R : C → Type} {α β : Type}

/-- Every call that a program can make satisfies `P`. -/
def Only (P : C → Prop) : Proc C R α → Prop
  | .ret _ => True
  | .call c k => P c ∧ ∀ r, Only P (k r)

def about : Event C R Empty → C
  | .main (.issue c) => c
  | .main (.reply c _) => c

variable {P : C → Prop} {p : Proc C R α} {f : α → Proc C R β} {c : C}
  {tr : List (Event C R Empty)} {e : Event C R Empty}

theorem only_bind (hp : Only P p) (hf : ∀ a, Only P (f a)) : Only P (p >>= f) := by
  induction p with
  | ret a => exact hf a
  | call c k ih => exact ⟨hp.1, fun r => ih r (hp.2 r)⟩

theorem only_ite {b : Prop} [Decidable b] {q : Proc C R α} (hp : Only P p) (hq : Only P q) :
    Only P (if b then p else q) := by
  split
  · exact hp
  · exact hq

theorem only_bind_run (hp : Only P p) (hf : ∀ tr a, Run alone p tr a → Only P (f a)) :
    Only P (p >>= f) := by
  induction p with
  | ret a => exact hf [] a (Run.ret a)
  | call c k ih =>
    refine ⟨hp.1, fun r => ih r (hp.2 r) (fun tr a hrun => ?_)⟩
    exact hf _ a (Run.call rfl hrun)

theorem Only.mono {P' : C → Prop} (h : Only P p) (hP : ∀ c, P c → P' c) : Only P' p := by
  induction p with
  | ret a => trivial
  | call c k ih => exact ⟨hP c h.1, fun r => ih r (h.2 r)⟩

theorem Only.events (h : Only P p) (hc : Cut alone p tr) : ∀ e ∈ tr, P (about e) := by
  induction hc with
  | here p => simp
  | inside hd =>
    cases hd
    intro e he
    rw [List.mem_singleton.mp he]
    exact h.1
  | call hr _ ih =>
    cases hr
    intro e he
    simp only [whole, List.map_nil, List.cons_append, List.nil_append, List.mem_cons] at he
    obtain rfl | rfl | he := he
    · exact h.1
    · exact h.1
    · exact ih (h.2 _) e he

/-- Whatever the answers are, the result satisfies `Q`. -/
def Yields (Q : α → Prop) : Proc C R α → Prop
  | .ret a => Q a
  | .call _ k => ∀ r, Yields Q (k r)

theorem yields_true : Yields (fun _ => True) p := by
  induction p with
  | ret a => trivial
  | call c k ih => exact ih

theorem yields_bind {Q' : α → Prop} {Q : β → Prop} (hp : Yields Q' p)
    (hf : ∀ a, Q' a → Yields Q (f a)) : Yields Q (p >>= f) := by
  induction p with
  | ret a => exact hf a hp
  | call c k ih => exact fun r => ih r (hp r)

theorem Yields.mono {Q Q' : α → Prop} (h : Yields Q p) (hq : ∀ a, Q a → Q' a) : Yields Q' p := by
  induction p with
  | ret a => exact hq a h
  | call c k ih => exact fun r => ih r (h r)

theorem Yields.run {Q : α → Prop} {a : α} (h : Yields Q p) (hr : Run alone p tr a) : Q a := by
  induction hr with
  | ret a => exact h
  | call _ _ ih => exact ih (h _)

theorem only_bind_yields {Q : α → Prop} (hp : Only P p) (hq : Yields Q p)
    (hf : ∀ a, Q a → Only P (f a)) : Only P (p >>= f) :=
  only_bind_run hp (fun _ a hr => hf a (hq.run hr))

/-- An event that the first of two programs never causes is caused by the second one. -/
theorem cut_past (h : Cut alone (p >>= f) tr) (hp : Only P p) (he : e ∈ tr) (hc : ¬P (about e)) :
    ∃ tr₁ a tr₂, Run alone p tr₁ a ∧ Cut alone (f a) tr₂ ∧ tr = tr₁ ++ tr₂ ∧ e ∈ tr₂ := by
  obtain hcut | ⟨tr₁, a, tr₂, hrun, hcut, rfl⟩ := cut_bind h
  · exact absurd (hp.events hcut e he) hc
  rcases List.mem_append.mp he with he | he
  · exact absurd (hp.events hrun.cut e he) hc
  · exact ⟨tr₁, a, tr₂, hrun, hcut, rfl, he⟩

/-- An event that the second of two programs never causes is caused by the first one. -/
theorem cut_prior (h : Cut alone (p >>= f) tr) (hf : ∀ a, Only P (f a)) (he : e ∈ tr)
    (hc : ¬P (about e)) :
    ∃ tr₁ tr₂, Cut alone p tr₁ ∧ tr = tr₁ ++ tr₂ ∧ e ∈ tr₁ ∧ ∀ e' ∈ tr₂, P (about e') := by
  obtain hcut | ⟨tr₁, a, tr₂, hrun, hcut, rfl⟩ := cut_bind h
  · exact ⟨tr, [], hcut, (List.append_nil _).symm, he, by simp⟩
  · have hlater := (hf a).events hcut
    rcases List.mem_append.mp he with he | he
    · exact ⟨tr₁, tr₂, hrun.cut, rfl, he, hlater⟩
    · exact absurd (hlater e he) hc

theorem run_past {b : β} (h : Run alone (p >>= f) tr b) (hp : Only P p) (he : e ∈ tr)
    (hc : ¬P (about e)) :
    ∃ tr₁ a tr₂, Run alone p tr₁ a ∧ Run alone (f a) tr₂ b ∧ tr = tr₁ ++ tr₂ ∧ e ∈ tr₂ := by
  obtain ⟨tr₁, a, tr₂, hrun, hrun', rfl⟩ := run_bind.mp h
  rcases List.mem_append.mp he with he | he
  · exact absurd (hp.events hrun.cut e he) hc
  · exact ⟨tr₁, a, tr₂, hrun, hrun', rfl, he⟩

/-- The same as `cut_past` for a single call. -/
theorem cut_past_call {k : R c → Proc C R α} (h : Cut alone (.call c k) tr) (he : e ∈ tr)
    (hc : about e ≠ c) :
    ∃ r tr', Cut alone (k r) tr' ∧ tr = whole c r [] ++ tr' ∧ e ∈ tr' := by
  have hcall : Only (· = c) (.call c .ret : Proc C R (R c)) := ⟨rfl, fun _ => trivial⟩
  have hbind : (.call c k : Proc C R α) = (.call c .ret : Proc C R (R c)) >>= k := rfl
  rw [hbind] at h
  obtain ⟨tr₁, r, tr₂, hrun, hcut, rfl, he₂⟩ := cut_past h hcall he hc
  obtain ⟨r', is, tr', hr, hret, rfl⟩ := run_call.mp hrun
  cases hr
  obtain ⟨rfl, rfl⟩ := run_ret.mp hret
  exact ⟨_, tr₂, hcut, by simp, he₂⟩

theorem run_call_path {S : Type} {W : World S (Event C R Empty)} {s t : S} {a : α}
    {k : R c → Proc C R α} (h : Run alone (.call c k) tr a) (hp : W.Path s tr t)
    (hi : ∀ s u, W.step s (.main (.issue c)) u → u = s) :
    ∃ r u tr', W.step s (.main (.reply c r)) u ∧ Run alone (k r) tr' a ∧ W.Path u tr' t := by
  obtain ⟨r, is, tr', hr, hk, rfl⟩ := run_call.mp h
  cases hr
  obtain ⟨u, ⟨v, hv, w, hw, hu⟩, hpath⟩ := World.path_append.mp hp
  cases hi s v hv
  cases hu
  exact ⟨r, _, tr', hw, hk, hpath⟩

/-- A program against surroundings that compute their answers. It stops at a call without
an answer. -/
def drive {S : Type} (env : S → (c : C) → Option (R c × S)) :
    S → Proc C R α → List (Event C R Empty) × S
  | s, .ret _ => ([], s)
  | s, .call c k =>
    match env s c with
    | none => (broken c [], s)
    | some (r, t) => (whole c r [] ++ (drive env t (k r)).1, (drive env t (k r)).2)

variable {S : Type} {env : S → (c : C) → Option (R c × S)}

theorem drive_cut (s : S) (p : Proc C R α) : Cut alone p (drive env s p).1 := by
  induction p generalizing s with
  | ret a => exact Cut.here _
  | call c k ih =>
    rw [drive]
    split
    · exact Cut.inside rfl
    · exact Cut.call rfl (ih _ _)

theorem drive_path {W : World S (Event C R Empty)} (hi : ∀ s c, W.step s (.main (.issue c)) s)
    (hr : ∀ {s c r t}, env s c = some (r, t) → W.step s (.main (.reply c r)) t) (s : S)
    (p : Proc C R α) : W.Path s (drive env s p).1 (drive env s p).2 := by
  induction p generalizing s with
  | ret a => rfl
  | call c k ih =>
    rw [drive]
    split
    · exact ⟨s, hi s c, rfl⟩
    · rename_i r t henv
      exact ⟨s, hi s c, t, hr henv, ih r t⟩

/-- The result of a program that is given all its answers. -/
def outcome {S : Type} (env : S → (c : C) → Option (R c × S)) : S → Proc C R α → Option α
  | _, .ret a => some a
  | s, .call c k =>
    match env s c with
    | none => none
    | some (r, t) => outcome env t (k r)

theorem drive_run {s : S} {p : Proc C R α} {a : α} (h : outcome env s p = some a) :
    Run alone p (drive env s p).1 a := by
  induction p generalizing s with
  | ret b =>
    cases h
    exact Run.ret _
  | call c k ih =>
    rw [outcome] at h
    rw [drive]
    split at h
    · cases h
    · exact Run.call rfl (ih _ h)

theorem drive_reply {s : S} {p : Proc C R α} {r : R c}
    (h : .main (.reply c r) ∈ (drive env s p).1) : ∃ u t, env u c = some (r, t) := by
  induction p generalizing s with
  | ret a => cases h
  | call d k ih =>
    rw [drive] at h
    split at h
    · simp [broken] at h
    · rename_i r' t henv
      simp only [whole, List.map_nil, List.cons_append, List.nil_append, List.mem_cons,
        Event.main.injEq, reduceCtorEq, false_or, Label.reply.injEq] at h
      obtain ⟨rfl, hr⟩ | h := h
      · cases hr
        exact ⟨s, t, henv⟩
      · exact ih r' h

/-- A program that returns, and how it leaves its surroundings. -/
def Ends (env : S → (c : C) → Option (R c × S)) (s : S) (p : Proc C R α) (a : α) (t : S) : Prop :=
  outcome env s p = some a ∧ (drive env s p).2 = t

/-- A program that stops at a call without an answer. -/
def Stops (env : S → (c : C) → Option (R c × S)) (s : S) (p : Proc C R α) : Prop :=
  outcome env s p = none

theorem ends_ret (s : S) (a : α) : Ends env s (.ret a) a s := ⟨rfl, rfl⟩

theorem ends_call {s t u : S} {r : R c} {k : R c → Proc C R α} {a : α}
    (henv : env s c = some (r, t)) (h : Ends env t (k r) a u) : Ends env s (.call c k) a u := by
  rw [Ends, outcome, drive, henv]
  exact h

theorem Ends.result_unique {s t u : S} {a b : α} (h : Ends env s p a t) (h' : Ends env s p b u) :
    a = b := Option.some_inj.mp (h.1.symm.trans h'.1)

theorem Stops.not_ends {s t : S} {a : α} (h : Stops env s p) : ¬Ends env s p a t := by
  intro h'
  have hsome := h.symm.trans h'.1
  cases hsome

theorem Ends.then_eq {s t : S} {a : α} (hp : Ends env s p a t) :
    outcome env s (p >>= f) = outcome env t (f a) ∧
      (drive env s (p >>= f)).2 = (drive env t (f a)).2 := by
  induction p generalizing s with
  | ret a' =>
    obtain ⟨ha, ht⟩ := hp
    cases ha
    cases ht
    exact ⟨rfl, rfl⟩
  | call c k ih =>
    change outcome env s (.call c (fun r => k r >>= f)) = _ ∧
      (drive env s (.call c (fun r => k r >>= f))).2 = _
    obtain ⟨ho, hd⟩ := hp
    rw [outcome] at ho ⊢
    rw [drive] at hd ⊢
    split at ho
    · cases ho
    · rename_i r v henv
      simp only [henv] at hd ⊢
      exact ih r ⟨ho, hd⟩

theorem ends_bind {s t u : S} {a : α} {b : β} (hp : Ends env s p a t)
    (hf : Ends env t (f a) b u) : Ends env s (p >>= f) b u := by
  obtain ⟨ho, hd⟩ := hp.then_eq (f := f)
  exact ⟨ho.trans hf.1, hd.trans hf.2⟩

/-- What two programs do together, the second one does from where the first one ended. -/
theorem Ends.rest {s t u : S} {a : α} {b : β} (hp : Ends env s p a t)
    (h : Ends env s (p >>= f) b u) : Ends env t (f a) b u := by
  obtain ⟨ho, hd⟩ := hp.then_eq (f := f)
  exact ⟨ho.symm.trans h.1, hd.symm.trans h.2⟩

theorem stops_call {s t : S} {r : R c} {k : R c → Proc C R α} (henv : env s c = some (r, t))
    (h : Stops env t (k r)) : Stops env s (.call c k) := by
  rw [Stops, outcome, henv]
  exact h

theorem stops_bind {s : S} (hp : Stops env s p) : Stops env s (p >>= f) := by
  induction p generalizing s with
  | ret a => cases hp
  | call c k ih =>
    rw [Stops, outcome] at hp
    split at hp
    · rename_i henv
      change outcome env s (.call c (fun r => k r >>= f)) = none
      rw [outcome, henv]
    · rename_i r t henv
      exact stops_call henv (ih r hp)

end ShardingOnCloud.Lib.Footprint
