import Mathlib.Data.List.Basic
import Mathlib.Tactic.Common

namespace ShardingOnCloud.Lib.Program

/-- A sequential program. It meets its surroundings only through calls, and
goes on with whatever reply a call is given. -/
inductive Proc (C : Type) (R : C → Type) (α : Type) : Type
  | ret (a : α) : Proc C R α
  | call (c : C) (k : R c → Proc C R α) : Proc C R α

namespace Proc

variable {C : Type} {R : C → Type} {α β γ : Type}

protected def bind : Proc C R α → (α → Proc C R β) → Proc C R β
  | .ret a, f => f a
  | .call c k, f => .call c (fun r => (k r).bind f)

instance : Monad (Proc C R) where
  pure := .ret
  bind := Proc.bind

@[simp] theorem pure_eq (a : α) : (pure a : Proc C R α) = .ret a := rfl

@[simp] theorem ret_bind (a : α) (f : α → Proc C R β) : (Proc.ret a >>= f) = f a := rfl

@[simp] theorem call_bind (c : C) (k : R c → Proc C R α) (f : α → Proc C R β) :
    (Proc.call c k >>= f) = .call c (fun r => k r >>= f) := rfl

@[simp] theorem bind_ret (p : Proc C R α) : (p >>= .ret) = p := by
  induction p with
  | ret a => rfl
  | call c k ih =>
    rw [call_bind]
    congr 1
    funext r
    exact ih r

theorem bind_bind (p : Proc C R α) (f : α → Proc C R β) (g : β → Proc C R γ) :
    ((p >>= f) >>= g) = p >>= fun a => f a >>= g := by
  induction p with
  | ret a => rfl
  | call c k ih =>
    simp only [call_bind]
    congr 1
    funext r
    exact ih r

instance : LawfulMonad (Proc C R) :=
  LawfulMonad.mk' (Proc C R) bind_ret (fun _ _ => rfl) bind_bind

end Proc

/-- What is seen of a call from outside: that it was issued, and later that it
came back with a reply. -/
inductive Label (C : Type) (R : C → Type) : Type
  | issue (c : C)
  | reply (c : C) (r : R c)

/-- The events of a run: those of the main program, and those of whatever a
call set going until it came back. -/
inductive Event (C : Type) (R : C → Type) (I : Type) : Type
  | main (l : Label C R)
  | sub (x : I)

/-- What calls do: `returns c r is` when `c` may come back with `r` after the
inner events `is`, and `during c is` when `is` may have happened before that. -/
structure Sem (C : Type) (R : C → Type) (I : Type) where
  returns : (c : C) → R c → List I → Prop
  during : C → List I → Prop

variable {C : Type} {R : C → Type} {I S α β : Type}

def whole (c : C) (r : R c) (is : List I) : List (Event C R I) :=
  Event.main (.issue c) :: is.map .sub ++ [Event.main (.reply c r)]

def broken (c : C) (is : List I) : List (Event C R I) := .main (.issue c) :: is.map .sub

/-- The finished runs of a program, with their events and results. -/
inductive Run (M : Sem C R I) : Proc C R α → List (Event C R I) → α → Prop
  | ret (a : α) : Run M (.ret a) [] a
  | call {c : C} {k : R c → Proc C R α} {r : R c} {w : List I}
      {tr : List (Event C R I)} {a : α} :
      M.returns c r w → Run M (k r) tr a → Run M (.call c k) (whole c r w ++ tr) a

/-- The runs of a program up to an arbitrary moment, also inside a call. -/
inductive Cut (M : Sem C R I) : Proc C R α → List (Event C R I) → Prop
  | here (p : Proc C R α) : Cut M p []
  | inside {c : C} {k : R c → Proc C R α} {w : List I} :
      M.during c w → Cut M (.call c k) (broken c w)
  | call {c : C} {k : R c → Proc C R α} {r : R c} {w : List I}
      {tr : List (Event C R I)} :
      M.returns c r w → Cut M (k r) tr → Cut M (.call c k) (whole c r w ++ tr)

theorem Run.cut {M : Sem C R I} {p : Proc C R α} {tr : List (Event C R I)} {a : α}
    (h : Run M p tr a) : Cut M p tr := by
  induction h with
  | ret a => exact Cut.here _
  | call hr _ ih => exact Cut.call hr ih

theorem run_ret {M : Sem C R I} {a b : α} {tr : List (Event C R I)} :
    Run M (.ret a) tr b ↔ tr = [] ∧ b = a := by
  constructor
  · intro h
    cases h
    exact ⟨rfl, rfl⟩
  · rintro ⟨rfl, rfl⟩
    exact Run.ret _

theorem run_call {M : Sem C R I} {c : C} {k : R c → Proc C R α}
    {tr : List (Event C R I)} {a : α} :
    Run M (.call c k) tr a ↔ ∃ r is tr', M.returns c r is ∧ Run M (k r) tr' a ∧
      tr = whole c r is ++ tr' := by
  constructor
  · intro h
    cases h with
    | call hr hk => exact ⟨_, _, _, hr, hk, rfl⟩
  · rintro ⟨r, is, tr', hr, hk, rfl⟩
    exact Run.call hr hk

theorem run_bind {M : Sem C R I} {p : Proc C R α} {f : α → Proc C R β}
    {tr : List (Event C R I)} {b : β} :
    Run M (p >>= f) tr b ↔ ∃ tr₁ a tr₂, Run M p tr₁ a ∧ Run M (f a) tr₂ b ∧ tr = tr₁ ++ tr₂ := by
  induction p generalizing tr with
  | ret a =>
    constructor
    · intro h
      exact ⟨[], a, tr, Run.ret a, h, rfl⟩
    · rintro ⟨tr₁, a', tr₂, h₁, h₂, rfl⟩
      obtain ⟨rfl, rfl⟩ := run_ret.mp h₁
      exact h₂
  | call c k ih =>
    rw [Proc.call_bind]
    constructor
    · intro h
      obtain ⟨r, is, tr', hr, hk, rfl⟩ := run_call.mp h
      obtain ⟨tr₁, a, tr₂, h₁, h₂, rfl⟩ := (ih r).mp hk
      exact ⟨whole c r is ++ tr₁, a, tr₂, Run.call hr h₁, h₂, by rw [List.append_assoc]⟩
    · rintro ⟨tr₁, a, tr₂, h₁, h₂, rfl⟩
      obtain ⟨r, is, tr', hr, hk, rfl⟩ := run_call.mp h₁
      rw [List.append_assoc]
      exact Run.call hr ((ih r).mpr ⟨tr', a, tr₂, hk, h₂, rfl⟩)

theorem whole_inj {c : C} {r r' : R c} {w w' : List I} {tr tr' : List (Event C R I)}
    (h : whole c r w ++ tr = whole c r' w' ++ tr') : r = r' ∧ w = w' ∧ tr = tr' := by
  simp only [whole, List.cons_append, List.append_assoc, List.nil_append, List.cons.injEq,
    true_and] at h
  induction w generalizing w' with
  | nil =>
    cases w' with
    | nil =>
      simp only [List.map_nil, List.nil_append, List.cons.injEq, Event.main.injEq,
        Label.reply.injEq, heq_eq_eq, true_and] at h
      exact ⟨h.1, rfl, h.2⟩
    | cons x w' => simp at h
  | cons x w ih =>
    cases w' with
    | nil => simp at h
    | cons x' w' =>
      simp only [List.map_cons, List.cons_append, List.cons.injEq, Event.sub.injEq] at h
      obtain ⟨rfl, h⟩ := h
      obtain ⟨hr, rfl, htr⟩ := ih h
      exact ⟨hr, rfl, htr⟩

theorem Run.unique {M : Sem C R I} {p : Proc C R α} {tr₁ tr₂ x y : List (Event C R I)} {a b : α}
    (h₁ : Run M p tr₁ a) (h₂ : Run M p tr₂ b) (h : tr₁ ++ x = tr₂ ++ y) : a = b := by
  induction h₁ generalizing tr₂ with
  | ret a => exact (run_ret.mp h₂).2.symm
  | call hr _ ih =>
    obtain ⟨r', w', tr', hr', hk', rfl⟩ := run_call.mp h₂
    rw [List.append_assoc, List.append_assoc] at h
    obtain ⟨rfl, rfl, htr⟩ := whole_inj h
    exact ih hk' htr

/-- After a program has run, what is left is the run of what comes after it. -/
theorem Run.rest {M : Sem C R I} {p : Proc C R α} {f : α → Proc C R β}
    {tr₁ tr₂ : List (Event C R I)} {a : α} {b : β} (h₁ : Run M p tr₁ a)
    (h : Run M (p >>= f) (tr₁ ++ tr₂) b) : Run M (f a) tr₂ b := by
  induction h₁ with
  | ret a => exact h
  | call _ _ ih =>
    rw [Proc.call_bind, List.append_assoc] at h
    obtain ⟨r', w', tr', -, hk', heq⟩ := run_call.mp h
    obtain ⟨rfl, -, rfl⟩ := whole_inj heq
    exact ih hk'

/-- A run of two programs one after the other is stopped in the first or in the
second one. -/
theorem cut_bind {M : Sem C R I} {p : Proc C R α} {f : α → Proc C R β}
    {tr : List (Event C R I)} (h : Cut M (p >>= f) tr) :
    Cut M p tr ∨ ∃ tr₁ a tr₂, Run M p tr₁ a ∧ Cut M (f a) tr₂ ∧ tr = tr₁ ++ tr₂ := by
  induction p generalizing tr with
  | ret a => exact Or.inr ⟨[], a, tr, Run.ret a, h, rfl⟩
  | call c k ih =>
    rw [Proc.call_bind] at h
    cases h with
    | here => exact Or.inl (Cut.here _)
    | inside hd => exact Or.inl (Cut.inside hd)
    | call hr hk =>
      obtain hcut | ⟨tr₁, a, tr₂, h₁, h₂, rfl⟩ := ih _ hk
      · exact Or.inl (Cut.call hr hcut)
      · exact Or.inr ⟨_, a, tr₂, Run.call hr h₁, h₂, (List.append_assoc _ _ _).symm⟩

theorem cut_call_head {M : Sem C R I} {c : C} {k : R c → Proc C R α} {e : Event C R I}
    {tr : List (Event C R I)} (h : Cut M (.call c k) (e :: tr)) : e = .main (.issue c) := by
  generalize hall : e :: tr = all at h
  cases h with
  | here => cases hall
  | inside _ =>
    cases hall
    rfl
  | call _ _ =>
    cases hall
    rfl

theorem Run.bind_cut {M : Sem C R I} {p : Proc C R α} {f : α → Proc C R β}
    {tr₁ tr₂ : List (Event C R I)} {a : α} (h₁ : Run M p tr₁ a) (h₂ : Cut M (f a) tr₂) :
    Cut M (p >>= f) (tr₁ ++ tr₂) := by
  induction h₁ with
  | ret a => exact h₂
  | call hr _ ih =>
    rw [List.append_assoc]
    exact Cut.call hr (ih h₂)

theorem Cut.bind {M : Sem C R I} {p : Proc C R α} {tr : List (Event C R I)} (h : Cut M p tr)
    (f : α → Proc C R β) : Cut M (p >>= f) tr := by
  induction h with
  | here p => exact Cut.here _
  | inside hd => exact Cut.inside hd
  | call hr _ ih => exact Cut.call hr ih

theorem split_after {E : Type} {as bs pre post : List E} {e : E}
    (h : as ++ bs = pre ++ e :: post) (he : e ∉ as) : ∃ c, pre = as ++ c ∧ bs = c ++ e :: post := by
  obtain ⟨c, hc, hbs⟩ | ⟨c, rfl, hc⟩ := List.append_eq_append_iff.mp h
  · exact ⟨c, hc, hbs⟩
  · cases c with
    | nil => exact ⟨[], by simp, by simpa using hc.symm⟩
    | cons d c =>
      obtain ⟨rfl, -⟩ := List.cons_eq_cons.mp hc
      exact absurd (by simp) he

theorem whole_unique {c : C} {r r' : R c} {w w' : List I} {as bs as' bs' : List (Event C R I)}
    (h : as ++ (whole c r w ++ bs) = as' ++ (whole c r' w' ++ bs'))
    (ha : .main (.issue c) ∉ as) (hb : .main (.issue c) ∉ bs) :
    as = as' ∧ r = r' ∧ w = w' ∧ bs = bs' := by
  have hsplit : as ++ (whole c r w ++ bs) =
      as' ++ Event.main (.issue c) :: (w'.map Event.sub ++ [Event.main (.reply c r')] ++ bs') := by
    rw [h]
    simp [whole]
  obtain ⟨k, rfl, hk⟩ := split_after hsplit ha
  cases k with
  | nil =>
    rw [List.append_nil] at h ⊢
    obtain ⟨hr, hw, hbs⟩ := whole_inj (List.append_cancel_left h)
    exact ⟨rfl, hr, hw, hbs⟩
  | cons e k =>
    have hm : Event.main (.issue c) ∈ w.map Event.sub ++ [Event.main (.reply c r)] ++ bs := by
      simp only [whole, List.cons_append, List.cons.injEq] at hk
      rw [hk.2]
      simp
    simp [hb] at hm

/-- Surroundings that change with the events, and may refuse some of them. -/
structure World (S E : Type) where
  step : S → E → S → Prop

def World.Path {E : Type} (W : World S E) : S → List E → S → Prop
  | s, [], t => s = t
  | s, e :: es, t => ∃ u, W.step s e u ∧ W.Path u es t

/-- Surroundings that only watch: the next state is computed from the event. -/
def World.watch {E : Type} (m : S → E → S) : World S E := ⟨fun s e t => t = m s e⟩

namespace World

variable {E : Type} {W : World S E}

theorem path_append {s t : S} {es fs : List E} :
    W.Path s (es ++ fs) t ↔ ∃ u, W.Path s es u ∧ W.Path u fs t := by
  induction es generalizing s with
  | nil => simp [Path]
  | cons e es ih =>
    simp only [List.cons_append, Path, ih]
    constructor
    · rintro ⟨u, hu, v, hv, hw⟩
      exact ⟨v, ⟨u, hu, hv⟩, hw⟩
    · rintro ⟨v, ⟨u, hu, hv⟩, hw⟩
      exact ⟨u, hu, v, hv, hw⟩

theorem path_prefix {s t : S} {es fs : List E} (h : es <+: fs) (hp : W.Path s fs t) :
    ∃ u, W.Path s es u := by
  obtain ⟨gs, rfl⟩ := h
  obtain ⟨u, hu, -⟩ := path_append.mp hp
  exact ⟨u, hu⟩

theorem path_keeps {K : S → Prop} {s t : S} {es : List E} (h : W.Path s es t)
    (hK : ∀ e ∈ es, ∀ s t, W.step s e t → K s → K t) (hs : K s) : K t := by
  induction es generalizing s with
  | nil =>
    cases h
    exact hs
  | cons e es ih =>
    obtain ⟨u, hu, hp⟩ := h
    exact ih hp (fun e he => hK e (by simp [he])) (hK e (by simp) s u hu hs)

theorem path_before {K : S → Prop} {s t : S} {es : List E} {e : E} (h : W.Path s es t)
    (hK : ∀ e ∈ es, ∀ s t, W.step s e t → K s → K t) (hs : K s) (he : e ∈ es) :
    ∃ u v, K u ∧ W.step u e v := by
  obtain ⟨as, bs, rfl⟩ := List.append_of_mem he
  obtain ⟨u, hu, v, hv, -⟩ := path_append.mp h
  exact ⟨u, v, path_keeps hu (fun e he => hK e (by simp [he])) hs, hv⟩

theorem path_map {T : Type} {W' : World T E} {f : S → T} {s t : S} {es : List E}
    (hf : ∀ {s e t}, W.step s e t → W'.step (f s) e (f t)) (h : W.Path s es t) :
    W'.Path (f s) es (f t) := by
  induction es generalizing s with
  | nil =>
    cases h
    rfl
  | cons e es ih =>
    obtain ⟨u, hu, hp⟩ := h
    exact ⟨f u, hf hu, ih hp⟩

theorem path_watch (m : S → E → S) {s t : S} {es : List E} :
    (watch m).Path s es t ↔ t = es.foldl m s := by
  induction es generalizing s with
  | nil => exact eq_comm
  | cons e es ih => simp only [Path, watch, exists_eq_left, List.foldl_cons, ← ih]

end World

end ShardingOnCloud.Lib.Program
