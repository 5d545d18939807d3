import Mathlib.Data.List.Basic
import Mathlib.Tactic.Common

namespace ShardingOnCloud.Lib.Descent

/-- The elements of `x (sep x)*`. -/
structure Many (α : Type) where
  first : α
  others : List α
  deriving DecidableEq, Repr

def Many.toList {α : Type} (m : Many α) : List α := m.first :: m.others

def Many.mapM {α β : Type} (f : α → Option β) (m : Many α) : Option (Many β) := do
  let a ← f m.first
  let as ← m.others.mapM f
  return ⟨a, as⟩

section Returns

variable {α β : Type} {f : α → Option α} {v : α → β}

theorem mapM_returns (xs : List α) : (∃ ys, xs.mapM f = some ys ∧ ys.map v = xs.map v) ↔
    ∀ x ∈ xs, ∃ y, f x = some y ∧ v y = v x := by
  induction xs with
  | nil => simp
  | cons x xs ih =>
    rw [List.forall_mem_cons, ← ih, List.mapM_cons]
    constructor
    · rintro ⟨ys, hys, hv⟩
      obtain ⟨y, hy, hys⟩ := Option.bind_eq_some_iff.mp hys
      obtain ⟨zs, hzs, hys⟩ := Option.bind_eq_some_iff.mp hys
      obtain rfl := Option.some.inj hys
      obtain ⟨hy', hzs'⟩ := List.cons.inj hv
      exact ⟨⟨y, hy, hy'⟩, zs, hzs, hzs'⟩
    · rintro ⟨⟨y, hy, hy'⟩, zs, hzs, hzs'⟩
      refine ⟨y :: zs, ?_, ?_⟩
      · rw [hy, hzs]
        rfl
      · rw [List.map_cons, List.map_cons, hy', hzs']

/-- A list comes back if and only if each of its elements does. -/
theorem Many.mapM_returns (xs : Many α) :
    (∃ ys, xs.mapM f = some ys ∧ ys.toList.map v = xs.toList.map v) ↔
      ∀ x ∈ xs.toList, ∃ y, f x = some y ∧ v y = v x := by
  rw [← Descent.mapM_returns xs.toList]
  have hmap : xs.toList.mapM f = (xs.mapM f).map Many.toList := by
    rw [Many.toList, List.mapM_cons, Many.mapM]
    cases f xs.first with
    | none => rfl
    | some y => cases xs.others.mapM f <;> rfl
  rw [hmap]
  constructor
  · rintro ⟨ys, hys, hv⟩
    exact ⟨ys.toList, by rw [hys]; rfl, hv⟩
  · rintro ⟨zs, hzs, hv⟩
    obtain ⟨ys, hys, rfl⟩ := Option.map_eq_some_iff.mp hzs
    exact ⟨ys, hys, hv⟩

end Returns

/-- A parser takes some tokens from the front, and gives none back. -/
structure Parser (τ α : Type) where
  run : List τ → Option (α × List τ)
  shrinks : ∀ {ts : List τ} {r : α × List τ}, run ts = some r → r.2.length ≤ ts.length

namespace Parser

variable {τ α β σ : Type}

protected def pure (a : α) : Parser τ α where
  run ts := some (a, ts)
  shrinks h := by
    cases h
    exact Nat.le_refl _

protected def bind (p : Parser τ α) (f : α → Parser τ β) : Parser τ β where
  run ts := (p.run ts).bind (fun r => (f r.1).run r.2)
  shrinks h := by
    obtain ⟨r, hr, hf⟩ := Option.bind_eq_some_iff.mp h
    exact Nat.le_trans ((f r.1).shrinks hf) (p.shrinks hr)

instance : Monad (Parser τ) where
  pure := Parser.pure
  bind := Parser.bind

/-- One token, of those that `f` knows. -/
def token (f : τ → Option α) : Parser τ α where
  run
    | [] => none
    | t :: ts => (f t).map (fun a => (a, ts))
  shrinks {ts} _ h := by
    cases ts with
    | nil => cases h
    | cons t ts =>
      obtain ⟨a, -, rfl⟩ := Option.map_eq_some_iff.mp h
      exact Nat.le_succ _

def fail : Parser τ α := ⟨fun _ => none, fun h => by cases h⟩

def look (b : List τ → Bool) (p q : Parser τ α) : Parser τ α where
  run ts := if b ts then p.run ts else q.run ts
  shrinks h := by
    split at h
    · exact p.shrinks h
    · exact q.shrinks h

def opt (b : List τ → Bool) (p : Parser τ α) : Parser τ (Option α) :=
  look b (do return some (← p)) (pure none)

def repeated (b : List τ → Bool) (sep : τ → Option σ) (p : Parser τ α) : ℕ → Parser τ (List α)
  | 0 => pure []
  | n + 1 => look b (do
      let _ ← token sep
      let a ← p
      let as ← repeated b sep p n
      return a :: as) (pure [])

/-- `(sep p)*`, as long as the tokens ahead say so. -/
def more (b : List τ → Bool) (sep : τ → Option σ) (p : Parser τ α) : Parser τ (List α) where
  run ts := (repeated b sep p (ts.length + 1)).run ts
  shrinks h := (repeated b sep p _).shrinks h

/-- `p (sep p)*`. -/
def sepBy (b : List τ → Bool) (sep : τ → Option σ) (p : Parser τ α) : Parser τ (Many α) := do
  let a ← p
  let as ← more b sep p
  return ⟨a, as⟩

section Run

variable {p q : Parser τ α} {b : List τ → Bool} {sep : τ → Option σ} {ts : List τ}

@[simp] theorem run_pure (a : α) : (pure a : Parser τ α).run ts = some (a, ts) := rfl

@[simp] theorem run_bind (f : α → Parser τ β) :
    (p >>= f).run ts = (p.run ts).bind (fun r => (f r.1).run r.2) := rfl

theorem run_bind_some {f : α → Parser τ β} {r : α × List τ} (h : p.run ts = some r) :
    (p >>= f).run ts = (f r.1).run r.2 := by
  rw [run_bind, h, Option.bind_some]

theorem run_bind_inv {f : α → Parser τ β} {r : β × List τ} (h : (p >>= f).run ts = some r) :
    ∃ a ts', p.run ts = some (a, ts') ∧ (f a).run ts' = some r := by
  obtain ⟨⟨a, ts'⟩, ha, hf⟩ := Option.bind_eq_some_iff.mp h
  exact ⟨a, ts', ha, hf⟩

theorem run_bind_none {f : α → Parser τ β} (h : p.run ts = none) : (p >>= f).run ts = none := by
  rw [run_bind, h, Option.bind_none]

@[simp] theorem run_token_cons (f : τ → Option α) (t : τ) :
    (token f).run (t :: ts) = (f t).map (fun a => (a, ts)) := rfl

@[simp] theorem run_token_nil (f : τ → Option α) : (token f).run [] = none := rfl

@[simp] theorem run_fail : (fail : Parser τ α).run ts = none := rfl

@[simp] theorem run_look : (look b p q).run ts = if b ts then p.run ts else q.run ts := rfl

theorem run_opt_pos (h : b ts = true) :
    (opt b p).run ts = (p.run ts).map (fun r => (some r.1, r.2)) := by
  rw [opt, run_look, if_pos h, run_bind]
  cases p.run ts <;> rfl

theorem run_opt_neg (h : b ts = false) : (opt b p).run ts = some (none, ts) := by
  rw [opt, run_look, h]
  rfl

theorem repeated_fuel {n m : ℕ} (hn : ts.length < n) (hm : ts.length < m) :
    (repeated b sep p n).run ts = (repeated b sep p m).run ts := by
  induction n generalizing m ts with
  | zero => exact absurd hn (Nat.not_lt_zero _)
  | succ n ih =>
    cases m with
    | zero => exact absurd hm (Nat.not_lt_zero _)
    | succ m =>
      cases ts with
      | nil => rfl
      | cons t ts =>
        simp only [repeated, run_look, run_bind, run_token_cons]
        split
        · cases sep t with
          | none => rfl
          | some s =>
            simp only [Option.map_some, Option.bind_some]
            cases hp : p.run ts with
            | none => rfl
            | some r =>
              have hr : r.2.length < ts.length + 1 := Nat.lt_succ_of_le (p.shrinks hp)
              have hn' : r.2.length < n := Nat.lt_of_lt_of_le hr (Nat.le_of_lt_succ hn)
              have hm' : r.2.length < m := Nat.lt_of_lt_of_le hr (Nat.le_of_lt_succ hm)
              simp only [Option.bind_some, ih hn' hm']
        · rfl

theorem run_more_neg (h : b ts = false) : (more b sep p).run ts = some ([], ts) := by
  change (look b _ _).run _ = _
  rw [run_look, h]
  rfl

theorem run_more_pos {t : τ} {s : σ} (h : b (t :: ts) = true) (hs : sep t = some s) :
    (more b sep p).run (t :: ts) = (p.run ts).bind (fun r =>
      ((more b sep p).run r.2).map (fun rs => (r.1 :: rs.1, rs.2))) := by
  change (look b _ _).run _ = _
  rw [run_look, if_pos h]
  simp only [run_bind, run_token_cons, hs, Option.map_some, Option.bind_some]
  cases hp : p.run ts with
  | none => rfl
  | some r =>
    have hr : r.2.length < ts.length + 1 := Nat.lt_succ_of_le (p.shrinks hp)
    rw [Option.bind_some, Option.bind_some, List.length_cons,
      repeated_fuel hr (Nat.lt_succ_self _)]
    change ((more b sep p).run r.2).bind _ = _
    cases (more b sep p).run r.2 <;> rfl

end Run

section Text

variable {γ : Type}

theorem intercalate_cons (c : γ) (x : List γ) (xs : List (List γ)) :
    [c].intercalate (x :: xs) = x ++ xs.flatMap (fun y => c :: y) := by
  induction xs generalizing x with
  | nil => simp [List.intercalate]
  | cons y ys ih =>
    have h := ih y
    simp only [List.intercalate, List.intersperse] at h ⊢
    simp [h]

variable {lx : List γ → List τ} {t : α → List γ} {f : α → Option β} {p : Parser τ β}
  {b : List τ → Bool} {sep : τ → Option σ} {comma : γ} {s : τ} {u : σ} {F : List γ → Prop}
  {xs : List α} {rest : List γ}

theorem run_more_text
    (hp : ∀ y ∈ xs, ∀ rest, F rest →
      p.run (lx (t y ++ rest)) = (f y).map (fun z => (z, lx rest)))
    (hlx : ∀ rest, lx (comma :: rest) = s :: lx rest) (hs : sep s = some u)
    (hok : ∀ rest, F (comma :: rest))
    (hb : ∀ y ∈ xs, ∀ rest, F rest → b (s :: lx (t y ++ rest)) = true)
    (hrest : F rest) (hend : b (lx rest) = false) :
    F (xs.flatMap (fun y => comma :: t y) ++ rest) ∧
      (more b sep p).run (lx (xs.flatMap (fun y => comma :: t y) ++ rest)) =
        (xs.mapM f).map (fun ys => (ys, lx rest)) := by
  induction xs with
  | nil => exact ⟨hrest, run_more_neg hend⟩
  | cons y ys ih =>
    obtain ⟨hok', hrun⟩ := ih (fun z hz => hp z (List.mem_cons_of_mem y hz))
      (fun z hz => hb z (List.mem_cons_of_mem y hz))
    refine ⟨hok _, ?_⟩
    rw [List.flatMap_cons, List.append_assoc, List.cons_append, hlx,
      run_more_pos (hb y List.mem_cons_self _ hok') hs, hp y List.mem_cons_self _ hok',
      List.mapM_cons]
    cases f y with
    | none => rfl
    | some z =>
      rw [Option.map_some, Option.bind_some, hrun]
      cases ys.mapM f <;> rfl

/-- How the parser of a list reads a printed list, when it is known how the parser of its
elements reads a printed element: `f x` is what is read back of `x`, if anything. -/
theorem run_sepBy_text {xs : Many α}
    (hp : ∀ y ∈ xs.toList, ∀ rest, F rest →
      p.run (lx (t y ++ rest)) = (f y).map (fun z => (z, lx rest)))
    (hlx : ∀ rest, lx (comma :: rest) = s :: lx rest) (hs : sep s = some u)
    (hok : ∀ rest, F (comma :: rest))
    (hb : ∀ y ∈ xs.toList, ∀ rest, F rest → b (s :: lx (t y ++ rest)) = true)
    (hrest : F rest) (hend : b (lx rest) = false) :
    (sepBy b sep p).run (lx ([comma].intercalate (xs.toList.map t) ++ rest)) =
      (xs.mapM f).map (fun ys => (ys, lx rest)) := by
  obtain ⟨x, xs⟩ := xs
  obtain ⟨hok', hrun⟩ := run_more_text (fun y hy => hp y (List.mem_cons_of_mem x hy)) hlx hs hok
    (fun y hy => hb y (List.mem_cons_of_mem x hy)) hrest hend
  rw [Many.toList, List.map_cons, intercalate_cons, List.flatMap_map, List.append_assoc, sepBy,
    run_bind, hp x List.mem_cons_self _ hok', Many.mapM]
  cases f x with
  | none => rfl
  | some z =>
    rw [Option.map_some, Option.bind_some, run_bind, hrun]
    cases xs.mapM f <;> rfl

end Text

end Parser

end ShardingOnCloud.Lib.Descent
