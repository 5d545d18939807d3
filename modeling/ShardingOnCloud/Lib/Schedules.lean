import Mathlib.Logic.Relation
import Mathlib.Tactic.Common

namespace ShardingOnCloud.Lib.Schedules

open Relation

variable {S : Type} {Step : S → S → Prop} {P Q : S → Prop} {s t : S}

/-- The states that can be reached from `s`. -/
def Reaches (Step : S → S → Prop) (s t : S) : Prop := ReflTransGen Step s t

/-- Whatever is scheduled, the system comes to a state with `P`: it is in one, or it
can go on, and however it does it comes to one. -/
inductive Inevitable (Step : S → S → Prop) (P : S → Prop) : S → Prop
  | now {s : S} : P s → Inevitable Step P s
  | later {s : S} : (∃ t, Step s t) → (∀ t, Step s t → Inevitable Step P t) →
      Inevitable Step P s

theorem Reaches.keeps {I : S → Prop} (hkeep : ∀ s t, I s → Step s t → I t) (h : Reaches Step s t)
    (hs : I s) : I t := by
  induction h with
  | refl => exact hs
  | tail _ hst ih => exact hkeep _ _ ih hst

theorem Inevitable.reached (h : Inevitable Step P s) : ∃ t, Reaches Step s t ∧ P t := by
  induction h with
  | now hs => exact ⟨_, ReflTransGen.refl, hs⟩
  | later hstep _ ih =>
    obtain ⟨t, ht⟩ := hstep
    obtain ⟨u, htu, hu⟩ := ih t ht
    exact ⟨u, ReflTransGen.head ht htu, hu⟩

theorem Inevitable.mono (h : Inevitable Step P s) (hPQ : ∀ t, Reaches Step s t → P t → Q t) :
    Inevitable Step Q s := by
  induction h with
  | now hs => exact Inevitable.now (hPQ _ ReflTransGen.refl hs)
  | later hstep _ ih =>
    refine Inevitable.later hstep (fun t ht => ih t ht (fun u hu => ?_))
    exact hPQ u (ReflTransGen.head ht hu)

/-- What is inevitable from wherever `P` is met is inevitable when `P` is. -/
theorem Inevitable.trans (h : Inevitable Step P s)
    (hPQ : ∀ t, Reaches Step s t → P t → Inevitable Step Q t) : Inevitable Step Q s := by
  induction h with
  | now hs => exact hPQ _ ReflTransGen.refl hs
  | later hstep _ ih =>
    refine Inevitable.later hstep (fun t ht => ih t ht (fun u hu => ?_))
    exact hPQ u (ReflTransGen.head ht hu)

/-- The rule for inevitability: an invariant under which a measure falls with every
step, and under which the system goes on until it has `P`. -/
theorem inevitable_of_measure {I : S → Prop} (m : S → ℕ) (hkeep : ∀ s t, I s → Step s t → I t)
    (hfall : ∀ s t, I s → Step s t → m t < m s) (hgo : ∀ s, I s → P s ∨ ∃ t, Step s t)
    (hs : I s) : Inevitable Step P s := by
  induction hm : m s using Nat.strongRecOn generalizing s with
  | _ n ih =>
    obtain hP | hstep := hgo s hs
    · exact Inevitable.now hP
    · refine Inevitable.later hstep (fun t ht => ?_)
      exact ih (m t) (hm ▸ hfall s t hs ht) (hkeep s t hs ht) rfl

end ShardingOnCloud.Lib.Schedules
