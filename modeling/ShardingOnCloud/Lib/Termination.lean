import Mathlib.Logic.Hydra
import Mathlib.Data.List.Perm.Basic
import ShardingOnCloud.Lib.Pool
import ShardingOnCloud.Lib.Schedules

namespace ShardingOnCloud.Lib.Termination

open ShardingOnCloud.Lib.Program ShardingOnCloud.Lib.Pool ShardingOnCloud.Lib.Schedules

section Programs

variable {C : Type} {R : C → Type} {I α β : Type}

inductive CallStep (M : Sem C R I) (c : C) : List I × Option (R c) → List I × Option (R c) → Prop
  | inside {is : List I} {x : I} : M.during c (is ++ [x]) →
      CallStep M c (is, none) (is ++ [x], none)
  | back {is : List I} {r : R c} : M.returns c r is → CallStep M c (is, none) (is, some r)

/-- Whatever happens inside it, the call comes back. -/
def Answered (M : Sem C R I) (c : C) : Prop :=
  Inevitable (CallStep M c) (fun s => s.2.isSome = true) ([], none)

/-- Whatever happens inside its calls, and whatever they come back with, the program
comes to its end. -/
def Terminates (M : Sem C R I) : Proc C R α → Prop
  | .ret _ => True
  | .call c k => Answered M c ∧ ∀ r is, M.returns c r is → Terminates M (k r)

/-- The runs in which the inner events of every call satisfy `E`. -/
def within (M : Sem C R I) (E : List I → Prop) : Sem C R I where
  returns c r is := M.returns c r is ∧ E is
  during c is := M.during c is ∧ E is

variable {M : Sem C R I}

theorem Terminates.exists_run {p : Proc C R α} (h : Terminates M p) : ∃ tr a, Run M p tr a := by
  induction p with
  | ret a => exact ⟨[], a, Run.ret a⟩
  | call c k ih =>
    obtain ⟨s, hreach, hback⟩ := h.1.reached
    have hreturns : ∀ r, s.2 = some r → ∃ is, M.returns c r is := by
      refine Reaches.keeps (I := fun s => ∀ r, s.2 = some r → ∃ is, M.returns c r is) ?_ hreach nofun
      intro s t _ hstep
      cases hstep with
      | inside _ => exact nofun
      | back hr =>
        rintro r ⟨⟩
        exact ⟨_, hr⟩
    obtain ⟨r, hr⟩ := Option.isSome_iff_exists.mp hback
    obtain ⟨is, his⟩ := hreturns r hr
    obtain ⟨tr, a, ha⟩ := ih r (h.2 r is his)
    exact ⟨_, a, Run.call his ha⟩

theorem run_of_within {E : List I → Prop} {p : Proc C R α} {tr : List (Event C R I)} {a : α}
    (h : Run (within M E) p tr a) : Run M p tr a := by
  induction p generalizing tr with
  | ret b =>
    obtain ⟨rfl, rfl⟩ := run_ret.mp h
    exact .ret _
  | call c k ih =>
    obtain ⟨r, is, tr', hr, hrun, rfl⟩ := run_call.mp h
    exact Run.call hr.1 (ih r hrun)

theorem answered_at_once {c : C} (hnone : ∀ is, M.during c is → is = []) (hr : ∃ r, M.returns c r []) :
    Answered M c := by
  obtain ⟨r, hr⟩ := hr
  refine Inevitable.later ⟨_, CallStep.back hr⟩ (fun t ht => ?_)
  generalize hs : (([], none) : List I × Option (R c)) = s at ht
  cases ht with
  | inside hd => exact absurd (hnone _ hd) (by simp)
  | back _ => exact Inevitable.now rfl

end Programs

section Pools

variable {C : Type} {R : C → Type} {I α : Type}

/-- The thread `u` comes directly after `t`. -/
def Next (u t : Thread C R α) : Prop := ∃ l, t.Step l u

/-- A program is a well-founded tree, so a thread can only go on for so long. -/
theorem next_wellFounded : WellFounded (Next : Thread C R α → Thread C R α → Prop) := by
  have hrun : ∀ p : Proc C R α, Acc Next (Thread.run p) := by
    intro p
    induction p with
    | ret a =>
      refine ⟨_, fun u hu => ?_⟩
      obtain ⟨l, hl⟩ := hu
      cases hl
    | call c k ih =>
      refine ⟨_, fun u hu => ⟨_, fun v hv => ?_⟩⟩
      obtain ⟨l, hl⟩ := hu
      cases hl
      obtain ⟨l, hl⟩ := hv
      cases hl
      exact ih _
  refine ⟨fun t => ?_⟩
  cases t with
  | run p => exact hrun p
  | wait c k =>
    refine ⟨_, fun u hu => ?_⟩
    obtain ⟨l, hl⟩ := hu
    cases hl
    exact hrun _

def NextPool (vs us : List (Thread C R α)) : Prop :=
  ∃ i t u, us[i]? = some t ∧ Next u t ∧ vs = us.set i u

theorem nextPool_wellFounded :
    WellFounded (NextPool : List (Thread C R α) → List (Thread C R α) → Prop) := by
  have hcut := InvImage.wf (fun us : List (Thread C R α) => (us : Multiset (Thread C R α)))
    next_wellFounded.cutExpand
  refine Subrelation.wf ?_ hcut
  rintro vs us ⟨i, t, u, hi, hu, rfl⟩
  obtain ⟨hlt, rfl⟩ := List.getElem?_eq_some_iff.mp hi
  refine ⟨{u}, us[i], by simpa using hu, ?_⟩
  -- both sides are the threads without the one that goes on, and that thread twice
  have hset : ((us.set i u : List _) : Multiset (Thread C R α)) = u ::ₘ (us.eraseIdx i : List _) :=
    Multiset.coe_eq_coe.mpr (List.set_perm_cons_eraseIdx hlt u)
  have hold : (us : Multiset (Thread C R α)) = us[i] ::ₘ (us.eraseIdx i : List _) :=
    Multiset.coe_eq_coe.mpr (List.getElem_cons_eraseIdx_perm hlt).symm
  calc ((us.set i u : List _) : Multiset (Thread C R α)) + {us[i]}
      = (u ::ₘ (us.eraseIdx i : List _)) + {us[i]} := by rw [hset]
    _ = (us[i] ::ₘ (us.eraseIdx i : List _)) + {u} := by
        rw [Multiset.add_comm _ {us[i]}, Multiset.add_comm _ {u}, Multiset.singleton_add,
          Multiset.singleton_add, Multiset.cons_swap]
    _ = (us : Multiset (Thread C R α)) + {u} := by rw [← hold]

variable {D : Type} {Q : D → Type} {M : Sem D Q (ℕ × Label C R)} {d : D}
  {G : List (ℕ × Label C R) → ℕ × Label C R → Prop} {ts : List (Thread C R α)}

/-- The rule for a call that waits for threads: it comes back if it does where they cannot
go on. -/
theorem answered_pool (hduring : ∀ log, M.during d log → ∃ us, Path G ts log us)
    (hstart : M.during d [])
    (hstuck : ∀ log us, M.during d log → Path G ts log us → (∀ x, ¬M.during d (log ++ [x])) →
      ∃ r, M.returns d r log) : Answered M d := by
  have hall : ∀ us log, M.during d log → Path G ts log us →
      Inevitable (CallStep M d) (fun s => s.2.isSome = true) (log, none) := by
    intro us
    induction us using nextPool_wellFounded.induction with
    | _ us ih =>
      intro log hd hp
      have hnext : ∀ s, CallStep M d (log, none) s →
          Inevitable (CallStep M d) (fun s => s.2.isSome = true) s := by
        intro s hs
        cases hs with
        | @inside _ x hd' =>
          obtain ⟨vs, hp'⟩ := hduring _ hd'
          refine ih vs ?_ _ hd' hp'
          generalize hlog : log ++ [x] = log' at hp'
          cases hp' with
          | nil => simp at hlog
          | snoc hp₀ hi hstep _ =>
            obtain ⟨rfl, -⟩ := List.append_inj' hlog rfl
            obtain rfl := path_unique hp hp₀
            exact ⟨_, _, _, hi, ⟨_, hstep⟩, rfl⟩
        | back _ => exact Inevitable.now rfl
      by_cases hgo : ∃ x, M.during d (log ++ [x])
      · obtain ⟨x, hx⟩ := hgo
        exact Inevitable.later ⟨_, CallStep.inside hx⟩ hnext
      · obtain ⟨r, hr⟩ := hstuck log us hd hp (not_exists.mp hgo)
        exact Inevitable.later ⟨_, CallStep.back hr⟩ hnext
  obtain ⟨us, hp⟩ := hduring [] hstart
  exact hall us [] hstart hp

end Pools

end ShardingOnCloud.Lib.Termination
