import Mathlib.Logic.Function.Basic
import Mathlib.Order.WellFounded
import Mathlib.Tactic.Common

namespace ShardingOnCloud.Lib.Directory

/-- A file, or a directory with whatever its names stand for. -/
inductive Tree
  | file (contents : String)
  | dir (entries : String → Option Tree)

abbrev Entries := String → Option Tree

inductive Child : Tree → Tree → Prop
  | mk {entries : Entries} {name : String} {t : Tree} :
      entries name = some t → Child t (.dir entries)

theorem child_wellFounded : WellFounded Child := by
  refine ⟨fun t => ?_⟩
  refine @Tree.rec (Acc Child) (fun x => ∀ t, x = some t → Acc Child t) ?_ ?_ ?_ ?_ t
  · intro contents
    exact ⟨_, fun t h => nomatch h⟩
  · intro entries ih
    refine ⟨_, fun t h => ?_⟩
    cases h with
    | mk hname => exact ih _ _ hname
  · intro t h
    cases h
  · intro t ih t' h
    cases h
    exact ih

theorem update_ne (entries : Entries) (name : String) (t : Tree) :
    .dir (Function.update entries name (some t)) ≠ t := by
  intro h
  have hchild : Child t (.dir (Function.update entries name (some t))) :=
    .mk (Function.update_self name (some t) entries)
  rw [h] at hchild
  exact child_wellFounded.irrefl.irrefl t hchild

/-- Whether `rename` lets a directory take the place of this. -/
def vacant : Option Tree → Prop
  | none => True
  | some (.file _) => False
  | some (.dir entries) => ∀ name, entries name = none

/-- What `mv src dst` makes of the directory in which both are names: the directory
`src` goes into `dst` when that is a directory, and becomes `dst` otherwise. -/
def Mv (src dst : String) (d t : Entries) : Prop :=
  ∃ entries, d src = some (.dir entries) ∧ src ≠ dst ∧ match d dst with
    | none => t = Function.update (Function.update d src none) dst (some (.dir entries))
    | some (.file _) => False
    | some (.dir others) => vacant (others src) ∧
        t = Function.update (Function.update d src none) dst
          (some (.dir (Function.update others src (some (.dir entries)))))

section Mv

variable {src dst : String} {d t : Entries}

theorem Mv.ne (h : Mv src dst d t) : src ≠ dst := by
  obtain ⟨entries, -, hne, -⟩ := h
  exact hne

theorem mv_of_absent {entries : Entries} (hsrc : d src = some (.dir entries)) (hne : src ≠ dst)
    (hdst : d dst = none) :
    Mv src dst d (Function.update (Function.update d src none) dst (some (.dir entries))) := by
  refine ⟨entries, hsrc, hne, ?_⟩
  rw [hdst]

/-- The directory itself is found under its new name if and only if that name
was free. -/
theorem Mv.dst_eq_iff (h : Mv src dst d t) : t dst = d src ↔ d dst = none := by
  obtain ⟨entries, hsrc, hne, h⟩ := h
  split at h
  · next hdst =>
    rw [h, Function.update_self, hsrc]
    exact ⟨fun _ => hdst, fun _ => rfl⟩
  · exact h.elim
  · next others hdst =>
    rw [h.2, Function.update_self, hsrc, hdst]
    constructor
    · intro heq
      exact absurd (Option.some.inj heq) (update_ne others src (.dir entries))
    · intro heq
      cases heq

end Mv

end ShardingOnCloud.Lib.Directory
