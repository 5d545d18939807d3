import Mathlib.Data.List.Basic
import Mathlib.Tactic.Common

namespace ShardingOnCloud.Lib.Lookaround

variable {α : Type} {p : α → Bool} {ok : List α → Bool} {before cs m : List α}

/-- One or more elements with `p` from the front, as many as can be taken so that the
rest is `ok`. -/
def greedy (p : α → Bool) (ok : List α → Bool) : List α → Option (List α)
  | [] => none
  | c :: cs =>
    if p c then
      match greedy p ok cs with
      | some m => some (c :: m)
      | none => if ok cs then some [c] else none
    else none

def Takes (p : α → Bool) (ok : List α → Bool) (cs m : List α) : Prop :=
  ∃ rest, cs = m ++ rest ∧ m ≠ [] ∧ (∀ c ∈ m, p c = true) ∧ ok rest = true

theorem takes_of_greedy (h : greedy p ok cs = some m) : Takes p ok cs m := by
  induction cs generalizing m with
  | nil => cases h
  | cons c cs ih =>
    rw [greedy] at h
    by_cases hc : p c = true
    · rw [if_pos hc] at h
      cases hg : greedy p ok cs with
      | some m' =>
        rw [hg] at h
        obtain rfl := Option.some.inj h
        obtain ⟨rest, hcs, -, hall, hok⟩ := ih hg
        refine ⟨rest, by rw [hcs, List.cons_append], List.cons_ne_nil _ _, ?_, hok⟩
        exact List.forall_mem_cons.mpr ⟨hc, hall⟩
      | none =>
        rw [hg] at h
        by_cases hok : ok cs = true
        · simp only [if_pos hok, Option.some.injEq] at h
          subst h
          exact ⟨cs, rfl, List.cons_ne_nil _ _, by simpa using hc, hok⟩
        · simp only [if_neg hok] at h
          cases h
    · rw [if_neg hc] at h
      cases h

theorem not_takes_of_greedy (h : greedy p ok cs = none) : ¬ Takes p ok cs m := by
  induction cs generalizing m with
  | nil =>
    rintro ⟨rest, hcs, hne, -⟩
    exact hne (List.append_eq_nil_iff.mp hcs.symm).1
  | cons c cs ih =>
    rintro ⟨rest, hcs, hne, hall, hok⟩
    obtain ⟨d, m, rfl⟩ := List.exists_cons_of_ne_nil hne
    rw [List.cons_append] at hcs
    obtain ⟨rfl, rfl⟩ := List.cons.inj hcs
    obtain ⟨hc, hm⟩ := List.forall_mem_cons.mp hall
    rw [greedy, if_pos hc] at h
    cases hg : greedy p ok (m ++ rest) with
    | some m' =>
      rw [hg] at h
      cases h
    | none =>
      rw [hg] at h
      by_cases hm' : m = []
      · subst hm'
        rw [List.nil_append] at h
        simp only [if_pos hok] at h
        cases h
      · exact ih hg ⟨rest, rfl, hm', hm, hok⟩

/-- `(?<=lit p+)`: the text before ends with `lit` and then elements with `p`. It is read
from its end. -/
def behind [DecidableEq α] (lit : List α) (p : α → Bool) (before : List α) : Bool :=
  (greedy p (fun rest => lit.reverse.isPrefixOf rest) before.reverse).isSome

theorem behind_iff [DecidableEq α] {lit : List α} : behind lit p before = true ↔
    ∃ pre ws, before = pre ++ lit ++ ws ∧ ws ≠ [] ∧ ∀ c ∈ ws, p c = true := by
  rw [behind]
  constructor
  · intro h
    obtain ⟨ws, hws⟩ := Option.isSome_iff_exists.mp h
    obtain ⟨rest, hrev, hne, hall, hok⟩ := takes_of_greedy hws
    obtain ⟨pre, hpre⟩ := List.isPrefixOf_iff_prefix.mp hok
    refine ⟨pre.reverse, ws.reverse, ?_, by simpa using hne, by simpa using hall⟩
    rw [← List.reverse_reverse before, hrev, ← hpre]
    simp
  · rintro ⟨pre, ws, rfl, hne, hall⟩
    rw [Option.isSome_iff_ne_none]
    intro h
    refine not_takes_of_greedy (m := ws.reverse) h ⟨(pre ++ lit).reverse, by simp, ?_, ?_, ?_⟩
    · simpa using hne
    · simpa using hall
    · simp

/-- The first match, from left to right. -/
def search (here : List α → List α → Option (List α)) : List α → List α → Option (List α)
  | before, [] => here before []
  | before, c :: cs =>
    match here before (c :: cs) with
    | some m => some m
    | none => search here (before ++ [c]) cs

theorem search_some {here : List α → List α → Option (List α)}
    (h : search here before cs = some m) : ∃ skipped tail, cs = skipped ++ tail ∧
      here (before ++ skipped) tail = some m ∧ ∀ skipped' tail', cs = skipped' ++ tail' →
        skipped'.length < skipped.length → here (before ++ skipped') tail' = none := by
  induction cs generalizing before with
  | nil => exact ⟨[], [], rfl, by simpa [search] using h, by simp⟩
  | cons c cs ih =>
    rw [search] at h
    cases hh : here before (c :: cs) with
    | some m' =>
      rw [hh] at h
      exact ⟨[], c :: cs, rfl, by simpa using hh.trans h, by simp⟩
    | none =>
      rw [hh] at h
      obtain ⟨skipped, tail, rfl, hm, hfirst⟩ := ih h
      refine ⟨c :: skipped, tail, rfl, by simpa using hm, ?_⟩
      intro skipped' tail' hcs hlt
      cases skipped' with
      | nil =>
        rw [List.nil_append] at hcs
        rw [List.append_nil, ← hcs]
        exact hh
      | cons d skipped' =>
        obtain ⟨rfl, hcs'⟩ := List.cons.inj hcs
        have hnone := hfirst skipped' tail' hcs' (by simpa using hlt)
        simpa using hnone

theorem search_none {here : List α → List α → Option (List α)}
    (h : search here before cs = none) {skipped tail : List α} (hcs : cs = skipped ++ tail) :
    here (before ++ skipped) tail = none := by
  induction cs generalizing before skipped with
  | nil =>
    obtain ⟨rfl, rfl⟩ := List.append_eq_nil_iff.mp hcs.symm
    simpa [search] using h
  | cons c cs ih =>
    rw [search] at h
    cases hh : here before (c :: cs) with
    | some m' =>
      rw [hh] at h
      cases h
    | none =>
      rw [hh] at h
      cases skipped with
      | nil =>
        rw [List.nil_append] at hcs
        rw [List.append_nil, ← hcs]
        exact hh
      | cons d skipped =>
        obtain ⟨rfl, hcs'⟩ := List.cons.inj hcs
        have hnone := ih h hcs'
        simpa using hnone

end ShardingOnCloud.Lib.Lookaround
