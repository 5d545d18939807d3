import Mathlib.Data.List.Induction
import ShardingOnCloud.Lib.Assertions

namespace ShardingOnCloud.Lib.Pool

open ShardingOnCloud.Lib.Program ShardingOnCloud.Lib.Assertions

variable {C : Type} {R : C → Type} {α : Type}

/-- A concurrent thread is about to go on, or waits for the reply to a call. -/
inductive Thread (C : Type) (R : C → Type) (α : Type) : Type
  | run (p : Proc C R α)
  | wait (c : C) (k : R c → Proc C R α)

namespace Thread

def result : Thread C R α → Option α
  | .run (.ret a) => some a
  | .run (.call _ _) => none
  | .wait _ _ => none

theorem result_eq_some {t : Thread C R α} {a : α} : t.result = some a ↔ t = .run (.ret a) := by
  constructor
  · intro h
    match t, h with
    | .run (.ret _), h => cases h; rfl
  · rintro rfl
    rfl

inductive Step : Thread C R α → Label C R → Thread C R α → Prop
  | issue (c : C) (k : R c → Proc C R α) : Step (.run (.call c k)) (.issue c) (.wait c k)
  | reply (c : C) (k : R c → Proc C R α) (r : R c) : Step (.wait c k) (.reply c r) (.run (k r))

def Path : Thread C R α → List (Label C R) → Thread C R α → Prop := (World.mk Step).Path

theorem path_run_ret {a : α} {ls : List (Label C R)} {u : Thread C R α} :
    Path (.run (.ret a)) ls u ↔ ls = [] ∧ u = .run (.ret a) := by
  cases ls with
  | nil => simp [Path, World.Path, eq_comm]
  | cons l ls =>
    constructor
    · rintro ⟨v, hv, -⟩
      cases hv
    · rintro ⟨h, -⟩
      cases h

theorem path_run_call {c : C} {k : R c → Proc C R α} {ls : List (Label C R)}
    {u : Thread C R α} :
    Path (.run (.call c k)) ls u ↔ (ls = [] ∧ u = .run (.call c k)) ∨
      (ls = [.issue c] ∧ u = .wait c k) ∨
      ∃ r ls', ls = .issue c :: .reply c r :: ls' ∧ Path (.run (k r)) ls' u := by
  constructor
  · intro h
    cases ls with
    | nil => exact Or.inl ⟨rfl, h.symm⟩
    | cons l ls =>
      obtain ⟨v, hv, h⟩ := h
      cases hv
      cases ls with
      | nil => exact Or.inr (Or.inl ⟨rfl, h.symm⟩)
      | cons l ls =>
        obtain ⟨v, hv, h⟩ := h
        cases hv
        exact Or.inr (Or.inr ⟨_, ls, rfl, h⟩)
  · rintro (⟨rfl, rfl⟩ | ⟨rfl, rfl⟩ | ⟨r, ls', rfl, h⟩)
    · rfl
    · exact ⟨_, Step.issue c k, rfl⟩
    · exact ⟨_, Step.issue c k, _, Step.reply c k r, h⟩

/-- A thread that has come to its end has got the reply to its first call. -/
theorem path_call_done {c : C} {k : R c → Proc C R α} {ls : List (Label C R)} {a : α}
    (h : Path (.run (.call c k)) ls (.run (.ret a))) :
    ∃ r ls', ls = .issue c :: .reply c r :: ls' ∧ Path (.run (k r)) ls' (.run (.ret a)) := by
  obtain ⟨-, hu⟩ | ⟨-, hu⟩ | hrest := path_run_call.mp h
  · cases hu
  · cases hu
  · exact hrest

variable {β : Type}

/-- The thread that goes on with `f` when `t` is done. -/
def bind : Thread C R α → (α → Proc C R β) → Thread C R β
  | .run p, f => .run (p >>= f)
  | .wait c k, f => .wait c (fun r => k r >>= f)

/-- A thread that runs one program after another is in the first or in the second. -/
theorem path_bind {p : Proc C R α} {f : α → Proc C R β} {ls : List (Label C R)} {u : Thread C R β}
    (h : Path (.run (p >>= f)) ls u) :
    (∃ t, Path (.run p) ls t ∧ u = t.bind f) ∨
      ∃ ls₁ a ls₂, Path (.run p) ls₁ (.run (.ret a)) ∧ Path (.run (f a)) ls₂ u ∧
        ls = ls₁ ++ ls₂ := by
  induction p generalizing ls with
  | ret a => exact Or.inr ⟨[], a, ls, rfl, h, rfl⟩
  | call c k ih =>
    rw [Proc.call_bind] at h
    obtain ⟨rfl, rfl⟩ | ⟨rfl, rfl⟩ | ⟨r, ls', rfl, h'⟩ := path_run_call.mp h
    · exact Or.inl ⟨_, rfl, rfl⟩
    · exact Or.inl ⟨_, ⟨_, Step.issue c k, rfl⟩, rfl⟩
    · obtain ⟨t, ht, rfl⟩ | ⟨ls₁, a, ls₂, h₁, h₂, rfl⟩ := ih r h'
      · exact Or.inl ⟨t, ⟨_, Step.issue c k, _, Step.reply c k r, ht⟩, rfl⟩
      · exact Or.inr ⟨.issue c :: .reply c r :: ls₁, a, ls₂,
          ⟨_, Step.issue c k, _, Step.reply c k r, h₁⟩, h₂, rfl⟩

theorem Step.unique {t u v : Thread C R α} {l : Label C R} (h : Step t l u) (h' : Step t l v) :
    u = v := by
  cases h with
  | issue c k =>
    cases h'
    rfl
  | reply c k r =>
    cases h'
    rfl

end Thread

/-- Every reply is possible and nothing happens inside a call: the meaning of
a thread that is looked at alone. -/
def alone : Sem C R Empty where
  returns _ _ is := is = []
  during _ is := is = []

theorem run_alone {c : C} {k : R c → Proc C R α} {tr : List (Event C R Empty)} {a : α}
    (h : Run alone (.call c k) tr a) :
    ∃ r tr', Run alone (k r) tr' a ∧ tr = whole c r [] ++ tr' := by
  obtain ⟨r, is, tr', rfl, hk, rfl⟩ := run_call.mp h
  exact ⟨r, tr', hk, rfl⟩

theorem cut_of_path {p : Proc C R α} {ls : List (Label C R)} {u : Thread C R α}
    (h : Thread.Path (.run p) ls u) : Cut alone p (ls.map .main) := by
  induction p generalizing ls with
  | ret a =>
    obtain ⟨rfl, -⟩ := Thread.path_run_ret.mp h
    exact Cut.here _
  | call c k ih =>
    obtain ⟨rfl, -⟩ | ⟨rfl, -⟩ | ⟨r, ls', rfl, h'⟩ := Thread.path_run_call.mp h
    · exact Cut.here _
    · exact Cut.inside (w := []) rfl
    · exact Cut.call (w := []) rfl (ih r h')

theorem run_of_path {p : Proc C R α} {ls : List (Label C R)} {a : α}
    (h : Thread.Path (.run p) ls (.run (.ret a))) : Run alone p (ls.map .main) a := by
  induction p generalizing ls with
  | ret b =>
    obtain ⟨rfl, hb⟩ := Thread.path_run_ret.mp h
    cases hb
    exact Run.ret _
  | call c k ih =>
    obtain ⟨-, hb⟩ | ⟨-, hb⟩ | ⟨r, ls', rfl, h'⟩ := Thread.path_run_call.mp h
    · cases hb
    · cases hb
    · exact Run.call (w := []) rfl (ih r h')

theorem path_of_run {p : Proc C R α} {tr : List (Event C R Empty)} {a : α} (h : Run alone p tr a) :
    ∃ ls, Thread.Path (.run p) ls (.run (.ret a)) := by
  induction h with
  | ret a => exact ⟨[], rfl⟩
  | @call c k r _ _ _ _ _ ih =>
    obtain ⟨ls, hls⟩ := ih
    exact ⟨.issue c :: .reply c r :: ls, _, .issue c k, _, .reply c k r, hls⟩

theorem emits_alone {P : Event C R Empty → Prop} {c : C} {k : R c → Proc C R α} {Q : α → Prop}
    (hi : P (.main (.issue c))) (hr : ∀ r, P (.main (.reply c r)))
    (hk : ∀ r, Emits alone P (k r) Q) : Emits alone P (.call c k) Q := by
  refine ⟨hi, ?_, ?_⟩
  · rintro is - x
    cases x
  · rintro r is -
    refine ⟨hr r, ?_, hk r⟩
    intro x
    cases x

def onMain (P : Label C R → Prop) : Event C R Empty → Prop
  | .main l => P l

theorem answered {p : Proc C R α} {ls : List (Label C R)} {a : α} {c : C}
    (h : Thread.Path (.run p) ls (.run (.ret a))) (hc : .issue c ∈ ls) :
    ∃ r, .reply c r ∈ ls := by
  induction p generalizing ls with
  | ret b =>
    obtain ⟨rfl, -⟩ := Thread.path_run_ret.mp h
    cases hc
  | call d k ih =>
    obtain ⟨-, hb⟩ | ⟨-, hb⟩ | ⟨r, ls', rfl, h'⟩ := Thread.path_run_call.mp h
    · cases hb
    · cases hb
    · rcases List.mem_cons.mp hc with hc | hc
      · cases hc
        exact ⟨r, by simp⟩
      · rcases List.mem_cons.mp hc with hc | hc
        · cases hc
        · obtain ⟨r', hr⟩ := ih r h' hc
          exact ⟨r', by simp [hr]⟩

/-- The runs of a pool of threads under every schedule. The guard says when a
thread may go on, given what all of them have done so far. -/
inductive Path (G : List (ℕ × Label C R) → ℕ × Label C R → Prop) (ts : List (Thread C R α)) :
    List (ℕ × Label C R) → List (Thread C R α) → Prop
  | nil : Path G ts [] ts
  | snoc {log : List (ℕ × Label C R)} {us : List (Thread C R α)} {i : ℕ} {l : Label C R}
      {t u : Thread C R α} :
      Path G ts log us → us[i]? = some t → t.Step l u → G log (i, l) →
      Path G ts (log ++ [(i, l)]) (us.set i u)

/-- What party `i` did in a run of several parties. -/
def own {ι E : Type} [DecidableEq ι] (i : ι) (log : List (ι × E)) : List E :=
  log.filterMap (fun x => if x.1 = i then some x.2 else none)

theorem own_append {ι E : Type} [DecidableEq ι] (i : ι) (xs ys : List (ι × E)) :
    own i (xs ++ ys) = own i xs ++ own i ys := List.filterMap_append

theorem own_cons_self {ι E : Type} [DecidableEq ι] (i : ι) (e : E) (xs : List (ι × E)) :
    own i ((i, e) :: xs) = e :: own i xs := by
  simp [own]

theorem own_cons_ne {ι E : Type} [DecidableEq ι] {i j : ι} (h : j ≠ i) (e : E)
    (xs : List (ι × E)) : own i ((j, e) :: xs) = own i xs := by
  simp [own, h]

theorem mem_own {ι E : Type} [DecidableEq ι] {i : ι} {log : List (ι × E)} {l : E} :
    l ∈ own i log ↔ (i, l) ∈ log := by
  simp only [own, List.mem_filterMap, Option.ite_none_right_eq_some, Option.some.injEq]
  constructor
  · rintro ⟨⟨j, l'⟩, h, rfl, rfl⟩
    exact h
  · intro h
    exact ⟨(i, l), h, rfl, rfl⟩

theorem flatMap_perm_cons {ι E : Type} [DecidableEq ι] {f g : ι → List E} {i : ι} {x : E}
    {is : List ι} (hnd : is.Nodup) (hi : i ∈ is) (hfi : f i = x :: g i) (hf : ∀ j, j ≠ i → f j = g j) :
    (is.flatMap f).Perm (x :: is.flatMap g) := by
  induction is with
  | nil => cases hi
  | cons j is ih =>
    obtain ⟨hj, hnd⟩ := List.nodup_cons.mp hnd
    rw [List.flatMap_cons, List.flatMap_cons]
    by_cases hij : j = i
    · subst hij
      have hrest : is.flatMap f = is.flatMap g := by
        refine List.flatMap_congr (fun k hk => hf k ?_)
        rintro rfl
        exact hj hk
      rw [hfi, hrest, List.cons_append]
    · have hmem := (List.mem_cons.mp hi).resolve_left (Ne.symm hij)
      rw [hf j hij]
      exact ((ih hnd hmem).append_left (g j)).trans List.perm_middle

theorem filterMap_perm_own {E B : Type} (f : E → Option B) {n : ℕ} {log : List (ℕ × E)}
    (hlog : ∀ x ∈ log, x.1 < n) :
    (log.filterMap (fun x => f x.2)).Perm
      ((List.range n).flatMap (fun i => (own i log).filterMap f)) := by
  induction log with
  | nil => simp [own]
  | cons x log ih =>
    obtain ⟨i, e⟩ := x
    obtain ⟨hi, hlog⟩ := List.forall_mem_cons.mp hlog
    have hrest := ih hlog
    cases hf : f e with
    | none =>
      have hsame : ∀ j, (own j ((i, e) :: log)).filterMap f = (own j log).filterMap f := by
        intro j
        by_cases hij : i = j
        · subst hij
          rw [own_cons_self, List.filterMap_cons_none hf]
        · rw [own_cons_ne hij]
      simpa [List.filterMap_cons_none, hf, hsame] using hrest
    | some b =>
      have hcons : ((i, e) :: log).filterMap (fun x => f x.2) =
          b :: log.filterMap (fun x => f x.2) := List.filterMap_cons_some hf
      rw [hcons]
      refine (hrest.cons b).trans (flatMap_perm_cons List.nodup_range (List.mem_range.mpr hi) ?_ ?_).symm
      · rw [own_cons_self, List.filterMap_cons_some hf]
      · intro j hj
        rw [own_cons_ne (Ne.symm hj)]

variable {G : List (ℕ × Label C R) → ℕ × Label C R → Prop} {ts us : List (Thread C R α)}
  {log : List (ℕ × Label C R)}

theorem path_own (h : Path G ts log us) {i : ℕ} {u : Thread C R α} (hu : us[i]? = some u) :
    ∃ t, ts[i]? = some t ∧ Thread.Path t (own i log) u := by
  induction h generalizing u with
  | nil => exact ⟨u, hu, rfl⟩
  | @snoc log' us' j l v w hp hj hs _ ih =>
    rw [own_append]
    by_cases hij : j = i
    · subst hij
      obtain ⟨t, ht, hpath⟩ := ih hj
      rw [List.getElem?_set_self (List.getElem?_eq_some_iff.mp hj).1] at hu
      cases hu
      refine ⟨t, ht, World.path_append.mpr ⟨v, hpath, ?_⟩⟩
      simpa [own, World.Path] using hs
    · rw [List.getElem?_set_ne hij] at hu
      obtain ⟨t, ht, hpath⟩ := ih hu
      exact ⟨t, ht, by simpa [own, hij] using hpath⟩

theorem path_unique {vs : List (Thread C R α)} (h : Path G ts log us) (h' : Path G ts log vs) :
    us = vs := by
  induction h generalizing vs with
  | nil =>
    generalize hlog : ([] : List (ℕ × Label C R)) = log at h'
    cases h' with
    | nil => rfl
    | snoc => simp at hlog
  | @snoc log us i l t u _ hi hs _ ih =>
    generalize hlog : log ++ [(i, l)] = log' at h'
    cases h' with
    | nil => simp at hlog
    | snoc hp' hi' hs' _ =>
      obtain ⟨rfl, hx⟩ := List.append_inj' hlog rfl
      cases hx
      obtain rfl := ih hp'
      cases hi.symm.trans hi'
      rw [hs.unique hs']

theorem path_length (h : Path G ts log us) : us.length = ts.length := by
  induction h with
  | nil => rfl
  | snoc _ _ _ _ ih => rw [List.length_set, ih]

theorem path_index (h : Path G ts log us) {i : ℕ} {l : Label C R} (hl : (i, l) ∈ log) :
    i < ts.length := by
  induction h with
  | nil => cases hl
  | snoc hp hj _ _ ih =>
    rcases List.mem_append.mp hl with hl | hl
    · exact ih hl
    · cases List.mem_singleton.mp hl
      rw [← path_length hp]
      exact (List.getElem?_eq_some_iff.mp hj).1

theorem path_program {ps : List (Proc C R α)} (h : Path G (ps.map .run) log us) {i : ℕ}
    {p : Proc C R α} (hp : ps[i]? = some p) :
    ∃ u, us[i]? = some u ∧ Thread.Path (.run p) (own i log) u := by
  have hi : i < us.length := by
    rw [path_length h, List.length_map]
    exact (List.getElem?_eq_some_iff.mp hp).1
  obtain ⟨t, ht, hpath⟩ := path_own h (List.getElem?_eq_getElem hi)
  rw [List.getElem?_map, hp, Option.map_some, Option.some.injEq] at ht
  subst ht
  exact ⟨us[i], List.getElem?_eq_getElem hi, hpath⟩

theorem path_thread {ps : List (Proc C R α)} (h : Path G (ps.map .run) log us) {i : ℕ}
    {l : Label C R} (hl : (i, l) ∈ log) :
    ∃ p u, ps[i]? = some p ∧ us[i]? = some u ∧ Thread.Path (.run p) (own i log) u ∧
      l ∈ own i log := by
  have hi := path_index h hl
  rw [List.length_map] at hi
  obtain ⟨u, hu, hpath⟩ := path_program h (List.getElem?_eq_getElem hi)
  exact ⟨ps[i], u, List.getElem?_eq_getElem hi, hu, hpath, mem_own.mpr hl⟩

theorem path_alone (h : Path G ts log us) {i : ℕ} {t u : Thread C R α} (hi : us[i]? = some t)
    {ls : List (Label C R)} (ht : Thread.Path t ls u)
    (hG : ∀ a l b, ls = a ++ l :: b → G (log ++ a.map (Prod.mk i)) (i, l)) :
    Path G ts (log ++ ls.map (Prod.mk i)) (us.set i u) := by
  induction ls using List.reverseRecOn generalizing u with
  | nil =>
    cases ht
    obtain ⟨hlt, rfl⟩ := List.getElem?_eq_some_iff.mp hi
    simpa using h
  | append_singleton ls l ih =>
    obtain ⟨v, hv, w, hw, hu⟩ := World.path_append.mp ht
    cases hu
    have hG' : ∀ a x b, ls = a ++ x :: b → G (log ++ a.map (Prod.mk i)) (i, x) := by
      rintro a x b rfl
      exact hG a x (b ++ [l]) (by simp)
    have hvi : (us.set i v)[i]? = some v :=
      List.getElem?_set_self (List.getElem?_eq_some_iff.mp hi).1
    have hs := Path.snoc (ih hv hG') hvi hw (hG ls l [] rfl)
    rw [List.set_set] at hs
    simpa using hs

/-- What thread `i` did, it can do while the others have not begun. -/
theorem path_only {i : ℕ} (h : Path G ts log us)
    (hG : ∀ log l, G log (i, l) → G (log.filter (fun x => decide (x.1 = i))) (i, l)) :
    ∃ vs, Path G ts (log.filter (fun x => decide (x.1 = i))) vs ∧ vs[i]? = us[i]? := by
  induction h with
  | nil => exact ⟨ts, Path.nil, rfl⟩
  | @snoc log' us' j l t u hp hj hs hg ih =>
    obtain ⟨vs, hvs, hi⟩ := ih
    rw [List.filter_append]
    by_cases hij : j = i
    · subst hij
      have hsnoc := Path.snoc hvs (hi.trans hj) hs (hG _ _ hg)
      refine ⟨vs.set j u, by simpa using hsnoc, ?_⟩
      rw [List.getElem?_set_self (List.getElem?_eq_some_iff.mp (hi.trans hj)).1,
        List.getElem?_set_self (List.getElem?_eq_some_iff.mp hj).1]
    · refine ⟨vs, by simpa [hij] using hvs, ?_⟩
      rw [hi, List.getElem?_set_ne hij]

theorem path_answered {ps : List (Proc C R α)} (h : Path G (ps.map .run) log us)
    (hdone : ∀ u ∈ us, u.result ≠ none) {i : ℕ} {c : C} (hc : (i, .issue c) ∈ log) :
    ∃ r, (i, .reply c r) ∈ log := by
  obtain ⟨p, u, -, hu, hpath, hown⟩ := path_thread h hc
  obtain ⟨a, ha⟩ := Option.ne_none_iff_exists'.mp (hdone u (List.mem_of_getElem? hu))
  rw [Thread.result_eq_some.mp ha] at hpath
  obtain ⟨r, hr⟩ := answered hpath hown
  exact ⟨r, mem_own.mp hr⟩

theorem path_emits {ps : List (Proc C R α)} {P : Label C R → Prop}
    (h : Path G (ps.map .run) log us)
    (hps : ∀ p ∈ ps, Emits alone (onMain P) p (fun _ => True)) : ∀ x ∈ log, P x.2 := by
  rintro ⟨i, l⟩ hl
  obtain ⟨p, u, hp, -, hpath, hown⟩ := path_thread h hl
  have hcut := (hps p (List.mem_of_getElem? hp)).cut (cut_of_path hpath)
  exact hcut (.main l) (List.mem_map_of_mem hown)

end ShardingOnCloud.Lib.Pool
