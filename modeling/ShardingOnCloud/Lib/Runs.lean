import Mathlib.Data.List.SplitBy
import Mathlib.Data.List.TakeWhile

namespace ShardingOnCloud.Lib.Runs

variable {α : Type} [DecidableEq α]

section Runs

theorem takeWhile_run {c : α} {rest : List α} (h : rest.head? ≠ some c) (k : ℕ) :
    (List.replicate k c ++ rest).takeWhile (· = c) = List.replicate k c := by
  have hrest : rest.takeWhile (· = c) = [] := by
    cases rest with
    | nil => rfl
    | cons b rest =>
      have hb : b ≠ c := fun hx => h (congrArg some hx)
      exact List.takeWhile_cons_of_neg (by simpa using hb)
  rw [List.takeWhile_append_of_pos (by simp), hrest, List.append_nil]

theorem runs_induction {P : List α → Prop} (nil : P [])
    (run : ∀ (k : ℕ) (a : α) (rest : List α), rest.head? ≠ some a → P rest →
      P (List.replicate (k + 1) a ++ rest)) (cs : List α) : P cs := by
  induction hn : cs.length using Nat.strong_induction_on generalizing cs with
  | h n ih =>
    cases cs with
    | nil => exact nil
    | cons a cs =>
      let rest := cs.dropWhile (· = a)
      have hsplit : a :: cs = List.replicate ((cs.takeWhile (· = a)).length + 1) a ++ rest := by
        have hall : cs.takeWhile (· = a) = List.replicate (cs.takeWhile (· = a)).length a := by
          refine List.eq_replicate_of_mem (fun b hb => ?_)
          simpa using List.mem_takeWhile_imp hb
        rw [List.replicate_succ, List.cons_append, ← hall, List.takeWhile_append_dropWhile]
      have hhead : rest.head? ≠ some a := by
        intro hx
        have hfalse := List.head?_dropWhile_not (· = a) cs
        rw [hx] at hfalse
        simp at hfalse
      have hlength : rest.length < n := by
        have hle := (List.dropWhile_sublist (l := cs) (fun b => decide (b = a))).length_le
        rw [← hn, List.length_cons]
        exact Nat.lt_succ_of_le hle
      rw [hsplit]
      exact run _ a rest hhead (ih _ hlength rest rfl)

theorem splitBy_run {a : α} {rest : List α} (h : rest.head? ≠ some a) (k : ℕ) :
    (List.replicate (k + 1) a ++ rest).splitBy (· == ·) =
      List.replicate (k + 1) a :: rest.splitBy (· == ·) := by
  rw [List.splitBy_append, List.splitBy_of_isChain (by simp)]
  · rfl
  · exact List.isChain_replicate_of_rel _ (by simp)
  · intro x hx y hy
    have hxa : x = a := by
      have hmem := List.mem_of_mem_getLast? hx
      exact List.eq_of_mem_replicate hmem
    have hya : y ≠ a := by
      rintro rfl
      exact h hy
    rw [hxa]
    exact beq_false_of_ne (Ne.symm hya)

end Runs

section Shortening

variable {marks : List α} {a : α} {rest : List α}

def shorten (marks : List α) : List α → List α
  | [] => []
  | a :: run => if a ∈ marks then [a] else a :: run

def shortened (marks cs : List α) : List α := (cs.splitBy (· == ·)).flatMap (shorten marks)

def kept (marks : List α) (k : ℕ) (a : α) : List α :=
  if a ∈ marks then [a] else List.replicate (k + 1) a

theorem shortened_run (h : rest.head? ≠ some a) (k : ℕ) :
    shortened marks (List.replicate (k + 1) a ++ rest) =
      kept marks k a ++ shortened marks rest := by
  rw [shortened, splitBy_run h, List.flatMap_cons]
  rfl

theorem head?_kept (k : ℕ) (cs : List α) : (kept marks k a ++ cs).head? = some a := by
  unfold kept
  split <;> rfl

theorem kept_eq (marks : List α) (k : ℕ) (a : α) : ∃ m, kept marks k a = List.replicate (m + 1) a ∧
    m ≤ k ∧ (a ∈ marks → m = 0) ∧ (a ∉ marks → m = k) := by
  unfold kept
  split
  · rename_i hmark
    exact ⟨0, rfl, Nat.zero_le k, fun _ => rfl, fun hx => absurd hmark hx⟩
  · rename_i hmark
    exact ⟨k, rfl, le_rfl, fun hx => absurd hx hmark, fun _ => rfl⟩

theorem head?_shortened (cs : List α) : (shortened marks cs).head? = cs.head? := by
  induction cs using runs_induction with
  | nil => rfl
  | run k a rest hhead ih =>
    rw [shortened_run hhead, head?_kept]
    rfl

theorem shortened_sublist (marks cs : List α) : (shortened marks cs).Sublist cs := by
  induction cs using runs_induction with
  | nil => exact List.Sublist.refl []
  | run k a rest hhead ih =>
    obtain ⟨m, hkept, hle, -⟩ := kept_eq marks k a
    rw [shortened_run hhead, hkept]
    exact ((List.replicate_sublist_replicate a).mpr (by omega)).append ih

theorem shortened_shortened (marks marks' cs : List α) :
    shortened marks' (shortened marks cs) = shortened (marks ++ marks') cs := by
  induction cs using runs_induction with
  | nil => rfl
  | run k a rest hhead ih =>
    obtain ⟨m, hkept, -, hone, hall⟩ := kept_eq marks k a
    have hhead' : (shortened marks rest).head? ≠ some a := by
      rw [head?_shortened]
      exact hhead
    have hboth : kept marks' m a = kept (marks ++ marks') k a := by
      by_cases hmark : a ∈ marks
      · rw [hone hmark]
        simp [kept, hmark]
      · rw [hall hmark]
        simp [kept, hmark]
    rw [shortened_run hhead, hkept, shortened_run hhead', ih, hboth, shortened_run hhead]

theorem shortened_map {β : Type} [DecidableEq β] {f : α → β} {cs : List α}
    (hf : ∀ a ∈ marks ++ cs, ∀ b ∈ marks ++ cs, f a = f b → a = b) :
    shortened (marks.map f) (cs.map f) = (shortened marks cs).map f := by
  induction cs using runs_induction with
  | nil => rfl
  | run k a rest hhead ih =>
    have ha : a ∈ marks ++ (List.replicate (k + 1) a ++ rest) := by simp
    have hhead' : (rest.map f).head? ≠ some (f a) := by
      rw [List.head?_map]
      intro hx
      obtain ⟨b, hb, hfb⟩ := Option.map_eq_some_iff.mp hx
      have hmem : b ∈ rest := List.mem_of_mem_head? hb
      exact hhead (hf b (by simp [hmem]) a ha hfb ▸ hb)
    have hmark : f a ∈ marks.map f ↔ a ∈ marks := by
      refine ⟨fun hx => ?_, List.mem_map_of_mem⟩
      obtain ⟨b, hb, hfb⟩ := List.mem_map.mp hx
      exact hf b (List.mem_append_left _ hb) a ha hfb ▸ hb
    have hkept : kept (marks.map f) k (f a) = (kept marks k a).map f := by
      by_cases hx : a ∈ marks
      · simp [kept, hx, hmark.mpr hx]
      · simp [kept, hx, mt hmark.mp hx]
    rw [List.map_append, List.map_replicate, shortened_run hhead', hkept, shortened_run hhead,
      List.map_append, ih]
    have hmore : ∀ b ∈ marks ++ rest, b ∈ marks ++ (List.replicate (k + 1) a ++ rest) := by
      intro b hb
      rw [List.mem_append] at hb ⊢
      exact hb.imp_right (List.mem_append_right _)
    exact fun b hb c hc => hf b (hmore b hb) c (hmore c hc)

/-- No mark stands twice in a row. -/
def Spaced (marks cs : List α) : Prop := cs.IsChain (fun a b => ¬(a = b ∧ a ∈ marks))

omit [DecidableEq α] in
theorem spaced_replicate (k : ℕ) :
    Spaced marks (List.replicate (k + 1) a) ↔ (a ∈ marks → k = 0) := by
  constructor
  · intro h ha
    cases k with
    | zero => rfl
    | succ k => exact absurd ⟨rfl, ha⟩ (List.isChain_cons_cons.mp h).1
  · intro h
    by_cases ha : a ∈ marks
    · rw [h ha]
      exact List.isChain_singleton a
    · exact List.isChain_replicate_of_rel _ (fun hx => ha hx.2)

omit [DecidableEq α] in
theorem spaced_run (h : rest.head? ≠ some a) (k : ℕ) :
    Spaced marks (List.replicate (k + 1) a ++ rest) ↔
      (a ∈ marks → k = 0) ∧ Spaced marks rest := by
  have hborder : ∀ x ∈ (List.replicate (k + 1) a).getLast?, ∀ y ∈ rest.head?,
      ¬(x = y ∧ x ∈ marks) := by
    rintro x hx y hy ⟨rfl, -⟩
    obtain rfl := List.eq_of_mem_replicate (List.mem_of_mem_getLast? hx)
    exact h hy
  rw [Spaced, List.isChain_append, and_iff_left hborder]
  exact and_congr_left' (spaced_replicate k)

theorem spaced_shortened (marks cs : List α) : Spaced marks (shortened marks cs) := by
  induction cs using runs_induction with
  | nil => exact List.isChain_nil
  | run k a rest hhead ih =>
    obtain ⟨m, hkept, -, hone, -⟩ := kept_eq marks k a
    have hhead' : (shortened marks rest).head? ≠ some a := by
      rw [head?_shortened]
      exact hhead
    rw [shortened_run hhead, hkept, spaced_run hhead']
    exact ⟨hone, ih⟩

theorem shortened_of_spaced {cs : List α} (h : Spaced marks cs) : shortened marks cs = cs := by
  induction cs using runs_induction with
  | nil => rfl
  | run k a rest hhead ih =>
    obtain ⟨hone, hrest⟩ := (spaced_run hhead k).mp h
    obtain ⟨m, hkept, -, hmark, hall⟩ := kept_eq marks k a
    have hm : m = k := by
      by_cases hx : a ∈ marks
      · rw [hmark hx, hone hx]
      · exact hall hx
    rw [shortened_run hhead, hkept, hm, ih hrest]

omit [DecidableEq α] in
theorem not_infix_of_spaced {cs : List α} (h : Spaced marks cs) (ha : a ∈ marks) :
    ¬[a, a] <:+: cs := by
  intro hinfix
  have hpair := h.infix hinfix
  exact (List.isChain_cons_cons.mp hpair).1 ⟨rfl, ha⟩

end Shortening

section Replacing

/-- What is left of a text when the runs of two or more `c` are replaced by one, from left to
right. A run is taken as a whole. The number bounds the length of the text. -/
def replaceRuns (c : α) : ℕ → List α → List α
  | 0, cs => cs
  | _, [] => []
  | n + 1, a :: cs =>
    let run := (a :: cs).takeWhile (· = c)
    if 2 ≤ run.length then c :: replaceRuns c n ((a :: cs).drop run.length)
    else a :: replaceRuns c n cs

theorem replaceRuns_other {a c : α} (h : a ≠ c) (k n : ℕ) (rest : List α) :
    replaceRuns c (n + k) (List.replicate k a ++ rest) =
      List.replicate k a ++ replaceRuns c n rest := by
  induction k with
  | zero => rfl
  | succ k ih =>
    have hrun : ∀ cs : List α, (a :: cs).takeWhile (· = c) = [] :=
      fun _ => List.takeWhile_cons_of_neg (by simpa using h)
    rw [List.replicate_succ, List.cons_append, ← Nat.add_assoc, replaceRuns, hrun, List.cons_append,
      ← ih]
    rfl

theorem replaceRuns_run {c : α} {rest : List α} (h : rest.head? ≠ some c) (k n : ℕ) :
    replaceRuns c (n + 1) (List.replicate (k + 1) c ++ rest) = c :: replaceRuns c n rest := by
  have hrun := takeWhile_run h (k + 1)
  have hdrop : (List.replicate (k + 1) c ++ rest).drop (k + 1) = rest :=
    List.drop_left' List.length_replicate
  rw [List.replicate_succ, List.cons_append] at hrun hdrop ⊢
  rw [replaceRuns, hrun, List.length_cons, List.length_replicate, hdrop]
  cases k with
  | zero => rfl
  | succ k => exact if_pos (by omega)

theorem replaceRuns_eq (c : α) {n : ℕ} {cs : List α} (h : cs.length ≤ n) :
    replaceRuns c n cs = shortened [c] cs := by
  induction cs using runs_induction generalizing n with
  | nil => cases n <;> rfl
  | run k a rest hhead ih =>
    rw [List.length_append, List.length_replicate] at h
    rw [shortened_run hhead]
    by_cases ha : a = c
    · subst ha
      obtain ⟨m, rfl⟩ := Nat.exists_eq_add_of_le' (by omega : 1 ≤ n)
      rw [replaceRuns_run hhead, ih (by omega)]
      simp [kept]
    · obtain ⟨m, rfl⟩ := Nat.exists_eq_add_of_le' (by omega : k + 1 ≤ n)
      rw [replaceRuns_other ha, ih (by omega)]
      simp [kept, ha]

end Replacing

end ShardingOnCloud.Lib.Runs
