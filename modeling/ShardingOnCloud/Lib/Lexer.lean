import ShardingOnCloud.Lib.Patterns

namespace ShardingOnCloud.Lib.Lexer

open ShardingOnCloud.Lib.Patterns

/-- The kinds of words of a language, in order of precedence. -/
structure Vocabulary (α κ : Type) where
  kinds : List κ
  pattern : κ → Pattern α
  skips : κ → Bool

variable {α κ : Type}

def classify (v : Vocabulary α κ) (w : List α) : Option κ :=
  v.kinds.find? (fun k => (v.pattern k).accepts w)

/-- The length of the longest part at the front, of at most the given length, that has a
kind. A letter that starts no such part is taken alone. -/
def longest (v : Vocabulary α κ) (cs : List α) : ℕ → ℕ
  | 0 => 1
  | n + 1 => if (classify v (cs.take (n + 1))).isSome then n + 1 else longest v cs n

def split (v : Vocabulary α κ) : ℕ → List α → List (List α)
  | 0, _ => []
  | _ + 1, [] => []
  | n + 1, c :: cs =>
    (c :: cs).take (longest v (c :: cs) (c :: cs).length) ::
      split v n ((c :: cs).drop (longest v (c :: cs) (c :: cs).length))

def lexemes (v : Vocabulary α κ) (cs : List α) : List (List α) := split v cs.length cs

def skipped (v : Vocabulary α κ) (w : List α) : Bool := (classify v w).any v.skips

def tokens (v : Vocabulary α κ) (cs : List α) : List (List α) :=
  (lexemes v cs).filter (fun w => !skipped v w)

section Kinds

variable {v : Vocabulary α κ} {w : List α} {k : κ}

theorem classify_eq_some (h : classify v w = some k) :
    k ∈ v.kinds ∧ w ∈ (v.pattern k).lang := by
  have haccepts := List.find?_some (p := fun k => (v.pattern k).accepts w) h
  exact ⟨List.mem_of_find?_eq_some h, (Pattern.accepts_iff _ _).mp haccepts⟩

theorem classify_eq_none : classify v w = none ↔ ∀ k ∈ v.kinds, w ∉ (v.pattern k).lang := by
  unfold classify
  rw [List.find?_eq_none]
  refine forall₂_congr (fun k _ => ?_)
  rw [Pattern.accepts_iff]

end Kinds

section Lexemes

variable {v : Vocabulary α κ} {cs w rest : List α} {k : κ}

theorem longest_pos (cs : List α) (n : ℕ) : 0 < longest v cs n := by
  induction n with
  | zero => exact Nat.one_pos
  | succ n ih =>
    rw [longest]
    split
    · exact Nat.succ_pos n
    · exact ih

theorem longest_le (cs : List α) {n : ℕ} (hn : 0 < n) : longest v cs n ≤ n := by
  induction n with
  | zero => exact absurd hn (Nat.lt_irrefl 0)
  | succ n ih =>
    rw [longest]
    split
    · exact le_rfl
    · cases n with
      | zero => exact le_rfl
      | succ n => exact (ih (Nat.succ_pos n)).trans (Nat.le_succ _)

theorem length_drop_longest (c : α) (cs : List α) (n : ℕ) :
    ((c :: cs).drop (longest v (c :: cs) n)).length ≤ cs.length := by
  have hpos : 0 < longest v (c :: cs) n := longest_pos _ _
  have hlen : (c :: cs).length = cs.length + 1 := rfl
  rw [List.length_drop]
  omega

theorem split_fuel {n : ℕ} (h : cs.length ≤ n) : split v n cs = lexemes v cs := by
  induction n using Nat.strong_induction_on generalizing cs with
  | _ n ih =>
    cases cs with
    | nil => cases n <;> rfl
    | cons c cs =>
      cases n with
      | zero => exact absurd h (Nat.not_succ_le_zero _)
      | succ n =>
        have hdrop := @length_drop_longest α κ v c cs (c :: cs).length
        have hn : cs.length ≤ n := Nat.le_of_succ_le_succ h
        change _ :: split v n _ = _ :: split v cs.length _
        rw [ih n (Nat.lt_succ_self n) (hdrop.trans hn),
          ih cs.length (Nat.lt_succ_of_le hn) hdrop]

theorem lexemes_step (h : cs ≠ []) : lexemes v cs =
    cs.take (longest v cs cs.length) ::
      lexemes v (cs.drop (longest v cs cs.length)) := by
  cases cs with
  | nil => exact absurd rfl h
  | cons c cs =>
    have hdrop := @length_drop_longest α κ v c cs (c :: cs).length
    rw [← split_fuel hdrop]
    rfl

theorem longest_skip {n m : ℕ} (hle : n ≤ m)
    (h : ∀ i, n < i → i ≤ m → classify v (cs.take i) = none) :
    longest v cs m = longest v cs n := by
  induction m, hle using Nat.le_induction with
  | base => rfl
  | succ m hm ih =>
    rw [longest, h (m + 1) (Nat.lt_succ_of_le hm) le_rfl]
    exact ih (fun i hi hi' => h i hi (hi'.trans (Nat.le_succ m)))

theorem longest_congr {cs ds : List α} {n : ℕ} (h : ∀ i ≤ n, cs.take i = ds.take i) :
    longest v cs n = longest v ds n := by
  induction n with
  | zero => rfl
  | succ n ih =>
    rw [longest, longest, h (n + 1) le_rfl, ih (fun i hi => h i (hi.trans (Nat.le_succ n)))]

/-- Nothing longer at the front of the text has a kind. -/
def Ends (v : Vocabulary α κ) (w rest : List α) : Prop :=
  ∀ u, u ≠ [] → u <+: rest → classify v (w ++ u) = none

theorem take_append_longer {n : ℕ} (hn : w.length < n) (hle : n ≤ (w ++ rest).length) :
    ∃ u, u ≠ [] ∧ u <+: rest ∧ (w ++ rest).take n = w ++ u := by
  refine ⟨rest.take (n - w.length), ?_, List.take_prefix _ _, ?_⟩
  · intro h
    rw [List.length_append] at hle
    have hlen := congrArg List.length h
    rw [List.length_take, List.length_nil] at hlen
    omega
  · rw [List.take_append, List.take_of_length_le hn.le]

theorem longest_append (h : Ends v w rest) :
    longest v (w ++ rest) (w ++ rest).length = longest v (w ++ rest) w.length := by
  refine longest_skip ?_ ?_
  · rw [List.length_append]
    exact Nat.le_add_right _ _
  · intro i hi hle
    obtain ⟨u, hu, hpre, he⟩ := take_append_longer hi hle
    rw [he]
    exact h u hu hpre

theorem lexemes_append_token (hk : classify v w = some k) (hw : w ≠ [])
    (h : Ends v w rest) : lexemes v (w ++ rest) = w :: lexemes v rest := by
  have hlen : longest v (w ++ rest) (w ++ rest).length = w.length := by
    rw [longest_append h]
    cases hw' : w.length with
    | zero => exact absurd (List.length_eq_zero_iff.mp hw') hw
    | succ n => rw [longest, ← hw', List.take_left, hk, Option.isSome_some, if_pos rfl]
  have hne : w ++ rest ≠ [] := fun he => hw (List.append_eq_nil_iff.mp he).1
  rw [lexemes_step hne, hlen, List.take_left, List.drop_left]

/-- A text may be cut where no lexeme that starts before the cut can end after it. -/
theorem lexemes_append {a b : List α}
    (h : ∀ s, s ≠ [] → s <:+ a → Ends v s b) :
    lexemes v (a ++ b) = lexemes v a ++ lexemes v b := by
  induction hn : a.length using Nat.strong_induction_on generalizing a with
  | _ n ih =>
    by_cases ha : a = []
    · subst ha
      rfl
    · have hpos : 0 < a.length := List.length_pos_iff.mpr ha
      have hle : longest v a a.length ≤ a.length := longest_le a hpos
      have hk : 0 < longest v a a.length := longest_pos a a.length
      have hlong : longest v (a ++ b) (a ++ b).length = longest v a a.length := by
        rw [longest_append (h a ha List.suffix_rfl)]
        exact longest_congr (fun i hi => List.take_append_of_le_length hi)
      have hne : a ++ b ≠ [] := fun he => ha (List.append_eq_nil_iff.mp he).1
      rw [lexemes_step hne, lexemes_step ha, hlong, List.take_append_of_le_length hle,
        List.drop_append_of_le_length hle, List.cons_append]
      congr 1
      refine ih _ ?_ ?_ rfl
      · rw [List.length_drop]
        omega
      · intro s hs hsuf
        exact h s hs (hsuf.trans (List.drop_suffix _ _))

theorem lexemes_flatten (cs : List α) : (lexemes v cs).flatten = cs := by
  induction hn : cs.length using Nat.strong_induction_on generalizing cs with
  | _ n ih =>
    cases cs with
    | nil => rfl
    | cons c cs =>
      have hdrop := @length_drop_longest α κ v c cs (c :: cs).length
      rw [lexemes_step (List.cons_ne_nil c cs), List.flatten_cons,
        ih _ (hn ▸ Nat.lt_succ_of_le hdrop) _ rfl, List.take_append_drop]

end Lexemes

section Tokens

variable {v : Vocabulary α κ} {cs w rest : List α} {k : κ}

theorem tokens_append_token (hk : classify v w = some k) (hs : v.skips k = false) (hw : w ≠ [])
    (h : Ends v w rest) : tokens v (w ++ rest) = w :: tokens v rest := by
  have hskip : (!skipped v w) = true := by
    rw [skipped, hk, Option.any_some, hs]
    rfl
  rw [tokens, lexemes_append_token hk hw h, List.filter_cons, if_pos hskip]
  rfl

theorem tokens_append_skipped (hk : classify v w = some k) (hs : v.skips k = true) (hw : w ≠ [])
    (h : Ends v w rest) : tokens v (w ++ rest) = tokens v rest := by
  have hskip : ¬ (!skipped v w) = true := by
    rw [skipped, hk, Option.any_some, hs]
    decide
  rw [tokens, lexemes_append_token hk hw h, List.filter_cons, if_neg hskip]
  rfl

theorem tokens_append {a b : List α} (h : ∀ s, s ≠ [] → s <:+ a → Ends v s b) :
    tokens v (a ++ b) = tokens v a ++ tokens v b := by
  rw [tokens, lexemes_append h, List.filter_append]
  rfl

theorem length_tokens (cs : List α) : (tokens v cs).flatten.length ≤ cs.length := by
  have hfilter : ∀ ws : List (List α),
      (ws.filter (fun w => !skipped v w)).flatten.length ≤ ws.flatten.length := by
    intro ws
    induction ws with
    | nil => exact le_rfl
    | cons w ws ih =>
      rw [List.filter_cons]
      split
      · simpa using ih
      · rw [List.flatten_cons, List.length_append]
        exact ih.trans (Nat.le_add_left _ _)
  have h := hfilter (lexemes v cs)
  rwa [lexemes_flatten] at h

end Tokens

end ShardingOnCloud.Lib.Lexer
