import Mathlib.Data.List.Basic
import Mathlib.Tactic.Common

namespace ShardingOnCloud.Lib.JsonParser

inductive Json
  | null
  | bool (b : Bool)
  | num (literal : String)
  | str (s : String)
  | arr (xs : List Json)
  | obj (ms : List (String × Json))

def isSpace (c : Char) : Bool := c == ' ' || c == '\t' || c == '\r' || c == '\n'

def skip (cs : List Char) : List Char := cs.dropWhile isSpace

def hexDigit (c : Char) : Option ℕ :=
  if '0' ≤ c ∧ c ≤ '9' then some (c.toNat - '0'.toNat)
  else if 'a' ≤ c ∧ c ≤ 'f' then some (c.toNat - 'a'.toNat + 10)
  else if 'A' ≤ c ∧ c ≤ 'F' then some (c.toNat - 'A'.toNat + 10)
  else none

/-- The code unit of the four digits after `\u`. -/
def codeUnit (a b c d : Char) : Option ℕ := do
  return 4096 * (← hexDigit a) + 256 * (← hexDigit b) + 16 * (← hexDigit c) + (← hexDigit d)

/-- A part of a string literal: a character, or a code unit of UTF-16. -/
inductive Piece
  | char (c : Char)
  | code (u : ℕ)

def simpleEscape : Char → Option Char
  | '"' => some '"'
  | '\\' => some '\\'
  | '/' => some '/'
  | 'b' => some '\x08'
  | 'f' => some '\x0c'
  | 'n' => some '\n'
  | 'r' => some '\r'
  | 't' => some '\t'
  | _ => none

def prepend {α : Type} (p : α) (x : List α × List Char) : List α × List Char := (p :: x.1, x.2)

/-- A string literal after its first quote, and what follows it. -/
def pieces : List Char → Option (List Piece × List Char)
  | [] => none
  | '"' :: cs => some ([], cs)
  | '\\' :: 'u' :: a :: b :: c :: d :: cs =>
    (codeUnit a b c d).bind (fun u => (pieces cs).map (prepend (.code u)))
  | '\\' :: e :: cs => (simpleEscape e).bind (fun c => (pieces cs).map (prepend (.char c)))
  | c :: cs => if c = '\\' ∨ c.toNat < 0x20 then none else (pieces cs).map (prepend (.char c))

def surrogates (hi lo : ℕ) : Option Char :=
  if 0xD800 ≤ hi ∧ hi < 0xDC00 ∧ 0xDC00 ≤ lo ∧ lo < 0xE000 then
    some (Char.ofNat (0x10000 + 1024 * (hi - 0xD800) + (lo - 0xDC00)))
  else none

/-- The character of a code unit alone; half a pair is replaced. -/
def lone (u : ℕ) : Char := if 0xD800 ≤ u ∧ u < 0xE000 then '\uFFFD' else Char.ofNat u

def join : List Piece → List Char
  | [] => []
  | .char c :: ps => c :: join ps
  | .code u :: .code v :: ps =>
    match surrogates u v with
    | some c => c :: join ps
    | none => lone u :: join (.code v :: ps)
  | .code u :: ps => lone u :: join ps

def string (cs : List Char) : Option (String × List Char) :=
  (pieces cs).map (fun x => (String.ofList (join x.1), x.2))

def integer : List Char → Option (List Char × List Char)
  | '0' :: cs => some (['0'], cs)
  | c :: cs =>
    if c.isDigit then some (c :: cs.takeWhile Char.isDigit, cs.dropWhile Char.isDigit) else none
  | [] => none

def digits (cs : List Char) : Option (List Char × List Char) :=
  if cs.takeWhile Char.isDigit = [] then none
  else some (cs.takeWhile Char.isDigit, cs.dropWhile Char.isDigit)

def sign : List Char → List Char × List Char
  | '-' :: cs => (['-'], cs)
  | cs => ([], cs)

def fraction : List Char → Option (List Char × List Char)
  | '.' :: cs => (digits cs).map (prepend '.')
  | cs => some ([], cs)

def signedDigits : List Char → Option (List Char × List Char)
  | '+' :: cs => (digits cs).map (prepend '+')
  | '-' :: cs => (digits cs).map (prepend '-')
  | cs => digits cs

def exponent : List Char → Option (List Char × List Char)
  | [] => some ([], [])
  | c :: cs =>
    if c = 'e' ∨ c = 'E' then (signedDigits cs).map (prepend c) else some ([], c :: cs)

def number (cs : List Char) : Option (Json × List Char) :=
  (integer (sign cs).2).bind (fun i => (fraction i.2).bind (fun f => (exponent f.2).map (fun e =>
    (.num (String.ofList ((sign cs).1 ++ i.1 ++ f.1 ++ e.1)), e.2))))

def scalar : List Char → Option (Json × List Char)
  | 't' :: 'r' :: 'u' :: 'e' :: cs => some (.bool true, cs)
  | 'f' :: 'a' :: 'l' :: 's' :: 'e' :: cs => some (.bool false, cs)
  | 'n' :: 'u' :: 'l' :: 'l' :: cs => some (.null, cs)
  | '"' :: cs => (string cs).map (fun x => (.str x.1, x.2))
  | cs => number cs

/-- Items with commas between them, up to the closing bracket. -/
def items {α : Type} (item : List Char → Option (α × List Char)) (close : Char) :
    ℕ → List Char → Option (List α × List Char)
  | 0, _ => none
  | n + 1, cs =>
    match item cs with
    | none => none
    | some (x, cs) =>
      match skip cs with
      | [] => none
      | c :: cs =>
        if c = ',' then (items item close n cs).map (prepend x)
        else if c = close then some ([x], cs)
        else none

def member (value : List Char → Option (Json × List Char)) (cs : List Char) :
    Option ((String × Json) × List Char) :=
  match skip cs with
  | '"' :: cs =>
    match string cs with
    | none => none
    | some (k, cs) =>
      match skip cs with
      | ':' :: cs => (value cs).map (fun x => ((k, x.1), x.2))
      | _ => none
  | _ => none

def bracket {α : Type} (item : List Char → Option (α × List Char)) (close : Char) (n : ℕ)
    (cs : List Char) : Option (List α × List Char) :=
  match skip cs with
  | c :: cs' => if c = close then some ([], cs') else items item close n cs
  | [] => none

/-- A value and what follows it. The number bounds the depth, and the length of
arrays and objects. -/
def value : ℕ → List Char → Option (Json × List Char)
  | 0, _ => none
  | n + 1, cs =>
    match skip cs with
    | '{' :: cs => (bracket (member (value n)) '}' n cs).map (fun x => (.obj x.1, x.2))
    | '[' :: cs => (bracket (value n) ']' n cs).map (fun x => (.arr x.1, x.2))
    | cs => scalar cs

def parse (text : String) : Option Json :=
  match value (text.toList.length + 1) text.toList with
  | some (v, cs) => if skip cs = [] then some v else none
  | none => none

/-! A value is read in the same way when more text follows it. Only a number at the
very end of the text could go on. -/

theorem skip_append {cs cs' : List Char} {c : Char} (h : skip cs = c :: cs') (q : List Char) :
    skip (cs ++ q) = c :: (cs' ++ q) := by
  induction cs with
  | nil => cases h
  | cons d cs ih =>
    rw [skip, List.dropWhile_cons] at h
    rw [skip, List.cons_append, List.dropWhile_cons]
    split at h
    · next hd =>
      rw [if_pos hd]
      exact ih h
    · next hd =>
      rw [if_neg hd]
      cases h
      rfl

theorem pieces_escape {e c : Char} (h : simpleEscape e = some c) (cs : List Char) :
    pieces ('\\' :: e :: cs) = (pieces cs).map (prepend (.char c)) := by
  have he : e ≠ 'u' := by
    rintro rfl
    cases h
  rw [pieces.eq_def]
  split
  · next heq => cases heq
  · next heq => cases heq
  · next heq =>
    cases heq
    exact absurd rfl he
  · next heq =>
    cases heq
    rw [h]
    rfl
  · next hne heq =>
    cases heq
    exact absurd rfl (hne e cs rfl)

theorem pieces_plain {c : Char} (hq : c ≠ '"') (hb : c ≠ '\\') (hc : ¬c.toNat < 0x20)
    (cs : List Char) : pieces (c :: cs) = (pieces cs).map (prepend (.char c)) := by
  rw [pieces.eq_def]
  split
  · next heq => cases heq
  · next heq =>
    cases heq
    exact absurd rfl hq
  · next heq =>
    cases heq
    exact absurd rfl hb
  · next heq =>
    cases heq
    exact absurd rfl hb
  · next heq =>
    cases heq
    rw [if_neg (by simp [hb, hc])]

theorem pieces_append {cs rest : List Char} {ps : List Piece} (h : pieces cs = some (ps, rest))
    (q : List Char) : pieces (cs ++ q) = some (ps, rest ++ q) := by
  fun_induction pieces cs generalizing ps with
  | case1 => cases h
  | case2 cs =>
    cases h
    rfl
  | case3 a b c d cs ih =>
    obtain ⟨u, hu, hrest⟩ := Option.bind_eq_some_iff.mp h
    obtain ⟨⟨ps', rest'⟩, hcs, heq⟩ := Option.map_eq_some_iff.mp hrest
    cases heq
    simp [pieces, hu, ih hcs, prepend]
  | case4 e cs hne ih =>
    obtain ⟨c, hc, hrest⟩ := Option.bind_eq_some_iff.mp h
    obtain ⟨⟨ps', rest'⟩, hcs, heq⟩ := Option.map_eq_some_iff.mp hrest
    cases heq
    simp [pieces_escape hc, ih hcs, prepend]
  | case5 c cs h1 h2 h3 hc => cases h
  | case6 c cs h1 h2 h3 hc ih =>
    obtain ⟨⟨ps', rest'⟩, hcs, heq⟩ := Option.map_eq_some_iff.mp h
    cases heq
    push Not at hc
    simp [pieces_plain h1 hc.1 (by omega), ih hcs, prepend]

theorem string_append {cs rest : List Char} {s : String} (h : string cs = some (s, rest))
    (q : List Char) : string (cs ++ q) = some (s, rest ++ q) := by
  obtain ⟨⟨ps, rest'⟩, hps, heq⟩ := Option.map_eq_some_iff.mp h
  cases heq
  simp [string, pieces_append hps]

/-- What `g` reads when `q` follows is what `f` reads, if something is left. -/
def Extends {α : Type} (f g : List Char → Option (α × List Char)) (q : List Char) : Prop :=
  ∀ cs x rest, f cs = some (x, rest) → rest ≠ [] → g (cs ++ q) = some (x, rest ++ q)

theorem span_append {p : Char → Bool} {cs : List Char} (h : cs.dropWhile p ≠ []) (q : List Char) :
    (cs ++ q).takeWhile p = cs.takeWhile p ∧ (cs ++ q).dropWhile p = cs.dropWhile p ++ q := by
  induction cs with
  | nil => exact absurd rfl h
  | cons c cs ih =>
    by_cases hc : p c = true
    · rw [List.dropWhile_cons_of_pos hc] at h
      simpa [hc] using ih h
    · simp [hc]

theorem integer_extends (q : List Char) : Extends integer integer q := by
  intro cs x rest h hrest
  fun_cases integer cs with
  | case1 cs =>
    cases h
    rfl
  | case2 c cs h0 hc =>
    rw [integer.eq_2 _ _ h0, if_pos hc] at h
    cases h
    obtain ⟨ht, hd⟩ := span_append hrest q
    rw [List.cons_append, integer.eq_2 _ _ h0, if_pos hc, ht, hd]
  | case3 c cs h0 hc =>
    rw [integer.eq_2 _ _ h0, if_neg hc] at h
    cases h
  | case4 => cases h

theorem digits_extends (q : List Char) : Extends digits digits q := by
  intro cs x rest h hrest
  unfold digits at h
  split at h
  · cases h
  · next hne =>
    cases h
    obtain ⟨ht, hd⟩ := span_append hrest q
    rw [digits, ht, hd, if_neg hne]

theorem fraction_extends (q : List Char) : Extends fraction fraction q := by
  intro cs x rest h hrest
  fun_cases fraction cs with
  | case1 cs =>
    obtain ⟨⟨ds, rest'⟩, hds, heq⟩ := Option.map_eq_some_iff.mp h
    cases heq
    simp [fraction, digits_extends q cs ds rest' hds hrest, prepend]
  | case2 cs hne =>
    cases cs with
    | nil =>
      cases h
      exact absurd rfl hrest
    | cons c cs =>
      rw [fraction.eq_2 _ hne] at h
      cases h
      refine fraction.eq_2 _ (fun cs' heq => ?_)
      cases heq
      exact hne cs rfl

theorem signedDigits_extends (q : List Char) : Extends signedDigits signedDigits q := by
  intro cs x rest h hrest
  fun_cases signedDigits cs with
  | case1 cs =>
    obtain ⟨⟨ds, rest'⟩, hds, heq⟩ := Option.map_eq_some_iff.mp h
    cases heq
    simp [signedDigits, digits_extends q cs ds rest' hds hrest, prepend]
  | case2 cs =>
    obtain ⟨⟨ds, rest'⟩, hds, heq⟩ := Option.map_eq_some_iff.mp h
    cases heq
    simp [signedDigits, digits_extends q cs ds rest' hds hrest, prepend]
  | case3 cs hplus hminus =>
    cases cs with
    | nil => cases h
    | cons c cs =>
      rw [signedDigits.eq_3 _ hplus hminus] at h
      rw [signedDigits.eq_3]
      · exact digits_extends q _ _ _ h hrest
      · intro cs' heq
        cases heq
        exact hplus cs rfl
      · intro cs' heq
        cases heq
        exact hminus cs rfl

theorem exponent_extends (q : List Char) : Extends exponent exponent q := by
  intro cs x rest h hrest
  cases cs with
  | nil =>
    cases h
    exact absurd rfl hrest
  | cons c cs =>
    rw [exponent] at h
    rw [List.cons_append, exponent]
    split at h
    · next hc =>
      obtain ⟨⟨ds, rest'⟩, hds, heq⟩ := Option.map_eq_some_iff.mp h
      cases heq
      rw [if_pos hc, signedDigits_extends q cs ds rest' hds hrest]
      rfl
    · next hc =>
      cases h
      rw [if_neg hc]
      rfl

theorem sign_append {cs : List Char} (h : cs ≠ []) (q : List Char) :
    sign (cs ++ q) = ((sign cs).1, (sign cs).2 ++ q) := by
  fun_cases sign cs with
  | case1 cs => rfl
  | case2 cs hne =>
    cases cs with
    | nil => exact absurd rfl h
    | cons c cs =>
      refine sign.eq_2 _ (fun cs' heq => ?_)
      cases heq
      exact hne cs rfl

theorem number_extends (q : List Char) : Extends number number q := by
  intro cs x rest h hrest
  obtain ⟨⟨i, cs₁⟩, hi, h₁⟩ := Option.bind_eq_some_iff.mp h
  obtain ⟨⟨f, cs₂⟩, hf, h₂⟩ := Option.bind_eq_some_iff.mp h₁
  obtain ⟨⟨e, cs₃⟩, he, heq⟩ := Option.map_eq_some_iff.mp h₂
  cases heq
  have hne₂ : cs₂ ≠ [] := by
    rintro rfl
    cases he
    exact hrest rfl
  have hne₁ : cs₁ ≠ [] := by
    rintro rfl
    cases hf
    exact hne₂ rfl
  have hne : cs ≠ [] := by
    rintro rfl
    cases hi
  simp [number, sign_append hne, integer_extends q _ _ _ hi hne₁, fraction_extends q _ _ _ hf hne₂,
    exponent_extends q _ _ _ he hrest]

theorem number_head {cs : List Char} {x : Json × List Char} (h : number cs = some x) :
    ∃ c cs', cs = c :: cs' ∧ (c = '-' ∨ c.isDigit = true) := by
  obtain ⟨⟨i, cs₁⟩, hi, -⟩ := Option.bind_eq_some_iff.mp h
  fun_cases sign cs with
  | case1 cs => exact ⟨'-', cs, rfl, Or.inl rfl⟩
  | case2 cs hne =>
    rw [sign.eq_2 _ hne] at hi
    fun_cases integer cs with
    | case1 cs => exact ⟨'0', cs, rfl, Or.inr rfl⟩
    | case2 c cs h0 hc => exact ⟨c, cs, rfl, Or.inr hc⟩
    | case3 c cs h0 hc =>
      rw [integer.eq_2 _ _ h0, if_neg hc] at hi
      cases hi
    | case4 => cases hi

theorem scalar_number {c : Char} (hc : c = '-' ∨ c.isDigit = true) (cs : List Char) :
    scalar (c :: cs) = number (c :: cs) := by
  refine scalar.eq_5 _ ?_ ?_ ?_ ?_ <;>
  · intro cs' heq
    cases heq
    revert hc
    decide

theorem number_num {cs rest : List Char} {v : Json} (h : number cs = some (v, rest)) :
    ∃ l, v = .num l := by
  obtain ⟨⟨i, cs₁⟩, -, h₁⟩ := Option.bind_eq_some_iff.mp h
  obtain ⟨⟨f, cs₂⟩, -, h₂⟩ := Option.bind_eq_some_iff.mp h₁
  obtain ⟨⟨e, cs₃⟩, -, heq⟩ := Option.map_eq_some_iff.mp h₂
  cases heq
  exact ⟨_, rfl⟩

/-- The value ends where it is read to end, whatever follows. -/
def Ended (v : Json) (rest : List Char) : Prop := rest ≠ [] ∨ ∀ l, v ≠ .num l

theorem scalar_append {cs rest : List Char} {v : Json} (h : scalar cs = some (v, rest))
    (hv : Ended v rest) (q : List Char) : scalar (cs ++ q) = some (v, rest ++ q) := by
  fun_cases scalar cs with
  | case1 cs =>
    cases h
    rfl
  | case2 cs =>
    cases h
    rfl
  | case3 cs =>
    cases h
    rfl
  | case4 cs =>
    obtain ⟨⟨s, rest'⟩, hs, heq⟩ := Option.map_eq_some_iff.mp h
    cases heq
    simp [scalar, string_append hs]
  | case5 cs h1 h2 h3 h4 =>
    rw [scalar.eq_5 _ h1 h2 h3 h4] at h
    obtain ⟨l, rfl⟩ := number_num h
    obtain ⟨c, cs, rfl, hc⟩ := number_head h
    have hrest : rest ≠ [] := hv.resolve_right (fun hl => hl l rfl)
    rw [List.cons_append, scalar_number hc]
    exact number_extends q _ _ _ h hrest

section Nested

variable {α : Type} {item item' : List Char → Option (α × List Char)} {q : List Char}
  (hitem : Extends item item' q) {close : Char}

include hitem in
theorem items_append {n m : ℕ} (hnm : n ≤ m) {cs rest : List Char} {xs : List α}
    (h : items item close n cs = some (xs, rest)) :
    items item' close m (cs ++ q) = some (xs, rest ++ q) := by
  induction n generalizing m cs xs with
  | zero => cases h
  | succ n ih =>
    cases m with
    | zero => omega
    | succ m =>
      rw [items] at h ⊢
      rcases hx : item cs with _ | ⟨x, cs₁⟩
      · simp [hx] at h
      · simp only [hx] at h
        cases hs : skip cs₁ with
        | nil => simp [hs] at h
        | cons c cs₂ =>
          have hne : cs₁ ≠ [] := by
            rintro rfl
            cases hs
          simp only [hs] at h
          simp only [hitem cs x cs₁ hx hne, skip_append hs q]
          split at h
          · next hc =>
            obtain ⟨⟨ys, rest'⟩, hys, heq⟩ := Option.map_eq_some_iff.mp h
            cases heq
            rw [if_pos hc, ih (by omega) hys]
            rfl
          · next hc =>
            rw [if_neg hc]
            split at h
            · next hclose =>
              cases h
              rw [if_pos hclose]
            · cases h

include hitem in
theorem bracket_append {n m : ℕ} (hnm : n ≤ m) {cs rest : List Char} {xs : List α}
    (h : bracket item close n cs = some (xs, rest)) :
    bracket item' close m (cs ++ q) = some (xs, rest ++ q) := by
  unfold bracket at h ⊢
  cases hs : skip cs with
  | nil => simp [hs] at h
  | cons c cs' =>
    simp only [hs, skip_append hs q] at h ⊢
    split at h
    · next hc =>
      cases h
      rw [if_pos hc]
    · next hc =>
      rw [if_neg hc]
      exact items_append hitem hnm h

end Nested

theorem member_extends {value value' : List Char → Option (Json × List Char)} {q : List Char}
    (hvalue : Extends value value' q) : Extends (member value) (member value') q := by
  intro cs x rest h hrest
  unfold member at h ⊢
  split at h
  · next cs₁ hs₁ =>
    simp only [skip_append hs₁ q]
    split at h
    · cases h
    · next k cs₂ hk =>
      simp only [string_append hk q]
      split at h
      · next cs₃ hs₃ =>
        obtain ⟨⟨v, rest'⟩, hv, heq⟩ := Option.map_eq_some_iff.mp h
        cases heq
        rw [skip_append hs₃ q]
        simp [hvalue cs₃ v rest' hv hrest]
      · cases h
  · cases h

theorem value_append {n m : ℕ} (hnm : n ≤ m) {cs rest : List Char} {v : Json}
    (h : value n cs = some (v, rest)) (hv : Ended v rest) (q : List Char) :
    value m (cs ++ q) = some (v, rest ++ q) := by
  induction n generalizing m cs v rest with
  | zero => cases h
  | succ n ih =>
    cases m with
    | zero => omega
    | succ m =>
      have hextends : Extends (value n) (value m) q := fun cs v rest h hrest =>
        ih (by omega) h (Or.inl hrest)
      rw [value] at h ⊢
      split at h
      · next cs' hs =>
        obtain ⟨⟨ms, rest'⟩, hms, heq⟩ := Option.map_eq_some_iff.mp h
        cases heq
        rw [skip_append hs q]
        have happend := bracket_append (member_extends hextends) (Nat.le_of_succ_le_succ hnm) hms
        simp [happend]
      · next cs' hs =>
        obtain ⟨⟨xs, rest'⟩, hxs, heq⟩ := Option.map_eq_some_iff.mp h
        cases heq
        rw [skip_append hs q]
        have happend := bracket_append hextends (Nat.le_of_succ_le_succ hnm) hxs
        simp [happend]
      · next cs' hobj harr =>
        cases hs : skip cs with
        | nil =>
          rw [hs] at h
          cases h
        | cons c cs' =>
          rw [hs] at h hobj harr
          rw [skip_append hs q]
          have happend := scalar_append h hv q
          split
          · next heq =>
            cases heq
            exact absurd rfl (hobj _)
          · next heq =>
            cases heq
            exact absurd rfl (harr _)
          · exact happend

end ShardingOnCloud.Lib.JsonParser
