import Mathlib.Data.List.Basic
import Mathlib.Tactic.Common

namespace ShardingOnCloud.Lib.ShellWords

inductive Token
  | word (w : List Char)
  | ioNumber (n : List Char)
  | operator (o : List Char)
  | newline
  deriving DecidableEq

def isBlank (c : Char) : Bool := c == ' ' || c == '\t'

def isOperator (c : Char) : Bool := ['&', '|', ';', '<', '>', '(', ')'].contains c

def singleQuote : Char := Char.ofNat 39

def doubleQuote : Char := Char.ofNat 34

def backslash : Char := Char.ofNat 92

def backquote : Char := Char.ofNat 96

def isQuote (c : Char) : Bool := c == singleQuote || c == doubleQuote || c == backslash

def expands (c : Char) : Bool := c == '$' || c == backquote

def plain (c : Char) : Bool :=
  !(isBlank c || c == '\n' || isOperator c || isQuote c || expands c)

def operators : List (List Char) :=
  [['&', '&'], ['|', '|'], [';', ';'], ['<', '<'], ['>', '>'], ['<', '&'], ['>', '&'], ['<', '>'],
    ['<', '<', '-'], ['>', '|']]

/-- Where the tokeniser is. A word that has begun is kept with the quotes removed. -/
inductive State
  | between
  | word (w : List Char)
  | single (w : List Char)
  | double (w : List Char)
  | doubleEscape (w : List Char)
  | escape (w : Option (List Char))
  | operator (o : List Char)
  | comment

def delimited (w : List Char) (c : Char) : Token :=
  if w ≠ [] ∧ w.all Char.isDigit ∧ (c = '<' ∨ c = '>') then .ioNumber w else .word w

def begin (c : Char) : Option (List Token × State) :=
  if isBlank c then some ([], .between)
  else if c = '\n' then some ([.newline], .between)
  else if c = '#' then some ([], .comment)
  else if isOperator c then some ([], .operator [c])
  else if c = singleQuote then some ([], .single [])
  else if c = doubleQuote then some ([], .double [])
  else if c = backslash then some ([], .escape none)
  else if expands c then none
  else some ([], .word [c])

def inWord (w : List Char) (c : Char) : Option (List Token × State) :=
  if isBlank c then some ([.word w], .between)
  else if c = '\n' then some ([.word w, .newline], .between)
  else if isOperator c then some ([delimited w c], .operator [c])
  else if c = singleQuote then some ([], .single w)
  else if c = doubleQuote then some ([], .double w)
  else if c = backslash then some ([], .escape (some w))
  else if expands c then none
  else some ([], .word (w ++ [c]))

/-- The token recognition of the shell, one character after the other: the tokens that
end here and the next state. There is none where a substitution begins. -/
def step : State → Char → Option (List Token × State)
  | .between, c => begin c
  | .word w, c => inWord w c
  | .single w, c => if c = singleQuote then some ([], .word w) else some ([], .single (w ++ [c]))
  | .double w, c =>
    if c = doubleQuote then some ([], .word w)
    else if c = backslash then some ([], .doubleEscape w)
    else if expands c then none
    else some ([], .double (w ++ [c]))
  | .doubleEscape w, c =>
    if c = '\n' then some ([], .double w)
    else if c = doubleQuote ∨ c = backslash ∨ expands c then some ([], .double (w ++ [c]))
    else some ([], .double (w ++ [backslash, c]))
  | .escape none, c => if c = '\n' then some ([], .between) else some ([], .word [c])
  | .escape (some w), c => if c = '\n' then some ([], .word w) else some ([], .word (w ++ [c]))
  | .operator o, c =>
    if o ++ [c] ∈ operators then some ([], .operator (o ++ [c]))
    else (begin c).map (fun r => (.operator o :: r.1, r.2))
  | .comment, c => if c = '\n' then some ([.newline], .between) else some ([], .comment)

/-- The end of the line: quotes have to be closed. -/
def finish : State → Option (List Token)
  | .between | .comment => some []
  | .word w => some [.word w]
  | .operator o => some [.operator o]
  | .single _ | .double _ | .doubleEscape _ | .escape _ => none

def run : State → List Char → Option (List Token)
  | st, [] => finish st
  | st, c :: cs => (step st c).bind (fun r => (run r.2 cs).map (r.1 ++ ·))

def tokens (line : List Char) : Option (List Token) := run .between line

variable {st st' : State} {c : Char} {w u cs rest : List Char} {em ts : List Token}

theorem run_cons (h : run st (c :: cs) = some ts) :
    ∃ em st' ts', step st c = some (em, st') ∧ run st' cs = some ts' ∧ ts = em ++ ts' := by
  obtain ⟨⟨em, st'⟩, hstep, hrun⟩ := Option.bind_eq_some_iff.mp h
  obtain ⟨ts', hts', rfl⟩ := Option.map_eq_some_iff.mp hrun
  exact ⟨em, st', ts', hstep, hts', rfl⟩

def gap : List Token → ℕ
  | .word _ :: _ | .ioNumber _ :: _ => 1
  | _ => 0

theorem gap_le (ts : List Token) : gap ts ≤ 1 := by
  unfold gap
  split <;> omega

def need : List Token → ℕ
  | [] => 0
  | .word w :: ts => w.length + gap ts + need ts
  | .ioNumber n :: ts => n.length + need ts
  | .operator o :: ts => o.length + need ts
  | .newline :: ts => 1 + need ts

def held : State → ℕ
  | .between | .comment => 0
  | .word w | .single w | .double w | .operator w => w.length
  | .doubleEscape w => w.length + 1
  | .escape w => (w.getD []).length

theorem gap_operator {o : List Char} (h : run (.operator o) cs = some ts) : gap ts = 0 := by
  induction cs generalizing o ts with
  | nil =>
    cases h
    rfl
  | cons c cs ih =>
    obtain ⟨em, st', ts', hstep, hrun, rfl⟩ := run_cons h
    simp only [step] at hstep
    split at hstep
    · cases hstep
      exact ih hrun
    · obtain ⟨r, -, hr⟩ := Option.map_eq_some_iff.mp hstep
      cases hr
      rfl

theorem plain_iff : plain c = true ↔ isBlank c = false ∧ c ≠ '\n' ∧ isOperator c = false ∧
    c ≠ singleQuote ∧ c ≠ doubleQuote ∧ c ≠ backslash ∧ expands c = false := by
  simp [plain, isQuote, and_assoc]

theorem begin_cases (h : begin c = some (em, st')) :
    em = [.newline] ∧ st' = .between ∨ em = [] ∧ held st' ≤ 1 := by
  unfold begin at h
  obtain ⟨-, h⟩ | ⟨-, h⟩ := ite_eq_iff.mp h
  · cases h
    exact Or.inr ⟨rfl, Nat.zero_le 1⟩
  obtain ⟨-, h⟩ | ⟨-, h⟩ := ite_eq_iff.mp h
  · cases h
    exact Or.inl ⟨rfl, rfl⟩
  obtain ⟨-, h⟩ | ⟨-, h⟩ := ite_eq_iff.mp h
  · cases h
    exact Or.inr ⟨rfl, Nat.zero_le 1⟩
  obtain ⟨-, h⟩ | ⟨-, h⟩ := ite_eq_iff.mp h
  · cases h
    exact Or.inr ⟨rfl, Nat.le_refl 1⟩
  obtain ⟨-, h⟩ | ⟨-, h⟩ := ite_eq_iff.mp h
  · cases h
    exact Or.inr ⟨rfl, Nat.zero_le 1⟩
  obtain ⟨-, h⟩ | ⟨-, h⟩ := ite_eq_iff.mp h
  · cases h
    exact Or.inr ⟨rfl, Nat.zero_le 1⟩
  obtain ⟨-, h⟩ | ⟨-, h⟩ := ite_eq_iff.mp h
  · cases h
    exact Or.inr ⟨rfl, Nat.zero_le 1⟩
  obtain ⟨-, h⟩ | ⟨-, h⟩ := ite_eq_iff.mp h
  · cases h
  · cases h
    exact Or.inr ⟨rfl, Nat.le_refl 1⟩

/-- A character ends the word, opens a quotation in it or is one of its own. -/
theorem inWord_cases (h : inWord w c = some (em, st')) :
    (em = [.word w] ∨ em = [.word w, .newline]) ∧ st' = .between ∨
      em = [delimited w c] ∧ st' = .operator [c] ∨
      em = [] ∧ held st' = w.length ∨
      plain c = true ∧ em = [] ∧ st' = .word (w ++ [c]) := by
  unfold inWord at h
  obtain ⟨-, h⟩ | ⟨hb, h⟩ := ite_eq_iff.mp h
  · cases h
    exact Or.inl ⟨Or.inl rfl, rfl⟩
  obtain ⟨-, h⟩ | ⟨hn, h⟩ := ite_eq_iff.mp h
  · cases h
    exact Or.inl ⟨Or.inr rfl, rfl⟩
  obtain ⟨-, h⟩ | ⟨ho, h⟩ := ite_eq_iff.mp h
  · cases h
    exact Or.inr (Or.inl ⟨rfl, rfl⟩)
  obtain ⟨-, h⟩ | ⟨hs, h⟩ := ite_eq_iff.mp h
  · cases h
    exact Or.inr (Or.inr (Or.inl ⟨rfl, rfl⟩))
  obtain ⟨-, h⟩ | ⟨hd, h⟩ := ite_eq_iff.mp h
  · cases h
    exact Or.inr (Or.inr (Or.inl ⟨rfl, rfl⟩))
  obtain ⟨-, h⟩ | ⟨hk, h⟩ := ite_eq_iff.mp h
  · cases h
    exact Or.inr (Or.inr (Or.inl ⟨rfl, rfl⟩))
  obtain ⟨-, h⟩ | ⟨he, h⟩ := ite_eq_iff.mp h
  · cases h
  · cases h
    have hplain : plain c = true :=
      plain_iff.mpr ⟨by simpa using hb, hn, by simpa using ho, hs, hd, hk, by simpa using he⟩
    exact Or.inr (Or.inr (Or.inr ⟨hplain, rfl, rfl⟩))

theorem need_begin (h : begin c = some (em, st')) (ts : List Token) :
    need (em ++ ts) + held st' ≤ need ts + 1 := by
  obtain ⟨rfl, rfl⟩ | ⟨rfl, hheld⟩ := begin_cases h
  · simp [need, held, Nat.add_comm]
  · rw [List.nil_append]
    omega

theorem need_inWord (h : inWord w c = some (em, st')) (hrun : run st' cs = some ts) :
    need (em ++ ts) + held st' ≤ w.length + 1 + need ts := by
  have hgap := gap_le ts
  obtain ⟨rfl | rfl, rfl⟩ | ⟨rfl, rfl⟩ | ⟨rfl, hheld⟩ | ⟨-, rfl, rfl⟩ := inWord_cases h
  · simp only [List.cons_append, List.nil_append, need, held]
    omega
  · simp only [List.cons_append, List.nil_append, need, held, gap]
    omega
  · have hop := gap_operator hrun
    unfold delimited
    split
    · simp only [List.cons_append, List.nil_append, need, held, List.length_singleton]
      omega
    · simp only [List.cons_append, List.nil_append, need, held, List.length_singleton]
      omega
  · rw [List.nil_append, hheld]
    omega
  · simp only [List.nil_append, held, List.length_append, List.length_singleton]
    omega

theorem need_step (h : step st c = some (em, st')) (hrun : run st' cs = some ts) :
    need (em ++ ts) + held st' ≤ held st + 1 + need ts := by
  cases st with
  | between => simpa [held, Nat.add_comm] using need_begin h ts
  | word w => exact need_inWord h hrun
  | single w =>
    simp only [step] at h
    split_ifs at h <;> cases h <;> simp [held] <;> omega
  | double w =>
    simp only [step] at h
    split_ifs at h <;> cases h <;> simp [held] <;> omega
  | doubleEscape w =>
    simp only [step] at h
    split_ifs at h <;> cases h <;> simp [held] <;> omega
  | escape w =>
    cases w with
    | none =>
      simp only [step] at h
      split_ifs at h <;> cases h <;> simp [held, Nat.add_comm]
    | some w =>
      simp only [step] at h
      split_ifs at h <;> cases h <;> simp [held] <;> omega
  | operator o =>
    simp only [step] at h
    split_ifs at h
    · cases h
      simp [held]
      omega
    · obtain ⟨⟨em', st''⟩, hbegin, hr⟩ := Option.map_eq_some_iff.mp h
      cases hr
      have hle := need_begin hbegin ts
      have hheld : held (.operator o) = o.length := rfl
      simp only [List.cons_append, need, hheld]
      omega
  | comment =>
    simp only [step] at h
    split_ifs at h <;> cases h <;> simp [held, need]

theorem need_le (h : run st cs = some ts) : need ts ≤ held st + cs.length := by
  induction cs generalizing st ts with
  | nil =>
    cases st with
    | between | comment | word w | operator w =>
      cases h
      simp [need, held, gap]
    | single w | double w | doubleEscape w | escape w => cases h
  | cons c cs ih =>
    obtain ⟨em, st', ts', hstep, hrun, rfl⟩ := run_cons h
    have hle := ih hrun
    have hneed := need_step hstep hrun
    rw [List.length_cons]
    omega

theorem inWord_plain (h : plain c = true) : inWord w c = some ([], .word (w ++ [c])) := by
  obtain ⟨hb, hn, ho, hs, hd, hk, he⟩ := plain_iff.mp h
  simp [inWord, hb, hn, ho, hs, hd, hk, he]

theorem begin_plain (h : plain c = true) (hc : c ≠ '#') : begin c = some ([], .word [c]) := by
  obtain ⟨hb, hn, ho, hs, hd, hk, he⟩ := plain_iff.mp h
  simp [begin, hb, hn, ho, hs, hd, hk, he, hc]

theorem run_plain (h : ∀ c ∈ u, plain c = true) :
    run (.word w) (u ++ rest) = run (.word (w ++ u)) rest := by
  induction u generalizing w with
  | nil => rw [List.nil_append, List.append_nil]
  | cons c u ih =>
    obtain ⟨hc, hu⟩ := List.forall_mem_cons.mp h
    have hstep : step (.word w) c = some ([], .word (w ++ [c])) := inWord_plain hc
    rw [List.cons_append, run, hstep, Option.bind_some, ih hu, List.append_assoc,
      List.singleton_append]
    exact Option.map_id'

def Begins (w : List Char) : Prop := ∃ c u, w = c :: u ∧ plain c = true ∧ c ≠ '#'

theorem run_begins {c : Char} (hc : plain c = true) (hne : c ≠ '#') :
    run .between (c :: cs) = run (.word [c]) cs := by
  have hstep : step .between c = some ([], .word [c]) := begin_plain hc hne
  rw [run, hstep, Option.bind_some]
  exact Option.map_id'

theorem run_blank : run (.word w) (' ' :: cs) = (run .between cs).map (.word w :: ·) := rfl

theorem run_word (hb : Begins w) (h : ∀ c ∈ w, plain c = true) :
    run .between (w ++ rest) = run (.word w) rest := by
  obtain ⟨c, u, rfl, hc, hne⟩ := hb
  rw [List.cons_append, run_begins hc hne, run_plain (fun d hd => h d (List.mem_cons_of_mem c hd))]
  rfl

/-- `2>&1` -/
def redirect : List Char := [' ', '2', '>', '&', '1']

def redirection : List Token := [.ioNumber ['2'], .operator ['>', '&'], .word ['1']]

/-- The rest of a line: words with a blank before each of them, and a redirection. -/
def arguments (ws : List (List Char)) : List Char := ws.flatMap (' ' :: ·) ++ redirect

theorem need_arguments (w : List Char) (ws : List (List Char)) :
    need (.word w :: (ws.map .word ++ redirection)) = w.length + (arguments ws).length := by
  induction ws generalizing w with
  | nil => rfl
  | cons v ws ih =>
    have hneed := ih v
    rw [List.map_cons, List.cons_append, need, hneed]
    simp only [gap, arguments, List.flatMap_cons, List.cons_append, List.length_cons,
      List.length_append]
    omega

theorem run_arguments {ws : List (List Char)} (hws : ∀ w ∈ ws, Begins w)
    (h : ∀ w ∈ ws, ∀ c ∈ w, plain c = true) :
    run (.word w) (arguments ws) = some (.word w :: (ws.map .word ++ redirection)) := by
  induction ws generalizing w with
  | nil => rfl
  | cons v ws ih =>
    obtain ⟨hv, hws⟩ := List.forall_mem_cons.mp hws
    obtain ⟨hpv, hpws⟩ := List.forall_mem_cons.mp h
    have htext : arguments (v :: ws) = ' ' :: (v ++ arguments ws) := by simp [arguments]
    rw [htext, run_blank, run_word hv hpv, ih hws hpws]
    rfl

/-- A word in which another character is found is not read as it is: it ends there, or
a character of the line is lost. -/
theorem plain_of_run {ts : List Token} (hu : u ≠ [])
    (h : run (.word u) (cs ++ rest) = some (.word (u ++ cs) :: ts))
    (hneed : need (.word (u ++ cs) :: ts) = (u ++ cs).length + rest.length) :
    ∀ c ∈ cs, plain c = true := by
  induction cs generalizing u with
  | nil => simp
  | cons c cs ih =>
    have hc : plain c = true := by
      by_contra hc
      have hlt : u ≠ u ++ c :: cs := by simp
      rw [List.cons_append] at h
      obtain ⟨em, st', ts', hstep, hrun, hts⟩ := run_cons h
      have hle := need_le hrun
      simp only [List.length_append, List.length_cons] at hle hneed
      obtain ⟨rfl | rfl, -⟩ | ⟨rfl, -⟩ | ⟨rfl, hheld⟩ | ⟨hplain, -⟩ := inWord_cases hstep
      · exact hlt (Token.word.inj (List.cons.inj hts).1).symm
      · exact hlt (Token.word.inj (List.cons.inj hts).1).symm
      · have hhead := (List.cons.inj hts).1
        unfold delimited at hhead
        split at hhead
        · cases hhead
        · exact hlt (Token.word.inj hhead).symm
      · rw [List.nil_append] at hts
        rw [hts] at hneed
        omega
      · exact hc hplain
    refine List.forall_mem_cons.mpr ⟨hc, ih (u := u ++ [c]) (by simp) ?_ ?_⟩
    · have hrun : run (.word u) ([c] ++ (cs ++ rest)) = run (.word (u ++ [c])) (cs ++ rest) :=
        run_plain (by simpa using hc)
      rw [← hrun]
      simpa using h
    · simpa using hneed

/-- The words of a line are read as they are just when they are of plain characters. -/
theorem run_arguments_iff {ws : List (List Char)} (hws : ∀ w ∈ ws, Begins w) :
    run (.word w) (arguments ws) = some (.word w :: (ws.map .word ++ redirection)) ↔
      ∀ w ∈ ws, ∀ c ∈ w, plain c = true := by
  refine ⟨fun h => ?_, run_arguments hws⟩
  induction ws generalizing w with
  | nil => simp
  | cons v ws ih =>
    obtain ⟨⟨c, u, rfl, hc, hne⟩, hws'⟩ := List.forall_mem_cons.mp hws
    have htext : arguments ((c :: u) :: ws) = ' ' :: c :: (u ++ arguments ws) := by
      simp [arguments]
    rw [htext, run_blank, run_begins hc hne] at h
    obtain ⟨ts, hts, heq⟩ := Option.map_eq_some_iff.mp h
    obtain rfl := (List.cons.inj heq).2
    have hu : ∀ d ∈ u, plain d = true :=
      plain_of_run (List.cons_ne_nil c []) hts (need_arguments _ _)
    rw [run_plain hu] at hts
    exact List.forall_mem_cons.mpr ⟨List.forall_mem_cons.mpr ⟨hc, hu⟩, ih hws' hts⟩

end ShardingOnCloud.Lib.ShellWords
