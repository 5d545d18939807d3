import ShardingOnCloud.Lib.JsonParser
import ShardingOnCloud.Lib.Strconv

namespace ShardingOnCloud.Lib.JsonPrinter

open ShardingOnCloud.Lib.JsonParser

/-- How a value is laid out: what stands before an item at a depth, and after a
colon. -/
structure Layout where
  newline : ℕ → List Char
  afterColon : List Char
  newline_space : ∀ d, ∀ c ∈ newline d, isSpace c = true
  afterColon_space : ∀ c ∈ afterColon, isSpace c = true

/-- `json.Marshal`. -/
def Layout.compact : Layout := ⟨fun _ => [], [], by simp, by simp⟩

/-- `json.MarshalIndent` without a prefix, and with two spaces for each depth. -/
def Layout.indented : Layout where
  newline d := '\n' :: List.replicate (2 * d) ' '
  afterColon := [' ']
  newline_space d c hc := by
    rcases List.mem_cons.mp hc with rfl | hc
    · rfl
    · rw [List.eq_of_mem_replicate hc]
      rfl
  afterColon_space c hc := by
    rw [List.mem_singleton.mp hc]
    rfl

def hexChar (n : ℕ) : Char :=
  if n < 10 then Char.ofNat ('0'.toNat + n) else Char.ofNat ('a'.toNat + (n - 10))

def unicodeEscape (n : ℕ) : List Char :=
  ['\\', 'u', hexChar (n / 4096 % 16), hexChar (n / 256 % 16), hexChar (n / 16 % 16),
    hexChar (n % 16)]

/-- The characters that are written as a code unit: control characters, those of
HTML, and the two line separators of Unicode. -/
def byCode (c : Char) : Bool :=
  c.toNat < 0x20 || c == '<' || c == '>' || c == '&' || c == '\u2028' || c == '\u2029'

def escapeChar (c : Char) : List Char :=
  if c = '"' then ['\\', '"']
  else if c = '\\' then ['\\', '\\']
  else if c = '\n' then ['\\', 'n']
  else if c = '\r' then ['\\', 'r']
  else if c = '\t' then ['\\', 't']
  else if byCode c then unicodeEscape c.toNat
  else [c]

def printString (s : String) : List Char := '"' :: (s.toList.flatMap escapeChar ++ ['"'])

def separated (sep : List Char) : List (List Char) → List Char
  | [] => []
  | [p] => p
  | p :: ps => p ++ (sep ++ separated sep ps)

/-- Items in brackets; an empty pair of brackets is not broken. -/
def enclose (L : Layout) (d : ℕ) (first close : Char) : List (List Char) → List Char
  | [] => [first, close]
  | ps => first :: (L.newline (d + 1) ++ (separated (',' :: L.newline (d + 1)) ps ++
      (L.newline d ++ [close])))

mutual

def print (L : Layout) : ℕ → Json → List Char
  | _, .null => "null".toList
  | _, .bool true => "true".toList
  | _, .bool false => "false".toList
  | _, .num l => l.toList
  | _, .str s => printString s
  | d, .arr xs => enclose L d '[' ']' (printElements L (d + 1) xs)
  | d, .obj ms => enclose L d '{' '}' (printMembers L (d + 1) ms)

def printElements (L : Layout) : ℕ → List Json → List (List Char)
  | _, [] => []
  | d, x :: xs => print L d x :: printElements L d xs

def printMembers (L : Layout) : ℕ → List (String × Json) → List (List Char)
  | _, [] => []
  | d, (k, v) :: ms =>
    (printString k ++ (':' :: (L.afterColon ++ print L d v))) :: printMembers L d ms

end

theorem print_num (L : Layout) (d : ℕ) (l : String) : print L d (.num l) = l.toList := rfl

theorem print_str (L : Layout) (d : ℕ) (s : String) : print L d (.str s) = printString s := rfl

theorem print_arr (L : Layout) (d : ℕ) (xs : List Json) :
    print L d (.arr xs) = enclose L d '[' ']' (printElements L (d + 1) xs) := rfl

theorem print_obj (L : Layout) (d : ℕ) (ms : List (String × Json)) :
    print L d (.obj ms) = enclose L d '{' '}' (printMembers L (d + 1) ms) := rfl

def marshal (v : Json) : String := String.ofList (print .compact 0 v)

def marshalIndent (v : Json) : String := String.ofList (print .indented 0 v)

theorem hexDigit_hexChar {n : ℕ} (h : n < 16) : hexDigit (hexChar n) = some n := by
  have hall : ∀ k : Fin 16, hexDigit (hexChar k) = some k.1 := by decide
  exact hall ⟨n, h⟩

theorem codeUnit_escape {n : ℕ} (h : n < 65536) :
    codeUnit (hexChar (n / 4096 % 16)) (hexChar (n / 256 % 16)) (hexChar (n / 16 % 16))
      (hexChar (n % 16)) = some n := by
  have hlt : ∀ k, k % 16 < 16 := fun k => Nat.mod_lt k (by decide)
  simp only [codeUnit, hexDigit_hexChar (hlt _), Option.bind_eq_bind, Option.bind_some,
    Option.pure_def, Option.some.injEq]
  omega

def pieceOf (c : Char) : Piece :=
  if byCode c && c != '\n' && c != '\r' && c != '\t' then .code c.toNat else .char c

theorem byCode_lt {c : Char} (h : byCode c = true) : c.toNat < 0xD800 := by
  simp only [byCode, Bool.or_eq_true, decide_eq_true_eq, beq_iff_eq] at h
  rcases h with ((((h | rfl) | rfl) | rfl) | rfl) | rfl
  · omega
  all_goals decide

theorem pieces_escapeChar (c : Char) (cs : List Char) :
    pieces (escapeChar c ++ cs) = (pieces cs).map (prepend (pieceOf c)) := by
  unfold escapeChar
  split
  · next h =>
    subst h
    exact pieces_escape rfl cs
  · next hquote =>
    split
    · next h =>
      subst h
      exact pieces_escape rfl cs
    · next hback =>
      split
      · next h =>
        subst h
        exact pieces_escape rfl cs
      · next hn =>
        split
        · next h =>
          subst h
          exact pieces_escape rfl cs
        · next hr =>
          split
          · next h =>
            subst h
            exact pieces_escape rfl cs
          · next ht =>
            split
            · next hcode =>
              have hp : pieceOf c = .code c.toNat := by simp [pieceOf, hcode, hn, hr, ht]
              have hlt := byCode_lt hcode
              simp [unicodeEscape, pieces, codeUnit_escape (show c.toNat < 65536 by omega), hp]
            · next hcode =>
              have hp : pieceOf c = .char c := by simp [pieceOf, hcode]
              have hctl : ¬c.toNat < 0x20 := by
                intro h
                simp [byCode, h] at hcode
              rw [hp]
              exact pieces_plain hquote hback hctl cs

theorem pieces_escaped (s rest : List Char) :
    pieces (s.flatMap escapeChar ++ '"' :: rest) = some (s.map pieceOf, rest) := by
  induction s with
  | nil => rfl
  | cons c s ih =>
    rw [List.flatMap_cons, List.append_assoc, pieces_escapeChar, ih]
    rfl

theorem join_pieceOf (c : Char) (ps : List Piece) : join (pieceOf c :: ps) = c :: join ps := by
  unfold pieceOf
  split
  · next h =>
    have hlt : c.toNat < 0xD800 := by
      simp only [Bool.and_eq_true] at h
      exact byCode_lt h.1.1.1
    have hlone : lone c.toNat = c := by
      rw [lone, if_neg (by omega)]
      exact Char.ofNat_toNat c
    rcases ps with _ | ⟨_ | u, ps⟩
    · simp [join, hlone]
    · simp [join, hlone]
    · have hnone : surrogates c.toNat u = none := if_neg (by omega)
      simp [join, hnone, hlone]
  · rfl

theorem join_map_pieceOf (s : List Char) : join (s.map pieceOf) = s := by
  induction s with
  | nil => rfl
  | cons c s ih => rw [List.map_cons, join_pieceOf, ih]

theorem string_print (s : String) (rest : List Char) :
    string (s.toList.flatMap escapeChar ++ '"' :: rest) = some (s, rest) := by
  simp [string, pieces_escaped, join_map_pieceOf]

def Stops (rest : List Char) : Prop :=
  ∀ c ∈ rest.head?, c.isDigit = false ∧ c ≠ '.' ∧ c ≠ 'e' ∧ c ≠ 'E'

def IsNumber (l : String) : Prop :=
  ∀ rest, Stops rest → number (l.toList ++ rest) = some (.num l, rest)

inductive Printable : Json → Prop
  | null : Printable .null
  | bool (b : Bool) : Printable (.bool b)
  | num {l : String} : IsNumber l → Printable (.num l)
  | str (s : String) : Printable (.str s)
  | arr {xs : List Json} : (∀ x ∈ xs, Printable x) → Printable (.arr xs)
  | obj {ms : List (String × Json)} : (∀ m ∈ ms, Printable m.2) → Printable (.obj ms)

theorem skip_space {ws : List Char} (h : ∀ c ∈ ws, isSpace c = true) (cs : List Char) :
    skip (ws ++ cs) = skip cs := by
  induction ws with
  | nil => rfl
  | cons w ws ih =>
    obtain ⟨hw, hws⟩ := List.forall_mem_cons.mp h
    rw [List.cons_append, skip, List.dropWhile_cons_of_pos hw]
    exact ih hws

theorem skip_head {c : Char} (h : isSpace c = false) (cs : List Char) : skip (c :: cs) = c :: cs := by
  rw [skip, List.dropWhile_cons_of_neg (by simp [h])]

theorem value_space {ws : List Char} (h : ∀ c ∈ ws, isSpace c = true) (n : ℕ) (cs : List Char) :
    value n (ws ++ cs) = value n cs := by
  cases n with
  | zero => rfl
  | succ n => rw [value, value, skip_space h]

theorem member_space {ws : List Char} (h : ∀ c ∈ ws, isSpace c = true)
    (value : List Char → Option (Json × List Char)) (cs : List Char) :
    member value (ws ++ cs) = member value cs := by
  rw [member, member, skip_space h]

theorem stops_space {ws : List Char} (h : ∀ c ∈ ws, isSpace c = true) {c : Char}
    (hc : c = ',' ∨ c = ']' ∨ c = '}') (rest : List Char) : Stops (ws ++ c :: rest) := by
  intro d hd
  cases ws with
  | nil =>
    cases hd
    rcases hc with rfl | rfl | rfl <;> decide
  | cons w ws =>
    cases hd
    have hw := h d (by simp)
    simp only [isSpace, Bool.or_eq_true, beq_iff_eq] at hw
    rcases hw with ((rfl | rfl) | rfl) | rfl <;> decide

theorem separated_cons (sep p : List Char) (ps : List (List Char)) :
    ∃ t, separated sep (p :: ps) = p ++ t := by
  cases ps with
  | nil => exact ⟨[], by simp [separated]⟩
  | cons q ps => exact ⟨sep ++ separated sep (q :: ps), by simp [separated]⟩

section Items

variable {α : Type} {item : List Char → Option (α × List Char)} {write : α → List Char}
  {close : Char} {L : Layout} {d : ℕ}

theorem items_print {xs : List α} (hne : xs ≠ [])
    (hitem : ∀ x ∈ xs, ∀ ws rest, (∀ c ∈ ws, isSpace c = true) → Stops rest →
      item (ws ++ (write x ++ rest)) = some (x, rest))
    (hclose : close = ']' ∨ close = '}') {ws : List Char} (hws : ∀ c ∈ ws, isSpace c = true)
    {n : ℕ} (hn : xs.length ≤ n) (rest : List Char) :
    items item close n (ws ++ (separated (',' :: L.newline (d + 1)) (xs.map write) ++
      (L.newline d ++ close :: rest))) = some (xs, rest) := by
  have hspace : isSpace close = false := by
    rcases hclose with rfl | rfl <;> decide
  induction xs generalizing ws n with
  | nil => exact absurd rfl hne
  | cons x xs ih =>
    cases n with
    | zero => simp at hn
    | succ n =>
      obtain ⟨hx, hxs⟩ := List.forall_mem_cons.mp hitem
      cases xs with
      | nil =>
        have hstops : Stops (L.newline d ++ close :: rest) :=
          stops_space (L.newline_space d) (Or.inr hclose) rest
        have hcomma : close ≠ ',' := by
          rcases hclose with rfl | rfl <;> decide
        simp only [List.map_cons, List.map_nil, separated, items, hx _ _ hws hstops,
          skip_space (L.newline_space d), skip_head hspace, if_neg hcomma, if_true]
      | cons y ys =>
        have hstops : ∀ r, Stops (',' :: r) := fun r => by simp [Stops]
        have hlen : (y :: ys).length ≤ n := by simpa using hn
        have hrest := ih (by simp) hxs (L.newline_space (d + 1)) hlen
        simp only [List.map_cons, separated, List.append_assoc, List.cons_append] at hrest ⊢
        simp only [items, hx _ _ hws (hstops _), skip_head (show isSpace ',' = false by decide),
          if_true, hrest]
        rfl

theorem bracket_print (first : Char) {xs : List α}
    (hitem : ∀ x ∈ xs, ∀ ws rest, (∀ c ∈ ws, isSpace c = true) → Stops rest →
      item (ws ++ (write x ++ rest)) = some (x, rest))
    (hhead : ∀ x ∈ xs, ∀ rest, ∃ c cs, write x ++ rest = c :: cs ∧ isSpace c = false ∧ c ≠ close)
    (hclose : close = ']' ∨ close = '}') {n : ℕ} (hn : xs.length ≤ n) (rest : List Char) :
    ∃ cs, enclose L d first close (xs.map write) ++ rest = first :: cs ∧
      bracket item close n cs = some (xs, rest) := by
  have hspace : isSpace close = false := by
    rcases hclose with rfl | rfl <;> decide
  cases xs with
  | nil =>
    refine ⟨close :: rest, rfl, ?_⟩
    rw [bracket, skip_head hspace]
    exact if_pos rfl
  | cons x xs =>
    refine ⟨L.newline (d + 1) ++ (separated (',' :: L.newline (d + 1)) ((x :: xs).map write) ++
      (L.newline d ++ close :: rest)), by simp [enclose], ?_⟩
    obtain ⟨t, ht⟩ := separated_cons (',' :: L.newline (d + 1)) (write x) (xs.map write)
    obtain ⟨c, cs, hcs, hc, hne⟩ := hhead x (by simp) (t ++ (L.newline d ++ close :: rest))
    have hskip : skip (L.newline (d + 1) ++ (separated (',' :: L.newline (d + 1))
        ((x :: xs).map write) ++ (L.newline d ++ close :: rest))) = c :: cs := by
      rw [skip_space (L.newline_space _), List.map_cons, ht, List.append_assoc, hcs, skip_head hc]
    rw [bracket, hskip]
    refine (if_neg hne).trans ?_
    exact items_print (by simp) hitem hclose (L.newline_space _) hn rest

end Items

theorem printElements_eq (L : Layout) (d : ℕ) (xs : List Json) :
    printElements L d xs = xs.map (print L d) := by
  induction xs with
  | nil => rfl
  | cons x xs ih => rw [printElements, ih, List.map_cons]

def printMember (L : Layout) (d : ℕ) (m : String × Json) : List Char :=
  printString m.1 ++ (':' :: (L.afterColon ++ print L d m.2))

theorem printMembers_eq (L : Layout) (d : ℕ) (ms : List (String × Json)) :
    printMembers L d ms = ms.map (printMember L d) := by
  induction ms with
  | nil => rfl
  | cons m ms ih => rw [printMembers, ih, List.map_cons, printMember]

theorem length_separated (sep : List Char) {p : List Char} (ps : List (List Char)) (h : p ∈ ps) :
    p.length ≤ (separated sep ps).length := by
  induction ps with
  | nil => cases h
  | cons q ps ih =>
    cases ps with
    | nil => simp_all [separated]
    | cons r ps =>
      rw [separated, List.length_append, List.length_append]
      · rcases List.mem_cons.mp h with rfl | h
        · omega
        · have := ih h
          omega
      · simp

theorem count_separated {sep : List Char} (hsep : sep ≠ []) (ps : List (List Char)) :
    ps.length ≤ (separated sep ps).length + 1 := by
  induction ps with
  | nil => simp
  | cons q ps ih =>
    cases ps with
    | nil => simp [separated]
    | cons r ps =>
      have hpos := List.length_pos_iff.mpr hsep
      rw [separated, List.length_append, List.length_append]
      · simp only [List.length_cons] at ih ⊢
        omega
      · simp

theorem length_enclose (L : Layout) (d : ℕ) (first close : Char) (ps : List (List Char)) :
    (∀ p ∈ ps, p.length + 2 ≤ (enclose L d first close ps).length) ∧
      ps.length < (enclose L d first close ps).length := by
  cases ps with
  | nil => simp [enclose]
  | cons p ps =>
    have hcount := count_separated (List.cons_ne_nil ',' (L.newline (d + 1))) (p :: ps)
    refine ⟨fun q hq => ?_, ?_⟩
    · have hlen := length_separated (',' :: L.newline (d + 1)) (p :: ps) hq
      simp only [enclose, List.length_cons, List.length_append]
      omega
    · simp only [enclose, List.length_cons, List.length_append] at hcount ⊢
      omega

theorem integer_digits {n : ℕ} {rest : List Char} (hr : Stops rest) :
    integer (Nat.toDigits 10 n ++ rest) = some (Nat.toDigits 10 n, rest) := by
  have hdigit : ∀ c ∈ Nat.toDigits 10 n, c.isDigit = true :=
    fun c hc => Nat.isDigit_of_mem_toDigits (by decide) (by decide) hc
  rcases Nat.eq_zero_or_pos n with rfl | hpos
  · rfl
  · obtain ⟨c, cs, hcs, hc⟩ := Strconv.toDigits_head hpos
    rw [hcs] at hdigit ⊢
    obtain ⟨hd, hds⟩ := List.forall_mem_cons.mp hdigit
    have htake : (cs ++ rest).takeWhile Char.isDigit = cs ∧
        (cs ++ rest).dropWhile Char.isDigit = rest := by
      have hstop : rest.takeWhile Char.isDigit = [] ∧ rest.dropWhile Char.isDigit = rest := by
        cases rest with
        | nil => exact ⟨rfl, rfl⟩
        | cons d ds =>
          have hd := (hr d (by simp)).1
          simp [hd]
      rw [List.takeWhile_append_of_pos hds, List.dropWhile_append_of_pos hds, hstop.1, hstop.2]
      simp
    rw [List.cons_append, integer.eq_2 _ _ (fun h => hc h), if_pos hd, htake.1, htake.2]

theorem isNumber_repr (n : ℕ) : IsNumber n.repr := by
  intro rest hr
  obtain ⟨c, cs, hcs⟩ := List.exists_cons_of_ne_nil (Nat.toDigits_ne_nil (n := n) (b := 10))
  have hdigit : c.isDigit = true :=
    Nat.isDigit_of_mem_toDigits (by decide) (by decide) (hcs ▸ List.mem_cons_self)
  have hsign : sign (Nat.toDigits 10 n ++ rest) = ([], Nat.toDigits 10 n ++ rest) := by
    rw [hcs]
    refine sign.eq_2 _ (fun cs' heq => ?_)
    cases heq
    cases hdigit
  have hfraction : fraction rest = some ([], rest) := by
    refine fraction.eq_2 _ ?_
    rintro cs' rfl
    exact (hr '.' (by simp)).2.1 rfl
  have hexponent : exponent rest = some ([], rest) := by
    cases rest with
    | nil => rfl
    | cons d ds =>
      obtain ⟨-, -, he, hE⟩ := hr d (by simp)
      rw [exponent, if_neg (by simp [he, hE])]
  simp [number, hsign, integer_digits hr, hfraction, hexponent,
    Nat.repr_eq_ofList_toDigits]

theorem digit_head {c : Char} (hc : c = '-' ∨ c.isDigit = true) :
    isSpace c = false ∧ c ≠ ']' ∧ c ≠ '}' ∧ c ≠ '{' ∧ c ≠ '[' := by
  refine ⟨?_, ?_, ?_, ?_, ?_⟩
  · by_contra h
    rw [Bool.not_eq_false] at h
    simp only [isSpace, Bool.or_eq_true, beq_iff_eq] at h
    rcases h with ((rfl | rfl) | rfl) | rfl <;> revert hc <;> decide
  all_goals
    rintro rfl
    revert hc
    decide

theorem IsNumber.head {l : String} (h : IsNumber l) :
    ∃ c cs, l.toList = c :: cs ∧ (c = '-' ∨ c.isDigit = true) := by
  have hnil := h [] (by simp [Stops])
  rw [List.append_nil] at hnil
  exact number_head hnil

theorem enclose_head (L : Layout) (d : ℕ) (first close : Char) (ps : List (List Char)) :
    ∃ cs, enclose L d first close ps = first :: cs := by
  cases ps with
  | nil => exact ⟨_, rfl⟩
  | cons p ps => exact ⟨_, rfl⟩

theorem print_head {v : Json} (hv : Printable v) (L : Layout) (d : ℕ) :
    ∃ c cs, print L d v = c :: cs ∧ isSpace c = false ∧ c ≠ ']' ∧ c ≠ '}' := by
  cases hv with
  | null => exact ⟨'n', _, rfl, by decide, by decide, by decide⟩
  | bool b =>
    cases b with
    | true => exact ⟨'t', _, rfl, by decide, by decide, by decide⟩
    | false => exact ⟨'f', _, rfl, by decide, by decide, by decide⟩
  | num hl =>
    obtain ⟨c, cs, heq, hc⟩ := hl.head
    obtain ⟨hspace, h1, h2, -⟩ := digit_head hc
    exact ⟨c, cs, by rw [print_num, heq], hspace, h1, h2⟩
  | str s => exact ⟨'"', _, rfl, by decide, by decide, by decide⟩
  | arr _ =>
    obtain ⟨cs, hcs⟩ := enclose_head L d '[' ']' _
    exact ⟨'[', cs, by rw [print_arr, hcs], by decide, by decide, by decide⟩
  | obj _ =>
    obtain ⟨cs, hcs⟩ := enclose_head L d '{' '}' _
    exact ⟨'{', cs, by rw [print_obj, hcs], by decide, by decide, by decide⟩

theorem value_scalar {c : Char} (hc : isSpace c = false) (hobj : c ≠ '{') (harr : c ≠ '[') (n : ℕ)
    (cs : List Char) : value (n + 1) (c :: cs) = scalar (c :: cs) := by
  rw [value, skip_head hc]
  split
  · next heq =>
    cases heq
    exact absurd rfl hobj
  · next heq =>
    cases heq
    exact absurd rfl harr
  · rfl

theorem member_print {L : Layout} {d n : ℕ} {m : String × Json}
    (hvalue : ∀ rest, Stops rest → value n (print L d m.2 ++ rest) = some (m.2, rest))
    {ws rest : List Char} (hws : ∀ c ∈ ws, isSpace c = true) (hr : Stops rest) :
    member (value n) (ws ++ (printMember L d m ++ rest)) = some (m, rest) := by
  rw [member_space hws, printMember, printString]
  simp only [List.cons_append, List.append_assoc, List.nil_append, member,
    skip_head (show isSpace '"' = false by decide), skip_head (show isSpace ':' = false by decide),
    string_print, value_space L.afterColon_space, hvalue rest hr]
  rfl

theorem value_print {v : Json} (hv : Printable v) (L : Layout) (d : ℕ) {n : ℕ}
    (hn : (print L d v).length < n) {rest : List Char} (hr : Stops rest) :
    value n (print L d v ++ rest) = some (v, rest) := by
  obtain ⟨n, rfl⟩ := Nat.exists_eq_succ_of_ne_zero (show n ≠ 0 by omega)
  induction hv generalizing d n rest with
  | null => exact value_scalar (by decide) (by decide) (by decide) n _
  | bool b =>
    cases b with
    | true => exact value_scalar (by decide) (by decide) (by decide) n _
    | false => exact value_scalar (by decide) (by decide) (by decide) n _
  | @num l hl =>
    obtain ⟨c, cs, heq, hc⟩ := hl.head
    obtain ⟨hspace, -, -, h1, h2⟩ := digit_head hc
    have hnum := hl rest hr
    rw [print_num]
    rw [heq, List.cons_append] at hnum ⊢
    rw [value_scalar hspace h1 h2, scalar_number hc, hnum]
  | str s =>
    rw [print_str, printString, List.cons_append, List.append_assoc,
      value_scalar (by decide) (by decide) (by decide)]
    simp [scalar, string_print]
  | @arr xs hxs ih =>
    rw [print_arr, printElements_eq] at hn ⊢
    obtain ⟨hlen, hcount⟩ := length_enclose L d '[' ']' (xs.map (print L (d + 1)))
    rw [List.length_map] at hcount
    have hitem : ∀ x ∈ xs, ∀ ws rest, (∀ c ∈ ws, isSpace c = true) → Stops rest →
        value n (ws ++ (print L (d + 1) x ++ rest)) = some (x, rest) := by
      intro x hx ws rest hws hr
      have hx' := hlen _ (List.mem_map_of_mem hx)
      obtain ⟨m, rfl⟩ := Nat.exists_eq_succ_of_ne_zero (show n ≠ 0 by omega)
      rw [value_space hws]
      exact ih x hx (d + 1) hr m (by omega)
    have hhead : ∀ x ∈ xs, ∀ rest, ∃ c cs, print L (d + 1) x ++ rest = c :: cs ∧
        isSpace c = false ∧ c ≠ ']' := by
      intro x hx rest
      obtain ⟨c, cs, heq, hc, h1, -⟩ := print_head (hxs x hx) L (d + 1)
      rw [heq]
      exact ⟨c, cs ++ rest, rfl, hc, h1⟩
    obtain ⟨cs, hcs, hbracket⟩ := bracket_print (L := L) (d := d) '[' hitem hhead (Or.inl rfl)
      (show xs.length ≤ n by omega) rest
    rw [hcs, value, skip_head (by decide)]
    simp [hbracket]
  | @obj ms hms ih =>
    rw [print_obj, printMembers_eq] at hn ⊢
    obtain ⟨hlen, hcount⟩ := length_enclose L d '{' '}' (ms.map (printMember L (d + 1)))
    rw [List.length_map] at hcount
    have hitem : ∀ m ∈ ms, ∀ ws rest, (∀ c ∈ ws, isSpace c = true) → Stops rest →
        member (value n) (ws ++ (printMember L (d + 1) m ++ rest)) = some (m, rest) := by
      intro m hm ws rest hws hr
      have hm' := hlen _ (List.mem_map_of_mem hm)
      rw [printMember, List.length_append, List.length_cons, List.length_append] at hm'
      obtain ⟨k, rfl⟩ := Nat.exists_eq_succ_of_ne_zero (show n ≠ 0 by omega)
      exact member_print (fun rest hr => ih m hm (d + 1) hr k (by omega)) hws hr
    have hhead : ∀ m ∈ ms, ∀ rest, ∃ c cs, printMember L (d + 1) m ++ rest = c :: cs ∧
        isSpace c = false ∧ c ≠ '}' := fun m _ rest => ⟨'"', _, rfl, by decide, by decide⟩
    obtain ⟨cs, hcs, hbracket⟩ := bracket_print (L := L) (d := d) '{' hitem hhead (Or.inr rfl)
      (show ms.length ≤ n by omega) rest
    rw [hcs, value, skip_head (by decide)]
    simp [hbracket]

theorem value_print_all {v : Json} (hv : Printable v) (L : Layout) :
    value ((print L 0 v).length + 1) (print L 0 v) = some (v, []) := by
  have h : value ((print L 0 v).length + 1) (print L 0 v ++ []) = some (v, []) :=
    value_print hv L 0 (Nat.lt_succ_self _) (by simp [Stops])
  rwa [List.append_nil] at h

theorem parse_print {v : Json} (hv : Printable v) (L : Layout) :
    parse (String.ofList (print L 0 v)) = some v := by
  simp [parse, value_print_all hv L, skip]

theorem value_obj {n : ℕ} {cs rest : List Char} {v : Json}
    (h : value n ('{' :: cs) = some (v, rest)) : ∃ ms, v = .obj ms := by
  cases n with
  | zero => cases h
  | succ n =>
    rw [value, skip_head (by decide)] at h
    obtain ⟨⟨ms, rest'⟩, -, heq⟩ := Option.map_eq_some_iff.mp h
    cases heq
    exact ⟨ms, rfl⟩

/-- The text of an object that is cut off is no text: what is read of it would be
read of the whole as well. -/
theorem parse_cut {ms : List (String × Json)} (hv : Printable (.obj ms)) (L : Layout)
    {pre post : List Char} (h : print L 0 (.obj ms) = pre ++ post) (hpost : post ≠ []) :
    parse (String.ofList pre) = none := by
  unfold parse
  rw [String.toList_ofList]
  split
  · next v cs hcut =>
    obtain ⟨cs', hhead⟩ := enclose_head L 0 '{' '}' (printMembers L 1 ms)
    rw [← print_obj, h] at hhead
    cases pre with
    | nil => cases hcut
    | cons c pre =>
      cases hhead
      obtain ⟨ms', rfl⟩ := value_obj hcut
      have hlen : (('{' :: pre).length + 1) ≤ (print L 0 (.obj ms)).length + 1 := by
        rw [h, List.length_append]
        omega
      have hlong := value_append hlen hcut (Or.inr (by simp)) post
      have hwhole := value_print_all hv L
      rw [h] at hwhole
      rw [h] at hlong
      have heq := hwhole.symm.trans hlong
      rw [Option.some.injEq, Prod.mk.injEq] at heq
      exact absurd (List.append_eq_nil_iff.mp heq.2.symm).2 hpost
  · rfl

end ShardingOnCloud.Lib.JsonPrinter
