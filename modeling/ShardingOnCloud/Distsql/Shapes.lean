import Mathlib.Data.String.Basic
import ShardingOnCloud.Distsql.Tokens

namespace ShardingOnCloud.Distsql.Shapes

open ShardingOnCloud.Lib.Patterns ShardingOnCloud.Lib.Lexer ShardingOnCloud.Distsql.Tokens

section Words

variable {w : List Char} {s : String}

theorem mem_char {c : Char} : w ∈ (char c).lang ↔ w = [c] := by
  simp [char]

theorem mem_literal : w ∈ (literal s).lang ↔ w = s.toList := by
  have h := Pattern.mem_word (w := w) (f := (id : Char → Char)) (s := s.toList)
  rwa [List.map_id] at h

theorem mem_anyCase : w ∈ (anyCase s).lang ↔ w.map Char.toUpper = s.toList := Pattern.mem_word

theorem mem_symbol {t : Symbol} :
    w ∈ (Kind.symbol t).pattern.lang ↔ ∃ s ∈ t.texts, w = s.toList := by
  rw [Kind.pattern]
  induction t.texts with
  | nil => simp
  | cons s l ih => simp [ih, mem_literal]

theorem mem_plainIdentifier :
    w ∈ plainIdentifier.lang ↔ (∀ c ∈ w, isNameChar c = true) ∧ ∃ c ∈ w, isNameStart c = true := by
  have hsub : ∀ c, isNameStart c = true → isNameChar c = true := by
    intro c hc
    rw [isNameChar, hc, Bool.true_or]
  constructor
  · intro h
    obtain ⟨u, hu, v, hv, rfl⟩ := Pattern.mem_seq.mp h
    obtain ⟨x, hx, y, hy, rfl⟩ := Pattern.mem_seq.mp hv
    rw [Pattern.mem_star_cls] at hu hy
    obtain ⟨hne, hx⟩ := Pattern.mem_plus_cls.mp hx
    obtain ⟨c, hc⟩ := List.exists_mem_of_ne_nil x hne
    refine ⟨?_, c, by simp [hc], hx c hc⟩
    simp only [List.forall_mem_append]
    exact ⟨hu, fun d hd => hsub d (hx d hd), hy⟩
  · rintro ⟨hall, c, hc, hstart⟩
    obtain ⟨u, v, rfl⟩ := List.append_of_mem hc
    have hu : u ∈ (Pattern.star (.cls isNameChar)).lang :=
      Pattern.mem_star_cls.mpr (fun d hd => hall d (by simp [hd]))
    have hv : v ∈ (Pattern.star (.cls isNameChar)).lang :=
      Pattern.mem_star_cls.mpr (fun d hd => hall d (by simp [hd]))
    have hc' : [c] ∈ (Pattern.plus (.cls isNameStart)).lang :=
      Pattern.mem_plus_cls.mpr ⟨by simp, by simpa using hstart⟩
    exact Pattern.mem_seq.mpr ⟨u, hu, c :: v, Pattern.mem_seq.mpr ⟨[c], hc', v, hv, rfl⟩, rfl⟩

theorem mem_quotedIdentifier : w ∈ quotedIdentifier.lang ↔
    ∃ b, b ≠ [] ∧ (∀ c ∈ b, c ≠ backQuote) ∧ w = backQuote :: (b ++ [backQuote]) := by
  constructor
  · intro h
    obtain ⟨u, hu, v, hv, rfl⟩ := Pattern.mem_seq.mp h
    obtain ⟨b, hb, x, hx, rfl⟩ := Pattern.mem_seq.mp hv
    obtain ⟨hne, hb⟩ := Pattern.mem_plus_cls.mp hb
    rw [mem_char.mp hu, mem_char.mp hx]
    exact ⟨b, hne, fun c hc => of_decide_eq_true (hb c hc), rfl⟩
  · rintro ⟨b, hne, hb, rfl⟩
    have hb' := Pattern.mem_plus_cls.mpr ⟨hne, fun c hc => decide_eq_true (hb c hc)⟩
    exact Pattern.mem_seq.mpr ⟨[backQuote], mem_char.mpr rfl, b ++ [backQuote],
      Pattern.mem_seq.mpr ⟨b, hb', [backQuote], mem_char.mpr rfl, rfl⟩, rfl⟩

def Body (q : Char) (b : List Char) : Prop := b ∈ (Pattern.star (stringPart q)).lang

theorem mem_quoted {q : Char} : w ∈ (quoted q).lang ↔ ∃ b, Body q b ∧ w = q :: (b ++ [q]) := by
  constructor
  · intro h
    obtain ⟨u, hu, v, hv, rfl⟩ := Pattern.mem_seq.mp h
    obtain ⟨b, hb, x, hx, rfl⟩ := Pattern.mem_seq.mp hv
    rw [mem_char.mp hu, mem_char.mp hx]
    exact ⟨b, hb, rfl⟩
  · rintro ⟨b, hb, rfl⟩
    exact Pattern.mem_seq.mpr ⟨[q], mem_char.mpr rfl, b ++ [q],
      Pattern.mem_seq.mpr ⟨b, hb, [q], mem_char.mpr rfl, rfl⟩, rfl⟩

end Words

section Shapes

theorem texts_cons {k : Keyword} {ks : List Keyword} {l : List Char} {ls : List (List Char)}
    (h : k.text = String.ofList l) (hs : ks.map Keyword.text = ls.map String.ofList) :
    (k :: ks).map Keyword.text = (l :: ls).map String.ofList := by
  rw [List.map_cons, List.map_cons, h, hs]

theorem texts_nil : [].map Keyword.text = [].map String.ofList := rfl

/-- The letters of the keywords: different words, which are made of name characters, and not of
digits alone. -/
theorem keyword_letters (g : Grammar) : ∃ ls : List (List Char),
    (keywords g).map Keyword.text = ls.map String.ofList ∧ ls.Nodup ∧
      ∀ l ∈ ls, l ≠ [] ∧ l.all isNameChar = true ∧ l.map Char.toUpper = l ∧
        l ≠ ['D', 'O'] ∧ l ≠ ['_'] ∧ l.all Char.isDigit = false := by
  cases g
  all_goals
    constructor
    constructor
    · unfold keywords
      repeat apply texts_cons rfl
      exact texts_nil
    · decide +kernel

theorem keyword_text (g : Grammar) : ∀ k ∈ keywords g, k.text.toList ≠ [] ∧
    k.text.toList.all isNameChar = true ∧ k.text.toList.map Char.toUpper = k.text.toList ∧
    k.text ≠ "DO" ∧ k.text ≠ "_" ∧ k.text.toList.all Char.isDigit = false := by
  intro k hk
  obtain ⟨ls, htexts, -, hls⟩ := keyword_letters g
  have hmem : k.text ∈ ls.map String.ofList := htexts ▸ List.mem_map_of_mem hk
  obtain ⟨l, hl, htext⟩ := List.mem_map.mp hmem
  obtain ⟨hne, hall, hupper, hdo, hul, hdigits⟩ := hls l hl
  rw [← htext, String.toList_ofList]
  exact ⟨hne, hall, hupper, fun h => hdo (String.ofList_injective h),
    fun h => hul (String.ofList_injective h), hdigits⟩

theorem isNameChar_of_toUpper {c : Char} (h : isNameChar c.toUpper = true) :
    isNameChar c = true := by
  delta Char.toUpper at h
  split at h
  · rename_i hc
    have hlower : c.isLower = true := by
      delta Char.isLower
      simpa using hc
    have halpha : c.isAlpha = true := by
      delta Char.isAlpha
      rw [hlower, Bool.or_true]
    simp [isNameChar, isNameStart, halpha]
  · exact h

theorem digit_cases {c : Char} (h : c.isDigit = true) : c.toUpper = c ∧ isNameStart c = false := by
  have hall : ∀ n < 58, 48 ≤ n →
      (Char.ofNat n).toUpper = Char.ofNat n ∧ isNameStart (Char.ofNat n) = false := by decide
  obtain ⟨hge, hle⟩ := Char.isDigit_iff_toNat.mp h
  have hc := hall c.toNat (Nat.lt_succ_of_le hle) hge
  rwa [Char.ofNat_toNat] at hc

/-- What can stand in a word that begins with a name character and has no quotes. -/
def Joins (c : Char) : Prop := isNameChar c = true ∨ c = '.' ∨ c = '+' ∨ c = '-'

theorem joins_digit {c : Char} (h : c.isDigit = true) : Joins c := by
  left
  rw [isNameChar, h, Bool.or_true]

theorem joins_hexDigit {c : Char} (h : isHexDigit c = true) : Joins c := by
  left
  have halpha : c.isAlpha = true ∨ c.isDigit = true := by
    simp only [isHexDigit, Bool.or_eq_true, Bool.and_eq_true, decide_eq_true_eq] at h
    delta Char.isAlpha Char.isUpper Char.isLower
    simp only [Bool.or_eq_true, Bool.and_eq_true, decide_eq_true_eq]
    obtain (h | ⟨h₁, h₂⟩) | ⟨h₁, h₂⟩ := h
    · exact Or.inr h
    · exact Or.inl (Or.inr ⟨h₁, UInt32.le_trans h₂ (show 'f'.val ≤ 'z'.val by decide)⟩)
    · exact Or.inl (Or.inl ⟨h₁, UInt32.le_trans h₂ (show 'F'.val ≤ 'Z'.val by decide)⟩)
  obtain h | h := halpha
  · simp [isNameChar, isNameStart, h]
  · simp [isNameChar, h]

theorem over_digits : digits.Over Joins := ⟨fun _ => joins_digit, fun _ => joins_digit⟩

theorem over_char {c : Char} (h : Joins c) : (char c).Over Joins := by
  intro d hd
  rw [of_decide_eq_true hd]
  exact h

theorem over_anyCase {s : List Char} (hs : ∀ c ∈ s, isNameChar c = true) :
    (Pattern.word (s.map (fun c (d : Char) => decide (d.toUpper = c)))).Over Joins := by
  induction s with
  | nil => trivial
  | cons c s ih =>
    refine ⟨fun d hd => Or.inl (isNameChar_of_toUpper ?_),
      ih (fun d hd => hs d (List.mem_cons_of_mem c hd))⟩
    rw [of_decide_eq_true hd]
    exact hs c List.mem_cons_self

theorem over_literal {s : List Char} (hs : ∀ c ∈ s, isNameChar c = true) :
    (Pattern.word (s.map (fun c (d : Char) => decide (d = c)))).Over Joins := by
  induction s with
  | nil => trivial
  | cons c s ih =>
    refine ⟨fun d hd => Or.inl ?_, ih (fun d hd => hs d (List.mem_cons_of_mem c hd))⟩
    rw [of_decide_eq_true hd]
    exact hs c List.mem_cons_self

theorem over_number : numberPattern.Over Joins := by
  have hdot : Joins '.' := Or.inr (Or.inl rfl)
  have hplus : Joins '+' := Or.inr (Or.inr (Or.inl rfl))
  have hminus : Joins '-' := Or.inr (Or.inr (Or.inr rfl))
  have hexp : (anyCase "E").Over Joins := over_anyCase (List.all_eq_true.mp (by decide))
  exact ⟨⟨trivial, over_digits⟩, ⟨trivial, over_char hdot⟩, over_digits, trivial, hexp,
    ⟨trivial, over_char hplus, over_char hminus⟩, over_digits⟩

theorem joins_bit {c : Char} (h : isBit c = true) : Joins c := by
  simp only [isBit, Bool.or_eq_true, decide_eq_true_eq] at h
  obtain rfl | rfl := h <;> exact Or.inl (by decide)

/-- The texts that a quote can follow within one word. -/
def isRadix (w : List Char) : Bool := w = ['X'] || w.map Char.toUpper = ['B']

theorem hexDigit_cases {w : List Char} (h : w ∈ hexDigitPattern.lang) :
    (∀ c ∈ w, Joins c) ∨ ∃ v, w = 'X' :: singleQuote :: v := by
  obtain h | h := h
  · left
    have hzero : (literal "0x").Over Joins := over_literal (List.all_eq_true.mp (by decide))
    have hhex : (Pattern.plus (.cls isHexDigit)).Over Joins :=
      ⟨fun _ => joins_hexDigit, fun _ => joins_hexDigit⟩
    exact Pattern.mem_over (r := .seq _ _) ⟨hzero, hhex⟩ h
  · right
    obtain ⟨u, hu, v, hv, rfl⟩ := Pattern.mem_seq.mp h
    obtain ⟨x, hx, y, -, rfl⟩ := Pattern.mem_seq.mp hv
    rw [mem_char.mp hu, mem_char.mp hx]
    exact ⟨y, rfl⟩

theorem bitNum_cases {w : List Char} (h : w ∈ bitNumPattern.lang) :
    (∀ c ∈ w, Joins c) ∨ ∃ c v, c.toUpper = 'B' ∧ w = c :: singleQuote :: v := by
  obtain h | h := h
  · left
    have hzero : (literal "0b").Over Joins := over_literal (List.all_eq_true.mp (by decide))
    have hbit : (Pattern.plus (.cls isBit)).Over Joins := ⟨fun _ => joins_bit, fun _ => joins_bit⟩
    exact Pattern.mem_over (r := .seq _ _) ⟨hzero, hbit⟩ h
  · right
    obtain ⟨u, hu, v, hv, rfl⟩ := Pattern.mem_seq.mp h
    obtain ⟨x, hx, y, -, rfl⟩ := Pattern.mem_seq.mp hv
    obtain ⟨c, w, rfl, hc, hw⟩ := List.map_eq_cons_iff.mp (mem_anyCase.mp hu)
    rw [List.map_eq_nil_iff.mp hw, mem_char.mp hx]
    exact ⟨c, y, hc, rfl⟩

theorem over_bool : (Kind.bool).pattern.Over Joins :=
  ⟨over_anyCase (List.all_eq_true.mp (by decide)), over_anyCase (List.all_eq_true.mp (by decide))⟩

theorem over_keyword {g : Grammar} {k : Keyword} (hk : k ∈ keywords g) :
    (Kind.keyword k).pattern.Over Joins :=
  over_anyCase (List.all_eq_true.mp (keyword_text g k hk).2.1)

end Shapes

section Kinds

theorem mem_all (s : Symbol) : s ∈ Symbol.all := by
  cases s <;> decide

theorem symbol_mem (g : Grammar) (s : Symbol) : .symbol s ∈ (vocabulary g).kinds := by
  simp [vocabulary, mem_all]

theorem ws_mem (g : Grammar) : .ws ∈ (vocabulary g).kinds := by
  simp [vocabulary]

theorem keyword_mem {g : Grammar} {k : Keyword} :
    .keyword k ∈ (vocabulary g).kinds ↔ k ∈ keywords g := by
  cases g <;> simp [vocabulary, literals]

theorem symbol_name : ∀ s ∈ Symbol.all, ∀ t ∈ s.texts,
    t.toList.head?.any isNameChar = true → t.toList.length = 1 := by
  decide

theorem isNameChar_isBlank {c : Char} (h : isBlank c = true) : isNameChar c = false := by
  simp only [isBlank, Bool.or_eq_true, decide_eq_true_eq] at h
  obtain ((rfl | rfl) | rfl) | rfl := h <;> decide

theorem isNameChar_quotes : isNameChar backQuote = false ∧ isNameChar doubleQuote = false ∧
    isNameChar singleQuote = false := by
  decide

/-- Past a run of name characters, only the one literal text of `FOR_GENERATOR` and the
quoted numbers go on with a character that does not join. -/
theorem mem_after_name {g : Grammar} {k : Kind} (hk : k ∈ (vocabulary g).kinds) {w u : List Char}
    {c : Char} (hne : w ≠ []) (hw : ∀ d ∈ w, isNameChar d = true) (hc : ¬ Joins c)
    (h : w ++ c :: u ∈ k.pattern.lang) :
    (w = "DO".toList ∧ c :: u = " NOT MATCH ANY THING, JUST FOR GENERATOR".toList) ∨
      (c = singleQuote ∧ isRadix w = true) := by
  have hover : ∀ {r : Pattern Char}, r.Over Joins → w ++ c :: u ∉ r.lang := by
    intro r hr hmem
    exact hc (Pattern.mem_over hr hmem c (by simp))
  obtain ⟨d, v, rfl⟩ := List.exists_cons_of_ne_nil hne
  have hd : isNameChar d = true := hw d List.mem_cons_self
  have hquote : ∀ {x : List Char}, v ++ c :: u = singleQuote :: x → v = [] ∧ c = singleQuote := by
    intro x he
    cases v with
    | nil => exact ⟨rfl, (List.cons.inj he).1⟩
    | cons e v =>
      have hn := hw e (by simp)
      rw [(List.cons.inj he).1, isNameChar_quotes.2.2] at hn
      cases hn
  cases k with
  | symbol s =>
    obtain ⟨t, ht, he⟩ := mem_symbol.mp h
    have hlen := symbol_name s (mem_all s) t ht (by rw [← he]; simpa using hd)
    rw [← he] at hlen
    simp at hlen
  | ws =>
    have hb := (Pattern.mem_plus_cls.mp h).2 d (by simp)
    rw [isNameChar_isBlank hb] at hd
    cases hd
  | keyword k => exact absurd h (hover (over_keyword (keyword_mem.mp hk)))
  | forGenerator =>
    have he := mem_literal.mp h
    have hnc : ¬ isNameChar c = true := fun hn => hc (Or.inl hn)
    have htake := congrArg (List.takeWhile isNameChar) he
    have hdrop := congrArg (List.dropWhile isNameChar) he
    rw [List.takeWhile_append_of_pos hw, List.takeWhile_cons_of_neg hnc, List.append_nil] at htake
    rw [List.dropWhile_append_of_pos hw, List.dropWhile_cons_of_neg hnc] at hdrop
    exact Or.inl ⟨htake, hdrop⟩
  | identifier =>
    obtain h | h := h
    · exact absurd (Or.inl ((mem_plainIdentifier.mp h).1 c (by simp))) hc
    · obtain ⟨b, -, -, he⟩ := mem_quotedIdentifier.mp h
      rw [(List.cons.inj he).1, isNameChar_quotes.1] at hd
      cases hd
  | string =>
    obtain h | h := h
    · obtain ⟨b, -, he⟩ := mem_quoted.mp h
      rw [(List.cons.inj he).1, isNameChar_quotes.2.1] at hd
      cases hd
    · obtain ⟨b, -, he⟩ := mem_quoted.mp h
      rw [(List.cons.inj he).1, isNameChar_quotes.2.2] at hd
      cases hd
  | int => exact absurd h (hover over_digits)
  | hex => exact absurd h (hover (fun _ => joins_hexDigit))
  | number => exact absurd h (hover over_number)
  | hexDigit =>
    obtain h | ⟨x, he⟩ := hexDigit_cases h
    · exact absurd (h c (by simp)) hc
    · obtain ⟨hd', he'⟩ := List.cons.inj he
      obtain ⟨hv, hcq⟩ := hquote he'
      rw [hv, hd']
      exact Or.inr ⟨hcq, rfl⟩
  | bitNum =>
    obtain h | ⟨b, x, hb, he⟩ := bitNum_cases h
    · exact absurd (h c (by simp)) hc
    · obtain ⟨hd', he'⟩ := List.cons.inj he
      obtain ⟨hv, hcq⟩ := hquote he'
      rw [hv, hd']
      exact Or.inr ⟨hcq, by simp [isRadix, hb]⟩
  | bool => exact absurd h (hover over_bool)

def First : Kind → Char → Prop
  | .symbol s, c => ∃ t ∈ s.texts, t.toList.head? = some c
  | .ws, c => isBlank c = true
  | .identifier, c => isNameChar c = true ∨ c = backQuote
  | .string, c => c = doubleQuote ∨ c = singleQuote
  | .number, c => isNameChar c = true ∨ c = '.'
  | .keyword _, c | .forGenerator, c | .int, c | .hex, c | .hexDigit, c | .bitNum, c
  | .bool, c => isNameChar c = true

theorem first_digits {c : Char} {w : List Char} (h : c :: w ∈ digits.lang) :
    isNameChar c = true := by
  have hc := (Pattern.mem_plus_cls.mp h).2 c List.mem_cons_self
  rw [isNameChar, hc, Bool.or_true]

theorem first_anyCase {s : String} {c : Char} {w : List Char}
    (hs : s.toList.all isNameChar = true) (h : c :: w ∈ (anyCase s).lang) :
    isNameChar c = true := by
  have he := mem_anyCase.mp h
  have hmem : c.toUpper ∈ s.toList := by
    rw [← he]
    exact List.mem_map_of_mem List.mem_cons_self
  exact isNameChar_of_toUpper (List.all_eq_true.mp hs _ hmem)

theorem first_of_mem {g : Grammar} {k : Kind} (hk : k ∈ (vocabulary g).kinds) {c : Char}
    {w : List Char} (h : c :: w ∈ k.pattern.lang) : First k c := by
  cases k with
  | symbol s =>
    obtain ⟨t, ht, he⟩ := mem_symbol.mp h
    exact ⟨t, ht, by rw [← he]; rfl⟩
  | ws => exact (Pattern.mem_plus_cls.mp h).2 c List.mem_cons_self
  | keyword k => exact first_anyCase (keyword_text g k (keyword_mem.mp hk)).2.1 h
  | forGenerator =>
    have he := congrArg List.head? (mem_literal.mp h)
    obtain rfl : c = 'D' := Option.some.inj he
    exact (by decide : isNameChar 'D' = true)
  | identifier =>
    obtain h | h := h
    · exact Or.inl ((mem_plainIdentifier.mp h).1 c List.mem_cons_self)
    · obtain ⟨b, -, -, he⟩ := mem_quotedIdentifier.mp h
      exact Or.inr (List.cons.inj he).1
  | string =>
    obtain h | h := h
    · obtain ⟨b, -, he⟩ := mem_quoted.mp h
      exact Or.inl (List.cons.inj he).1
    · obtain ⟨b, -, he⟩ := mem_quoted.mp h
      exact Or.inr (List.cons.inj he).1
  | int => exact first_digits h
  | hex =>
    obtain ⟨d, hd, he⟩ := h
    rw [(List.cons.inj he).1]
    obtain hj | rfl | rfl | rfl | rfl := joins_hexDigit hd
    · exact hj
    all_goals exact absurd hd (by decide)
  | number =>
    have hdigit : ∀ d : Char, d.isDigit = true → isNameChar d = true ∨ d = '.' := by
      intro d hd
      exact Or.inl (by rw [isNameChar, hd, Bool.or_true])
    have hdot : ∀ d : Char, decide (d = '.') = true → isNameChar d = true ∨ d = '.' := by
      intro d hd
      exact Or.inr (of_decide_eq_true hd)
    have hdigits : digits.Begins (fun d => isNameChar d = true ∨ d = '.') :=
      ⟨hdigit, fun _ => hdigit⟩
    refine Pattern.mem_begins (p := fun d => isNameChar d = true ∨ d = '.') ?_ h
    exact ⟨⟨trivial, hdigits⟩, fun _ => ⟨⟨trivial, hdot⟩, fun _ => ⟨hdigits, by rintro ⟨⟩⟩⟩⟩
  | hexDigit =>
    obtain h | h := h
    · obtain ⟨u, hu, v, -, he⟩ := Pattern.mem_seq.mp h
      rw [mem_literal.mp hu] at he
      rw [← (List.cons.inj he).1]
      exact (by decide : isNameChar '0' = true)
    · obtain ⟨u, hu, v, -, he⟩ := Pattern.mem_seq.mp h
      rw [mem_char.mp hu] at he
      rw [← (List.cons.inj he).1]
      exact (by decide : isNameChar 'X' = true)
  | bitNum =>
    obtain h | h := h
    · obtain ⟨u, hu, v, -, he⟩ := Pattern.mem_seq.mp h
      rw [mem_literal.mp hu] at he
      rw [← (List.cons.inj he).1]
      exact (by decide : isNameChar '0' = true)
    · obtain ⟨u, hu, v, -, he⟩ := Pattern.mem_seq.mp h
      cases u with
      | nil => cases mem_anyCase.mp hu
      | cons d u =>
        rw [← (List.cons.inj he).1]
        exact first_anyCase (by decide) hu
  | bool =>
    obtain h | h := h
    · exact first_anyCase (by decide) h
    · exact first_anyCase (by decide) h

theorem kind_of_first {k : Kind} {c : Char} (hc : isNameChar c = false) (h : First k c) :
    (∃ s, k = .symbol s) ∨ (k = .ws ∧ isBlank c = true) ∨ (k = .identifier ∧ c = backQuote) ∨
      (k = .string ∧ (c = doubleQuote ∨ c = singleQuote)) ∨ (k = .number ∧ c = '.') := by
  cases k with
  | symbol s => exact Or.inl ⟨s, rfl⟩
  | ws => exact Or.inr (Or.inl ⟨rfl, h⟩)
  | identifier =>
    obtain hn | h := h
    · rw [hc] at hn
      cases hn
    · exact Or.inr (Or.inr (Or.inl ⟨rfl, h⟩))
  | string => exact Or.inr (Or.inr (Or.inr (Or.inl ⟨rfl, h⟩)))
  | number =>
    obtain hn | h := h
    · rw [hc] at hn
      cases hn
    · exact Or.inr (Or.inr (Or.inr (Or.inr ⟨rfl, h⟩)))
  | _ =>
    rw [show isNameChar c = true from h] at hc
    cases hc

theorem symbol_first : ∀ s ∈ Symbol.all, ∀ t ∈ s.texts, ∀ c ∈ t.toList.head?,
    isBlank c = false ∧ (c = backQuote ∨ c = doubleQuote ∨ c = singleQuote → t.toList = [c]) := by
  have hall : ∀ s ∈ Symbol.all, ∀ t ∈ s.texts, t.toList.head?.all (fun c => decide
      (isBlank c = false ∧ (c = backQuote ∨ c = doubleQuote ∨ c = singleQuote → t.toList = [c]))) =
        true := by
    decide
  intro s hs t ht c hc
  have h := hall s hs t ht
  rw [Option.mem_def.mp hc] at h
  exact of_decide_eq_true h

variable {g : Grammar} {k : Kind} {c : Char} {w : List Char}

theorem mem_blank (hk : k ∈ (vocabulary g).kinds) (hc : isBlank c = true)
    (h : c :: w ∈ k.pattern.lang) : k = .ws := by
  have hfirst := first_of_mem hk h
  obtain ⟨s, rfl⟩ | ⟨rfl, -⟩ | ⟨-, rfl⟩ | ⟨-, rfl | rfl⟩ | ⟨-, rfl⟩ :=
    kind_of_first (isNameChar_isBlank hc) hfirst
  · obtain ⟨t, ht, he⟩ := hfirst
    rw [(symbol_first s (mem_all s) t ht c he).1] at hc
    cases hc
  · rfl
  all_goals cases hc

theorem mem_backQuote (hk : k ∈ (vocabulary g).kinds) (h : backQuote :: w ∈ k.pattern.lang) :
    w = [] ∨ k = .identifier ∧ backQuote :: w ∈ quotedIdentifier.lang := by
  have hfirst := first_of_mem hk h
  obtain ⟨s, rfl⟩ | ⟨-, hb⟩ | ⟨rfl, -⟩ | ⟨-, he | he⟩ | ⟨-, he⟩ :=
    kind_of_first isNameChar_quotes.1 hfirst
  · obtain ⟨t, ht, he⟩ := mem_symbol.mp h
    have hs := (symbol_first s (mem_all s) t ht backQuote (by rw [← he]; rfl)).2 (Or.inl rfl)
    rw [← he] at hs
    exact Or.inl (List.cons.inj hs).2
  · cases hb
  · obtain h | h := h
    · have hn := (mem_plainIdentifier.mp h).1 backQuote List.mem_cons_self
      cases hn
    · exact Or.inr ⟨rfl, h⟩
  all_goals cases he

theorem mem_quote (hk : k ∈ (vocabulary g).kinds) {q : Char}
    (hq : q = doubleQuote ∨ q = singleQuote) (h : q :: w ∈ k.pattern.lang) :
    w = [] ∨ k = .string ∧ q :: w ∈ (quoted q).lang := by
  have hfirst := first_of_mem hk h
  have hname : isNameChar q = false := by
    obtain rfl | rfl := hq
    · exact isNameChar_quotes.2.1
    · exact isNameChar_quotes.2.2
  obtain ⟨s, rfl⟩ | ⟨-, hb⟩ | ⟨-, rfl⟩ | ⟨rfl, -⟩ | ⟨-, rfl⟩ := kind_of_first hname hfirst
  · obtain ⟨t, ht, he⟩ := mem_symbol.mp h
    have hs := (symbol_first s (mem_all s) t ht q (by rw [← he]; rfl)).2 (Or.inr hq)
    rw [← he] at hs
    exact Or.inl (List.cons.inj hs).2
  · obtain rfl | rfl := hq <;> cases hb
  · obtain hq | hq := hq <;> cases hq
  · refine Or.inr ⟨rfl, ?_⟩
    obtain h | h := h
    · obtain ⟨b, -, he⟩ := mem_quoted.mp h
      rwa [(List.cons.inj he).1] at h ⊢
    · obtain ⟨b, -, he⟩ := mem_quoted.mp h
      rwa [(List.cons.inj he).1] at h ⊢
  · obtain hq | hq := hq <;> cases hq

def isSign (c : Char) : Bool :=
  !isNameChar c && !isBlank c && c ≠ backQuote && c ≠ doubleQuote && c ≠ singleQuote && c ≠ '.'

theorem mem_sign (hk : k ∈ (vocabulary g).kinds) (hc : isSign c = true)
    (h : c :: w ∈ k.pattern.lang) : ∃ s, k = .symbol s := by
  simp only [isSign, Bool.and_eq_true, Bool.not_eq_true', decide_eq_true_eq] at hc
  obtain ⟨⟨⟨⟨⟨hname, hblank⟩, hback⟩, hdouble⟩, hsingle⟩, hdot⟩ := hc
  obtain hs | ⟨-, hb⟩ | ⟨-, he⟩ | ⟨-, he | he⟩ | ⟨-, he⟩ :=
    kind_of_first hname (first_of_mem hk h)
  · exact hs
  · rw [hblank] at hb
    cases hb
  · exact absurd he hback
  · exact absurd he hdouble
  · exact absurd he hsingle
  · exact absurd he hdot

end Kinds

section Strings

variable {q : Char} {b : List Char}

theorem mem_stringPart {w : List Char} : w ∈ (stringPart q).lang ↔
    (∃ c, w = [backSlash, c]) ∨ w = [q, q] ∨ ∃ c, c ≠ q ∧ c ≠ backSlash ∧ w = [c] := by
  simp only [stringPart, Pattern.mem_alt, Pattern.mem_seq, mem_char, Pattern.mem_cls,
    Bool.and_eq_true, decide_eq_true_eq]
  constructor
  · rintro (⟨u, rfl, v, ⟨c, -, rfl⟩, rfl⟩ | ⟨u, rfl, v, rfl, rfl⟩ | ⟨c, ⟨hq, hb⟩, rfl⟩)
    · exact Or.inl ⟨c, rfl⟩
    · exact Or.inr (Or.inl rfl)
    · exact Or.inr (Or.inr ⟨c, hq, hb, rfl⟩)
  · rintro (⟨c, rfl⟩ | rfl | ⟨c, hq, hb, rfl⟩)
    · exact Or.inl ⟨_, rfl, _, ⟨c, trivial, rfl⟩, rfl⟩
    · exact Or.inr (Or.inl ⟨_, rfl, _, rfl, rfl⟩)
    · exact Or.inr (Or.inr ⟨c, ⟨hq, hb⟩, rfl⟩)

theorem body_nil : Body q [] := Pattern.nil_mem_star

theorem body_doubled (h : Body q b) : Body q (q :: q :: b) :=
  Pattern.append_mem_star (mem_stringPart.mpr (Or.inr (Or.inl rfl))) h

theorem body_plain {c : Char} (hq : c ≠ q) (hb : c ≠ backSlash) (h : Body q b) :
    Body q (c :: b) :=
  Pattern.append_mem_star (mem_stringPart.mpr (Or.inr (Or.inr ⟨c, hq, hb, rfl⟩))) h

theorem body_cases (h : Body q b) : b = [] ∨ (∃ c d, b = backSlash :: c :: d ∧ Body q d) ∨
    (∃ d, b = q :: q :: d ∧ Body q d) ∨
    ∃ c d, b = c :: d ∧ c ≠ q ∧ c ≠ backSlash ∧ Body q d := by
  obtain rfl | ⟨u, hu, -, d, hd, rfl⟩ := Pattern.star_cases h
  · exact Or.inl rfl
  · obtain ⟨c, rfl⟩ | rfl | ⟨c, hq, hb, rfl⟩ := mem_stringPart.mp hu
    · exact Or.inr (Or.inl ⟨c, d, rfl, hd⟩)
    · exact Or.inr (Or.inr (Or.inl ⟨d, rfl, hd⟩))
    · exact Or.inr (Or.inr (Or.inr ⟨c, d, rfl, hq, hb, hd⟩))

theorem body_induction {P : List Char → Prop} (nil : P [])
    (escaped : ∀ c d, Body q d → P d → P (backSlash :: c :: d))
    (doubled : ∀ d, Body q d → P d → P (q :: q :: d))
    (plain : ∀ c d, c ≠ q → c ≠ backSlash → Body q d → P d → P (c :: d)) (h : Body q b) : P b := by
  induction hn : b.length using Nat.strong_induction_on generalizing b with
  | _ n ih =>
    subst hn
    obtain rfl | ⟨c, d, rfl, hd⟩ | ⟨d, rfl, hd⟩ | ⟨c, d, rfl, hq, hb, hd⟩ := body_cases h
    · exact nil
    · exact escaped c d hd (ih d.length (by simp only [List.length_cons]; omega) hd rfl)
    · exact doubled d hd (ih d.length (by simp only [List.length_cons]; omega) hd rfl)
    · exact plain c d hq hb hd (ih d.length (by simp only [List.length_cons]; omega) hd rfl)

theorem body_ends (hq : q ≠ backSlash) (h : Body q b) :
    ∀ b' u, Body q b' → b ++ q :: u = b' ++ [q] → u = [] ∨ u.head? = some q := by
  refine body_induction (P := fun b => ∀ b' u, Body q b' → b ++ q :: u = b' ++ [q] →
    u = [] ∨ u.head? = some q) ?_ ?_ ?_ ?_ h
  · intro b' u hb' he
    obtain rfl | ⟨c, d, rfl, -⟩ | ⟨d, rfl, -⟩ | ⟨c, d, rfl, hc, -, -⟩ := body_cases hb'
    · exact Or.inl (List.cons.inj he).2
    · exact absurd (List.cons.inj he).1 hq
    · obtain rfl := (List.cons.inj he).2
      exact Or.inr rfl
    · exact absurd (List.cons.inj he).1.symm hc
  · intro c d hd ih b' u hb' he
    obtain rfl | ⟨c', d', rfl, hd'⟩ | ⟨d', rfl, -⟩ | ⟨c', d', rfl, -, hc', -⟩ := body_cases hb'
    · exact absurd (List.cons.inj he).1.symm hq
    · exact ih d' u hd' (List.cons.inj (List.cons.inj he).2).2
    · exact absurd (List.cons.inj he).1.symm hq
    · exact absurd (List.cons.inj he).1.symm hc'
  · intro d hd ih b' u hb' he
    obtain rfl | ⟨c', d', rfl, hd'⟩ | ⟨d', rfl, hd'⟩ | ⟨c', d', rfl, hc', -, -⟩ := body_cases hb'
    · cases (List.cons.inj he).2
    · exact absurd (List.cons.inj he).1 hq
    · exact ih d' u hd' (List.cons.inj (List.cons.inj he).2).2
    · exact absurd (List.cons.inj he).1.symm hc'
  · intro c d hc hb hd ih b' u hb' he
    obtain rfl | ⟨c', d', rfl, hd'⟩ | ⟨d', rfl, hd'⟩ | ⟨c', d', rfl, -, -, hd'⟩ := body_cases hb'
    · exact absurd (List.cons.inj he).1 hc
    · exact absurd (List.cons.inj he).1 hb
    · exact absurd (List.cons.inj he).1 hc
    · exact ih d' u hd' (List.cons.inj he).2

end Strings

end ShardingOnCloud.Distsql.Shapes
