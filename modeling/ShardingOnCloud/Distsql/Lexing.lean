import Mathlib.Data.List.Pairwise
import ShardingOnCloud.Distsql.Shapes

namespace ShardingOnCloud.Distsql.Lexing

open ShardingOnCloud.Lib.Patterns ShardingOnCloud.Lib.Lexer
open ShardingOnCloud.Distsql.Tokens ShardingOnCloud.Distsql.Shapes

section Leaves

variable {g : Grammar} {k : Kind} {w : List Char}

theorem kind_mem (h : kindOf g w = some k) : k ∈ (vocabulary g).kinds ∧ w ∈ k.pattern.lang :=
  classify_eq_some h

theorem not_nullable (hk : k ∈ (vocabulary g).kinds) : k.pattern.nullable = false := by
  cases k with
  | symbol s => cases s <;> rfl
  | keyword k =>
    obtain ⟨c, s, hs⟩ := List.exists_cons_of_ne_nil (keyword_text g k (keyword_mem.mp hk)).1
    rw [Kind.pattern, anyCase, hs]
    rfl
  | _ => rfl

theorem leaf_ne_nil (h : kindOf g w = some k) : w ≠ [] := by
  rintro rfl
  have hn := (Pattern.nullable_iff _).mpr (kind_mem h).2
  rw [not_nullable (kind_mem h).1] at hn
  cases hn

@[simp] theorem kindOf_leaf (l : Leaf g k) : kindOf g l.1 = some k := l.2

theorem lex_append {rest : List Char} (hk : kindOf g w = some k) (hs : k ≠ .ws)
    (h : Ends (vocabulary g) w rest) : lex g (w ++ rest) = w :: lex g rest := by
  rw [lex, lex]
  exact tokens_append_token hk (decide_eq_false hs) (leaf_ne_nil hk) h

@[simp] theorem lex_nil : lex g [] = [] := by
  rw [lex]
  rfl

end Leaves

section Kinds

variable {g : Grammar} {k : Kind} {w : List Char}

theorem exists_kind (hk : k ∈ (vocabulary g).kinds) (hw : w ∈ k.pattern.lang) :
    ∃ k', kindOf g w = some k' ∧ k' ∈ (vocabulary g).kinds ∧ w ∈ k'.pattern.lang := by
  cases h : kindOf g w with
  | none => exact absurd hw (classify_eq_none.mp h k hk)
  | some k' => exact ⟨k', rfl, kind_mem h⟩

theorem kindOf_blank (hne : w ≠ []) (hw : ∀ c ∈ w, isBlank c = true) :
    kindOf g w = some .ws := by
  obtain ⟨k, h, hk, hmem⟩ := exists_kind (ws_mem g) (Pattern.mem_plus_cls.mpr ⟨hne, hw⟩)
  obtain ⟨c, w, rfl⟩ := List.exists_cons_of_ne_nil hne
  rw [h, mem_blank hk (hw c List.mem_cons_self) hmem]

theorem kindOf_sign {s : Symbol} {t : String} (ht : t ∈ s.texts)
    (hc : t.toList.head?.all isSign = true)
    (hs : ∀ s' ∈ Symbol.all, t ∈ s'.texts → s' = s) : kindOf g t.toList = some (.symbol s) := by
  obtain ⟨k, h, hk, hmem⟩ := exists_kind (symbol_mem g s) (mem_symbol.mpr ⟨t, ht, rfl⟩)
  have hne := leaf_ne_nil h
  obtain ⟨c, w, he⟩ := List.exists_cons_of_ne_nil hne
  rw [he] at hmem hc
  obtain ⟨s', rfl⟩ := mem_sign hk hc hmem
  obtain ⟨t', ht', he'⟩ := mem_symbol.mp hmem
  obtain rfl : t = t' := String.toList_inj.mp (he.trans he')
  rw [h, hs s' (mem_all s') ht']

theorem kindOf_lp : kindOf g ['('] = some (.symbol .lp) :=
  kindOf_sign (t := "(") (by decide) (by decide) (by decide)

theorem kindOf_rp : kindOf g [')'] = some (.symbol .rp) :=
  kindOf_sign (t := ")") (by decide) (by decide) (by decide)

theorem kindOf_comma : kindOf g [','] = some (.symbol .comma) :=
  kindOf_sign (t := ",") (by decide) (by decide) (by decide)

theorem kindOf_semi : kindOf g [';'] = some (.symbol .semi) :=
  kindOf_sign (t := ";") (by decide) (by decide) (by decide)

theorem kindOf_eq : kindOf g ['='] = some (.symbol .eq) :=
  kindOf_sign (t := "=") (by decide) (by decide) (by decide)

theorem kindOf_minus : kindOf g ['-'] = some (.symbol .minus) :=
  kindOf_sign (t := "-") (by decide) (by decide) (by decide)

theorem symbol_underscore : ∀ s ∈ Symbol.all, ∀ t ∈ s.texts,
    t.toList.head?.any isNameChar = true → t = "_" := by
  decide

/-- A run of name characters that is a keyword of the grammar is taken for it. -/
theorem kindOf_name (hne : w ≠ []) (hw : ∀ c ∈ w, isNameChar c = true) (hul : w ≠ ['_']) :
    kindOf g w = (((keywords g).find? (fun k => w.map Char.toUpper = k.text.toList)).map
      Kind.keyword).or ((Kind.forGenerator :: literals g).find? (fun k => k.pattern.accepts w)) := by
  have hsymbol : (Symbol.all.map Kind.symbol).find? (fun k => k.pattern.accepts w) = none := by
    rw [List.find?_eq_none]
    intro k hk haccepts
    obtain ⟨s, hs, rfl⟩ := List.mem_map.mp hk
    obtain ⟨t, ht, rfl⟩ := mem_symbol.mp ((Pattern.accepts_iff _ _).mp haccepts)
    obtain ⟨c, v, he⟩ := List.exists_cons_of_ne_nil hne
    have hhead : t.toList.head?.any isNameChar = true := by
      rw [he]
      exact hw c (by rw [he]; exact List.mem_cons_self)
    rw [symbol_underscore s hs t ht hhead] at hul
    exact hul rfl
  have hws : Kind.ws.pattern.accepts w = false := by
    rw [Bool.eq_false_iff]
    intro haccepts
    obtain ⟨c, hc⟩ := List.exists_mem_of_ne_nil w hne
    have hb := (Pattern.mem_plus_cls.mp ((Pattern.accepts_iff _ _).mp haccepts)).2 c hc
    have hn := hw c hc
    rw [isNameChar_isBlank hb] at hn
    cases hn
  have hkeyword : ((keywords g).map Kind.keyword).find? (fun k => k.pattern.accepts w) =
      ((keywords g).find? (fun k => w.map Char.toUpper = k.text.toList)).map Kind.keyword := by
    rw [List.find?_map]
    congr 2
    funext k
    rw [Bool.eq_iff_iff, decide_eq_true_iff]
    exact (Pattern.accepts_iff _ _).trans mem_anyCase
  change List.find? (fun k : Kind => k.pattern.accepts w) (_ ++ _ ++ _) = _
  rw [List.find?_append, List.find?_append, hsymbol, Option.none_or, List.find?_cons, hws]
  dsimp only
  rw [hkeyword]

theorem kindOf_digits (hne : w ≠ []) (hw : ∀ c ∈ w, c.isDigit = true) :
    kindOf g w = some .int := by
  have hname : ∀ c ∈ w, isNameChar c = true := by
    intro c hc
    rw [isNameChar, hw c hc, Bool.or_true]
  have hul : w ≠ ['_'] := by
    rintro rfl
    cases hw '_' List.mem_cons_self
  have hkeyword : (keywords g).find? (fun k => w.map Char.toUpper = k.text.toList) = none := by
    rw [List.find?_eq_none]
    intro k hk htext
    have hupper : w.map Char.toUpper = w :=
      (List.map_congr_left (fun c hc => (digit_cases (hw c hc)).1)).trans (List.map_id w)
    rw [decide_eq_true_eq, hupper] at htext
    obtain ⟨-, -, -, -, -, hdigits⟩ := keyword_text g k hk
    rw [← htext, List.all_eq_true.mpr hw] at hdigits
    cases hdigits
  have hhead : ∀ c v, w = c :: v → c.isDigit = true := by
    rintro c v rfl
    exact hw c List.mem_cons_self
  have hgenerator : Kind.forGenerator.pattern.accepts w = false := by
    rw [Bool.eq_false_iff]
    intro h
    cases hhead 'D' _ (mem_literal.mp ((Pattern.accepts_iff _ _).mp h))
  have hidentifier : Kind.identifier.pattern.accepts w = false := by
    rw [Bool.eq_false_iff]
    intro h
    obtain hplain | hquoted := (Pattern.accepts_iff _ _).mp h
    · obtain ⟨-, c, hc, hstart⟩ := mem_plainIdentifier.mp hplain
      rw [(digit_cases (hw c hc)).2] at hstart
      cases hstart
    · obtain ⟨b, -, -, he⟩ := mem_quotedIdentifier.mp hquoted
      cases hhead _ _ he
  have hstring : Kind.string.pattern.accepts w = false := by
    rw [Bool.eq_false_iff]
    intro h
    obtain hdouble | hsingle := (Pattern.accepts_iff _ _).mp h
    · obtain ⟨b, -, he⟩ := mem_quoted.mp hdouble
      cases hhead _ _ he
    · obtain ⟨b, -, he⟩ := mem_quoted.mp hsingle
      cases hhead _ _ he
  have hint : Kind.int.pattern.accepts w = true :=
    (Pattern.accepts_iff _ _).mpr (Pattern.mem_plus_cls.mpr ⟨hne, hw⟩)
  rw [kindOf_name hne hname hul, hkeyword]
  cases g <;> simp [literals, hgenerator, hidentifier, hstring, hint]

instance : Std.Symm (fun k k' : Keyword => k.text ≠ k'.text) := ⟨fun _ _ h => h.symm⟩

theorem keyword_texts (g : Grammar) : (keywords g).Pairwise (fun k k' => k.text ≠ k'.text) := by
  obtain ⟨ls, htexts, hnodup, -⟩ := keyword_letters g
  have hdistinct : ((keywords g).map Keyword.text).Nodup :=
    htexts ▸ hnodup.map (fun _ _ => String.ofList_injective)
  exact List.pairwise_map.mp hdistinct

def kw (k : Keyword) : List Char := k.text.toList

theorem kindOf_kw {k : Keyword} (h : k ∈ keywords g) : kindOf g (kw k) = some (.keyword k) := by
  obtain ⟨hne, hall, hupper, -, hul, -⟩ := keyword_text g k h
  have hfind : (keywords g).find? (fun k' => (kw k).map Char.toUpper = k'.text.toList) =
      some k := by
    cases hf : (keywords g).find? (fun k' => (kw k).map Char.toUpper = k'.text.toList) with
    | none => exact absurd (decide_eq_true hupper) (List.find?_eq_none.mp hf k h)
    | some k' =>
      have htext : (kw k).map Char.toUpper = k'.text.toList :=
        of_decide_eq_true (List.find?_some (p := fun k' : Keyword =>
          decide ((kw k).map Char.toUpper = k'.text.toList)) hf)
      have hk' := List.mem_of_find?_eq_some hf
      by_contra hk
      have hdistinct : k'.text ≠ k.text := (keyword_texts g).forall hk' h
        (fun he => hk (congrArg some he))
      exact hdistinct (String.toList_inj.mp (htext.symm.trans hupper))
  have hne' : kw k ≠ ['_'] := fun he => hul (String.toList_inj.mp he)
  have hname : kindOf g (kw k) = _ := kindOf_name hne (List.all_eq_true.mp hall) hne'
  rw [hname, hfind]
  rfl

end Kinds

section Names

variable {g : Grammar} {k : Kind} {w rest : List Char}

/-- What comes next does not join a run of name characters. -/
def stops : List Char → Bool
  | [] => true
  | c :: _ => c = ' ' || c = ',' || c = '(' || c = ')' || c = ';' || c = '=' || c = '|' ||
      c = doubleQuote

/-- What comes next does not join an identifier either: `DO` could be the beginning of the
text of `FOR_GENERATOR`. -/
def parts : List Char → Bool
  | ' ' :: 'N' :: _ => false
  | cs => stops cs

theorem stops_of_parts (h : parts rest = true) : stops rest = true := by
  unfold parts at h
  split at h
  · cases h
  · exact h

theorem not_joins {c : Char} (h : stops (c :: rest) = true) : ¬ Joins c := by
  simp only [stops, Bool.or_eq_true, decide_eq_true_eq] at h
  obtain ((((((rfl | rfl) | rfl) | rfl) | rfl) | rfl) | rfl) | rfl := h <;>
    simp [Joins] <;> decide

theorem ends_name (hne : w ≠ []) (hw : ∀ c ∈ w, isNameChar c = true) (hr : stops rest = true)
    (hdo : w = "DO".toList → parts rest = true) : Ends (vocabulary g) w rest := by
  intro u hu hpre
  refine classify_eq_none.mpr (fun k hk hmem => ?_)
  obtain ⟨c, v, rfl⟩ := List.exists_cons_of_ne_nil hu
  obtain ⟨r, rfl⟩ := hpre
  obtain ⟨hw', he⟩ | ⟨rfl, -⟩ := mem_after_name hk hne hw (not_joins hr) hmem
  · have hp := hdo hw'
    rw [List.cons_append, ← List.cons_append, he] at hp
    cases hp
  · cases hr

theorem ends_before_quote (hne : w ≠ []) (hw : ∀ c ∈ w, isNameChar c = true)
    (hradix : isRadix w = false) : Ends (vocabulary g) w (singleQuote :: rest) := by
  intro u hu hpre
  refine classify_eq_none.mpr (fun k hk hmem => ?_)
  obtain ⟨c, v, rfl⟩ := List.exists_cons_of_ne_nil hu
  obtain ⟨r, hr⟩ := hpre
  obtain ⟨rfl, -⟩ := List.cons.inj hr
  have hjoins : ¬ Joins singleQuote := by
    simp only [Joins]
    decide
  obtain ⟨-, he⟩ | ⟨-, hw'⟩ := mem_after_name hk hne hw hjoins hmem
  · cases (List.cons.inj he).1
  · rw [hradix] at hw'
    cases hw'

theorem name_of_keyword {k : Keyword} (h : kindOf g w = some (.keyword k)) :
    (∀ c ∈ w, isNameChar c = true) ∧ w ≠ "DO".toList := by
  obtain ⟨hk, hmem⟩ := kind_mem h
  obtain ⟨-, hall, -, hdo, -⟩ := keyword_text g k (keyword_mem.mp hk)
  have he := mem_anyCase.mp hmem
  constructor
  · intro c hc
    have hup : c.toUpper ∈ k.text.toList := by
      rw [← he]
      exact List.mem_map_of_mem hc
    exact isNameChar_of_toUpper (List.all_eq_true.mp hall _ hup)
  · rintro rfl
    exact hdo (String.toList_inj.mp he.symm)

theorem lex_keyword {k : Keyword} (h : kindOf g w = some (.keyword k)) (hr : stops rest = true) :
    lex g (w ++ rest) = w :: lex g rest := by
  obtain ⟨hw, hdo⟩ := name_of_keyword h
  exact lex_append h (by simp) (ends_name (leaf_ne_nil h) hw hr (fun he => absurd he hdo))

theorem lex_kw {k : Keyword} (h : k ∈ keywords g) (hr : stops rest = true) :
    lex g (kw k ++ rest) = kw k :: lex g rest := lex_keyword (kindOf_kw h) hr

theorem lex_word (hw : ∀ c ∈ w, isNameChar c = true) (hstart : ∃ c ∈ w, isNameStart c = true)
    (hdo : w ≠ "DO".toList) (hr : stops rest = true) :
    lex g (w ++ rest) = w :: lex g rest := by
  have hidentifier : .identifier ∈ (vocabulary g).kinds := by
    cases g <;> simp [vocabulary, literals]
  have hmem : w ∈ Kind.identifier.pattern.lang :=
    Or.inl (mem_plainIdentifier.mpr ⟨hw, hstart⟩)
  obtain ⟨k, h, -, hk'⟩ := exists_kind hidentifier hmem
  refine lex_append h ?_ (ends_name (leaf_ne_nil h) hw hr (fun he => absurd he hdo))
  rintro rfl
  obtain ⟨c, hc, -⟩ := hstart
  have hn := hw c hc
  rw [isNameChar_isBlank ((Pattern.mem_plus_cls.mp hk').2 c hc)] at hn
  cases hn

theorem lex_int (h : kindOf g w = some .int) (hr : stops rest = true) :
    lex g (w ++ rest) = w :: lex g rest := by
  have hd := (Pattern.mem_plus_cls.mp (kind_mem h).2).2
  have hw : ∀ c ∈ w, isNameChar c = true := by
    intro c hc
    rw [isNameChar, hd c hc, Bool.or_true]
  refine lex_append h (by decide) (ends_name (leaf_ne_nil h) hw hr ?_)
  rintro rfl
  cases hd 'D' List.mem_cons_self

theorem ends_quoted {b : List Char} (hne : b ≠ []) (hb : ∀ c ∈ b, c ≠ backQuote) :
    Ends (vocabulary g) (backQuote :: (b ++ [backQuote])) rest := by
  intro u hu hpre
  refine classify_eq_none.mpr (fun k hk hmem => ?_)
  obtain he | ⟨-, hq⟩ := mem_backQuote hk hmem
  · simp at he
  · obtain ⟨b', -, hb', he⟩ := mem_quotedIdentifier.mp hq
    have he' : b ++ backQuote :: u = b' ++ [backQuote] := by
      simpa using he
    obtain ⟨a, rfl, ha⟩ | ⟨a, rfl, ha⟩ := List.append_eq_append_iff.mp he'
    · cases a with
      | nil => exact hu (List.cons.inj ha).2
      | cons c a => exact hb' c (by simp) (List.cons.inj ha).1.symm
    · have hlen := congrArg List.length ha
      simp only [List.length_append, List.length_cons, List.length_nil] at hlen
      exact hu (List.length_eq_zero_iff.mp (by omega))

theorem kindOf_quotedIdentifier {b : List Char} (hne : b ≠ []) (hb : ∀ c ∈ b, c ≠ backQuote) :
    kindOf g (backQuote :: (b ++ [backQuote])) = some .identifier := by
  have hmem : backQuote :: (b ++ [backQuote]) ∈ Kind.identifier.pattern.lang :=
    Or.inr (mem_quotedIdentifier.mpr ⟨b, hne, hb, rfl⟩)
  have hidentifier : .identifier ∈ (vocabulary g).kinds := by
    cases g <;> simp [vocabulary, literals]
  obtain ⟨k, h, hk, hk'⟩ := exists_kind hidentifier hmem
  obtain he | ⟨rfl, -⟩ := mem_backQuote hk hk'
  · simp at he
  · exact h

theorem lex_identifier (h : kindOf g w = some .identifier) (hr : parts rest = true) :
    lex g (w ++ rest) = w :: lex g rest := by
  refine lex_append h (by decide) ?_
  obtain hp | hq := (kind_mem h).2
  · exact ends_name (leaf_ne_nil h) (mem_plainIdentifier.mp hp).1 (stops_of_parts hr) (fun _ => hr)
  · obtain ⟨b, hne, hb, rfl⟩ := mem_quotedIdentifier.mp hq
    exact ends_quoted hne hb

end Names

section Strings

variable {g : Grammar} {w rest : List Char}

theorem string_cases (h : kindOf g w = some .string) :
    ∃ q b, (q = doubleQuote ∨ q = singleQuote) ∧ Body q b ∧ w = q :: (b ++ [q]) := by
  obtain hd | hs := (kind_mem h).2
  · obtain ⟨b, hb, he⟩ := mem_quoted.mp hd
    exact ⟨doubleQuote, b, Or.inl rfl, hb, he⟩
  · obtain ⟨b, hb, he⟩ := mem_quoted.mp hs
    exact ⟨singleQuote, b, Or.inr rfl, hb, he⟩

theorem ends_string {q : Char} {b : List Char} (hq : q = doubleQuote ∨ q = singleQuote)
    (hb : Body q b) (hr : rest.head? ≠ some q) :
    Ends (vocabulary g) (q :: (b ++ [q])) rest := by
  have hslash : q ≠ backSlash := by
    obtain rfl | rfl := hq <;> decide
  intro u hu hpre
  refine classify_eq_none.mpr (fun k hk hmem => ?_)
  obtain he | ⟨-, hmem⟩ := mem_quote hk hq hmem
  · simp at he
  · obtain ⟨b', hb', he⟩ := mem_quoted.mp hmem
    have he' : b ++ q :: u = b' ++ [q] := by
      simpa using he
    obtain rfl | hhead := body_ends hslash hb b' u hb' he'
    · exact hu rfl
    · obtain ⟨r, rfl⟩ := hpre
      obtain ⟨c, v, rfl⟩ := List.exists_cons_of_ne_nil hu
      exact hr hhead

theorem kindOf_quoted {q : Char} {b : List Char} (hq : q = doubleQuote ∨ q = singleQuote)
    (hb : Body q b) : kindOf g (q :: (b ++ [q])) = some .string := by
  have hmem : q :: (b ++ [q]) ∈ Kind.string.pattern.lang := by
    obtain rfl | rfl := hq
    · exact Or.inl (mem_quoted.mpr ⟨b, hb, rfl⟩)
    · exact Or.inr (mem_quoted.mpr ⟨b, hb, rfl⟩)
  have hstring : .string ∈ (vocabulary g).kinds := by
    cases g <;> simp [vocabulary, literals]
  obtain ⟨k, h, hk, hk'⟩ := exists_kind hstring hmem
  obtain he | ⟨rfl, -⟩ := mem_quote hk hq hk'
  · simp at he
  · exact h

def closes : List Char → Bool
  | [] => true
  | c :: _ => c ≠ doubleQuote && c ≠ singleQuote

theorem lex_string (h : kindOf g w = some .string) (hr : closes rest = true) :
    lex g (w ++ rest) = w :: lex g rest := by
  obtain ⟨q, b, hq, hb, rfl⟩ := string_cases h
  refine lex_append h (by decide) (ends_string hq hb ?_)
  intro hhead
  cases rest with
  | nil => cases hhead
  | cons c rest =>
    obtain rfl : c = q := Option.some.inj hhead
    simp only [closes, Bool.and_eq_true, decide_eq_true_eq] at hr
    obtain rfl | rfl := hq
    · exact hr.1 rfl
    · exact hr.2 rfl

end Strings

section Signs

variable {g : Grammar} {rest : List Char}

/-- The symbols of several characters that begin with this one go on with `d`. -/
def Continues (c d : Char) : Prop :=
  ∀ s ∈ Symbol.all, ∀ t ∈ s.texts, t.toList.head? = some c → ∀ e ∈ t.toList.tail.head?, e = d

instance (c d : Char) : Decidable (Continues c d) :=
  decidable_of_iff (∀ s ∈ Symbol.all, ∀ t ∈ s.texts, t.toList.head? = some c →
    t.toList.tail.head?.all (fun e => decide (e = d)) = true)
    (by simp only [Continues, Option.all_eq_true, decide_eq_true_eq, Option.mem_def])

theorem lex_sign {c d : Char} {s : Symbol} (hk : kindOf g [c] = some (.symbol s))
    (hc : isSign c = true) (hd : Continues c d) (hr : rest.head? ≠ some d) :
    lex g (c :: rest) = [c] :: lex g rest := by
  refine lex_append hk (by simp) ?_
  intro u hu hpre
  refine classify_eq_none.mpr (fun k hk hmem => ?_)
  obtain ⟨s, rfl⟩ := mem_sign hk hc hmem
  obtain ⟨t, ht, he⟩ := mem_symbol.mp hmem
  obtain ⟨e, v, rfl⟩ := List.exists_cons_of_ne_nil hu
  have hnext := hd s (mem_all s) t ht (by rw [← he]; rfl) e (by rw [← he]; rfl)
  obtain ⟨r, rfl⟩ := hpre
  exact hr (congrArg some hnext)

theorem lex_single {c : Char} {s : Symbol} (hk : kindOf g [c] = some (.symbol s))
    (hc : isSign c = true)
    (hd : ∀ s ∈ Symbol.all, ∀ t ∈ s.texts, t.toList.head? = some c → t.toList.tail = []) :
    lex g (c :: rest) = [c] :: lex g rest := by
  refine lex_append hk (by simp) ?_
  intro u hu hpre
  refine classify_eq_none.mpr (fun k hk hmem => ?_)
  obtain ⟨s, rfl⟩ := mem_sign hk hc hmem
  obtain ⟨t, ht, he⟩ := mem_symbol.mp hmem
  have htail := hd s (mem_all s) t ht (by rw [← he]; rfl)
  rw [← he] at htail
  exact hu htail

@[simp] theorem lex_lp : lex g ('(' :: rest) = ['('] :: lex g rest :=
  lex_single kindOf_lp (by decide) (by decide)

@[simp] theorem lex_rp : lex g (')' :: rest) = [')'] :: lex g rest :=
  lex_single kindOf_rp (by decide) (by decide)

@[simp] theorem lex_comma : lex g (',' :: rest) = [','] :: lex g rest :=
  lex_single kindOf_comma (by decide) (by decide)

@[simp] theorem lex_semi : lex g (';' :: rest) = [';'] :: lex g rest :=
  lex_single kindOf_semi (by decide) (by decide)

theorem lex_eq (h : rest.head? ≠ some '=') : lex g ('=' :: rest) = ['='] :: lex g rest :=
  lex_sign kindOf_eq (by decide) (d := '=') (by decide) h

theorem lex_minus (h : rest.head? ≠ some '>') : lex g ('-' :: rest) = ['-'] :: lex g rest :=
  lex_sign kindOf_minus (by decide) (d := '>') (by decide) h

end Signs

section Blanks

variable {g : Grammar}

theorem lex_dropWhile (cs : List Char) : lex g cs = lex g (cs.dropWhile isBlank) := by
  by_cases hne : cs.takeWhile isBlank = []
  · have h := List.takeWhile_append_dropWhile (p := isBlank) (l := cs)
    rw [hne, List.nil_append] at h
    rw [h]
  · have hall : ∀ c ∈ cs.takeWhile isBlank, isBlank c = true :=
      List.all_eq_true.mp (List.all_takeWhile)
    have hends : Ends (vocabulary g) (cs.takeWhile isBlank) (cs.dropWhile isBlank) := by
      intro u hu hpre
      refine classify_eq_none.mpr (fun k hk hmem => ?_)
      obtain ⟨c, w, hw⟩ := List.exists_cons_of_ne_nil hne
      have hws : k = .ws := by
        rw [hw] at hmem
        exact mem_blank hk (hall c (by rw [hw]; exact List.mem_cons_self)) hmem
      subst hws
      obtain ⟨d, v, rfl⟩ := List.exists_cons_of_ne_nil hu
      have hd := (Pattern.mem_plus_cls.mp hmem).2 d (by simp)
      obtain ⟨r, hr⟩ := hpre
      have hhead := List.head?_dropWhile_not isBlank cs
      rw [← hr] at hhead
      simp [hd] at hhead
    have h := tokens_append_skipped (v := vocabulary g) (kindOf_blank hne hall) rfl hne hends
    rw [List.takeWhile_append_dropWhile] at h
    rw [lex, lex]
    exact h

@[simp] theorem lex_blank (rest : List Char) : lex g (' ' :: rest) = lex g rest := by
  rw [lex_dropWhile, lex_dropWhile rest]
  rfl

end Blanks

section Heads

variable {g : Grammar} {k : Kind} {c : Char} {w : List Char}

theorem not_kind (h : ¬ First k c) : kindOf g (c :: w) ≠ some k := by
  intro hk
  obtain ⟨hmem, hlang⟩ := kind_mem hk
  exact h (first_of_mem hmem hlang)

theorem head_ne (l : Leaf g k) (rest : List Char) (h : ¬ First k c) :
    (l.1 ++ rest).head? ≠ some c := by
  obtain ⟨_ | ⟨d, v⟩, hl⟩ := l
  · exact absurd rfl (leaf_ne_nil hl)
  · intro he
    obtain rfl : d = c := Option.some.inj he
    exact not_kind h hl

theorem lex_head (hc : isBlank c = false) (cs : List Char) :
    ∃ w ws, lex g (c :: cs) = (c :: w) :: ws := by
  have hstep := lexemes_step (v := vocabulary g) (List.cons_ne_nil c cs)
  obtain ⟨n, hn⟩ := Nat.exists_eq_succ_of_ne_zero
    (longest_pos (v := vocabulary g) (c :: cs) (c :: cs).length).ne'
  rw [hn, List.take_succ_cons] at hstep
  have hskip : (!skipped (vocabulary g) (c :: cs.take n)) = true := by
    rw [Bool.not_eq_true', skipped, Option.any_eq_false]
    intro k hk
    refine decide_eq_false ?_
    rintro rfl
    refine not_kind ?_ hk
    rw [First, hc]
    exact Bool.false_ne_true
  exact ⟨cs.take n, _, by rw [lex, tokens, hstep, List.filter_cons, if_pos hskip]⟩

end Heads

end ShardingOnCloud.Distsql.Lexing
