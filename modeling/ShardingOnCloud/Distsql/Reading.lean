import ShardingOnCloud.Distsql.BaseRule
import ShardingOnCloud.Distsql.Lexing

namespace ShardingOnCloud.Distsql.Reading

open ShardingOnCloud.Lib.Patterns ShardingOnCloud.Lib.Lexer ShardingOnCloud.Lib.Descent
open ShardingOnCloud.Distsql.Ast ShardingOnCloud.Distsql.BaseRule
open ShardingOnCloud.Distsql.Tokens hiding literal
open ShardingOnCloud.Distsql.Shapes ShardingOnCloud.Distsql.Lexing

section Tokens

variable {g : Grammar} {k k' : Kind} {w : List Char} {ws : List (List Char)}

@[simp] theorem run_skip_cons : (skip g k).run (w :: ws) =
    if kindOf g w = some k then some ((), ws) else none := by
  rw [skip, Parser.run_token_cons]
  split <;> rfl

@[simp] theorem run_skip_nil : (skip g k).run [] = none := rfl

@[simp] theorem run_leaf (l : Leaf g k) : (leaf g k).run (l.1 :: ws) = some (l, ws) := by
  rw [leaf, Parser.run_token_cons, dif_pos l.2]
  rfl

theorem run_leaf_none (h : kindOf g w ≠ some k) : (leaf g k).run (w :: ws) = none := by
  rw [leaf, Parser.run_token_cons, dif_neg h]
  rfl

@[simp] theorem ahead_nil (ws : List (List Char)) : ahead g [] ws = true := by
  cases ws <;> rfl

@[simp] theorem ahead_cons (ks : List Kind) : ahead g (k :: ks) (w :: ws) =
    (decide (kindOf g w = some k) && ahead g ks ws) := rfl

@[simp] theorem ahead_end (ks : List Kind) : ahead g (k :: ks) [] = false := rfl

theorem run_commaOpt_neg {α : Type} {p : TokenParser α} {k : Keyword}
    (h : ahead g [.symbol .comma] ws = false) : (commaOpt g k p).run ws = some (none, ws) := by
  refine Parser.run_opt_neg ?_
  cases ws with
  | nil => rfl
  | cons w ws =>
    rw [ahead_cons, ahead_nil, Bool.and_true] at h
    rw [ahead_cons, h, Bool.false_and]

attribute [simp] kindOf_lp kindOf_rp kindOf_comma kindOf_semi kindOf_eq kindOf_minus kindOf_kw

theorem comma_comma : comma g [','] = some () := by
  simp [comma]

@[simp] theorem toList_text (l : Leaf g k) : (text l).toList = l.1 := String.toList_ofList

end Tokens

section Steps

variable {g : Grammar} {k k' : Keyword} {rest : List Char} {α : Type} {p : TokenParser α}

theorem run_skip_kw (hk : k ∈ keywords g) (hr : stops rest = true) :
    (skip g (.keyword k)).run (lex g (kw k ++ rest)) = some ((), lex g rest) := by
  rw [lex_kw hk hr, run_skip_cons, if_pos (kindOf_kw hk)]

theorem run_skip_lp : (skip g (.symbol .lp)).run (lex g ('(' :: rest)) = some ((), lex g rest) := by
  rw [lex_lp, run_skip_cons, if_pos kindOf_lp]

theorem run_skip_rp : (skip g (.symbol .rp)).run (lex g (')' :: rest)) = some ((), lex g rest) := by
  rw [lex_rp, run_skip_cons, if_pos kindOf_rp]

theorem run_skip_comma :
    (skip g (.symbol .comma)).run (lex g (',' :: rest)) = some ((), lex g rest) := by
  rw [lex_comma, run_skip_cons, if_pos kindOf_comma]

theorem run_skip_eq (hr : rest.head? ≠ some '=') :
    (skip g (.symbol .eq)).run (lex g ('=' :: rest)) = some ((), lex g rest) := by
  rw [lex_eq hr, run_skip_cons, if_pos kindOf_eq]

theorem run_skip_other (hk : k ∈ keywords g) (hr : stops rest = true) (hne : k ≠ k') :
    (skip g (.keyword k')).run (lex g (kw k ++ rest)) = none := by
  rw [lex_kw hk hr, run_skip_cons, kindOf_kw hk, if_neg]
  simpa using hne

theorem run_commaOpt_pos (hk : k ∈ keywords g) (hr : stops rest = true) :
    (commaOpt g k p).run (lex g (',' :: (kw k ++ rest))) =
      (p.run (lex g (kw k ++ rest))).map (fun r => (some r.1, r.2)) := by
  have hahead : ahead g [.symbol .comma, .keyword k] (lex g (',' :: (kw k ++ rest))) = true := by
    rw [lex_comma, lex_kw hk hr]
    simp [hk]
  rw [commaOpt, Parser.run_opt_pos hahead, Parser.run_bind, run_skip_comma, Option.bind_some]

theorem run_commaOpt_other (hk : k ∈ keywords g) (hr : stops rest = true) (hne : k ≠ k') :
    (commaOpt g k' p).run (lex g (',' :: (kw k ++ rest))) =
      some (none, lex g (',' :: (kw k ++ rest))) := by
  refine Parser.run_opt_neg ?_
  rw [lex_comma, lex_kw hk hr]
  simp [hk, hne]

theorem run_commaOpt_rp :
    (commaOpt g k p).run (lex g (')' :: rest)) = some (none, lex g (')' :: rest)) :=
  run_commaOpt_neg (by simp)

end Steps

section Clauses

variable {g : Grammar} {rest : List Char}

theorem lex_leaf_keyword {k : Keyword} (l : Leaf g (.keyword k)) (hr : stops rest = true) :
    lex g (l.1 ++ rest) = l.1 :: lex g rest := lex_keyword l.2 hr

theorem lex_name (l : Leaf g .identifier) (hr : parts rest = true) :
    lex g (l.1 ++ rest) = l.1 :: lex g rest := lex_identifier l.2 hr

@[simp] theorem name_text (l : Leaf g .identifier) : (visitName l).toString.toList = l.1 :=
  toList_text l

def quotedName (g : Grammar) (c : Char) (hc : c ≠ backQuote) : Leaf g .identifier :=
  ⟨backQuote :: ([c] ++ [backQuote]), kindOf_quotedIdentifier (List.cons_ne_nil c []) (by simpa)⟩

theorem t_ne_backQuote : 't' ≠ backQuote := by decide

theorem c_ne_backQuote : 'c' ≠ backQuote := by decide

theorem r_ne_backQuote : 'r' ≠ backQuote := by decide

theorem d_ne_backQuote : 'd' ≠ backQuote := by decide

def keywordLeaf (g : Grammar) (k : Keyword) (h : k ∈ keywords g) : Leaf g (.keyword k) :=
  ⟨kw k, kindOf_kw h⟩

theorem run_ifExists (c : IfExistsContext g) (hr : stops rest = true) :
    ifExists.run (lex g ((visitIfExists c).toString.toList ++ rest)) = some (c, lex g rest) := by
  obtain ⟨i, e⟩ := c
  have htext : (visitIfExists ⟨i, e⟩).toString.toList ++ rest = i.1 ++ ' ' :: (e.1 ++ rest) := by
    simp [visitIfExists, IfExists.toString]
  rw [htext, lex_leaf_keyword i rfl, lex_blank, lex_leaf_keyword e hr]
  simp [ifExists]

theorem run_ifNotExists (c : IfNotExistsContext g) (hr : stops rest = true) :
    ifNotExists.run (lex g ((visitIfNotExists c).toString.toList ++ rest)) =
      some (c, lex g rest) := by
  obtain ⟨i, n, e⟩ := c
  have htext : (visitIfNotExists ⟨i, n, e⟩).toString.toList ++ rest =
      i.1 ++ ' ' :: (n.1 ++ ' ' :: (e.1 ++ rest)) := by
    simp [visitIfNotExists, IfNotExists.toString]
  rw [htext, lex_leaf_keyword i rfl, lex_blank, lex_leaf_keyword n rfl, lex_blank,
    lex_leaf_keyword e hr]
  simp [ifNotExists]

end Clauses

section Literals

variable {g : Grammar} {rest : List Char}

def literalText : LiteralContext g → List Char
  | .string l => l.1
  | .int (some minus) _ => minus.1
  | .int none l => l.1
  | .trueToken l => l.1
  | .falseToken l => l.1

theorem literal_text (v : LiteralContext g) : (visitLiteral v).toString.toList = literalText v := by
  obtain l | ⟨_ | m, l⟩ | l | l := v <;> exact toList_text _

def negative : LiteralContext g → Bool
  | .int (some _) _ => true
  | _ => false

theorem minus_text (l : Leaf g (.symbol .minus)) : l.1 = ['-'] := by
  obtain ⟨t, ht, he⟩ := mem_symbol.mp (kind_mem l.2).2
  rw [List.mem_singleton.mp ht] at he
  exact he

theorem run_literal_tokens {v : LiteralContext g} (hv : negative v = false)
    (ws : List (List Char)) : literal.run (literalText v :: ws) = some (v, ws) := by
  obtain l | ⟨_ | m, l⟩ | l | l := v
  · simp [literal, literalText]
  · simp [literal, literalText]
  · cases hv
  · simp [literal, literalText]
  · simp [literal, literalText]

theorem run_literal_negative {v : LiteralContext g} (hv : negative v = true) {c : Char}
    (hb : isBlank c = false) (hn : isNameChar c = false) (hgt : c ≠ '>') :
    (literal (g := g)).run (lex g (literalText v ++ c :: rest)) = none := by
  obtain l | ⟨_ | m, l⟩ | l | l := v
  · cases hv
  · cases hv
  · obtain ⟨w, ws, hlex⟩ := lex_head (g := g) hb rest
    have hint : kindOf g (c :: w) ≠ some .int := by
      refine not_kind ?_
      rw [First, hn]
      exact Bool.false_ne_true
    have hhead : (c :: rest).head? ≠ some '>' := fun he => hgt (Option.some.inj he)
    have hminus : (leaf g _).run (m.1 :: lex g (c :: rest)) = some (m, _) := run_leaf m
    rw [minus_text m, hlex] at hminus
    rw [literalText, minus_text m]
    change (literal (g := g)).run (lex g ('-' :: c :: rest)) = none
    rw [lex_minus hhead, hlex]
    simp [literal, hminus, run_leaf_none hint]
  · cases hv
  · cases hv

theorem lex_literal {v : LiteralContext g} (hv : negative v = false) (hr : stops rest = true)
    (hc : closes rest = true) :
    lex g (literalText v ++ rest) = literalText v :: lex g rest := by
  obtain l | ⟨_ | m, l⟩ | l | l := v
  · exact lex_string l.2 hc
  · exact lex_int l.2 hr
  · cases hv
  · exact lex_keyword l.2 hr
  · exact lex_keyword l.2 hr

/-- The tokens go on with neither a comma nor a closing parenthesis. -/
def Stuck (g : Grammar) (ws : List (List Char)) : Prop :=
  ahead g [.symbol .comma] ws = false ∧ ahead g [.symbol .rp] ws = false

theorem stuck_head {c : Char} (hb : isBlank c = false) (hcomma : c ≠ ',') (hrp : c ≠ ')') :
    Stuck g (lex g (c :: rest)) := by
  obtain ⟨w, ws, hlex⟩ := lex_head (g := g) hb rest
  have hfirst : ∀ s : Symbol, ∀ t : String, s.texts = [t] → t.toList.head? ≠ some c →
      kindOf g (c :: w) ≠ some (.symbol s) := by
    intro s t ht hne
    refine not_kind ?_
    rintro ⟨t', ht', he⟩
    rw [ht, List.mem_singleton] at ht'
    rw [ht'] at he
    exact hne he
  rw [Stuck, hlex, ahead_cons, ahead_cons,
    decide_eq_false (hfirst .comma "," rfl (fun he => hcomma (Option.some.inj he).symm)),
    decide_eq_false (hfirst .rp ")" rfl (fun he => hrp (Option.some.inj he).symm))]
  exact ⟨rfl, rfl⟩

theorem ends_before_string {w : List Char} (hne : w ≠ []) (hw : ∀ c ∈ w, isNameChar c = true)
    (hdo : w ≠ "DO".toList) (hradix : isRadix w = false) {q : Char}
    (hq : q = doubleQuote ∨ q = singleQuote) : Ends (vocabulary g) w (q :: rest) := by
  obtain rfl | rfl := hq
  · exact ends_name hne hw rfl (fun he => absurd he hdo)
  · exact ends_before_quote hne hw hradix

theorem isRadix_digits {w : List Char} (hw : ∀ c ∈ w, c.isDigit = true) : isRadix w = false := by
  rw [isRadix, Bool.or_eq_false_iff, decide_eq_false_iff_not, decide_eq_false_iff_not]
  constructor
  · rintro rfl
    cases hw 'X' List.mem_cons_self
  · intro h
    obtain ⟨c, rfl, hc⟩ := List.map_eq_singleton_iff.mp h
    have hd := hw c List.mem_cons_self
    delta Char.toUpper at hc
    split at hc
    · rename_i hlower
      simp only [Char.isDigit, Bool.and_eq_true, decide_eq_true_eq] at hd
      exact absurd (UInt32.le_trans hlower.1 hd.2) (by decide)
    · rw [hc] at hd
      cases hd

theorem isRadix_keyword {w : List Char} {s : String} (h : w.map Char.toUpper = s.toList)
    (hs : s.toList.length ≠ 1) : isRadix w = false := by
  rw [isRadix, Bool.or_eq_false_iff, decide_eq_false_iff_not, decide_eq_false_iff_not]
  have hlen := congrArg List.length h
  rw [List.length_map] at hlen
  constructor
  · rintro rfl
    exact hs hlen.symm
  · intro hb
    rw [← h, hb] at hs
    exact hs rfl

theorem literal_before_string {v : LiteralContext g} (k : Leaf g .string)
    {r : LiteralContext g × List (List Char)}
    (h : literal.run (lex g (literalText v ++ (k.1 ++ '=' :: rest))) = some r) :
    Stuck g r.2 := by
  obtain ⟨q, b, hq, hb, hk⟩ := string_cases k.2
  have hblank : isBlank q = false := by
    obtain rfl | rfl := hq <;> rfl
  have hstuck : Stuck g (lex g (k.1 ++ '=' :: rest)) := by
    rw [hk]
    refine stuck_head hblank ?_ ?_ <;> obtain rfl | rfl := hq <;> decide
  have hname : negative v = false →
      lex g (literalText v ++ (k.1 ++ '=' :: rest)) = literalText v :: lex g (k.1 ++ '=' :: rest) →
      Stuck g r.2 := by
    intro hv hlex
    rw [hlex, run_literal_tokens hv] at h
    obtain rfl := Option.some.inj h
    exact hstuck
  have hkeyword : ∀ (w : List Char) (k' : Keyword), kindOf g w = some (.keyword k') →
      k'.text.toList.length ≠ 1 →
      lex g (w ++ (k.1 ++ '=' :: rest)) = w :: lex g (k.1 ++ '=' :: rest) := by
    intro w k' hw hlen
    obtain ⟨hall, hdo⟩ := name_of_keyword hw
    refine lex_append hw (by simp) ?_
    rw [hk]
    exact ends_before_string (leaf_ne_nil hw) hall hdo
      (isRadix_keyword (mem_anyCase.mp (kind_mem hw).2) hlen) hq
  obtain l | ⟨_ | m, l⟩ | l | l := v
  · obtain ⟨q', b', hq', hb', hl⟩ := string_cases l.2
    by_cases hqq : q = q'
    · subst hqq
      have hstring : kindOf g (q :: ((b' ++ q :: q :: b) ++ [q])) = some .string :=
        kindOf_quoted hq (Pattern.star_append hb' (body_doubled hb))
      have htext : literalText (.string l) ++ (k.1 ++ '=' :: rest) =
          q :: ((b' ++ q :: q :: b) ++ [q]) ++ '=' :: rest := by
        rw [literalText, hl, hk]
        simp
      rw [htext, lex_string hstring rfl] at h
      have hrun := run_literal_tokens (v := .string ⟨_, hstring⟩) rfl (lex g ('=' :: rest))
      obtain rfl := Option.some.inj (h.symm.trans hrun)
      exact stuck_head rfl (by decide) (by decide)
    · refine hname rfl (lex_append l.2 (by decide) ?_)
      rw [literalText, hl, hk]
      exact ends_string hq' hb' (fun he => hqq (Option.some.inj he))
  · have hdigits := (Pattern.mem_plus_cls.mp (kind_mem l.2).2).2
    have hall : ∀ c ∈ l.1, isNameChar c = true := by
      intro c hc
      rw [isNameChar, hdigits c hc, Bool.or_true]
    have hdo : l.1 ≠ "DO".toList := by
      intro he
      rw [he] at hdigits
      cases hdigits 'D' List.mem_cons_self
    refine hname rfl (lex_append l.2 (by decide) ?_)
    rw [hk]
    exact ends_before_string (leaf_ne_nil l.2) hall hdo (isRadix_digits hdigits) hq
  · have hnone : (literal (g := g)).run (lex g (literalText (.int (some m) l) ++
        q :: (b ++ [q] ++ '=' :: rest))) = none :=
      run_literal_negative rfl hblank (by obtain rfl | rfl := hq <;> rfl)
        (by obtain rfl | rfl := hq <;> decide)
    rw [hk] at h
    exact absurd (h.symm.trans hnone) (by simp)
  · exact hname rfl (hkeyword l.1 .true l.2 (by decide))
  · exact hname rfl (hkeyword l.1 .false l.2 (by decide))

end Literals

section Properties

variable {g : Grammar} {rest : List Char}

theorem run_commaList_single {α : Type} {p : TokenParser α} {ts : List (List Char)}
    {r : α × List (List Char)} (hp : p.run ts = some r)
    (hr : ahead g [.symbol .comma] r.2 = false) :
    (commaList g p).run ts = some (⟨r.1, []⟩, r.2) := by
  rw [commaList, Parser.sepBy, Parser.run_bind, hp, Option.bind_some, Parser.run_bind,
    Parser.run_more_neg hr]
  rfl

theorem run_commaList_none {α : Type} {p : TokenParser α} {ts : List (List Char)}
    (hp : p.run ts = none) : (commaList g p).run ts = none := by
  rw [commaList, Parser.sepBy, Parser.run_bind, hp]
  rfl

theorem run_skip_ahead {k : Kind} {ws : List (List Char)} (h : ahead g [k] ws = false) :
    (skip g k).run ws = none := by
  cases ws with
  | nil => rfl
  | cons w ws =>
    rw [ahead_cons, ahead_nil, Bool.and_true] at h
    rw [run_skip_cons, if_neg (of_decide_eq_false h)]

def propertyText (p : PropertyContext g) : List Char := p.key.1 ++ '=' :: literalText p.value

theorem property_text (p : PropertyContext g) : (visitProperty p).toString.toList =
    propertyText p := by
  simp [visitProperty, Property.toString, propertyText, literal_text]

theorem literalText_head (v : LiteralContext g) : (literalText v ++ rest).head? ≠ some '=' := by
  obtain l | ⟨_ | m, l⟩ | l | l := v
  · exact head_ne l rest (by simp only [First]; decide)
  · exact head_ne l rest (by simp only [First]; decide)
  · exact head_ne m rest (by simp only [First]; decide)
  · exact head_ne l rest (by simp only [First]; decide)
  · exact head_ne l rest (by simp only [First]; decide)

theorem run_property_text (p : PropertyContext g) :
    property.run (lex g (propertyText p ++ rest)) =
      (literal.run (lex g (literalText p.value ++ rest))).map (fun r => (⟨p.key, r.1⟩, r.2)) := by
  have htext : propertyText p ++ rest = p.key.1 ++ '=' :: (literalText p.value ++ rest) := by
    simp [propertyText]
  rw [htext, lex_string p.key.2 rfl, lex_eq (literalText_head p.value)]
  simp only [property, Parser.run_bind, run_leaf, Option.bind_some, run_skip_cons, kindOf_eq,
    if_true]
  cases literal.run (lex g (literalText p.value ++ rest)) <;> rfl

/-- What is printed for a single property without a negative number is read back. -/
def readable (ps : Many (PropertyContext g)) : Bool :=
  ps.others.isEmpty && !negative ps.first.value

theorem run_properties (ps : Many (PropertyContext g)) (rest : List Char) :
    (do
      let properties ← commaList g property
      skip g (.symbol .rp)
      return properties : TokenParser _).run
        (lex g (ps.toList.flatMap propertyText ++ ')' :: rest)) =
      (Option.guard readable ps).map (fun ps => (ps, lex g rest)) := by
  obtain ⟨p, ps⟩ := ps
  rw [Parser.run_bind, Many.toList, List.flatMap_cons, List.append_assoc]
  cases ps with
  | nil =>
    rw [List.flatMap_nil, List.nil_append]
    cases hn : negative p.value with
    | true =>
      have hnone : (property (g := g)).run (lex g (propertyText p ++ ')' :: rest)) = none := by
        rw [run_property_text, run_literal_negative hn rfl rfl (by decide)]
        rfl
      rw [run_commaList_none hnone]
      simp [Option.guard, readable, hn]
    | false =>
      have hsome : property.run (lex g (propertyText p ++ ')' :: rest)) =
          some (p, lex g (')' :: rest)) := by
        rw [run_property_text, lex_literal hn rfl rfl, run_literal_tokens hn]
        rfl
      rw [run_commaList_single hsome (by simp)]
      simp [Option.guard, readable, hn]
  | cons p' ps =>
    have hguard : Option.guard readable (⟨p, p' :: ps⟩ : Many (PropertyContext g)) = none := by
      simp [Option.guard, readable]
    rw [hguard, List.flatMap_cons]
    have htext : propertyText p ++ (propertyText p' ++ ps.flatMap propertyText ++ ')' :: rest) =
        propertyText p ++ (p'.key.1 ++ '=' :: (literalText p'.value ++
          (ps.flatMap propertyText ++ ')' :: rest))) := by
      simp [propertyText]
    rw [htext]
    cases hrun : property.run (lex g (propertyText p ++ (p'.key.1 ++ '=' ::
        (literalText p'.value ++ (ps.flatMap propertyText ++ ')' :: rest))))) with
    | none =>
      rw [run_commaList_none hrun]
      rfl
    | some r =>
      have hstuck : Stuck g r.2 := by
        rw [run_property_text] at hrun
        obtain ⟨r', hr', rfl⟩ := Option.map_eq_some_iff.mp hrun
        exact literal_before_string p'.key hr'
      rw [run_commaList_single hrun hstuck.1, Option.bind_some, Parser.run_bind,
        run_skip_ahead hstuck.2]
      rfl

theorem keywords_of_algorithms (g : Grammar) : .type ∈ keywords g ∧ .name ∈ keywords g ∧
    .properties ∈ keywords g := by
  cases g <;> decide

theorem run_propertiesDefinition (ps : Many (PropertyContext g)) :
    propertiesDefinition.run
        (lex g (kw .properties ++ '(' :: (ps.toList.flatMap propertyText ++ ')' :: rest))) =
      (Option.guard readable ps).map (fun ps => (⟨some ps⟩, lex g rest)) := by
  obtain ⟨-, -, hkw⟩ := keywords_of_algorithms g
  have hahead : ahead g [.string] (lex g (ps.toList.flatMap propertyText ++ ')' :: rest)) =
      true := by
    have htext : ps.toList.flatMap propertyText ++ ')' :: rest = ps.first.key.1 ++ '=' ::
        (literalText ps.first.value ++ (ps.others.flatMap propertyText ++ ')' :: rest)) := by
      simp [Many.toList, propertyText]
    rw [htext, lex_string ps.first.key.2 rfl]
    simp
  rw [lex_kw hkw rfl, lex_lp]
  simp only [propertiesDefinition, Parser.run_bind, run_skip_cons, kindOf_kw hkw, kindOf_lp,
    if_true, Option.bind_some, Parser.run_opt_pos hahead]
  have hread := congrArg (Option.map (fun r : Many (PropertyContext g) × List (List Char) =>
    ((⟨some r.1⟩ : PropertiesDefinitionContext g), r.2))) (run_properties ps rest)
  rw [Option.map_map] at hread
  refine Eq.trans ?_ hread
  rw [Parser.run_bind]
  cases (commaList g property).run (lex g (ps.toList.flatMap propertyText ++ ')' :: rest)) with
  | none => rfl
  | some r =>
    simp only [Option.bind_some, Option.map_some, Parser.run_bind]
    cases (skip g (.symbol .rp)).run r.2 <;> rfl

end Properties

section Algorithms

variable {g : Grammar} {types : List Keyword} {rest : List Char}

def typeNameText : AlgorithmTypeNameContext g types → List Char
  | .string l => l.1
  | .buildin _ _ l => l.1

theorem typeName_text (c : AlgorithmTypeNameContext g types) :
    (visitAlgorithmTypeName c).toString.toList = typeNameText c := by
  obtain l | ⟨k, hk, l⟩ := c <;> exact toList_text l

theorem lex_typeName (c : AlgorithmTypeNameContext g types) (hr : stops rest = true)
    (hc : closes rest = true) : lex g (typeNameText c ++ rest) = typeNameText c :: lex g rest := by
  obtain l | ⟨k, hk, l⟩ := c
  · exact lex_string l.2 hc
  · exact lex_keyword l.2 hr

theorem typeName_head (c : AlgorithmTypeNameContext g types) :
    (typeNameText c ++ rest).head? ≠ some '=' := by
  obtain l | ⟨k, hk, l⟩ := c
  · exact head_ne l rest (by simp only [First]; decide)
  · exact head_ne l rest (by simp only [First]; decide)

theorem typeNameOf_text (c : AlgorithmTypeNameContext g types) :
    typeNameOf types (typeNameText c) = some c := by
  obtain l | ⟨k, hk, l⟩ := c
  · rw [typeNameText, typeNameOf]
    split
    · rfl
    · rename_i k h
      cases h.symm.trans l.2
    · rename_i h _
      exact absurd l.2 h
  · rw [typeNameText, typeNameOf]
    split
    · rename_i h
      cases h.symm.trans l.2
    · rename_i k' h
      obtain rfl : k' = k := by
        cases h.symm.trans l.2
        rfl
      rw [dif_pos hk]
    · rename_i _ h
      exact absurd l.2 (h k)

def propertiesText : Option (PropertiesDefinitionContext g) → List Char
  | none => []
  | some ⟨none⟩ => [',']
  | some ⟨some ps⟩ => ',' :: (kw .properties ++ '(' :: (ps.toList.flatMap propertyText ++ [')']))

def algorithmText (a : AlgorithmDefinitionContext g types) : List Char :=
  kw .type ++ '(' :: (kw .name ++ '=' :: (typeNameText a.algorithmTypeName ++
    (propertiesText a.propertiesDefinition ++ [')'])))

theorem toList_properties (ps : List (PropertyContext g)) (s : String) :
    ((ps.map visitProperty).foldl (fun sql property => sql ++ property.toString) s).toList =
      s.toList ++ ps.flatMap propertyText := by
  induction ps generalizing s with
  | nil => simp
  | cons p ps ih =>
    rw [List.map_cons, List.foldl_cons, ih, List.flatMap_cons, String.toList_append, property_text,
      List.append_assoc]

theorem properties_text (p : Option (PropertiesDefinitionContext g)) :
    (orEmpty (fun p => "," ++ p.toString) (p.map visitPropertiesDefinition)).toList =
      propertiesText p := by
  obtain _ | ⟨_ | ps⟩ := p
  · rfl
  · simp [orEmpty, visitPropertiesDefinition, PropertiesDefinition.toString, propertiesText]
  · have hps := toList_properties ps.toList ""
    simp only [String.toList_empty, List.nil_append] at hps
    simp [orEmpty, visitPropertiesDefinition, PropertiesDefinition.toString, visitProperties,
      Properties.toString, propertiesText, hps, kw, Keyword.text]

theorem algorithm_text (a : AlgorithmDefinitionContext g types) :
    (visitAlgorithmDefinition a).toString.toList = algorithmText a := by
  simp [visitAlgorithmDefinition, AlgorithmDefinition.toString, algorithmText, properties_text,
    typeName_text, kw, Keyword.text]

/-- The algorithms that are read back: an empty list of properties is printed as nothing
after a comma, and two properties without anything between them. -/
def printable (a : AlgorithmDefinitionContext g types) : Bool :=
  match a.propertiesDefinition with
  | none => true
  | some ⟨none⟩ => false
  | some ⟨some ps⟩ => readable ps

theorem run_algorithmDefinition (a : AlgorithmDefinitionContext g types) :
    algorithmDefinition.run (lex g (algorithmText a ++ rest)) =
      (Option.guard printable a).map (fun a => (a, lex g rest)) := by
  obtain ⟨htype, hname, hkw⟩ := keywords_of_algorithms g
  obtain ⟨typeName, properties⟩ := a
  have htext : algorithmText ⟨typeName, properties⟩ ++ rest = kw .type ++ '(' :: (kw .name ++
      '=' :: (typeNameText typeName ++ (propertiesText properties ++ ')' :: rest))) := by
    simp [algorithmText]
  have hstops : stops (propertiesText properties ++ ')' :: rest) = true := by
    obtain _ | ⟨_ | ps⟩ := properties <;> rfl
  have hcloses : closes (propertiesText properties ++ ')' :: rest) = true := by
    obtain _ | ⟨_ | ps⟩ := properties <;> rfl
  rw [htext, lex_kw htype rfl, lex_lp, lex_kw hname rfl, lex_eq (typeName_head typeName),
    lex_typeName typeName hstops hcloses]
  simp only [algorithmDefinition, algorithmTypeName, Parser.run_bind, run_skip_cons,
    kindOf_kw htype, kindOf_lp, kindOf_kw hname, kindOf_eq, if_true, Option.bind_some,
    Parser.run_token_cons, typeNameOf_text, Option.map_some]
  obtain _ | ⟨_ | ps⟩ := properties
  · rw [propertiesText, List.nil_append, lex_rp, Parser.run_opt_neg (by simp)]
    simp [Option.guard, printable]
  · rw [propertiesText, List.singleton_append, lex_comma, Parser.run_opt_pos (by simp), lex_rp]
    simp [Option.guard, printable, propertiesDefinition]
  · have htail : propertiesText (some ⟨some ps⟩) ++ ')' :: rest = ',' :: (kw .properties ++
        '(' :: (ps.toList.flatMap propertyText ++ ')' :: ')' :: rest)) := by
      simp [propertiesText]
    rw [htail, lex_comma, Parser.run_opt_pos (by simp), Parser.run_bind, run_skip_cons,
      if_pos kindOf_comma, Option.bind_some, run_propertiesDefinition]
    cases hps : readable ps with
    | true => simp [Option.guard, printable, hps]
    | false => simp [Option.guard, printable, hps]

end Algorithms

end ShardingOnCloud.Distsql.Reading
