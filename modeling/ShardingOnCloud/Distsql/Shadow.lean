import ShardingOnCloud.Distsql.Phrases

namespace ShardingOnCloud.Distsql.Shadow

open ShardingOnCloud.Lib.Descent
open ShardingOnCloud.Distsql.Ast ShardingOnCloud.Distsql.BaseRule ShardingOnCloud.Distsql.Phrases
open ShardingOnCloud.Distsql.Tokens hiding literal
open ShardingOnCloud.Distsql.Lexing ShardingOnCloud.Distsql.Reading

section Ast

structure ShadowTableRule where
  tableName : CommonIdentifier
  allAlgorithmDefinition : List AlgorithmDefinition
  deriving DecidableEq, Repr

def ShadowTableRule.toString (s : ShadowTableRule) : String :=
  s.tableName.toString ++ " (" ++ join (s.allAlgorithmDefinition.map AlgorithmDefinition.toString) ++
    ")"

structure ShadowRuleDefinition where
  ruleName : CommonIdentifier
  source : CommonIdentifier
  shadow : CommonIdentifier
  allShadowTableRule : List ShadowTableRule
  deriving DecidableEq, Repr

/-- Where the source should be printed, the whole definition is. -/
def ShadowRuleDefinition.toString (s : ShadowRuleDefinition) : ℕ → Option String
  | 0 => none
  | n + 1 => do
    let source ← s.toString n
    return s.ruleName.toString ++ " (" ++ " SOURCE = " ++ source ++ ", " ++
      " SHADOW = " ++ s.shadow.toString ++ ", " ++ " " ++
      join (s.allShadowTableRule.map ShadowTableRule.toString) ++ ")"

def pointerText (i : IfNotExists) : String := "&\x7b" ++ i.ifNotExists ++ "\x7d"

end Ast

section Trees

def buildInShadowAlgorithmType : List Keyword := [.valueMatch, .regexMatch, .sqlHint]

abbrev ShadowAlgorithmContext := AlgorithmDefinitionContext .shadow buildInShadowAlgorithmType

structure ShadowTableRuleContext where
  tableName : Leaf .shadow .identifier
  algorithmDefinitions : Many ShadowAlgorithmContext

structure ShadowRuleDefinitionContext where
  ruleName : Leaf .shadow .identifier
  source : Leaf .shadow .identifier
  shadow : Leaf .shadow .identifier
  shadowTableRules : Many ShadowTableRuleContext

structure CreateDefaultShadowAlgorithmContext where
  ifNotExists : Option (IfNotExistsContext .shadow)
  algorithmDefinition : ShadowAlgorithmContext

structure CreateDefaultShadowAlgorithm where
  ifNotExists : Option IfNotExists
  algorithmDefinition : AlgorithmDefinition
  deriving DecidableEq, Repr

def visitShadowTableRule (ctx : ShadowTableRuleContext) : ShadowTableRule :=
  ⟨visitName ctx.tableName, ctx.algorithmDefinitions.toList.map visitAlgorithmDefinition⟩

def visitShadowRuleDefinition (ctx : ShadowRuleDefinitionContext) : ShadowRuleDefinition where
  ruleName := visitName ctx.ruleName
  source := visitName ctx.source
  shadow := visitName ctx.shadow
  allShadowTableRule := ctx.shadowTableRules.toList.map visitShadowTableRule

end Trees

section Rules

def shadowTableRule : TokenParser ShadowTableRuleContext := do
  let tableName ← name
  skip .shadow (.symbol .lp)
  let algorithmDefinitions ← commaList .shadow algorithmDefinition
  skip .shadow (.symbol .rp)
  return ⟨tableName, algorithmDefinitions⟩

def shadowRuleDefinition : TokenParser ShadowRuleDefinitionContext := do
  let ruleName ← name
  skip .shadow (.symbol .lp)
  skip .shadow (.keyword .source)
  skip .shadow (.symbol .eq)
  let source ← name
  skip .shadow (.symbol .comma)
  skip .shadow (.keyword .shadow)
  skip .shadow (.symbol .eq)
  let shadow ← name
  skip .shadow (.symbol .comma)
  let shadowTableRules ← commaList .shadow shadowTableRule
  skip .shadow (.symbol .rp)
  return ⟨ruleName, source, shadow, shadowTableRules⟩

def createShadowRule : Phrase (Listed (IfNotExistsContext .shadow) (Many ShadowRuleDefinitionContext))
    (Listed IfNotExists (List ShadowRuleDefinition)) where
  visit t := ⟨t.clause.map visitIfNotExists, t.items.toList.map visitShadowRuleDefinition⟩
  toString n s := do
    let rules ← s.items.mapM (fun r => r.toString n)
    return "CREATE SHADOW RULE" ++ orEmpty (fun i => " " ++ pointerText i) s.clause ++ " " ++
      join rules
  rule := do
    header .shadow [.create, .shadow, .rule]
    let clause ← .opt (ahead .shadow [.keyword .ifKw]) ifNotExists
    let items ← commaList .shadow shadowRuleDefinition
    return ⟨clause, items⟩

def alterShadowRule : Phrase (Many ShadowRuleDefinitionContext) (List ShadowRuleDefinition) where
  visit t := t.toList.map visitShadowRuleDefinition
  toString n s := do
    let rules ← s.mapM (fun r => r.toString n)
    return "ALTER SHADOW RULE " ++ join rules
  rule := do
    header .shadow [.alter, .shadow, .rule]
    commaList .shadow shadowRuleDefinition

/-- Without the clause a method is called on `nil`. -/
def createDefaultShadowAlgorithm :
    Phrase CreateDefaultShadowAlgorithmContext CreateDefaultShadowAlgorithm where
  visit t := ⟨t.ifNotExists.map visitIfNotExists, visitAlgorithmDefinition t.algorithmDefinition⟩
  toString _ s := do
    let ifNotExists ← s.ifNotExists
    return "CREATE DEFAULT SHADOW ALGORITHM " ++ ifNotExists.toString ++ " " ++
      s.algorithmDefinition.toString
  rule := do
    header .shadow [.create, .default, .shadow, .algorithm]
    let clause ← .opt (ahead .shadow [.keyword .ifKw]) ifNotExists
    let algorithm ← algorithmDefinition
    return ⟨clause, algorithm⟩

def alterDefaultShadowAlgorithm : Phrase ShadowAlgorithmContext AlgorithmDefinition where
  visit := visitAlgorithmDefinition
  toString _ s := some ("ALTER DEFAULT SHADOW ALGORITHM " ++ s.toString)
  rule := do
    header .shadow [.alter, .default, .shadow, .algorithm]
    algorithmDefinition

/-- Here too a method is called on `nil` if there is no clause. -/
def dropDefaultShadowAlgorithm : Phrase (Option (IfExistsContext .shadow)) (Option IfExists) where
  visit := Option.map visitIfExists
  toString _ s := do
    let ifExists ← s
    return "DROP DEFAULT SHADOW ALGORITHM " ++ ifExists.toString
  rule := do
    header .shadow [.drop, .default, .shadow, .algorithm]
    .opt (ahead .shadow [.keyword .ifKw]) ifExists

end Rules

section RoundTrips

theorem toString_diverges (s : ShadowRuleDefinition) (n : ℕ) : s.toString n = none := by
  induction n with
  | zero => rfl
  | succ n ih => rw [ShadowRuleDefinition.toString, ih]; rfl

theorem mapM_diverges (xs : Many ShadowRuleDefinitionContext) (n : ℕ) :
    (xs.toList.map visitShadowRuleDefinition).mapM (fun r => r.toString n) = none := by
  rw [Many.toList, List.map_cons, List.mapM_cons, toString_diverges]
  rfl

theorem createShadowRule_lost (t : Listed (IfNotExistsContext .shadow)
    (Many ShadowRuleDefinitionContext)) : ¬ createShadowRule.RoundTrips .shadow t := by
  rintro ⟨n, s, hs, -⟩
  obtain ⟨rules, hrules, -⟩ := Option.bind_eq_some_iff.mp hs
  cases (mapM_diverges t.items n).symm.trans hrules

theorem alterShadowRule_lost (t : Many ShadowRuleDefinitionContext) :
    ¬ alterShadowRule.RoundTrips .shadow t := by
  rintro ⟨n, s, hs, -⟩
  obtain ⟨rules, hrules, -⟩ := Option.bind_eq_some_iff.mp hs
  cases (mapM_diverges t n).symm.trans hrules

theorem run_algorithm (a : ShadowAlgorithmContext) :
    algorithmDefinition.run (lex .shadow (algorithmText a)) =
      (Option.guard printable a).map (fun a => (a, [])) := by
  have h : algorithmDefinition.run (lex .shadow (algorithmText a ++ [])) = _ :=
    run_algorithmDefinition a
  rw [List.append_nil, lex_nil] at h
  exact h

theorem alterDefaultShadowAlgorithm_roundTrips (t : ShadowAlgorithmContext) :
    alterDefaultShadowAlgorithm.RoundTrips .shadow t ↔ printable t = true := by
  refine roundTrips_guard (headerText [.alter, .default, .shadow, .algorithm] ++ algorithmText t)
    printable ?_ ?_
  · intro n
    refine congrArg some ?_
    rw [← algorithm_text, String.toList_append]
    rfl
  · rw [alterDefaultShadowAlgorithm, Parser.run_bind, run_header (by decide), Option.bind_some,
      run_algorithm]

theorem createDefaultShadowAlgorithm_roundTrips (t : CreateDefaultShadowAlgorithmContext) :
    createDefaultShadowAlgorithm.RoundTrips .shadow t ↔
      t.ifNotExists ≠ none ∧ printable t.algorithmDefinition = true := by
  obtain ⟨_ | i, a⟩ := t
  · constructor
    · rintro ⟨n, s, hs, -⟩
      cases hs
    · rintro ⟨h, -⟩
      exact absurd rfl h
  · have hguard : Option.guard (fun t => printable t.algorithmDefinition)
        (⟨some i, a⟩ : CreateDefaultShadowAlgorithmContext) =
          (Option.guard printable a).map (fun a => ⟨some i, a⟩) := by
      cases h : printable a <;> simp [Option.guard, h]
    have hstarts : ahead .shadow [.keyword .ifKw] (lex .shadow (algorithmText a)) = false := by
      rw [algorithmText, lex_kw (by decide) rfl]
      simp [kindOf_kw (g := .shadow) (k := .type) (by decide)]
    have hclause := run_clause (ifNotExistsClause_reads (g := .shadow)) (some i) hstarts
    have hclause_text : (orEmpty (ifNotExistsClause .shadow).toString
        ((some i).map (ifNotExistsClause .shadow).visit)).toList =
          (visitIfNotExists i).toString.toList := rfl
    have hclause_rule : (ifNotExistsClause .shadow).rule = ifNotExists := rfl
    rw [hclause_text, hclause_rule] at hclause
    rw [and_iff_right (Option.some_ne_none i)]
    refine roundTrips_guard (headerText [.create, .default, .shadow, .algorithm] ++
      ((visitIfNotExists i).toString.toList ++ ' ' :: algorithmText a))
      (fun t : CreateDefaultShadowAlgorithmContext => printable t.algorithmDefinition) ?_ ?_
    · intro n
      refine congrArg some ?_
      rw [← algorithm_text]
      simp [createDefaultShadowAlgorithm, headerText, kw, Keyword.text]
    · rw [createDefaultShadowAlgorithm, Parser.run_bind_some (run_header (by decide)),
        Parser.run_bind_some hclause, hguard, Parser.run_bind, run_algorithm]
      cases Option.guard printable a <;> rfl

/-- No rule definition is printed; a default algorithm is lost with its clause or in the list
of its properties. -/
theorem shadow_round_trips
    (rules : Listed (IfNotExistsContext .shadow) (Many ShadowRuleDefinitionContext))
    (altered : Many ShadowRuleDefinitionContext) (t : CreateDefaultShadowAlgorithmContext)
    (u : ShadowAlgorithmContext) :
    ¬ createShadowRule.RoundTrips .shadow rules ∧
    ¬ alterShadowRule.RoundTrips .shadow altered ∧
    (createDefaultShadowAlgorithm.RoundTrips .shadow t ↔
      t.ifNotExists ≠ none ∧ printable t.algorithmDefinition = true) ∧
    (alterDefaultShadowAlgorithm.RoundTrips .shadow u ↔ printable u = true) :=
  ⟨createShadowRule_lost rules, alterShadowRule_lost altered,
    createDefaultShadowAlgorithm_roundTrips t, alterDefaultShadowAlgorithm_roundTrips u⟩

def valueMatch : ShadowAlgorithmContext :=
  ⟨.buildin .valueMatch (by decide) (keywordLeaf _ .valueMatch (by decide)), none⟩

def shadowedTable : ShadowRuleDefinitionContext where
  ruleName := quotedName _ 'r' r_ne_backQuote
  source := quotedName _ 's' (by decide)
  shadow := quotedName _ 'd' d_ne_backQuote
  shadowTableRules := ⟨⟨quotedName _ 't' t_ne_backQuote, ⟨valueMatch, []⟩⟩, []⟩

theorem shadowedTable_is_lost :
    ¬ createShadowRule.RoundTrips .shadow ⟨none, ⟨shadowedTable, []⟩⟩ :=
  createShadowRule_lost _

end RoundTrips

end ShardingOnCloud.Distsql.Shadow
