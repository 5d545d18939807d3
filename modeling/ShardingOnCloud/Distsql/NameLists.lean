import ShardingOnCloud.Distsql.Phrases

namespace ShardingOnCloud.Distsql.NameLists

open ShardingOnCloud.Lib.Descent
open ShardingOnCloud.Distsql.Ast ShardingOnCloud.Distsql.BaseRule ShardingOnCloud.Distsql.Phrases
open ShardingOnCloud.Distsql.Tokens hiding literal
open ShardingOnCloud.Distsql.Lexing ShardingOnCloud.Distsql.Reading

section Statements

def dropShardingTableRule := listing .sharding "DROP SHARDING TABLE RULE "
  [.drop, .sharding, .table, .rule] (ifExistsClause .sharding) (namePhrase .sharding)

def dropShardingTableReferenceRule := listing .sharding "DROP SHARDING TABLE REFERENCE RULE "
  [.drop, .sharding, .table, .reference, .rule] (ifExistsClause .sharding) (namePhrase .sharding)

def createBroadcastTableRule := listing .sharding "CREATE BROADCAST TABLE RULE "
  [.create, .broadcast, .table, .rule] (ifNotExistsClause .sharding) (namePhrase .sharding)

def dropBroadcastTableRule := listing .sharding "DROP BROADCAST TABLE RULE "
  [.drop, .broadcast, .table, .rule] (ifExistsClause .sharding) (namePhrase .sharding)

def dropShardingKeyGenerator := listing .sharding "DROP SHARDING KEY GENERATOR "
  [.drop, .sharding, .key, .generator] (ifExistsClause .sharding) (namePhrase .sharding)

def dropShardingAuditor := listing .sharding "DROP SHARDING AUDITOR "
  [.drop, .sharding, .auditor] (ifExistsClause .sharding) (namePhrase .sharding)

def dropReadwriteSplittingRule := listing .readWriteSplitting "DROP READWRITE_SPLITTING RULE "
  [.drop, .readwriteSplitting, .rule] (ifExistsClause .readWriteSplitting)
  (namePhrase .readWriteSplitting)

def dropShadowRule := listing .shadow "DROP SHADOW RULE "
  [.drop, .shadow, .rule] (ifExistsClause .shadow) (namePhrase .shadow)

def dropShadowAlgorithm := listing .shadow "DROP SHADOW ALGORITHM "
  [.drop, .shadow, .algorithm] (ifExistsClause .shadow) (namePhrase .shadow)

structure TableReferenceRuleDefinitionContext where
  ruleName : Leaf .sharding .identifier
  tableNames : Many (Leaf .sharding .identifier)

structure TableReferenceRuleDefinition where
  ruleName : CommonIdentifier
  allTableName : List CommonIdentifier
  deriving DecidableEq, Repr

def visitTableReferenceRuleDefinition (ctx : TableReferenceRuleDefinitionContext) :
    TableReferenceRuleDefinition :=
  ⟨visitName ctx.ruleName, ctx.tableNames.toList.map visitName⟩

def TableReferenceRuleDefinition.toString (t : TableReferenceRuleDefinition) : String :=
  t.ruleName.toString ++ " (" ++ join (t.allTableName.map CommonIdentifier.toString) ++ ")"

def tableReferenceRuleDefinition :
    Phrase TableReferenceRuleDefinitionContext TableReferenceRuleDefinition where
  visit := visitTableReferenceRuleDefinition
  toString _ t := some t.toString
  rule := do
    let ruleName ← name
    skip .sharding (.symbol .lp)
    let tableNames ← commaList .sharding name
    skip .sharding (.symbol .rp)
    return ⟨ruleName, tableNames⟩

def createShardingTableReferenceRule := listing .sharding "CREATE SHARDING TABLE REFERENCE RULE "
  [.create, .sharding, .table, .reference, .rule] (ifNotExistsClause .sharding)
  tableReferenceRuleDefinition

def alterShardingTableReferenceRule := bareListing .sharding
  "ALTER SHARDING TABLE REFERENCE RULE " "" [.alter, .sharding, .table, .reference, .rule]
  tableReferenceRuleDefinition

end Statements

section Definitions

def definitionText (c : TableReferenceRuleDefinitionContext) : List Char :=
  c.ruleName.1 ++ ' ' :: '(' :: ((join ((c.tableNames.toList.map visitName).map
    CommonIdentifier.toString)).toList ++ [')'])

theorem tableReferenceRuleDefinition_reads : tableReferenceRuleDefinition.Reads .sharding
    (fun c => some (definitionText c)) some where
  prints n c := by
    refine congrArg some ?_
    simp [tableReferenceRuleDefinition, visitTableReferenceRuleDefinition,
      TableReferenceRuleDefinition.toString, definitionText]
  reads := by
    intro c s rest hs hr
    obtain rfl := Option.some.inj hs
    have htext : definitionText c ++ rest = c.ruleName.1 ++ ' ' :: '(' ::
        ((join ((c.tableNames.toList.map visitName).map CommonIdentifier.toString)).toList ++
          ')' :: rest) := by
      simp [definitionText]
    rw [htext, lex_name c.ruleName rfl, lex_blank, lex_lp, tableReferenceRuleDefinition]
    simp only [Parser.run_bind, name, run_leaf, Option.bind_some, run_skip_cons, kindOf_lp, if_true]
    change ((commaList .sharding name).run _).bind _ = _
    rw [run_names c.tableNames rfl (by simp), lex_rp]
    simp
  starts := by
    intro c s rest hs hr
    obtain rfl := Option.some.inj hs
    rw [definitionText, List.append_assoc, lex_name c.ruleName rfl]
    simp

end Definitions

/-- The statements that list names come back as they were read. -/
theorem name_lists_round_trip :
    (∀ t, dropShardingTableRule.RoundTrips .sharding t) ∧
    (∀ t, createShardingTableReferenceRule.RoundTrips .sharding t) ∧
    (∀ t, alterShardingTableReferenceRule.RoundTrips .sharding t) ∧
    (∀ t, dropShardingTableReferenceRule.RoundTrips .sharding t) ∧
    (∀ t, createBroadcastTableRule.RoundTrips .sharding t) ∧
    (∀ t, dropBroadcastTableRule.RoundTrips .sharding t) ∧
    (∀ t, dropShardingKeyGenerator.RoundTrips .sharding t) ∧
    (∀ t, dropShardingAuditor.RoundTrips .sharding t) ∧
    (∀ t, dropReadwriteSplittingRule.RoundTrips .readWriteSplitting t) ∧
    (∀ t, dropShadowRule.RoundTrips .shadow t) ∧
    (∀ t, dropShadowAlgorithm.RoundTrips .shadow t) := by
  have hdrop : ∀ (g : Grammar) (before : String) (ks : List Keyword),
      before.toList = headerText ks → (∀ k ∈ ks, k ∈ keywords g) →
      ∀ t, (listing g before ks (ifExistsClause g) (namePhrase g)).RoundTrips g t := by
    intro g before ks hbefore hks t
    exact (listing_roundTrips name_reads ifExistsClause_reads hbefore hks t).mpr
      (fun x _ => returns_of_some x)
  refine ⟨hdrop _ _ _ (by decide +kernel) (by decide), ?_, ?_,
    hdrop _ _ _ (by decide +kernel) (by decide), ?_,
    hdrop _ _ _ (by decide +kernel) (by decide), hdrop _ _ _ (by decide +kernel) (by decide),
    hdrop _ _ _ (by decide +kernel) (by decide), hdrop _ _ _ (by decide +kernel) (by decide),
    hdrop _ _ _ (by decide +kernel) (by decide), hdrop _ _ _ (by decide +kernel) (by decide)⟩
  · intro t
    exact (listing_roundTrips tableReferenceRuleDefinition_reads ifNotExistsClause_reads
      (by decide +kernel) (by decide) t).mpr (fun x _ => returns_of_some x)
  · intro t
    exact (bareListing_roundTrips tableReferenceRuleDefinition_reads (fun _ => rfl) (Or.inl rfl)
      (by decide) t).mpr (fun x _ => returns_of_some x)
  · intro t
    exact (listing_roundTrips name_reads ifNotExistsClause_reads (by decide +kernel) (by decide)
      t).mpr (fun x _ => returns_of_some x)

end ShardingOnCloud.Distsql.NameLists
