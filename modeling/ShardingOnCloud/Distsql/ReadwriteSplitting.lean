import ShardingOnCloud.Distsql.Phrases

namespace ShardingOnCloud.Distsql.ReadwriteSplitting

open ShardingOnCloud.Lib.Descent
open ShardingOnCloud.Distsql.Ast ShardingOnCloud.Distsql.BaseRule ShardingOnCloud.Distsql.Phrases
open ShardingOnCloud.Distsql.Tokens hiding literal
open ShardingOnCloud.Distsql.Lexing ShardingOnCloud.Distsql.Reading

section Ast

structure WriteStorageUnitName where
  storageUnitName : CommonIdentifier
  deriving DecidableEq, Repr

structure WriteStorageUnit where
  writeStorageUnitName : WriteStorageUnitName
  deriving DecidableEq, Repr

structure ReadStorageUnitsNames where
  allStorageUnitName : List CommonIdentifier
  deriving DecidableEq, Repr

structure ReadStorageUnits where
  readStorageUnitsNames : ReadStorageUnitsNames
  deriving DecidableEq, Repr

structure DataSourceDefinition where
  writeStorageUnit : WriteStorageUnit
  readStorageUnits : ReadStorageUnits
  deriving DecidableEq, Repr

structure TransactionalReadQueryStrategyName where
  string : String
  deriving DecidableEq, Repr

structure TransactionalReadQueryStrategy where
  transactionalReadQueryStrategyName : TransactionalReadQueryStrategyName
  deriving DecidableEq, Repr

structure ReadWriteSplittingRuleDefinition where
  ruleName : CommonIdentifier
  dataSourceDefinition : DataSourceDefinition
  transactionalReadQueryStrategy : Option TransactionalReadQueryStrategy
  algorithmDefinition : Option AlgorithmDefinition
  deriving DecidableEq, Repr

def WriteStorageUnitName.toString (w : WriteStorageUnitName) : String :=
  w.storageUnitName.toString

def WriteStorageUnit.toString (w : WriteStorageUnit) : String :=
  "WRITE_STORAGE_UNIT = " ++ w.writeStorageUnitName.toString

def ReadStorageUnitsNames.toString (r : ReadStorageUnitsNames) : String :=
  join (r.allStorageUnitName.map CommonIdentifier.toString)

def ReadStorageUnits.toString (r : ReadStorageUnits) : String :=
  "READ_STORAGE_UNITS (" ++ r.readStorageUnitsNames.toString ++ ")"

def DataSourceDefinition.toString (d : DataSourceDefinition) : String :=
  d.writeStorageUnit.toString ++ ", " ++ d.readStorageUnits.toString

def TransactionalReadQueryStrategyName.toString (t : TransactionalReadQueryStrategyName) : String :=
  t.string

/-- Neither the keyword nor the sign before the name is printed. -/
def TransactionalReadQueryStrategy.toString (t : TransactionalReadQueryStrategy) : String :=
  t.transactionalReadQueryStrategyName.toString

def ReadWriteSplittingRuleDefinition.toString (r : ReadWriteSplittingRuleDefinition) : String :=
  r.ruleName.toString ++ " (" ++ r.dataSourceDefinition.toString ++ " " ++
    orEmpty TransactionalReadQueryStrategy.toString r.transactionalReadQueryStrategy ++ " " ++
    orEmpty AlgorithmDefinition.toString r.algorithmDefinition ++ ")"

end Ast

section Trees

def buildInReadQueryLoadBalanceAlgorithmType : List Keyword := [.roundRobin, .random, .weight]

structure DataSourceDefinitionContext where
  writeStorageUnitName : Leaf .readWriteSplitting .identifier
  readStorageUnitsNames : Many (Leaf .readWriteSplitting .identifier)

structure ReadwriteSplittingRuleDefinitionContext where
  ruleName : Leaf .readWriteSplitting .identifier
  dataSourceDefinition : DataSourceDefinitionContext
  transactionalReadQueryStrategy : Option (Leaf .readWriteSplitting .string)
  algorithmDefinition : Option
    (AlgorithmDefinitionContext .readWriteSplitting buildInReadQueryLoadBalanceAlgorithmType)

def visitDataSourceDefinition (ctx : DataSourceDefinitionContext) : DataSourceDefinition :=
  ⟨⟨⟨visitName ctx.writeStorageUnitName⟩⟩,
    ⟨⟨ctx.readStorageUnitsNames.toList.map visitName⟩⟩⟩

def visitTransactionalReadQueryStrategy (ctx : Leaf .readWriteSplitting .string) :
    TransactionalReadQueryStrategy := ⟨⟨text ctx⟩⟩

def visitReadwriteSplittingRuleDefinition (ctx : ReadwriteSplittingRuleDefinitionContext) :
    ReadWriteSplittingRuleDefinition where
  ruleName := visitName ctx.ruleName
  dataSourceDefinition := visitDataSourceDefinition ctx.dataSourceDefinition
  transactionalReadQueryStrategy :=
    ctx.transactionalReadQueryStrategy.map visitTransactionalReadQueryStrategy
  algorithmDefinition := ctx.algorithmDefinition.map visitAlgorithmDefinition

end Trees

section Rules

def dataSourceDefinition : TokenParser DataSourceDefinitionContext := do
  skip .readWriteSplitting (.keyword .writeStorageUnit)
  skip .readWriteSplitting (.symbol .eq)
  let writeStorageUnitName ← name
  skip .readWriteSplitting (.symbol .comma)
  skip .readWriteSplitting (.keyword .readStorageUnits)
  skip .readWriteSplitting (.symbol .lp)
  let readStorageUnitsNames ← commaList .readWriteSplitting name
  skip .readWriteSplitting (.symbol .rp)
  return ⟨writeStorageUnitName, readStorageUnitsNames⟩

def transactionalReadQueryStrategy : TokenParser (Leaf .readWriteSplitting .string) := do
  skip .readWriteSplitting (.keyword .transactionalReadQueryStrategy)
  skip .readWriteSplitting (.symbol .eq)
  leaf .readWriteSplitting .string

def readwriteSplittingRuleDefinition :
    Phrase ReadwriteSplittingRuleDefinitionContext ReadWriteSplittingRuleDefinition where
  visit := visitReadwriteSplittingRuleDefinition
  toString _ r := some r.toString
  rule := do
    let ruleName ← name
    skip .readWriteSplitting (.symbol .lp)
    let dataSourceDefinition ← dataSourceDefinition
    let strategy ← commaOpt .readWriteSplitting .transactionalReadQueryStrategy
      transactionalReadQueryStrategy
    let algorithm ← commaOpt .readWriteSplitting .type algorithmDefinition
    skip .readWriteSplitting (.symbol .rp)
    return ⟨ruleName, dataSourceDefinition, strategy, algorithm⟩

def createReadwriteSplittingRule := listing .readWriteSplitting "CREATE READWRITE_SPLITTING RULE "
  [.create, .readwriteSplitting, .rule] (ifNotExistsClause .readWriteSplitting)
  readwriteSplittingRuleDefinition

def alterReadwriteSplittingRule := bareListing .readWriteSplitting
  "ALTER READWRITE_SPLITTING RULE " "" [.alter, .readwriteSplitting, .rule]
  readwriteSplittingRuleDefinition

end Rules

section Reading

variable {rest : List Char}

def dataSourceText (c : DataSourceDefinitionContext) : List Char :=
  kw .writeStorageUnit ++ ' ' :: '=' :: ' ' :: (c.writeStorageUnitName.1 ++ ',' :: ' ' ::
    (kw .readStorageUnits ++ ' ' :: '(' :: ((join ((c.readStorageUnitsNames.toList.map
      visitName).map CommonIdentifier.toString)).toList ++ [')'])))

theorem dataSource_format (write read : String) :
    ("WRITE_STORAGE_UNIT = " ++ write ++ ", " ++ ("READ_STORAGE_UNITS (" ++ read ++ ")")).toList =
      kw .writeStorageUnit ++ ' ' :: '=' :: ' ' :: (write.toList ++ ',' :: ' ' ::
        (kw .readStorageUnits ++ ' ' :: '(' :: (read.toList ++ [')']))) := by
  simp [kw, Keyword.text]

theorem dataSource_text (c : DataSourceDefinitionContext) :
    (visitDataSourceDefinition c).toString.toList = dataSourceText c := by
  have h := dataSource_format (visitName c.writeStorageUnitName).toString
    (join ((c.readStorageUnitsNames.toList.map visitName).map CommonIdentifier.toString))
  rw [name_text] at h
  exact h

theorem run_dataSourceDefinition (c : DataSourceDefinitionContext) :
    dataSourceDefinition.run (lex .readWriteSplitting (dataSourceText c ++ rest)) =
      some (c, lex .readWriteSplitting rest) := by
  have htext : dataSourceText c ++ rest = kw .writeStorageUnit ++ ' ' :: '=' :: ' ' ::
      (c.writeStorageUnitName.1 ++ ',' :: ' ' :: (kw .readStorageUnits ++ ' ' :: '(' ::
        ((join ((c.readStorageUnitsNames.toList.map visitName).map
          CommonIdentifier.toString)).toList ++ ')' :: rest))) := by
    simp [dataSourceText]
  have hwrite : Keyword.writeStorageUnit ∈ keywords .readWriteSplitting := by decide
  have hread : Keyword.readStorageUnits ∈ keywords .readWriteSplitting := by decide
  rw [htext, lex_kw hwrite rfl, lex_blank, lex_eq (by simp), lex_blank,
    lex_name c.writeStorageUnitName rfl, lex_comma, lex_blank, lex_kw hread rfl, lex_blank, lex_lp]
  simp only [dataSourceDefinition, Parser.run_bind, run_skip_cons, kindOf_kw hwrite,
    kindOf_kw hread, kindOf_eq, kindOf_comma, kindOf_lp, if_true, Option.bind_some, name, run_leaf]
  change ((commaList .readWriteSplitting name).run _).bind _ = _
  rw [run_names c.readStorageUnitsNames rfl (by simp), lex_rp]
  simp

def strategyText : Option (Leaf .readWriteSplitting .string) → List Char
  | some l => l.1
  | none => []

def optAlgorithmText {g : Grammar} {types : List Keyword} :
    Option (AlgorithmDefinitionContext g types) → List Char
  | some a => algorithmText a
  | none => []

def ruleText (c : ReadwriteSplittingRuleDefinitionContext) : List Char :=
  c.ruleName.1 ++ ' ' :: '(' :: (dataSourceText c.dataSourceDefinition ++ ' ' ::
    (strategyText c.transactionalReadQueryStrategy ++ ' ' ::
      (optAlgorithmText c.algorithmDefinition ++ [')'])))

theorem rule_text (c : ReadwriteSplittingRuleDefinitionContext) :
    (visitReadwriteSplittingRuleDefinition c).toString.toList = ruleText c := by
  obtain ⟨ruleName, dataSource, strategy, algorithm⟩ := c
  have hstrategy : (orEmpty TransactionalReadQueryStrategy.toString
      (strategy.map visitTransactionalReadQueryStrategy)).toList = strategyText strategy := by
    cases strategy with
    | none => rfl
    | some l => exact toList_text l
  have halgorithm : (orEmpty AlgorithmDefinition.toString
      (algorithm.map visitAlgorithmDefinition)).toList = optAlgorithmText algorithm := by
    cases algorithm with
    | none => rfl
    | some a => exact algorithm_text a
  simp [visitReadwriteSplittingRuleDefinition, ReadWriteSplittingRuleDefinition.toString, ruleText,
    dataSource_text, hstrategy, halgorithm]

/-- A rule comes back without its optional parts only. -/
def bare (c : ReadwriteSplittingRuleDefinitionContext) : Bool :=
  c.transactionalReadQueryStrategy.isNone && c.algorithmDefinition.isNone

theorem run_options (strategy : Option (Leaf .readWriteSplitting .string))
    (algorithm : Option
      (AlgorithmDefinitionContext .readWriteSplitting buildInReadQueryLoadBalanceAlgorithmType))
    (rest : List Char) :
    ahead .readWriteSplitting [.symbol .comma] (lex .readWriteSplitting (strategyText strategy ++
      ' ' :: (optAlgorithmText algorithm ++ ')' :: rest))) = false ∧
    ahead .readWriteSplitting [.symbol .rp] (lex .readWriteSplitting (strategyText strategy ++
      ' ' :: (optAlgorithmText algorithm ++ ')' :: rest))) =
        (strategy.isNone && algorithm.isNone) := by
  cases strategy with
  | some l =>
    rw [strategyText, lex_string l.2 rfl]
    simp
  | none =>
    rw [strategyText, List.nil_append, lex_blank]
    cases algorithm with
    | none =>
      rw [optAlgorithmText, List.nil_append, lex_rp]
      simp
    | some a =>
      have htype : Keyword.type ∈ keywords .readWriteSplitting := by decide
      rw [optAlgorithmText, algorithmText, List.append_assoc, lex_kw htype rfl]
      simp [htype]

theorem readwriteSplittingRuleDefinition_reads : readwriteSplittingRuleDefinition.Reads
    .readWriteSplitting (fun c => some (ruleText c)) (Option.guard bare) where
  prints n c := congrArg some (rule_text c)
  reads := by
    intro c s rest hs hr
    obtain rfl := Option.some.inj hs
    obtain ⟨ruleName, dataSource, strategy, algorithm⟩ := c
    have htext : ruleText ⟨ruleName, dataSource, strategy, algorithm⟩ ++ rest =
        ruleName.1 ++ ' ' :: '(' :: (dataSourceText dataSource ++ ' ' :: (strategyText strategy ++
          ' ' :: (optAlgorithmText algorithm ++ ')' :: rest))) := by
      simp [ruleText]
    obtain ⟨hcomma, hrp⟩ := run_options strategy algorithm rest
    rw [htext, lex_name ruleName rfl, lex_blank, lex_lp, readwriteSplittingRuleDefinition]
    simp only [Parser.run_bind, name, run_leaf, Option.bind_some, run_skip_cons, kindOf_lp, if_true,
      run_dataSourceDefinition, lex_blank, run_commaOpt_neg hcomma]
    change _ = (Option.guard bare ⟨ruleName, dataSource, strategy, algorithm⟩).map _
    cases hbare : bare ⟨ruleName, dataSource, strategy, algorithm⟩ with
    | true =>
      obtain ⟨hs, ha⟩ := (Bool.and_eq_true _ _).mp hbare
      obtain rfl := Option.isNone_iff_eq_none.mp hs
      obtain rfl := Option.isNone_iff_eq_none.mp ha
      rw [strategyText, List.nil_append, lex_blank, optAlgorithmText, List.nil_append, lex_rp]
      simp [Option.guard, bare]
    | false =>
      rw [run_skip_ahead (hrp.trans hbare)]
      simp [Option.guard, hbare]
  starts := by
    intro c s rest hs hr
    obtain rfl := Option.some.inj hs
    rw [ruleText, List.append_assoc, lex_name c.ruleName rfl]
    simp

end Reading

section RoundTrips

theorem returns_bare (x : ReadwriteSplittingRuleDefinitionContext) :
    readwriteSplittingRuleDefinition.Returns (fun c => some (ruleText c)) (Option.guard bare) x ↔
      x.transactionalReadQueryStrategy = none ∧ x.algorithmDefinition = none := by
  have hbare : bare x = true ↔
      x.transactionalReadQueryStrategy = none ∧ x.algorithmDefinition = none := by
    rw [bare, Bool.and_eq_true, Option.isNone_iff_eq_none, Option.isNone_iff_eq_none]
  rw [← hbare]
  constructor
  · rintro ⟨-, y, hy, -⟩
    exact (Option.guard_eq_some_iff.mp hy).2
  · intro h
    exact ⟨rfl, x, Option.guard_eq_some_iff.mpr ⟨rfl, h⟩, rfl⟩

theorem create_roundTrips (t : Listed (IfNotExistsContext .readWriteSplitting)
      (Many ReadwriteSplittingRuleDefinitionContext)) :
    createReadwriteSplittingRule.RoundTrips .readWriteSplitting t ↔ ∀ x ∈ t.items.toList,
      x.transactionalReadQueryStrategy = none ∧ x.algorithmDefinition = none := by
  rw [createReadwriteSplittingRule, listing_roundTrips readwriteSplittingRuleDefinition_reads
    ifNotExistsClause_reads rfl (by decide)]
  exact forall₂_congr (fun x _ => returns_bare x)

theorem alter_roundTrips (t : Many ReadwriteSplittingRuleDefinitionContext) :
    alterReadwriteSplittingRule.RoundTrips .readWriteSplitting t ↔ ∀ x ∈ t.toList,
      x.transactionalReadQueryStrategy = none ∧ x.algorithmDefinition = none := by
  rw [alterReadwriteSplittingRule, bareListing_roundTrips readwriteSplittingRuleDefinition_reads
    (fun _ => rfl) (Or.inl rfl) (by decide)]
  exact forall₂_congr (fun x _ => returns_bare x)

/-- The optional parts of a rule are what keeps it from being read back. -/
theorem readwrite_splitting_round_trips (t : Listed (IfNotExistsContext .readWriteSplitting)
      (Many ReadwriteSplittingRuleDefinitionContext))
    (u : Many ReadwriteSplittingRuleDefinitionContext) :
    (createReadwriteSplittingRule.RoundTrips .readWriteSplitting t ↔ ∀ x ∈ t.items.toList,
      x.transactionalReadQueryStrategy = none ∧ x.algorithmDefinition = none) ∧
    (alterReadwriteSplittingRule.RoundTrips .readWriteSplitting u ↔ ∀ x ∈ u.toList,
      x.transactionalReadQueryStrategy = none ∧ x.algorithmDefinition = none) :=
  ⟨create_roundTrips t, alter_roundTrips u⟩

/-- A rule with `TYPE(NAME=RANDOM)` for its load balancing. -/
def balancedRule : ReadwriteSplittingRuleDefinitionContext where
  ruleName := quotedName _ 'r' r_ne_backQuote
  dataSourceDefinition := ⟨quotedName _ 'w' (by decide), ⟨quotedName _ 'd' d_ne_backQuote, []⟩⟩
  transactionalReadQueryStrategy := none
  algorithmDefinition := some
    ⟨.buildin .random (by decide) (keywordLeaf _ .random (by decide)), none⟩

theorem balancedRule_is_lost :
    ¬ createReadwriteSplittingRule.RoundTrips .readWriteSplitting ⟨none, ⟨balancedRule, []⟩⟩ := by
  rw [create_roundTrips]
  intro h
  cases (h balancedRule List.mem_cons_self).2

end RoundTrips

end ShardingOnCloud.Distsql.ReadwriteSplitting
