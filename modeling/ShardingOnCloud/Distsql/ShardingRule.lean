import ShardingOnCloud.Distsql.Phrases

namespace ShardingOnCloud.Distsql.ShardingRule

open ShardingOnCloud.Lib.Descent
open ShardingOnCloud.Distsql.Ast ShardingOnCloud.Distsql.BaseRule ShardingOnCloud.Distsql.Phrases
open ShardingOnCloud.Distsql.Tokens hiding literal

section Ast

structure BuildInCommon where
  string : String
  deriving DecidableEq, Repr

def BuildInCommon.toString (b : BuildInCommon) : String := b.string

structure ShardingAlgorithmTypeName where
  string : String := ""
  buildInShardingAlgorithmType : Option BuildInCommon := none
  buildInKeyGenerateAlgorithmType : Option BuildInCommon := none
  buildInShardingAuditAlgorithmType : Option BuildInCommon := none
  deriving DecidableEq, Repr

def ShardingAlgorithmTypeName.toString (s : ShardingAlgorithmTypeName) : String :=
  if s.string ≠ "" then s.string
  else orEmpty BuildInCommon.toString (s.buildInShardingAlgorithmType <|>
    s.buildInKeyGenerateAlgorithmType <|> s.buildInShardingAuditAlgorithmType)

structure ShardingAlgorithmDefinition where
  shardingAlgorithmTypeName : ShardingAlgorithmTypeName
  propertiesDefinition : Option PropertiesDefinition
  deriving DecidableEq, Repr

def ShardingAlgorithmDefinition.toString (s : ShardingAlgorithmDefinition) : String :=
  "TYPE ( NAME = " ++ s.shardingAlgorithmTypeName.toString ++ " ," ++
    orEmpty PropertiesDefinition.toString s.propertiesDefinition ++ ")"

structure StorageUnit where
  string : String := ""
  identifier : String := ""
  deriving DecidableEq, Repr

def StorageUnit.toString (s : StorageUnit) : String :=
  if s.string ≠ "" then s.string else s.identifier

structure StorageUnits where
  allStorageUnit : List StorageUnit
  deriving DecidableEq, Repr

def StorageUnits.toString (s : StorageUnits) : String :=
  "STORAGE_UNITS (" ++ join (s.allStorageUnit.map StorageUnit.toString) ++ ")"

structure DataNodes where
  allDataNode : List CommonIdentifier
  deriving DecidableEq, Repr

def DataNodes.toString (d : DataNodes) : String :=
  "DATANODES(" ++ join (d.allDataNode.map CommonIdentifier.toString) ++ ")"

structure ShardingColumn where
  columnName : CommonIdentifier
  deriving DecidableEq, Repr

def ShardingColumn.toString (s : ShardingColumn) : String :=
  "SHARDING_COLUMN EQ_ " ++ s.columnName.toString

structure ShardingColumns where
  columnName : CommonIdentifier
  allColumnName : List CommonIdentifier
  deriving DecidableEq, Repr

/-- The first column is one of all columns, and is printed twice. -/
def ShardingColumns.toString (s : ShardingColumns) : String :=
  "SHARDING_COLUMNS = " ++ s.columnName.toString ++ "," ++
    join (s.allColumnName.map CommonIdentifier.toString)

structure ShardingColumnDefinition where
  shardingColumn : Option ShardingColumn := none
  shardingColumns : Option ShardingColumns := none
  deriving DecidableEq, Repr

def ShardingColumnDefinition.toString (s : ShardingColumnDefinition) : String :=
  match s.shardingColumn with
  | some c => c.toString
  | none => orEmpty ShardingColumns.toString s.shardingColumns

structure AutoShardingColumnDefinition where
  shardingColumn : ShardingColumn
  deriving DecidableEq, Repr

def AutoShardingColumnDefinition.toString (a : AutoShardingColumnDefinition) : String :=
  a.shardingColumn.toString

structure ShardingAlgorithm where
  algorithmDefinition : ShardingAlgorithmDefinition
  deriving DecidableEq, Repr

def ShardingAlgorithm.toString (s : ShardingAlgorithm) : String :=
  "SHARDING_ALGORITHM (" ++ s.algorithmDefinition.toString ++ ")"

structure BuildInStrategyType where
  buildInStrategyType : String
  deriving DecidableEq, Repr

def BuildInStrategyType.toString (b : BuildInStrategyType) : String := b.buildInStrategyType

structure StrategyType where
  buildInStrategyType : Option BuildInStrategyType := none
  string : String := ""
  deriving DecidableEq, Repr

def StrategyType.toString (s : StrategyType) : String :=
  if s.string ≠ "" then s.string else orEmpty BuildInStrategyType.toString s.buildInStrategyType

structure ShardingStrategy where
  strategyType : StrategyType
  shardingColumnDefinition : Option ShardingColumnDefinition
  shardingAlgorithm : Option ShardingAlgorithm
  deriving DecidableEq, Repr

def ShardingStrategy.toString (s : ShardingStrategy) : String :=
  "TYPE = " ++ s.strategyType.toString ++ "," ++
    orEmpty ShardingColumnDefinition.toString s.shardingColumnDefinition ++ "," ++
    orEmpty ShardingAlgorithm.toString s.shardingAlgorithm

structure DatabaseStrategy where
  shardingStrategy : ShardingStrategy
  deriving DecidableEq, Repr

def DatabaseStrategy.toString (d : DatabaseStrategy) : String :=
  "DATABASE_STRATEGY (" ++ d.shardingStrategy.toString ++ ")"

structure TableStrategy where
  shardingStrategy : ShardingStrategy
  deriving DecidableEq, Repr

def TableStrategy.toString (t : TableStrategy) : String :=
  "TABLE_STRATEGY (" ++ t.shardingStrategy.toString ++ ")"

structure KeyGenerateDefinition where
  columnName : CommonIdentifier
  algorithmDefinition : ShardingAlgorithmDefinition
  deriving DecidableEq, Repr

def KeyGenerateDefinition.toString (k : KeyGenerateDefinition) : String :=
  "KEY_GENERATE_STRATEGY (COLUMN = " ++ k.columnName.toString ++ ", " ++
    k.algorithmDefinition.toString ++ ")"

structure SingleAuditDefinition where
  algorithmDefinition : ShardingAlgorithmDefinition
  deriving DecidableEq, Repr

def SingleAuditDefinition.toString (s : SingleAuditDefinition) : String :=
  s.algorithmDefinition.toString

structure MultiAuditDefinition where
  allSingleAuditDefinition : List SingleAuditDefinition
  deriving DecidableEq, Repr

def MultiAuditDefinition.toString (m : MultiAuditDefinition) : String :=
  join (m.allSingleAuditDefinition.map SingleAuditDefinition.toString)

structure AuditAllowHintDisable where
  auditAllowHintDisable : String
  deriving DecidableEq, Repr

def AuditAllowHintDisable.toString (a : AuditAllowHintDisable) : String := a.auditAllowHintDisable

structure AuditDefinition where
  multiAuditDefinition : MultiAuditDefinition
  auditAllowHintDisable : AuditAllowHintDisable
  deriving DecidableEq, Repr

def AuditDefinition.toString (a : AuditDefinition) : String :=
  "AUDIT_STRATEGY (" ++ a.multiAuditDefinition.toString ++ ", ALLOW_HINT_DISABLE = " ++
    a.auditAllowHintDisable.toString ++ ")"

structure ShardingAutoTableRule where
  tableName : CommonIdentifier
  storageUnits : StorageUnits
  autoShardingColumnDefinition : AutoShardingColumnDefinition
  algorithmDefinition : ShardingAlgorithmDefinition
  keyGenerateDefinition : Option KeyGenerateDefinition
  auditDefinition : Option AuditDefinition
  deriving DecidableEq, Repr

def ShardingAutoTableRule.toString (s : ShardingAutoTableRule) : String :=
  s.tableName.toString ++ " (" ++ s.storageUnits.toString ++ "," ++
    s.autoShardingColumnDefinition.toString ++ "," ++ s.algorithmDefinition.toString ++ "," ++
    orEmpty KeyGenerateDefinition.toString s.keyGenerateDefinition ++ "," ++
    orEmpty AuditDefinition.toString s.auditDefinition ++ ")"

structure ShardingTableRule where
  tableName : CommonIdentifier
  dataNodes : DataNodes
  databaseStrategy : Option DatabaseStrategy
  tableStrategy : Option TableStrategy
  keyGenerateDefinition : Option KeyGenerateDefinition
  auditDefinition : Option AuditDefinition
  deriving DecidableEq, Repr

/-- Every comma is printed, whatever stands after it. -/
def ShardingTableRule.toString (s : ShardingTableRule) : String :=
  s.tableName.toString ++ "(" ++ s.dataNodes.toString ++ "," ++
    orEmpty DatabaseStrategy.toString s.databaseStrategy ++ "," ++
    orEmpty TableStrategy.toString s.tableStrategy ++ "," ++
    orEmpty KeyGenerateDefinition.toString s.keyGenerateDefinition ++ "," ++
    orEmpty AuditDefinition.toString s.auditDefinition ++ ")"

structure ShardingTableRuleDefinition where
  shardingAutoTableRule : Option ShardingAutoTableRule := none
  shardingTableRule : Option ShardingTableRule := none
  deriving DecidableEq, Repr

def ShardingTableRuleDefinition.toString (s : ShardingTableRuleDefinition) : String :=
  match s.shardingAutoTableRule with
  | some r => r.toString
  | none => orEmpty ShardingTableRule.toString s.shardingTableRule

structure CreateDefaultShardingStrategy where
  ifNotExists : Option IfNotExists
  shardingStrategy : ShardingStrategy
  deriving DecidableEq, Repr

/-- The choice of the statement is printed as the grammar writes it. -/
def CreateDefaultShardingStrategy.toString (c : CreateDefaultShardingStrategy) : String :=
  "CREATE DEFAULT SHARDING type=(DATABASE | TABLE) STRATEGY " ++
    orEmpty IfNotExists.toString c.ifNotExists ++ "(" ++ c.shardingStrategy.toString ++ ")"

structure AlterDefaultShardingStrategy where
  shardingStrategy : ShardingStrategy
  deriving DecidableEq, Repr

def AlterDefaultShardingStrategy.toString (a : AlterDefaultShardingStrategy) : String :=
  "ALTER DEFAULT SHARDING type=(DATABASE | TABLE) STRATEGY (" ++ a.shardingStrategy.toString ++ ")"

structure DropDefaultShardingStrategy where
  ifExists : Option IfExists
  deriving DecidableEq, Repr

/-- Without `IF EXISTS` a `nil` pointer is followed. -/
def DropDefaultShardingStrategy.toString (d : DropDefaultShardingStrategy) : Option String :=
  d.ifExists.map (fun i =>
    "DROP DEFAULT SHARDING type=(DATABASE | TABLE) STRATEGY " ++ i.toString)

end Ast

section Trees

def buildInShardingAlgorithmType : List Keyword :=
  [.mod, .hashMod, .volumeRange, .boundaryRange, .autoInterval, .inline, .interval, .cosidMod,
    .cosidInterval, .cosidIntervalSnowflake, .complexInline, .hintInline, .classBased]

def buildInKeyGenerateAlgorithmType : List Keyword :=
  [.snowflake, .nanoid, .uuid, .cosid, .cosidSnowflake]

def buildInShardingAuditAlgorithmType : List Keyword := [.dmlShardingConditions]

abbrev algorithmTypes : List Keyword :=
  buildInShardingAlgorithmType ++ buildInKeyGenerateAlgorithmType ++
    buildInShardingAuditAlgorithmType

abbrev Name := Leaf .sharding .identifier

abbrev AlgorithmContext := AlgorithmDefinitionContext .sharding algorithmTypes

inductive StorageUnitContext
  | identifier (l : Name)
  | string (l : Leaf .sharding .string)

/-- `columnName COMMA_ columnName (COMMA_ columnName)*`. -/
structure ShardingColumnsContext where
  columnName : Name
  columnNames : Many Name

inductive ShardingColumnDefinitionContext
  | shardingColumn (columnName : Name)
  | shardingColumns (ctx : ShardingColumnsContext)

inductive StrategyTypeContext
  | string (l : Leaf .sharding .string)
  | buildIn (k : Keyword) (hk : k ∈ [Keyword.standard, .complex, .hint, .none])
      (l : Leaf .sharding (.keyword k))

structure StrategyAlgorithmContext where
  shardingColumnDefinition : Option ShardingColumnDefinitionContext
  shardingAlgorithm : AlgorithmContext

structure ShardingStrategyContext where
  strategyType : StrategyTypeContext
  algorithm : Option StrategyAlgorithmContext

structure KeyGenerateDefinitionContext where
  columnName : Name
  algorithmDefinition : AlgorithmContext

inductive AuditAllowHintDisableContext
  | trueToken (l : Leaf .sharding (.keyword .true))
  | falseToken (l : Leaf .sharding (.keyword .false))

structure AuditDefinitionContext where
  multiAuditDefinition : Many AlgorithmContext
  auditAllowHintDisable : AuditAllowHintDisableContext

structure ShardingAutoTableRuleContext where
  tableName : Name
  storageUnits : Many StorageUnitContext
  shardingColumn : Name
  algorithmDefinition : AlgorithmContext
  keyGenerateDefinition : Option KeyGenerateDefinitionContext
  auditDefinition : Option AuditDefinitionContext

structure ShardingTableRuleContext where
  tableName : Name
  dataNodes : Many (Leaf .sharding .string)
  databaseStrategy : Option ShardingStrategyContext
  tableStrategy : Option ShardingStrategyContext
  keyGenerateDefinition : Option KeyGenerateDefinitionContext
  auditDefinition : Option AuditDefinitionContext

inductive ShardingTableRuleDefinitionContext
  | auto (ctx : ShardingAutoTableRuleContext)
  | table (ctx : ShardingTableRuleContext)

/-- The token of `type=(DATABASE | TABLE)`. -/
inductive TypeContext
  | database (l : Leaf .sharding (.keyword .database))
  | table (l : Leaf .sharding (.keyword .table))

def TypeContext.isDatabase : TypeContext → Bool
  | .database _ => true
  | .table _ => false

structure CreateDefaultShardingStrategyContext where
  type : TypeContext
  ifNotExists : Option (IfNotExistsContext .sharding)
  shardingStrategy : ShardingStrategyContext

structure AlterDefaultShardingStrategyContext where
  type : TypeContext
  shardingStrategy : ShardingStrategyContext

structure DropDefaultShardingStrategyContext where
  type : TypeContext
  ifExists : Option (IfExistsContext .sharding)

end Trees

section Visitor

def visitAlgorithmTypeName :
    AlgorithmTypeNameContext .sharding algorithmTypes → ShardingAlgorithmTypeName
  | .string l => { string := text l }
  | .buildin k _ l =>
    if k ∈ buildInShardingAlgorithmType then { buildInShardingAlgorithmType := some ⟨text l⟩ }
    else if k ∈ buildInKeyGenerateAlgorithmType then
      { buildInKeyGenerateAlgorithmType := some ⟨text l⟩ }
    else { buildInShardingAuditAlgorithmType := some ⟨text l⟩ }

def visitAlgorithmDefinition (ctx : AlgorithmContext) : ShardingAlgorithmDefinition :=
  ⟨visitAlgorithmTypeName ctx.algorithmTypeName,
    ctx.propertiesDefinition.map visitPropertiesDefinition⟩

def visitStorageUnit : StorageUnitContext → StorageUnit
  | .string l => { string := text l }
  | .identifier l => { identifier := text l }

def visitStorageUnits (ctx : Many StorageUnitContext) : StorageUnits :=
  ⟨ctx.toList.map visitStorageUnit⟩

def visitDataNode (ctx : Leaf .sharding .string) : CommonIdentifier := ⟨text ctx⟩

def visitDataNodes (ctx : Many (Leaf .sharding .string)) : DataNodes :=
  ⟨ctx.toList.map visitDataNode⟩

def visitShardingColumn (columnName : Name) : ShardingColumn := ⟨visitName columnName⟩

/-- All columns of the rule, with the first one. -/
def ShardingColumnsContext.allColumnName (ctx : ShardingColumnsContext) : List Name :=
  ctx.columnName :: ctx.columnNames.toList

def visitShardingColumns (ctx : ShardingColumnsContext) : ShardingColumns :=
  ⟨visitName ctx.columnName, ctx.allColumnName.map visitName⟩

def visitShardingColumnDefinition : ShardingColumnDefinitionContext → ShardingColumnDefinition
  | .shardingColumn c => { shardingColumn := some (visitShardingColumn c) }
  | .shardingColumns ctx => { shardingColumns := some (visitShardingColumns ctx) }

def visitStrategyType : StrategyTypeContext → StrategyType
  | .string l => { string := text l }
  | .buildIn _ _ l => { buildInStrategyType := some ⟨text l⟩ }

def visitShardingStrategy (ctx : ShardingStrategyContext) : ShardingStrategy where
  strategyType := visitStrategyType ctx.strategyType
  shardingColumnDefinition := ctx.algorithm.bind (fun a =>
    a.shardingColumnDefinition.map visitShardingColumnDefinition)
  shardingAlgorithm := ctx.algorithm.map (fun a => ⟨visitAlgorithmDefinition a.shardingAlgorithm⟩)

def visitKeyGenerateDefinition (ctx : KeyGenerateDefinitionContext) : KeyGenerateDefinition :=
  ⟨visitName ctx.columnName, visitAlgorithmDefinition ctx.algorithmDefinition⟩

def visitAuditAllowHintDisable : AuditAllowHintDisableContext → AuditAllowHintDisable
  | .trueToken l => ⟨text l⟩
  | .falseToken l => ⟨text l⟩

def visitAuditDefinition (ctx : AuditDefinitionContext) : AuditDefinition :=
  ⟨⟨ctx.multiAuditDefinition.toList.map (fun a => ⟨visitAlgorithmDefinition a⟩)⟩,
    visitAuditAllowHintDisable ctx.auditAllowHintDisable⟩

def visitShardingAutoTableRule (ctx : ShardingAutoTableRuleContext) : ShardingAutoTableRule where
  tableName := visitName ctx.tableName
  storageUnits := visitStorageUnits ctx.storageUnits
  autoShardingColumnDefinition := ⟨visitShardingColumn ctx.shardingColumn⟩
  algorithmDefinition := visitAlgorithmDefinition ctx.algorithmDefinition
  keyGenerateDefinition := ctx.keyGenerateDefinition.map visitKeyGenerateDefinition
  auditDefinition := ctx.auditDefinition.map visitAuditDefinition

def visitShardingTableRule (ctx : ShardingTableRuleContext) : ShardingTableRule where
  tableName := visitName ctx.tableName
  dataNodes := visitDataNodes ctx.dataNodes
  databaseStrategy := ctx.databaseStrategy.map (fun s => ⟨visitShardingStrategy s⟩)
  tableStrategy := ctx.tableStrategy.map (fun s => ⟨visitShardingStrategy s⟩)
  keyGenerateDefinition := ctx.keyGenerateDefinition.map visitKeyGenerateDefinition
  auditDefinition := ctx.auditDefinition.map visitAuditDefinition

def visitShardingTableRuleDefinition :
    ShardingTableRuleDefinitionContext → ShardingTableRuleDefinition
  | .auto ctx => { shardingAutoTableRule := some (visitShardingAutoTableRule ctx) }
  | .table ctx => { shardingTableRule := some (visitShardingTableRule ctx) }

def visitCreateDefaultShardingStrategy (ctx : CreateDefaultShardingStrategyContext) :
    CreateDefaultShardingStrategy :=
  ⟨ctx.ifNotExists.map visitIfNotExists, visitShardingStrategy ctx.shardingStrategy⟩

def visitAlterDefaultShardingStrategy (ctx : AlterDefaultShardingStrategyContext) :
    AlterDefaultShardingStrategy :=
  ⟨visitShardingStrategy ctx.shardingStrategy⟩

def visitDropDefaultShardingStrategy (ctx : DropDefaultShardingStrategyContext) :
    DropDefaultShardingStrategy :=
  ⟨ctx.ifExists.map visitIfExists⟩

end Visitor

section Rules

def storageUnit : TokenParser StorageUnitContext :=
  .look (ahead .sharding [.identifier]) (do return .identifier (← name)) <|
  do return .string (← leaf .sharding .string)

def storageUnits : TokenParser (Many StorageUnitContext) := do
  skip .sharding (.keyword .storageUnits)
  skip .sharding (.symbol .lp)
  let units ← commaList .sharding storageUnit
  skip .sharding (.symbol .rp)
  return units

def dataNodes : TokenParser (Many (Leaf .sharding .string)) := do
  skip .sharding (.keyword .datanodes)
  skip .sharding (.symbol .lp)
  let nodes ← commaList .sharding (leaf .sharding .string)
  skip .sharding (.symbol .rp)
  return nodes

def shardingColumn : TokenParser Name := do
  skip .sharding (.keyword .shardingColumn)
  skip .sharding (.symbol .eq)
  name

/-- The names go on with a comma and a name: the algorithm comes after a comma too. -/
def columnNames : TokenParser (Many Name) :=
  .sepBy (ahead .sharding [.symbol .comma, .identifier]) (comma .sharding) name

def shardingColumns : TokenParser ShardingColumnsContext := do
  skip .sharding (.keyword .shardingColumns)
  skip .sharding (.symbol .eq)
  let columnName ← name
  skip .sharding (.symbol .comma)
  let columnNames ← columnNames
  return ⟨columnName, columnNames⟩

def shardingColumnDefinition : TokenParser ShardingColumnDefinitionContext :=
  .look (ahead .sharding [.keyword .shardingColumn])
    (do return .shardingColumn (← shardingColumn)) <|
  do return .shardingColumns (← shardingColumns)

def shardingAlgorithm : TokenParser AlgorithmContext := do
  skip .sharding (.keyword .shardingAlgorithm)
  skip .sharding (.symbol .lp)
  let algorithm ← algorithmDefinition
  skip .sharding (.symbol .rp)
  return algorithm

def strategyTypeOf (w : List Char) : Option StrategyTypeContext :=
  match h : kindOf .sharding w with
  | some .string => some (.string ⟨w, h⟩)
  | some (.keyword k) =>
    if hk : k ∈ [Keyword.standard, .complex, .hint, .none] then some (.buildIn k hk ⟨w, h⟩)
    else none
  | _ => none

def strategyType : TokenParser StrategyTypeContext := .token strategyTypeOf

def columnsAhead (ws : List (List Char)) : Bool :=
  ahead .sharding [.symbol .comma, .keyword .shardingColumn] ws ||
    ahead .sharding [.symbol .comma, .keyword .shardingColumns] ws

def strategyAlgorithm : TokenParser StrategyAlgorithmContext := do
  let columns ← .opt columnsAhead (do
    skip .sharding (.symbol .comma)
    shardingColumnDefinition)
  skip .sharding (.symbol .comma)
  let algorithm ← shardingAlgorithm
  return ⟨columns, algorithm⟩

def shardingStrategy : TokenParser ShardingStrategyContext := do
  skip .sharding (.keyword .type)
  skip .sharding (.symbol .eq)
  let strategyType ← strategyType
  let algorithm ← .opt (ahead .sharding [.symbol .comma]) strategyAlgorithm
  return ⟨strategyType, algorithm⟩

/-- `DATABASE_STRATEGY` and `TABLE_STRATEGY`. -/
def enclosedStrategy (k : Keyword) : TokenParser ShardingStrategyContext := do
  skip .sharding (.keyword k)
  skip .sharding (.symbol .lp)
  let strategy ← shardingStrategy
  skip .sharding (.symbol .rp)
  return strategy

def keyGenerateDefinition : TokenParser KeyGenerateDefinitionContext := do
  skip .sharding (.keyword .keyGenerateStrategy)
  skip .sharding (.symbol .lp)
  skip .sharding (.keyword .column)
  skip .sharding (.symbol .eq)
  let columnName ← name
  skip .sharding (.symbol .comma)
  let algorithm ← algorithmDefinition
  skip .sharding (.symbol .rp)
  return ⟨columnName, algorithm⟩

def auditAllowHintDisable : TokenParser AuditAllowHintDisableContext :=
  .look (ahead .sharding [.keyword .true])
    (do return .trueToken (← leaf .sharding (.keyword .true))) <|
  do return .falseToken (← leaf .sharding (.keyword .false))

def multiAuditDefinition : TokenParser (Many AlgorithmContext) :=
  .sepBy (ahead .sharding [.symbol .comma, .keyword .type]) (comma .sharding) algorithmDefinition

def auditDefinition : TokenParser AuditDefinitionContext := do
  skip .sharding (.keyword .auditStrategy)
  skip .sharding (.symbol .lp)
  let audits ← multiAuditDefinition
  skip .sharding (.symbol .comma)
  skip .sharding (.keyword .allowHintDisable)
  skip .sharding (.symbol .eq)
  let allow ← auditAllowHintDisable
  skip .sharding (.symbol .rp)
  return ⟨audits, allow⟩

def shardingAutoTableRule : TokenParser ShardingAutoTableRuleContext := do
  let tableName ← name
  skip .sharding (.symbol .lp)
  let units ← storageUnits
  skip .sharding (.symbol .comma)
  let column ← shardingColumn
  skip .sharding (.symbol .comma)
  let algorithm ← algorithmDefinition
  let keyGenerate ← commaOpt .sharding .keyGenerateStrategy keyGenerateDefinition
  let audit ← commaOpt .sharding .auditStrategy auditDefinition
  skip .sharding (.symbol .rp)
  return ⟨tableName, units, column, algorithm, keyGenerate, audit⟩

def shardingTableRule : TokenParser ShardingTableRuleContext := do
  let tableName ← name
  skip .sharding (.symbol .lp)
  let nodes ← dataNodes
  let database ← commaOpt .sharding .databaseStrategy (enclosedStrategy .databaseStrategy)
  let table ← commaOpt .sharding .tableStrategy (enclosedStrategy .tableStrategy)
  let keyGenerate ← commaOpt .sharding .keyGenerateStrategy keyGenerateDefinition
  let audit ← commaOpt .sharding .auditStrategy auditDefinition
  skip .sharding (.symbol .rp)
  return ⟨tableName, nodes, database, table, keyGenerate, audit⟩

def shardingTableRuleDefinition :
    Phrase ShardingTableRuleDefinitionContext ShardingTableRuleDefinition where
  visit := visitShardingTableRuleDefinition
  toString _ s := some s.toString
  rule :=
    .look (ahead .sharding [.identifier, .symbol .lp, .keyword .storageUnits])
      (do return .auto (← shardingAutoTableRule)) <|
    do return .table (← shardingTableRule)

def strategyLevel : TokenParser TypeContext :=
  .look (ahead .sharding [.keyword .database])
    (do return .database (← leaf .sharding (.keyword .database))) <|
  do return .table (← leaf .sharding (.keyword .table))

def createShardingTableRule := listing .sharding "CREATE SHARDING TABLE RULE "
  [.create, .sharding, .table, .rule] (ifNotExistsClause .sharding) shardingTableRuleDefinition

def alterShardingTableRule := bareListing .sharding "ALTER SHARDING TABLE RULE " ""
  [.alter, .sharding, .table, .rule] shardingTableRuleDefinition

def dropShardingAlgorithm := listing .sharding "DROP BROADCAST TABLE RULE "
  [.drop, .sharding, .algorithm] (ifExistsClause .sharding) (namePhrase .sharding)

/-- What the statements about default strategies begin with. -/
def defaultHeader (verb : Keyword) : TokenParser TypeContext := do
  header .sharding [verb, .default, .sharding]
  let type ← strategyLevel
  skip .sharding (.keyword .strategy)
  return type

def createDefaultShardingStrategy :
    Phrase CreateDefaultShardingStrategyContext CreateDefaultShardingStrategy where
  visit := visitCreateDefaultShardingStrategy
  toString _ c := some c.toString
  rule := do
    let type ← defaultHeader .create
    let clause ← .opt (ahead .sharding [.keyword .ifKw]) ifNotExists
    skip .sharding (.symbol .lp)
    let strategy ← shardingStrategy
    skip .sharding (.symbol .rp)
    return ⟨type, clause, strategy⟩

def alterDefaultShardingStrategy :
    Phrase AlterDefaultShardingStrategyContext AlterDefaultShardingStrategy where
  visit := visitAlterDefaultShardingStrategy
  toString _ a := some a.toString
  rule := do
    let type ← defaultHeader .alter
    skip .sharding (.symbol .lp)
    let strategy ← shardingStrategy
    skip .sharding (.symbol .rp)
    return ⟨type, strategy⟩

def dropDefaultShardingStrategy :
    Phrase DropDefaultShardingStrategyContext DropDefaultShardingStrategy where
  visit := visitDropDefaultShardingStrategy
  toString _ d := d.toString
  rule := do
    let type ← defaultHeader .drop
    let clause ← .opt (ahead .sharding [.keyword .ifKw]) ifExists
    return ⟨type, clause⟩

end Rules

end ShardingOnCloud.Distsql.ShardingRule
