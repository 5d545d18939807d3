import ShardingOnCloud.Distsql.Phrases

namespace ShardingOnCloud.Distsql.EncryptRule

open ShardingOnCloud.Lib.Descent
open ShardingOnCloud.Distsql.Ast ShardingOnCloud.Distsql.BaseRule ShardingOnCloud.Distsql.Phrases
open ShardingOnCloud.Distsql.Tokens hiding literal

section Ast

structure DataType where
  string : String
  deriving DecidableEq, Repr

def DataType.toString (d : DataType) : String := d.string

structure ResourceDefinition where
  resourceName : CommonIdentifier
  deriving DecidableEq, Repr

def ResourceDefinition.toString (r : ResourceDefinition) : String :=
  "RESOURCE=" ++ r.resourceName.toString

structure ColumnDefinition where
  columnName : CommonIdentifier
  dataType : Option DataType
  deriving DecidableEq, Repr

def ColumnDefinition.toString (c : ColumnDefinition) : String :=
  "NAME=" ++ c.columnName.toString ++ orEmpty (fun d => ",DATA_TYP=" ++ d.toString) c.dataType

structure PlainColumnDefinition where
  plainColumnName : CommonIdentifier
  dataType : Option DataType
  deriving DecidableEq, Repr

/-- The keyword stands twice before the name, and the data type even if there is none. -/
def PlainColumnDefinition.toString (p : PlainColumnDefinition) : String :=
  let plainColumnName := "PLAIN=" ++ p.plainColumnName.toString
  "PLAIN = " ++ plainColumnName ++ ", PLAIN_DATA_TYPE = " ++ orEmpty DataType.toString p.dataType

structure CipherColumnDefinition where
  cipherColumnName : CommonIdentifier
  dataType : Option DataType
  deriving DecidableEq, Repr

/-- What is printed as the data type is the text under construction, which is still empty. -/
def CipherColumnDefinition.toString (c : CipherColumnDefinition) : String :=
  "CIPHER=" ++ c.cipherColumnName.toString ++ orEmpty (fun _ => ",CIPHER_DATA_TYPE=" ++ "") c.dataType

structure AssistedQueryColumnDefinition where
  assistedQueryColumnName : CommonIdentifier
  dataType : Option DataType
  deriving DecidableEq, Repr

def AssistedQueryColumnDefinition.toString (a : AssistedQueryColumnDefinition) : String :=
  "ASSISTED_QUERY_COLUMN=" ++ a.assistedQueryColumnName.toString ++
    orEmpty (fun d => ",ASSISTED_QUERY_DATA_TYPE=" ++ d.toString) a.dataType

structure LikeQueryColumnDefinition where
  likeQueryColumnName : CommonIdentifier
  dataType : Option DataType
  deriving DecidableEq, Repr

structure EncryptAlgorithm where
  algorithmDefinition : AlgorithmDefinition
  deriving DecidableEq, Repr

def EncryptAlgorithm.toString (e : EncryptAlgorithm) : String :=
  "ENCRYPT_ALGORITHM(" ++ e.algorithmDefinition.toString ++ ")"

structure AssistedQueryAlgorithm where
  algorithmDefinition : AlgorithmDefinition
  deriving DecidableEq, Repr

def AssistedQueryAlgorithm.toString (a : AssistedQueryAlgorithm) : String :=
  a.algorithmDefinition.toString

structure LikeQueryAlgorithm where
  algorithmDefinition : AlgorithmDefinition
  deriving DecidableEq, Repr

/-- The method calls itself, not the one of the algorithm. -/
def LikeQueryAlgorithm.toString (l : LikeQueryAlgorithm) : ℕ → Option String
  | 0 => none
  | n + 1 => do
    let sql ← l.toString n
    return "" ++ sql

structure QueryWithCipherColumn where
  queryWithCipherColumn : String
  deriving DecidableEq, Repr

def QueryWithCipherColumn.toString (q : QueryWithCipherColumn) : String := q.queryWithCipherColumn

structure EncryptColumnDefinition where
  columnDefinition : ColumnDefinition
  plainColumnDefinition : Option PlainColumnDefinition
  cipherColumnDefinition : CipherColumnDefinition
  assistedQueryColumnDefinition : Option AssistedQueryColumnDefinition
  likeQueryColumnDefinition : Option LikeQueryColumnDefinition
  encryptAlgorithm : EncryptAlgorithm
  assistedQueryAlgorithm : Option AssistedQueryAlgorithm
  likeQueryAlgorithm : Option LikeQueryAlgorithm
  queryWithCipherColumn : Option QueryWithCipherColumn
  deriving DecidableEq, Repr

def likeQueryText (n : ℕ) : Option LikeQueryAlgorithm → Option String
  | some l => (l.toString n).map (fun s => "," ++ s)
  | none => some ""

/-- The algorithm of the like query is printed in the place of its column too. -/
def EncryptColumnDefinition.toString (n : ℕ) (e : EncryptColumnDefinition) : Option String := do
  let likeQueryColumnDefinition ← likeQueryText n e.likeQueryAlgorithm
  let likeQueryAlgorithm ← likeQueryText n e.likeQueryAlgorithm
  return "(" ++ e.columnDefinition.toString ++
    orEmpty (fun p => "," ++ p.toString) e.plainColumnDefinition ++ "," ++
    e.cipherColumnDefinition.toString ++
    orEmpty (fun a => "," ++ a.toString) e.assistedQueryColumnDefinition ++
    likeQueryColumnDefinition ++ "," ++ e.encryptAlgorithm.toString ++
    orEmpty (fun a => "," ++ a.toString) e.assistedQueryAlgorithm ++ likeQueryAlgorithm ++
    orEmpty (fun q => ",QUERY_WITH_CIPHER_COLUMN=" ++ q.toString) e.queryWithCipherColumn ++ ")"

structure EncryptRuleDefinition where
  tableName : CommonIdentifier
  resourceDefinition : Option ResourceDefinition
  allEncryptColumnDefinition : List EncryptColumnDefinition
  queryWithCipherColumn : Option QueryWithCipherColumn
  deriving DecidableEq, Repr

def EncryptRuleDefinition.toString (n : ℕ) (e : EncryptRuleDefinition) : Option String := do
  let columns ← e.allEncryptColumnDefinition.mapM (EncryptColumnDefinition.toString n)
  return e.tableName.toString ++ " (" ++ orEmpty ResourceDefinition.toString e.resourceDefinition ++
    "COLUMNS(" ++ join columns ++ ")" ++
    orEmpty (fun q => ",QUERY_WITH_CIPHER_COLUMN=" ++ q.toString) e.queryWithCipherColumn ++ ")"

structure CreateEncryptRule where
  ifNotExists : Option IfNotExists
  encryptRuleDefinition : EncryptRuleDefinition
  allEncryptRuleDefinition : List EncryptRuleDefinition
  deriving DecidableEq, Repr

end Ast

section Trees

def buildinAlgorithmTypeName : List Keyword := [.md5, .aes, .rc4, .sm3, .sm4, .charDigestLike]

abbrev EncryptAlgorithmContext := AlgorithmDefinitionContext .encrypt buildinAlgorithmTypeName

structure TypedNameContext where
  columnName : Leaf .encrypt .identifier
  dataType : Option (Leaf .encrypt .string)

inductive QueryWithCipherColumnContext
  | trueToken (l : Leaf .encrypt (.keyword .true))
  | falseToken (l : Leaf .encrypt (.keyword .false))

structure EncryptColumnDefinitionContext where
  columnDefinition : TypedNameContext
  plainColumnDefinition : Option TypedNameContext
  cipherColumnDefinition : TypedNameContext
  assistedQueryColumnDefinition : Option TypedNameContext
  likeQueryColumnDefinition : Option TypedNameContext
  encryptAlgorithm : EncryptAlgorithmContext
  assistedQueryAlgorithm : Option EncryptAlgorithmContext
  likeQueryAlgorithm : Option EncryptAlgorithmContext
  queryWithCipherColumn : Option QueryWithCipherColumnContext

structure EncryptRuleDefinitionContext where
  tableName : Leaf .encrypt .identifier
  resourceDefinition : Option (Leaf .encrypt .identifier)
  encryptColumnDefinitions : Many EncryptColumnDefinitionContext
  queryWithCipherColumn : Option QueryWithCipherColumnContext

def visitDataType (ctx : Leaf .encrypt .string) : DataType := ⟨text ctx⟩

def visitColumnDefinition (ctx : TypedNameContext) : ColumnDefinition :=
  ⟨visitName ctx.columnName, ctx.dataType.map visitDataType⟩

def visitPlainColumnDefinition (ctx : TypedNameContext) : PlainColumnDefinition :=
  ⟨visitName ctx.columnName, ctx.dataType.map visitDataType⟩

def visitCipherColumnDefinition (ctx : TypedNameContext) : CipherColumnDefinition :=
  ⟨visitName ctx.columnName, ctx.dataType.map visitDataType⟩

def visitAssistedQueryColumnDefinition (ctx : TypedNameContext) : AssistedQueryColumnDefinition :=
  ⟨visitName ctx.columnName, ctx.dataType.map visitDataType⟩

def visitLikeQueryColumnDefinition (ctx : TypedNameContext) : LikeQueryColumnDefinition :=
  ⟨visitName ctx.columnName, ctx.dataType.map visitDataType⟩

def visitQueryWithCipherColumn : QueryWithCipherColumnContext → QueryWithCipherColumn
  | .trueToken l => ⟨text l⟩
  | .falseToken l => ⟨text l⟩

def visitEncryptColumnDefinition (ctx : EncryptColumnDefinitionContext) :
    EncryptColumnDefinition where
  columnDefinition := visitColumnDefinition ctx.columnDefinition
  plainColumnDefinition := ctx.plainColumnDefinition.map visitPlainColumnDefinition
  cipherColumnDefinition := visitCipherColumnDefinition ctx.cipherColumnDefinition
  assistedQueryColumnDefinition :=
    ctx.assistedQueryColumnDefinition.map visitAssistedQueryColumnDefinition
  likeQueryColumnDefinition := ctx.likeQueryColumnDefinition.map visitLikeQueryColumnDefinition
  encryptAlgorithm := ⟨visitAlgorithmDefinition ctx.encryptAlgorithm⟩
  assistedQueryAlgorithm := ctx.assistedQueryAlgorithm.map (fun a => ⟨visitAlgorithmDefinition a⟩)
  likeQueryAlgorithm := ctx.likeQueryAlgorithm.map (fun a => ⟨visitAlgorithmDefinition a⟩)
  queryWithCipherColumn := ctx.queryWithCipherColumn.map visitQueryWithCipherColumn

/-- A column on its own, which the rule also has in its tree, is not visited. -/
def visitEncryptRuleDefinition (ctx : EncryptRuleDefinitionContext) : EncryptRuleDefinition where
  tableName := visitName ctx.tableName
  resourceDefinition := ctx.resourceDefinition.map (fun r => ⟨visitName r⟩)
  allEncryptColumnDefinition := ctx.encryptColumnDefinitions.toList.map visitEncryptColumnDefinition
  queryWithCipherColumn := ctx.queryWithCipherColumn.map visitQueryWithCipherColumn

end Trees

section Rules

def dataType (k : Keyword) : TokenParser (Leaf .encrypt .string) := do
  skip .encrypt (.keyword k)
  skip .encrypt (.symbol .eq)
  leaf .encrypt .string

/-- `nameKey EQ_ name (COMMA_ typeKey EQ_ dataType)?`. -/
def typedName (nameKey typeKey : Keyword) : TokenParser TypedNameContext := do
  skip .encrypt (.keyword nameKey)
  skip .encrypt (.symbol .eq)
  let columnName ← name
  let dataType ← commaOpt .encrypt typeKey (dataType typeKey)
  return ⟨columnName, dataType⟩

/-- `key LP_ algorithmDefinition RP_`. -/
def wrappedAlgorithm (k : Keyword) : TokenParser EncryptAlgorithmContext := do
  skip .encrypt (.keyword k)
  skip .encrypt (.symbol .lp)
  let algorithm ← algorithmDefinition
  skip .encrypt (.symbol .rp)
  return algorithm

def queryWithCipherColumn : TokenParser QueryWithCipherColumnContext := do
  skip .encrypt (.keyword .queryWithCipherColumn)
  skip .encrypt (.symbol .eq)
  .look (ahead .encrypt [.keyword .true])
    (do return .trueToken (← leaf .encrypt (.keyword .true)))
    (do return .falseToken (← leaf .encrypt (.keyword .false)))

def encryptColumnDefinition :
    Phrase EncryptColumnDefinitionContext EncryptColumnDefinition where
  visit := visitEncryptColumnDefinition
  toString := EncryptColumnDefinition.toString
  rule := do
    skip .encrypt (.symbol .lp)
    let columnDefinition ← typedName .name .dataType
    let plain ← commaOpt .encrypt .plain (typedName .plain .plainDataType)
    skip .encrypt (.symbol .comma)
    let cipher ← typedName .cipher .cipherDataType
    let assistedQuery ← commaOpt .encrypt .assistedQueryColumn
      (typedName .assistedQueryColumn .assistedQueryDataType)
    let likeQuery ← commaOpt .encrypt .likeQueryColumn
      (typedName .likeQueryColumn .likeQueryDataType)
    skip .encrypt (.symbol .comma)
    let algorithm ← wrappedAlgorithm .encryptAlgorithm
    let assistedQueryAlgorithm ← commaOpt .encrypt .assistedQueryAlgorithm
      (wrappedAlgorithm .assistedQueryAlgorithm)
    let likeQueryAlgorithm ← commaOpt .encrypt .likeQueryAlgorithm
      (wrappedAlgorithm .likeQueryAlgorithm)
    let query ← commaOpt .encrypt .queryWithCipherColumn queryWithCipherColumn
    skip .encrypt (.symbol .rp)
    return ⟨columnDefinition, plain, cipher, assistedQuery, likeQuery, algorithm,
      assistedQueryAlgorithm, likeQueryAlgorithm, query⟩

def resourceDefinition : TokenParser (Leaf .encrypt .identifier) := do
  skip .encrypt (.keyword .resource)
  skip .encrypt (.symbol .eq)
  let resourceName ← name
  skip .encrypt (.symbol .comma)
  return resourceName

def encryptRuleDefinition : Phrase EncryptRuleDefinitionContext EncryptRuleDefinition where
  visit := visitEncryptRuleDefinition
  toString := EncryptRuleDefinition.toString
  rule := do
    let tableName ← name
    skip .encrypt (.symbol .lp)
    let resource ← .opt (ahead .encrypt [.keyword .resource]) resourceDefinition
    skip .encrypt (.keyword .columns)
    skip .encrypt (.symbol .lp)
    let columns ← commaList .encrypt encryptColumnDefinition.rule
    skip .encrypt (.symbol .rp)
    let query ← commaOpt .encrypt .queryWithCipherColumn queryWithCipherColumn
    skip .encrypt (.symbol .rp)
    return ⟨tableName, resource, columns, query⟩

def createEncryptRule : Phrase (Listed (IfNotExistsContext .encrypt)
    (Many EncryptRuleDefinitionContext)) CreateEncryptRule where
  visit t := ⟨t.clause.map visitIfNotExists, visitEncryptRuleDefinition t.items.first,
    t.items.toList.map visitEncryptRuleDefinition⟩
  toString n s := do
    let rules ← s.allEncryptRuleDefinition.mapM (EncryptRuleDefinition.toString n)
    return "CREATE ENCRYPT RULE" ++ orEmpty IfNotExists.toString s.ifNotExists ++ " " ++
      join rules ++ ";"
  rule := do
    header .encrypt [.create, .encrypt, .rule]
    let clause ← .opt (ahead .encrypt [.keyword .ifKw]) ifNotExists
    let items ← commaList .encrypt encryptRuleDefinition.rule
    return ⟨clause, items⟩

/-- The first of the two texts is that of a rule which is never visited. -/
def alterEncryptRule := bareListing .encrypt ("ALTER ENCRYPT RULE " ++ "" ++ " ") ";"
  [.alter, .encrypt, .rule] encryptRuleDefinition

def dropEncryptRule : Phrase (Listed (IfExistsContext .encrypt) (Many (Leaf .encrypt .identifier)))
    (Listed IfExists (List CommonIdentifier)) where
  visit t := ⟨t.clause.map visitIfExists, t.items.toList.map visitName⟩
  toString _ s := some ("DROP ENCRYPT RULE " ++ orEmpty IfExists.toString s.clause ++ " " ++
    join (s.items.map CommonIdentifier.toString) ++ ";")
  rule := do
    header .encrypt [.drop, .encrypt, .rule]
    let clause ← .opt (ahead .encrypt [.keyword .ifKw]) ifExists
    let items ← commaList .encrypt name
    return ⟨clause, items⟩

end Rules

end ShardingOnCloud.Distsql.EncryptRule
