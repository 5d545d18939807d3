import ShardingOnCloud.Lib.Descent
import ShardingOnCloud.Distsql.Ast
import ShardingOnCloud.Distsql.Tokens

namespace ShardingOnCloud.Distsql.BaseRule

open ShardingOnCloud.Lib.Descent ShardingOnCloud.Distsql.Tokens ShardingOnCloud.Distsql.Ast

abbrev TokenParser (α : Type) := Parser (List Char) α

section Tokens

variable (g : Grammar)

def skip (k : Kind) : TokenParser Unit :=
  .token (fun w => if kindOf g w = some k then some () else none)

def leaf (k : Kind) : TokenParser (Leaf g k) :=
  .token (fun w => if h : kindOf g w = some k then some ⟨w, h⟩ else none)

def ahead : List Kind → List (List Char) → Bool
  | [], _ => true
  | _ :: _, [] => false
  | k :: ks, w :: ws => kindOf g w = some k && ahead ks ws

def comma (w : List Char) : Option Unit :=
  if kindOf g w = some (.symbol .comma) then some () else none

/-- `x (COMMA_ x)*`, where nothing else goes on with a comma. -/
def commaList {α : Type} (p : TokenParser α) : TokenParser (Many α) :=
  .sepBy (ahead g [.symbol .comma]) (comma g) p

/-- `(COMMA_ x)?`, where another token tells `x` from what may come in its place. -/
def commaOpt {α : Type} (k : Keyword) (p : TokenParser α) : TokenParser (Option α) :=
  .opt (ahead g [.symbol .comma, .keyword k]) (do
    skip g (.symbol .comma)
    p)

end Tokens

/-- The text of a token, as `GetText` returns it. -/
def text {g : Grammar} {k : Kind} (l : Leaf g k) : String := String.ofList l.1

section Clauses

structure IfExistsContext (g : Grammar) where
  ifToken : Leaf g (.keyword .ifKw)
  existsToken : Leaf g (.keyword .exists)

structure IfNotExistsContext (g : Grammar) where
  ifToken : Leaf g (.keyword .ifKw)
  notToken : Leaf g (.keyword .not)
  existsToken : Leaf g (.keyword .exists)

variable {g : Grammar}

def visitIfExists (ctx : IfExistsContext g) : IfExists :=
  ⟨text ctx.ifToken ++ " " ++ text ctx.existsToken⟩

def visitIfNotExists (ctx : IfNotExistsContext g) : IfNotExists :=
  ⟨text ctx.ifToken ++ " " ++ text ctx.notToken ++ " " ++ text ctx.existsToken⟩

def ifExists : TokenParser (IfExistsContext g) := do
  let i ← leaf g (.keyword .ifKw)
  let e ← leaf g (.keyword .exists)
  return ⟨i, e⟩

def ifNotExists : TokenParser (IfNotExistsContext g) := do
  let i ← leaf g (.keyword .ifKw)
  let n ← leaf g (.keyword .not)
  let e ← leaf g (.keyword .exists)
  return ⟨i, n, e⟩

def visitName (ctx : Leaf g .identifier) : CommonIdentifier := ⟨text ctx⟩

def name : TokenParser (Leaf g .identifier) := leaf g .identifier

end Clauses

section Algorithms

inductive LiteralContext (g : Grammar)
  | string (l : Leaf g .string)
  | int (minus : Option (Leaf g (.symbol .minus))) (l : Leaf g .int)
  | trueToken (l : Leaf g (.keyword .true))
  | falseToken (l : Leaf g (.keyword .false))

structure PropertyContext (g : Grammar) where
  key : Leaf g .string
  value : LiteralContext g

structure PropertiesDefinitionContext (g : Grammar) where
  properties : Option (Many (PropertyContext g))

inductive AlgorithmTypeNameContext (g : Grammar) (types : List Keyword)
  | string (l : Leaf g .string)
  | buildin (k : Keyword) (hk : k ∈ types) (l : Leaf g (.keyword k))

structure AlgorithmDefinitionContext (g : Grammar) (types : List Keyword) where
  algorithmTypeName : AlgorithmTypeNameContext g types
  propertiesDefinition : Option (PropertiesDefinitionContext g)

variable {g : Grammar} {types : List Keyword}

def visitLiteral : LiteralContext g → Ast.Literal
  | .string l => ⟨text l⟩
  | .int (some minus) _ => ⟨text minus⟩
  | .int none l => ⟨text l⟩
  | .trueToken l => ⟨text l⟩
  | .falseToken l => ⟨text l⟩

def visitProperty (ctx : PropertyContext g) : Property :=
  ⟨text ctx.key, some (visitLiteral ctx.value)⟩

def visitProperties (ctx : Many (PropertyContext g)) : Properties :=
  ⟨ctx.toList.map visitProperty⟩

def visitPropertiesDefinition (ctx : PropertiesDefinitionContext g) : PropertiesDefinition :=
  ⟨ctx.properties.map visitProperties⟩

def visitAlgorithmTypeName : AlgorithmTypeNameContext g types → AlgorithmTypeName
  | .string l => { string := text l }
  | .buildin _ _ l => { buildinAlgorithmTypeName := some ⟨text l⟩ }

def visitAlgorithmDefinition (ctx : AlgorithmDefinitionContext g types) : AlgorithmDefinition :=
  ⟨visitAlgorithmTypeName ctx.algorithmTypeName,
    ctx.propertiesDefinition.map visitPropertiesDefinition⟩

def literal : TokenParser (LiteralContext g) :=
  .look (ahead g [.string]) (do return .string (← leaf g .string)) <|
  .look (ahead g [.symbol .minus]) (do
    let m ← leaf g (.symbol .minus)
    return .int (some m) (← leaf g .int)) <|
  .look (ahead g [.int]) (do return .int none (← leaf g .int)) <|
  .look (ahead g [.keyword .true]) (do return .trueToken (← leaf g (.keyword .true))) <|
  do return .falseToken (← leaf g (.keyword .false))

def property : TokenParser (PropertyContext g) := do
  let key ← leaf g .string
  skip g (.symbol .eq)
  return ⟨key, ← literal⟩

def propertiesDefinition : TokenParser (PropertiesDefinitionContext g) := do
  skip g (.keyword .properties)
  skip g (.symbol .lp)
  let properties ← .opt (ahead g [.string]) (commaList g property)
  skip g (.symbol .rp)
  return ⟨properties⟩

def typeNameOf (types : List Keyword) (w : List Char) : Option (AlgorithmTypeNameContext g types) :=
  match h : kindOf g w with
  | some .string => some (.string ⟨w, h⟩)
  | some (.keyword k) => if hk : k ∈ types then some (.buildin k hk ⟨w, h⟩) else none
  | _ => none

def algorithmTypeName : TokenParser (AlgorithmTypeNameContext g types) := .token (typeNameOf types)

def algorithmDefinition : TokenParser (AlgorithmDefinitionContext g types) := do
  skip g (.keyword .type)
  skip g (.symbol .lp)
  skip g (.keyword .name)
  skip g (.symbol .eq)
  let algorithmTypeName ← algorithmTypeName
  let propertiesDefinition ← .opt (ahead g [.symbol .comma]) (do
    skip g (.symbol .comma)
    propertiesDefinition)
  skip g (.symbol .rp)
  return ⟨algorithmTypeName, propertiesDefinition⟩

end Algorithms

end ShardingOnCloud.Distsql.BaseRule
