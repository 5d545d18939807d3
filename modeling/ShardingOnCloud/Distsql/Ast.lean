namespace ShardingOnCloud.Distsql.Ast

/-- `strings.Join` with a comma. -/
def join (parts : List String) : String := ",".intercalate parts

/-- What is printed of a part that may be `nil`. -/
def orEmpty {α : Type} (toString : α → String) : Option α → String
  | some a => toString a
  | none => ""

structure IfExists where
  ifExists : String
  deriving DecidableEq, Repr

def IfExists.toString (i : IfExists) : String := i.ifExists

structure IfNotExists where
  ifNotExists : String
  deriving DecidableEq, Repr

def IfNotExists.toString (i : IfNotExists) : String := i.ifNotExists

structure CommonIdentifier where
  identifier : String
  deriving DecidableEq, Repr

def CommonIdentifier.toString (c : CommonIdentifier) : String := c.identifier

structure Literal where
  literal : String
  deriving DecidableEq, Repr

def Literal.toString (l : Literal) : String := l.literal

structure Property where
  key : String
  literal : Option Literal
  deriving DecidableEq, Repr

def Property.toString (p : Property) : String :=
  match p.literal with
  | some literal => p.key ++ "=" ++ literal.toString
  | none => ""

structure Properties where
  properties : List Property
  deriving DecidableEq, Repr

def Properties.toString (p : Properties) : String :=
  p.properties.foldl (fun sql property => sql ++ property.toString) ""

structure PropertiesDefinition where
  properties : Option Properties
  deriving DecidableEq, Repr

def PropertiesDefinition.toString (p : PropertiesDefinition) : String :=
  match p.properties with
  | some properties => "PROPERTIES(" ++ properties.toString ++ ")"
  | none => ""

structure BuildinAlgorithmTypeName where
  algorithmTypeName : String
  deriving DecidableEq, Repr

def BuildinAlgorithmTypeName.toString (b : BuildinAlgorithmTypeName) : String :=
  b.algorithmTypeName

structure AlgorithmTypeName where
  buildinAlgorithmTypeName : Option BuildinAlgorithmTypeName := none
  string : String := ""
  deriving DecidableEq, Repr

def AlgorithmTypeName.toString (a : AlgorithmTypeName) : String :=
  match a.buildinAlgorithmTypeName with
  | some b => b.toString
  | none => a.string

structure AlgorithmDefinition where
  algorithmTypeName : AlgorithmTypeName
  propertiesDefinition : Option PropertiesDefinition
  deriving DecidableEq, Repr

def AlgorithmDefinition.toString (a : AlgorithmDefinition) : String :=
  "TYPE(NAME=" ++ a.algorithmTypeName.toString ++
    orEmpty (fun p => "," ++ p.toString) a.propertiesDefinition ++ ")"

end ShardingOnCloud.Distsql.Ast
