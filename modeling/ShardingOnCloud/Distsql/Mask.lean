import ShardingOnCloud.Distsql.EncryptRule

namespace ShardingOnCloud.Distsql.Mask

open ShardingOnCloud.Lib.Descent
open ShardingOnCloud.Distsql.Ast ShardingOnCloud.Distsql.BaseRule ShardingOnCloud.Distsql.Phrases
open ShardingOnCloud.Distsql.Tokens hiding literal
open ShardingOnCloud.Distsql.Lexing ShardingOnCloud.Distsql.Reading

section Ast

structure MaskRuleDefinition where
  ruleName : CommonIdentifier
  columnDefinition : List EncryptRule.ColumnDefinition
  deriving DecidableEq, Repr

def MaskRuleDefinition.toString (m : MaskRuleDefinition) : String :=
  m.ruleName.toString ++ " (( " ++
    join (m.columnDefinition.map EncryptRule.ColumnDefinition.toString) ++ " ))"

structure CreateMaskRule where
  allMaskRuleDefinition : List MaskRuleDefinition
  table : String
  ifNotExists : Option IfNotExists
  deriving DecidableEq, Repr

def tableText (table : String) : String := if table ≠ "" then " " ++ table else ""

/-- No `RULE` stands before the definitions. -/
def CreateMaskRule.toString (c : CreateMaskRule) : String :=
  "CREATE MASK" ++ tableText c.table ++ orEmpty (fun i => " " ++ i.toString) c.ifNotExists ++ " " ++
    join (c.allMaskRuleDefinition.map MaskRuleDefinition.toString)

structure AlterMaskRule where
  table : String
  allMaskRuleDefinition : List MaskRuleDefinition
  deriving DecidableEq, Repr

def AlterMaskRule.toString (a : AlterMaskRule) : String :=
  "ALTER MASK " ++ a.table ++ " RULE" ++ " " ++
    join (a.allMaskRuleDefinition.map MaskRuleDefinition.toString)

structure DropMaskRule where
  ifExists : Option IfExists
  table : String
  allRuleName : List CommonIdentifier
  deriving DecidableEq, Repr

def DropMaskRule.toString (d : DropMaskRule) : String :=
  "DROP MASK" ++ tableText d.table ++ orEmpty (fun i => " " ++ i.toString) d.ifExists ++ " " ++
    join (d.allRuleName.map CommonIdentifier.toString)

end Ast

section Trees

def buildInMaskAlgorithmType : List Keyword :=
  [.md5, .keepFirstNLastM, .keepFromXToY, .maskFirstNLastM, .maskFromXToY,
    .maskBeforeSpecialChars, .maskAfterSpecialChars, .personalIdentityNumberRandomReplace,
    .militaryIdentityNumberRandomReplace, .landlineNumberRandomReplace, .telephoneRandomReplace,
    .unifiedCreditCodeRandomReplace, .genericTableRandomReplace]

structure ColumnDefinitionContext where
  columnName : Leaf .mask .identifier
  algorithmDefinition : AlgorithmDefinitionContext .mask buildInMaskAlgorithmType

structure MaskRuleDefinitionContext where
  ruleName : Leaf .mask .identifier
  columnDefinitions : Many ColumnDefinitionContext

abbrev TableToken := Leaf .mask (.keyword .table)

structure CreateMaskRuleContext where
  table : Option TableToken
  ifNotExists : Option (IfNotExistsContext .mask)
  maskRuleDefinitions : Many MaskRuleDefinitionContext

structure AlterMaskRuleContext where
  table : Option TableToken
  maskRuleDefinitions : Many MaskRuleDefinitionContext

structure DropMaskRuleContext where
  table : Option TableToken
  ifExists : Option (IfExistsContext .mask)
  ruleNames : Many (Leaf .mask .identifier)

def visitMaskRuleDefinition (ctx : MaskRuleDefinitionContext) : MaskRuleDefinition :=
  ⟨visitName ctx.ruleName, []⟩

def visitCreateMaskRule (ctx : CreateMaskRuleContext) : CreateMaskRule where
  allMaskRuleDefinition := ctx.maskRuleDefinitions.toList.map visitMaskRuleDefinition
  table := orEmpty text ctx.table
  ifNotExists := ctx.ifNotExists.map visitIfNotExists

def visitAlterMaskRule (ctx : AlterMaskRuleContext) : AlterMaskRule where
  table := orEmpty text ctx.table
  allMaskRuleDefinition := ctx.maskRuleDefinitions.toList.map visitMaskRuleDefinition

def visitDropMaskRule (ctx : DropMaskRuleContext) : DropMaskRule where
  ifExists := ctx.ifExists.map visitIfExists
  table := orEmpty text ctx.table
  allRuleName := ctx.ruleNames.toList.map visitName

end Trees

section Rules

def columnDefinition : TokenParser ColumnDefinitionContext := do
  skip .mask (.symbol .lp)
  skip .mask (.keyword .name)
  skip .mask (.symbol .eq)
  let columnName ← name
  skip .mask (.symbol .comma)
  let algorithm ← algorithmDefinition
  skip .mask (.symbol .rp)
  return ⟨columnName, algorithm⟩

def maskRuleDefinition : TokenParser MaskRuleDefinitionContext := do
  let ruleName ← name
  skip .mask (.symbol .lp)
  skip .mask (.keyword .columns)
  skip .mask (.symbol .lp)
  let columnDefinitions ← commaList .mask columnDefinition
  skip .mask (.symbol .rp)
  skip .mask (.symbol .rp)
  return ⟨ruleName, columnDefinitions⟩

def maskHeader (verb : Keyword) : TokenParser (Option TableToken) := do
  skip .mask (.keyword verb)
  skip .mask (.keyword .mask)
  let table ← .opt (ahead .mask [.keyword .table]) (leaf .mask (.keyword .table))
  skip .mask (.keyword .rule)
  return table

def createMaskRule : Phrase CreateMaskRuleContext CreateMaskRule where
  visit := visitCreateMaskRule
  toString _ c := some c.toString
  rule := do
    let table ← maskHeader .create
    let clause ← .opt (ahead .mask [.keyword .ifKw]) ifNotExists
    let definitions ← commaList .mask maskRuleDefinition
    return ⟨table, clause, definitions⟩

def alterMaskRule : Phrase AlterMaskRuleContext AlterMaskRule where
  visit := visitAlterMaskRule
  toString _ a := some a.toString
  rule := do
    let table ← maskHeader .alter
    let definitions ← commaList .mask maskRuleDefinition
    return ⟨table, definitions⟩

def dropMaskRule : Phrase DropMaskRuleContext DropMaskRule where
  visit := visitDropMaskRule
  toString _ d := some d.toString
  rule := do
    let table ← maskHeader .drop
    let clause ← .opt (ahead .mask [.keyword .ifKw]) ifExists
    let names ← commaList .mask name
    return ⟨table, clause, names⟩

end Rules

section Refusals

variable {verb : Keyword} {rest : List Char}

def tableChars : Option TableToken → List Char
  | some l => ' ' :: l.1
  | none => []

theorem table_text (table : Option TableToken) :
    (tableText (orEmpty text table)).toList = tableChars table := by
  cases table with
  | none => rfl
  | some l =>
    have hne : text l ≠ "" := by
      intro he
      have hnil := toList_text l
      rw [he] at hnil
      exact leaf_ne_nil l.2 hnil.symm
    rw [orEmpty, tableText, if_pos hne, String.toList_append, toList_text]
    rfl

/-- Neither `TABLE` nor `RULE` comes next. -/
def NoRule (rest : List Char) : Prop :=
  ahead .mask [.keyword .table] (lex .mask rest) = false ∧
    ahead .mask [.keyword .rule] (lex .mask rest) = false

theorem run_maskHeader (hverb : verb ∈ keywords .mask) (table : Option TableToken)
    (hr : stops rest = true) (hno : NoRule rest) :
    (maskHeader verb).run (lex .mask (kw verb ++ ' ' :: (kw .mask ++ (tableChars table ++ rest)))) =
      none := by
  have hstops : stops (tableChars table ++ rest) = true := by
    cases table with
    | none => exact hr
    | some l => rfl
  rw [maskHeader, Parser.run_bind_some (run_skip_kw hverb rfl), lex_blank,
    Parser.run_bind_some (run_skip_kw (by decide) hstops)]
  cases table with
  | none =>
    rw [tableChars, List.nil_append, Parser.run_bind_some (Parser.run_opt_neg hno.1)]
    exact Parser.run_bind_none (run_skip_ahead hno.2)
  | some l =>
    have htable : ahead .mask [.keyword .table] (l.1 :: lex .mask rest) = true := by
      simp
    have hleaf : (Parser.opt (ahead .mask [.keyword .table]) (leaf .mask (.keyword .table))).run
        (l.1 :: lex .mask rest) = some (some l, lex .mask rest) := by
      rw [Parser.run_opt_pos htable, run_leaf]
      rfl
    change Parser.run _ (lex .mask (' ' :: (l.1 ++ rest))) = none
    rw [lex_blank, lex_leaf_keyword l hr, Parser.run_bind_some hleaf]
    exact Parser.run_bind_none (run_skip_ahead hno.2)

theorem noRule_name (l : Leaf .mask .identifier) (hr : parts rest = true) :
    NoRule (l.1 ++ rest) := by
  rw [NoRule, lex_name l hr]
  simp

theorem ahead_other {g : Grammar} {k k' : Kind} {ws : List (List Char)}
    (h : ahead g [k] ws = true) (hne : k ≠ k') : ahead g [k'] ws = false := by
  cases ws with
  | nil => rfl
  | cons w ws =>
    simp only [ahead_cons, ahead_nil, Bool.and_true, decide_eq_true_eq] at h
    simp [h, hne]

theorem noRule_clause {C D : Type} {c : Clause C D} (hc : c.Reads .mask) (t : Option C)
    (h : NoRule rest) :
    NoRule ((orEmpty (fun i => " " ++ c.toString i) (t.map c.visit)).toList ++ ' ' :: rest) := by
  cases t with
  | none =>
    change NoRule (' ' :: rest)
    rw [NoRule, lex_blank]
    exact h
  | some t =>
    have htext : (orEmpty (fun i => " " ++ c.toString i) ((some t).map c.visit)).toList ++
        ' ' :: rest = ' ' :: ((c.toString (c.visit t)).toList ++ ' ' :: rest) := by
      simp [orEmpty]
    have hif := (hc t (' ' :: rest) rfl).2
    rw [htext, NoRule, lex_blank]
    exact ⟨ahead_other hif (by decide), ahead_other hif (by decide)⟩

theorem stops_clause {C D : Type} {c : Clause C D} (t : Option C) :
    stops ((orEmpty (fun i => " " ++ c.toString i) (t.map c.visit)).toList ++ ' ' :: rest) =
      true := by
  cases t with
  | none => rfl
  | some t => simp [orEmpty, stops]

end Refusals

section RoundTrips

theorem definitions_text (ts : Many MaskRuleDefinitionContext) : ∃ rest,
    (join ((ts.toList.map visitMaskRuleDefinition).map MaskRuleDefinition.toString)).toList =
      ts.first.ruleName.1 ++ ' ' :: '(' :: '(' :: rest := by
  rw [toList_join, Many.toList, List.map_cons, List.map_cons, List.map_cons,
    Parser.intercalate_cons]
  simp [visitMaskRuleDefinition, MaskRuleDefinition.toString]

theorem names_text (ts : Many (Leaf .mask .identifier)) : ∃ rest, parts rest = true ∧
    (join ((ts.toList.map visitName).map CommonIdentifier.toString)).toList =
      ts.first.1 ++ rest := by
  rw [toList_join, Many.toList, List.map_cons, List.map_cons, List.map_cons,
    Parser.intercalate_cons, name_text]
  refine ⟨_, ?_, rfl⟩
  cases ts.others <;> rfl

theorem create_format (table clause items : String) :
    ("CREATE MASK" ++ table ++ clause ++ " " ++ items).toList =
      kw .create ++ ' ' :: (kw .mask ++ (table.toList ++ (clause.toList ++
        ' ' :: items.toList))) := by
  simp [kw, Keyword.text]

theorem create_not_keeps (t : CreateMaskRuleContext) :
    ¬ createMaskRule.Keeps .mask CreateMaskRuleContext.maskRuleDefinitions t := by
  obtain ⟨rest, hitems⟩ := definitions_text t.maskRuleDefinitions
  have htext : ∀ n, (createMaskRule.toString n (createMaskRule.visit t)).map String.toList =
      some (kw .create ++ ' ' :: (kw .mask ++ ((tableText (orEmpty text t.table)).toList ++
        ((orEmpty (fun i => " " ++ (ifNotExistsClause .mask).toString i)
          (t.ifNotExists.map (ifNotExistsClause .mask).visit)).toList ++
            ' ' :: (join ((t.maskRuleDefinitions.toList.map visitMaskRuleDefinition).map
              MaskRuleDefinition.toString)).toList)))) :=
    fun _ => congrArg some (create_format _ _ _)
  refine not_keeps htext (Parser.run_bind_none ?_)
  rw [table_text, hitems]
  exact run_maskHeader (by decide) t.table (stops_clause _)
    (noRule_clause ifNotExistsClause_reads _ (noRule_name _ rfl))

theorem drop_format (table clause items : String) :
    ("DROP MASK" ++ table ++ clause ++ " " ++ items).toList =
      kw .drop ++ ' ' :: (kw .mask ++ (table.toList ++ (clause.toList ++
        ' ' :: items.toList))) := by
  simp [kw, Keyword.text]

theorem drop_not_keeps (t : DropMaskRuleContext) :
    ¬ dropMaskRule.Keeps .mask DropMaskRuleContext.ruleNames t := by
  obtain ⟨rest, hrest, hitems⟩ := names_text t.ruleNames
  have htext : ∀ n, (dropMaskRule.toString n (dropMaskRule.visit t)).map String.toList =
      some (kw .drop ++ ' ' :: (kw .mask ++ ((tableText (orEmpty text t.table)).toList ++
        ((orEmpty (fun i => " " ++ (ifExistsClause .mask).toString i)
          (t.ifExists.map (ifExistsClause .mask).visit)).toList ++
            ' ' :: (join ((t.ruleNames.toList.map visitName).map
              CommonIdentifier.toString)).toList)))) :=
    fun _ => congrArg some (drop_format _ _ _)
  refine not_keeps htext (Parser.run_bind_none ?_)
  rw [table_text, hitems]
  exact run_maskHeader (by decide) t.table (stops_clause _)
    (noRule_clause ifExistsClause_reads _ (noRule_name _ hrest))

theorem alter_format (table items : String) :
    ("ALTER MASK " ++ table ++ " RULE" ++ " " ++ items).toList =
      kw .alter ++ ' ' :: (kw .mask ++ ' ' :: (table.toList ++ ' ' :: (kw .rule ++
        ' ' :: items.toList))) := by
  simp [kw, Keyword.text]

theorem run_alterHeader (table : Option TableToken) (rest : List Char) :
    (maskHeader .alter).run (lex .mask (kw .alter ++ ' ' :: (kw .mask ++ ' ' ::
      ((orEmpty text table).toList ++ ' ' :: (kw .rule ++ ' ' :: rest))))) =
        some (table, lex .mask rest) := by
  have hrule : Keyword.rule ∈ keywords .mask := by decide
  have hskip : (skip .mask (.keyword .rule)).run (kw .rule :: lex .mask rest) =
      some ((), lex .mask rest) := by
    rw [run_skip_cons, if_pos (kindOf_kw hrule)]
  rw [maskHeader, Parser.run_bind_some (run_skip_kw (by decide) rfl), lex_blank,
    Parser.run_bind_some (run_skip_kw (by decide) rfl), lex_blank]
  cases table with
  | none =>
    change Parser.run _ (lex .mask (' ' :: (kw .rule ++ ' ' :: rest))) = _
    rw [lex_blank, lex_kw hrule rfl, lex_blank,
      Parser.run_bind_some (Parser.run_opt_neg (by simp [hrule])), Parser.run_bind_some hskip]
    rfl
  | some l =>
    have hleaf : (Parser.opt (ahead .mask [.keyword .table]) (leaf .mask (.keyword .table))).run
        (l.1 :: kw .rule :: lex .mask rest) = some (some l, kw .rule :: lex .mask rest) := by
      rw [Parser.run_opt_pos (by simp), run_leaf]
      rfl
    rw [orEmpty, toList_text, lex_leaf_keyword l rfl, lex_blank, lex_kw hrule rfl, lex_blank,
      Parser.run_bind_some hleaf, Parser.run_bind_some hskip]
    rfl

theorem run_emptyDefinition (l : Leaf .mask .identifier) (rest : List Char) :
    maskRuleDefinition.run (lex .mask (l.1 ++ ' ' :: '(' :: '(' :: rest)) = none := by
  rw [lex_name l rfl, lex_blank, lex_lp, lex_lp, maskRuleDefinition, name,
    Parser.run_bind_some (run_leaf l)]
  simp

theorem alter_not_keeps (t : AlterMaskRuleContext) :
    ¬ alterMaskRule.Keeps .mask AlterMaskRuleContext.maskRuleDefinitions t := by
  obtain ⟨rest, hitems⟩ := definitions_text t.maskRuleDefinitions
  have htext : ∀ n, (alterMaskRule.toString n (alterMaskRule.visit t)).map String.toList =
      some (kw .alter ++ ' ' :: (kw .mask ++ ' ' :: ((orEmpty text t.table).toList ++
        ' ' :: (kw .rule ++ ' ' :: (join ((t.maskRuleDefinitions.toList.map
          visitMaskRuleDefinition).map MaskRuleDefinition.toString)).toList)))) :=
    fun _ => congrArg some (alter_format _ _)
  refine not_keeps htext ?_
  rw [hitems, alterMaskRule, Parser.run_bind_some (run_alterHeader _ _)]
  exact Parser.run_bind_none (run_commaList_none (run_emptyDefinition _ _))

/-- `RULE` is missing from two of the statements, and the columns from the third. -/
theorem mask_never_round_trips (create : CreateMaskRuleContext) (alter : AlterMaskRuleContext)
    (drop : DropMaskRuleContext) :
    ¬ createMaskRule.Keeps .mask CreateMaskRuleContext.maskRuleDefinitions create ∧
    ¬ alterMaskRule.Keeps .mask AlterMaskRuleContext.maskRuleDefinitions alter ∧
    ¬ dropMaskRule.Keeps .mask DropMaskRuleContext.ruleNames drop :=
  ⟨create_not_keeps create, alter_not_keeps alter, drop_not_keeps drop⟩

/-- A table with one masked column, `TYPE(NAME=MD5)`. -/
def maskedTable : MaskRuleDefinitionContext where
  ruleName := quotedName _ 't' t_ne_backQuote
  columnDefinitions := ⟨⟨quotedName _ 'c' c_ne_backQuote,
    ⟨.buildin .md5 (by decide) (keywordLeaf _ .md5 (by decide)), none⟩⟩, []⟩

theorem maskedTable_is_lost : ¬ createMaskRule.Keeps .mask
    CreateMaskRuleContext.maskRuleDefinitions ⟨none, none, ⟨maskedTable, []⟩⟩ :=
  create_not_keeps _

end RoundTrips

end ShardingOnCloud.Distsql.Mask
