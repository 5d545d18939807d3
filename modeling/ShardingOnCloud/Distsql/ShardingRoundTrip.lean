import ShardingOnCloud.Distsql.ShardingRule

namespace ShardingOnCloud.Distsql.ShardingRoundTrip

open ShardingOnCloud.Lib.Descent
open ShardingOnCloud.Distsql.Ast ShardingOnCloud.Distsql.Phrases
open ShardingOnCloud.Distsql.BaseRule hiding visitAlgorithmDefinition
open ShardingOnCloud.Distsql.Tokens hiding literal
open ShardingOnCloud.Distsql.Lexing ShardingOnCloud.Distsql.Reading
open ShardingOnCloud.Distsql.ShardingRule

section Lists

variable {rest : List Char}

theorem text_ne_empty {g : Grammar} {k : Kind} (l : Leaf g k) : text l ≠ "" := by
  intro he
  have hnil := toList_text l
  rw [he] at hnil
  exact leaf_ne_nil l.2 hnil.symm

def storageUnitPhrase : Phrase StorageUnitContext StorageUnit where
  visit := visitStorageUnit
  toString _ s := some s.toString
  rule := storageUnit

def storageUnitText : StorageUnitContext → List Char
  | .identifier l => l.1
  | .string l => l.1

theorem storageUnit_reads : storageUnitPhrase.Reads .sharding
    (fun c => some (storageUnitText c)) some where
  prints n c := by
    obtain l | l := c
    · exact congrArg some (toList_text l)
    · change some (StorageUnit.toString { string := text l }).toList = _
      rw [StorageUnit.toString, if_pos (text_ne_empty l), toList_text]
      rfl
  reads := by
    intro c s rest hs hr
    obtain rfl := Option.some.inj hs
    obtain l | l := c
    · change storageUnit.run (lex .sharding (l.1 ++ rest)) = _
      rw [lex_name l (parts_of_follows hr)]
      simp [storageUnit, name]
    · change storageUnit.run (lex .sharding (l.1 ++ rest)) = _
      rw [lex_string l.2 (closes_of_follows hr)]
      simp [storageUnit]
  starts := by
    intro c s rest hs hr
    obtain rfl := Option.some.inj hs
    obtain l | l := c
    · change ahead _ _ (lex .sharding (l.1 ++ rest)) = _
      rw [lex_name l (parts_of_follows hr)]
      simp
    · change ahead _ _ (lex .sharding (l.1 ++ rest)) = _
      rw [lex_string l.2 (closes_of_follows hr)]
      simp

def dataNodePhrase : Phrase (Leaf .sharding .string) CommonIdentifier where
  visit := visitDataNode
  toString _ c := some c.toString
  rule := leaf .sharding .string

theorem dataNode_reads : dataNodePhrase.Reads .sharding (fun l => some l.1) some where
  prints n l := congrArg some (toList_text l)
  reads := by
    intro l s rest hs hr
    obtain rfl := Option.some.inj hs
    rw [lex_string l.2 (closes_of_follows hr)]
    simp [dataNodePhrase]
  starts := by
    intro l s rest hs hr
    obtain rfl := Option.some.inj hs
    rw [lex_string l.2 (closes_of_follows hr)]
    simp

theorem enclosed_format (units : String) :
    ("STORAGE_UNITS (" ++ units ++ ")").toList =
      kw .storageUnits ++ ' ' :: '(' :: (units.toList ++ [')']) ∧
    ("DATANODES(" ++ units ++ ")").toList = kw .datanodes ++ '(' :: (units.toList ++ [')']) := by
  simp [kw, Keyword.text]

theorem storageUnits_text (units : Many StorageUnitContext) :
    (visitStorageUnits units).toString.toList ++ rest = kw .storageUnits ++ ' ' :: '(' ::
      ((join ((units.toList.map visitStorageUnit).map StorageUnit.toString)).toList ++
        ')' :: rest) :=
  (congrArg (· ++ rest) (enclosed_format _).1).trans (by simp [visitStorageUnits])

theorem run_storageUnits (units : Many StorageUnitContext) :
    storageUnits.run (lex .sharding ((visitStorageUnits units).toString.toList ++ rest)) =
      some (units, lex .sharding rest) := by
  have hunits : (commaList .sharding storageUnit).run (lex .sharding
      ((join ((units.toList.map visitStorageUnit).map StorageUnit.toString)).toList ++
        ')' :: rest)) = some (units, lex .sharding (')' :: rest)) :=
    run_listed storageUnit_reads (fun _ _ => rfl) units rfl (by simp)
  rw [storageUnits_text, storageUnits, Parser.run_bind_some (run_skip_kw (by decide) rfl),
    lex_blank, Parser.run_bind_some run_skip_lp, Parser.run_bind_some hunits,
    Parser.run_bind_some run_skip_rp]
  rfl

theorem dataNodes_text (nodes : Many (Leaf .sharding .string)) :
    (visitDataNodes nodes).toString.toList ++ rest = kw .datanodes ++ '(' ::
      ((join ((nodes.toList.map visitDataNode).map CommonIdentifier.toString)).toList ++
        ')' :: rest) :=
  (congrArg (· ++ rest) (enclosed_format _).2).trans (by simp [visitDataNodes])

theorem run_dataNodes (nodes : Many (Leaf .sharding .string)) :
    dataNodes.run (lex .sharding ((visitDataNodes nodes).toString.toList ++ rest)) =
      some (nodes, lex .sharding rest) := by
  have hnodes : (commaList .sharding (leaf .sharding .string)).run (lex .sharding
      ((join ((nodes.toList.map visitDataNode).map CommonIdentifier.toString)).toList ++
        ')' :: rest)) = some (nodes, lex .sharding (')' :: rest)) :=
    run_listed dataNode_reads (fun _ _ => rfl) nodes rfl (by simp)
  rw [dataNodes_text, dataNodes, Parser.run_bind_some (run_skip_kw (by decide) rfl),
    Parser.run_bind_some run_skip_lp, Parser.run_bind_some hnodes,
    Parser.run_bind_some run_skip_rp]
  rfl

end Lists

section Columns

variable {rest : List Char}

theorem column_format (c : String) : ("SHARDING_COLUMN EQ_ " ++ c).toList =
    kw .shardingColumn ++ ' ' :: ("EQ_".toList ++ ' ' :: c.toList) := by
  simp [kw, Keyword.text]

theorem column_text (c : Name) : (visitShardingColumn c).toString.toList ++ rest =
    kw .shardingColumn ++ ' ' :: ("EQ_".toList ++ ' ' :: (c.1 ++ rest)) := by
  refine (congrArg (· ++ rest) (column_format _)).trans ?_
  simp [visitShardingColumn]

theorem run_shardingColumn (c : Name) :
    shardingColumn.run (lex .sharding ((visitShardingColumn c).toString.toList ++ rest)) = none := by
  have hsign : kindOf .sharding "EQ_".toList ≠ some (.symbol .eq) := not_kind (by
    rintro ⟨t, ht, he⟩
    rw [List.mem_singleton.mp ht] at he
    cases he)
  rw [column_text, shardingColumn, Parser.run_bind_some (run_skip_kw (by decide) rfl), lex_blank,
    lex_word (List.all_eq_true.mp (by decide)) ⟨'E', by decide, rfl⟩ (by decide) rfl]
  exact Parser.run_bind_none (by rw [run_skip_cons, if_neg hsign])

theorem columns_format (c all : String) : ("SHARDING_COLUMNS = " ++ c ++ "," ++ all).toList =
    kw .shardingColumns ++ ' ' :: '=' :: ' ' :: (c.toList ++ ',' :: all.toList) := by
  simp [kw, Keyword.text]

theorem run_columnNames (names : Many Name) :
    columnNames.run (lex .sharding ((join ((names.toList.map visitName).map
        CommonIdentifier.toString)).toList ++ ',' :: (kw .shardingAlgorithm ++ ' ' :: rest))) =
      some (names, lex .sharding (',' :: (kw .shardingAlgorithm ++ ' ' :: rest))) := by
  have hkw : Keyword.shardingAlgorithm ∈ keywords .sharding := by decide
  have htext : (join ((names.toList.map visitName).map CommonIdentifier.toString)).toList =
      [','].intercalate (names.toList.map Subtype.val) := by
    rw [toList_join, List.map_map, List.map_map]
    congr 2
    funext l
    exact toList_text l
  have hname : ∀ y ∈ names.toList, ∀ rest, follows rest = true →
      name.run (lex .sharding (y.1 ++ rest)) =
        (some y).map (fun z => (z, lex .sharding rest)) := by
    intro y _ rest hr
    rw [lex_name y (parts_of_follows hr), name, run_leaf]
    rfl
  have hmore : ∀ y ∈ names.toList, ∀ rest, follows rest = true →
      ahead .sharding [.symbol .comma, .identifier] ([','] :: lex .sharding (y.1 ++ rest)) =
        true := by
    intro y _ rest hr
    rw [lex_name y (parts_of_follows hr)]
    simp
  have hend : ahead .sharding [.symbol .comma, .identifier]
      (lex .sharding (',' :: (kw .shardingAlgorithm ++ ' ' :: rest))) = false := by
    rw [lex_comma, lex_kw hkw rfl]
    simp [hkw]
  have hcomma : comma .sharding [','] = some () := comma_comma
  have hrun := Parser.run_sepBy_text hname (fun _ => lex_comma) hcomma (fun _ => rfl) hmore rfl hend
  rw [mapM_some] at hrun
  rw [htext]
  exact hrun

theorem columns_text (c : ShardingColumnsContext) :
    (visitShardingColumns c).toString.toList ++ rest = kw .shardingColumns ++ ' ' :: '=' :: ' ' ::
      (c.columnName.1 ++ ',' :: ((join ((c.allColumnName.map visitName).map
        CommonIdentifier.toString)).toList ++ rest)) := by
  refine (congrArg (· ++ rest) (columns_format _ _)).trans ?_
  simp [visitShardingColumns]

theorem run_shardingColumns (c : ShardingColumnsContext) :
    shardingColumns.run (lex .sharding ((visitShardingColumns c).toString.toList ++
        ',' :: (kw .shardingAlgorithm ++ ' ' :: rest))) =
      some (⟨c.columnName, c.columnName, c.columnNames.toList⟩,
        lex .sharding (',' :: (kw .shardingAlgorithm ++ ' ' :: rest))) := by
  have hname : name.run (c.columnName.1 :: lex .sharding (',' :: ((join ((c.allColumnName.map
      visitName).map CommonIdentifier.toString)).toList ++
        ',' :: (kw .shardingAlgorithm ++ ' ' :: rest)))) = some (c.columnName, _) :=
    run_leaf c.columnName
  have hnames : columnNames.run (lex .sharding ((join ((c.allColumnName.map visitName).map
      CommonIdentifier.toString)).toList ++ ',' :: (kw .shardingAlgorithm ++ ' ' :: rest))) =
        some (⟨c.columnName, c.columnNames.toList⟩, _) :=
    run_columnNames ⟨c.columnName, c.columnNames.toList⟩
  rw [columns_text, shardingColumns, Parser.run_bind_some (run_skip_kw (by decide) rfl), lex_blank,
    Parser.run_bind_some (run_skip_eq (by simp)), lex_blank, lex_name c.columnName rfl,
    Parser.run_bind_some hname, Parser.run_bind_some run_skip_comma,
    Parser.run_bind_some hnames]
  rfl

end Columns

section Strategies

variable {rest : List Char}

def strategyTypeText : StrategyTypeContext → List Char
  | .string l => l.1
  | .buildIn _ _ l => l.1

theorem strategyType_text (s : StrategyTypeContext) :
    (visitStrategyType s).toString.toList = strategyTypeText s := by
  obtain l | ⟨k, hk, l⟩ := s
  · rw [visitStrategyType, StrategyType.toString, if_pos (text_ne_empty l), toList_text]
    rfl
  · exact toList_text l

theorem run_strategyType (s : StrategyTypeContext) :
    strategyType.run (lex .sharding (strategyTypeText s ++ ',' :: rest)) =
      some (s, lex .sharding (',' :: rest)) := by
  have hlex : lex .sharding (strategyTypeText s ++ ',' :: rest) =
      strategyTypeText s :: lex .sharding (',' :: rest) := by
    obtain l | ⟨k, hk, l⟩ := s
    · exact lex_string l.2 rfl
    · exact lex_keyword l.2 rfl
  have hof : strategyTypeOf (strategyTypeText s) = some s := by
    obtain l | ⟨k, hk, l⟩ := s
    · rw [strategyTypeText, strategyTypeOf]
      split
      · rfl
      · rename_i k h
        cases h.symm.trans l.2
      · rename_i h _
        exact absurd l.2 h
    · rw [strategyTypeText, strategyTypeOf]
      split
      · rename_i h
        cases h.symm.trans l.2
      · rename_i k' h
        obtain rfl : k' = k := by
          cases h.symm.trans l.2
          rfl
        rw [dif_pos hk]
      · rename_i _ h
        exact absurd l.2 (h k)
  rw [hlex, strategyType, Parser.run_token_cons, hof]
  rfl

theorem run_strategyAlgorithm_commas :
    strategyAlgorithm.run (lex .sharding (',' :: ',' :: rest)) = none := by
  have hneg : columnsAhead (lex .sharding (',' :: ',' :: rest)) = false := by
    simp [columnsAhead]
  rw [strategyAlgorithm, Parser.run_bind_some (Parser.run_opt_neg hneg),
    Parser.run_bind_some run_skip_comma]
  refine Parser.run_bind_none (Parser.run_bind_none ?_)
  simp

theorem ahead_column (c : Name) : ahead .sharding [.keyword .shardingColumn] (lex .sharding
    ((visitShardingColumn c).toString.toList ++ rest)) = true := by
  have hkw : Keyword.shardingColumn ∈ keywords .sharding := by decide
  rw [column_text, lex_kw hkw rfl]
  simp [hkw]

theorem run_strategyAlgorithm_column (c : Name) :
    strategyAlgorithm.run (lex .sharding
      (',' :: ((visitShardingColumn c).toString.toList ++ rest))) = none := by
  have hpos : columnsAhead (lex .sharding
      (',' :: ((visitShardingColumn c).toString.toList ++ rest))) = true := by
    have hcolumn : ahead .sharding [.keyword .shardingColumn] (lex .sharding
        ((visitShardingColumn c).toString.toList ++ rest)) = true := ahead_column c
    rw [columnsAhead, lex_comma, ahead_cons, hcolumn]
    simp
  have hnone : shardingColumnDefinition.run (lex .sharding
      ((visitShardingColumn c).toString.toList ++ rest)) = none := by
    rw [shardingColumnDefinition, Parser.run_look, if_pos (ahead_column c)]
    exact Parser.run_bind_none (run_shardingColumn c)
  rw [strategyAlgorithm]
  refine Parser.run_bind_none ?_
  rw [Parser.run_opt_pos hpos, Parser.run_bind_some run_skip_comma, hnone]
  rfl

theorem run_strategyAlgorithm_columns (c : ShardingColumnsContext)
    {r : StrategyAlgorithmContext × List (List Char)}
    (h : strategyAlgorithm.run (lex .sharding (',' :: ((visitShardingColumns c).toString.toList ++
      ',' :: (kw .shardingAlgorithm ++ ' ' :: rest)))) = some r) :
    r.1.shardingColumnDefinition =
      some (.shardingColumns ⟨c.columnName, c.columnName, c.columnNames.toList⟩) := by
  have hkw : Keyword.shardingColumns ∈ keywords .sharding := by decide
  obtain ⟨ws, hlex⟩ : ∃ ws, lex .sharding ((visitShardingColumns c).toString.toList ++
      ',' :: (kw .shardingAlgorithm ++ ' ' :: rest)) = kw .shardingColumns :: ws :=
    ⟨_, by rw [columns_text, lex_kw hkw rfl]⟩
  have hpos : columnsAhead (lex .sharding (',' :: ((visitShardingColumns c).toString.toList ++
      ',' :: (kw .shardingAlgorithm ++ ' ' :: rest)))) = true := by
    rw [columnsAhead, lex_comma, hlex]
    simp [hkw]
  have hneg : ahead .sharding [.keyword .shardingColumn] (lex .sharding
      ((visitShardingColumns c).toString.toList ++
        ',' :: (kw .shardingAlgorithm ++ ' ' :: rest))) = false := by
    rw [hlex]
    simp [hkw]
  have hcolumns : shardingColumnDefinition.run (lex .sharding
      ((visitShardingColumns c).toString.toList ++
        ',' :: (kw .shardingAlgorithm ++ ' ' :: rest))) =
      some (.shardingColumns ⟨c.columnName, c.columnName, c.columnNames.toList⟩,
        lex .sharding (',' :: (kw .shardingAlgorithm ++ ' ' :: rest))) := by
    rw [shardingColumnDefinition, Parser.run_look, hneg]
    exact Parser.run_bind_some (run_shardingColumns c)
  have hopt : (Parser.opt columnsAhead (do
      skip .sharding (.symbol .comma)
      shardingColumnDefinition)).run (lex .sharding (',' ::
        ((visitShardingColumns c).toString.toList ++
          ',' :: (kw .shardingAlgorithm ++ ' ' :: rest)))) =
      some (some (.shardingColumns ⟨c.columnName, c.columnName, c.columnNames.toList⟩),
        lex .sharding (',' :: (kw .shardingAlgorithm ++ ' ' :: rest))) := by
    rw [Parser.run_opt_pos hpos, Parser.run_bind_some run_skip_comma, hcolumns]
    rfl
  rw [strategyAlgorithm, Parser.run_bind_some hopt] at h
  obtain ⟨_, -, h⟩ := Option.bind_eq_some_iff.mp h
  obtain ⟨_, -, h⟩ := Option.bind_eq_some_iff.mp h
  obtain rfl := Option.some.inj h
  rfl

theorem strategy_format (type columns algorithm : String) :
    ("TYPE = " ++ type ++ "," ++ columns ++ "," ++ algorithm).toList =
      kw .type ++ ' ' :: '=' :: ' ' :: (type.toList ++ ',' :: (columns.toList ++
        ',' :: algorithm.toList)) := by
  simp [kw, Keyword.text]

theorem algorithm_format (algorithm : String) : ("SHARDING_ALGORITHM (" ++ algorithm ++ ")").toList =
    kw .shardingAlgorithm ++ ' ' :: '(' :: (algorithm.toList ++ [')']) := by
  simp [kw, Keyword.text]

theorem run_shardingStrategy (s : ShardingStrategyContext) {columns : List Char} :
    shardingStrategy.run (lex .sharding (kw .type ++ ' ' :: '=' :: ' ' ::
        (strategyTypeText s.strategyType ++ ',' :: columns))) =
      (strategyAlgorithm.run (lex .sharding (',' :: columns))).map
        (fun r => (⟨s.strategyType, some r.1⟩, r.2)) := by
  rw [shardingStrategy, Parser.run_bind_some (run_skip_kw (by decide) rfl), lex_blank,
    Parser.run_bind_some (run_skip_eq (by simp)), lex_blank,
    Parser.run_bind_some (run_strategyType s.strategyType), Parser.run_bind,
    Parser.run_opt_pos (by simp)]
  cases strategyAlgorithm.run (lex .sharding (',' :: columns)) <;> rfl

theorem strategy_text (s : ShardingStrategyContext) :
    (visitShardingStrategy s).toString.toList ++ rest = kw .type ++ ' ' :: '=' :: ' ' ::
      (strategyTypeText s.strategyType ++ ',' ::
        ((orEmpty ShardingColumnDefinition.toString
          (visitShardingStrategy s).shardingColumnDefinition).toList ++ ',' ::
            ((orEmpty ShardingAlgorithm.toString
              (visitShardingStrategy s).shardingAlgorithm).toList ++ rest))) := by
  refine (congrArg (· ++ rest) (strategy_format _ _ _)).trans ?_
  have htype := strategyType_text s.strategyType
  simp [visitShardingStrategy, htype]

theorem columns_ne (c : ShardingColumnsContext) :
    visitShardingColumns ⟨c.columnName, c.columnName, c.columnNames.toList⟩ ≠
      visitShardingColumns c := by
  intro he
  have hlen := congrArg (fun s : ShardingColumns => s.allColumnName.length) he
  simp [visitShardingColumns, ShardingColumnsContext.allColumnName, Many.toList] at hlen

theorem strategy_lost (s : ShardingStrategyContext)
    {r : ShardingStrategyContext × List (List Char)}
    (h : shardingStrategy.run (lex .sharding ((visitShardingStrategy s).toString.toList ++ rest)) =
      some r) : visitShardingStrategy r.1 ≠ visitShardingStrategy s := by
  rw [strategy_text, run_shardingStrategy] at h
  obtain ⟨r', hr', rfl⟩ := Option.map_eq_some_iff.mp h
  obtain ⟨type, _ | ⟨_ | c | c, a⟩⟩ := s
  · have hcolumns : (orEmpty ShardingColumnDefinition.toString
        (visitShardingStrategy ⟨type, none⟩).shardingColumnDefinition).toList = [] := rfl
    rw [hcolumns, List.nil_append, run_strategyAlgorithm_commas] at hr'
    cases hr'
  · have hcolumns : (orEmpty ShardingColumnDefinition.toString
        (visitShardingStrategy ⟨type, some ⟨none, a⟩⟩).shardingColumnDefinition).toList = [] := rfl
    rw [hcolumns, List.nil_append, run_strategyAlgorithm_commas] at hr'
    cases hr'
  · have hcolumns : (orEmpty ShardingColumnDefinition.toString (visitShardingStrategy
        ⟨type, some ⟨some (.shardingColumn c), a⟩⟩).shardingColumnDefinition).toList =
          (visitShardingColumn c).toString.toList := rfl
    rw [hcolumns, run_strategyAlgorithm_column c] at hr'
    cases hr'
  · have hcolumns : (orEmpty ShardingColumnDefinition.toString (visitShardingStrategy
        ⟨type, some ⟨some (.shardingColumns c), a⟩⟩).shardingColumnDefinition).toList =
          (visitShardingColumns c).toString.toList := rfl
    have halgorithm : (orEmpty ShardingAlgorithm.toString (visitShardingStrategy
        ⟨type, some ⟨some (.shardingColumns c), a⟩⟩).shardingAlgorithm).toList =
          kw .shardingAlgorithm ++ ' ' :: '(' ::
            ((visitAlgorithmDefinition a).toString.toList ++ [')']) := algorithm_format _
    rw [hcolumns, halgorithm, List.append_assoc, List.cons_append] at hr'
    have hread := run_strategyAlgorithm_columns c hr'
    intro he
    have hvisit := congrArg ShardingStrategy.shardingColumnDefinition he
    change r'.1.shardingColumnDefinition.map visitShardingColumnDefinition = _ at hvisit
    rw [hread] at hvisit
    have hinner := congrArg ShardingColumnDefinition.shardingColumns (Option.some.inj hvisit)
    exact columns_ne c (Option.some.inj hinner)

end Strategies

section Rules

variable {rest : List Char}

theorem auto_format (table units column algorithm keyGenerate audit : String) :
    ∃ tail, (table ++ " (" ++ units ++ "," ++ column ++ "," ++ algorithm ++ "," ++ keyGenerate ++
      "," ++ audit ++ ")").toList ++ rest = table.toList ++ ' ' :: '(' :: (units.toList ++ ',' ::
        (column.toList ++ tail)) := by
  simp

theorem table_format (table nodes database strategy keyGenerate audit : String) :
    ∃ tail, (table ++ "(" ++ nodes ++ "," ++ database ++ "," ++ strategy ++ "," ++ keyGenerate ++
      "," ++ audit ++ ")").toList ++ rest = table.toList ++ '(' :: (nodes.toList ++ ',' ::
        (database.toList ++ ',' :: tail)) := by
  simp

theorem database_format (strategy : String) : ("DATABASE_STRATEGY (" ++ strategy ++ ")").toList =
    kw .databaseStrategy ++ ' ' :: '(' :: (strategy.toList ++ [')']) := by
  simp [kw, Keyword.text]

theorem run_autoRule (l : Name) (units : Many StorageUnitContext) (c : Name) :
    shardingAutoTableRule.run (lex .sharding (l.1 ++ ' ' :: '(' ::
      ((visitStorageUnits units).toString.toList ++ ',' ::
        ((visitShardingColumn c).toString.toList ++ rest)))) = none := by
  have hname : name.run (l.1 :: lex .sharding ('(' ::
      ((visitStorageUnits units).toString.toList ++ ',' ::
        ((visitShardingColumn c).toString.toList ++ rest)))) = some (l, _) := run_leaf l
  rw [lex_name l rfl, lex_blank, shardingAutoTableRule, Parser.run_bind_some hname,
    Parser.run_bind_some run_skip_lp, Parser.run_bind_some (run_storageUnits units),
    Parser.run_bind_some run_skip_comma]
  exact Parser.run_bind_none (run_shardingColumn c)

theorem run_commaOpt_comma {α : Type} {p : TokenParser α} {k : Keyword} :
    (commaOpt .sharding k p).run (lex .sharding (',' :: ',' :: rest)) =
      some (none, lex .sharding (',' :: ',' :: rest)) := by
  refine Parser.run_opt_neg ?_
  simp

theorem run_tableRule_nodes (l : Name) (nodes : Many (Leaf .sharding .string)) :
    shardingTableRule.run (lex .sharding (l.1 ++ '(' ::
      ((visitDataNodes nodes).toString.toList ++ rest))) = (do
        let database ← commaOpt .sharding .databaseStrategy (enclosedStrategy .databaseStrategy)
        let table ← commaOpt .sharding .tableStrategy (enclosedStrategy .tableStrategy)
        let keyGenerate ← commaOpt .sharding .keyGenerateStrategy keyGenerateDefinition
        let audit ← commaOpt .sharding .auditStrategy auditDefinition
        skip .sharding (.symbol .rp)
        return ⟨l, nodes, database, table, keyGenerate, audit⟩ :
          TokenParser ShardingTableRuleContext).run (lex .sharding rest) := by
  have hname : name.run (l.1 :: lex .sharding ('(' ::
      ((visitDataNodes nodes).toString.toList ++ rest))) = some (l, _) := run_leaf l
  rw [lex_name l rfl, shardingTableRule, Parser.run_bind_some hname,
    Parser.run_bind_some run_skip_lp, Parser.run_bind_some (run_dataNodes nodes)]

/-- A rule without a strategy for the database is printed with two commas in a row. -/
theorem run_tableRule_none (l : Name) (nodes : Many (Leaf .sharding .string)) :
    shardingTableRule.run (lex .sharding (l.1 ++ '(' ::
      ((visitDataNodes nodes).toString.toList ++ ',' :: ',' :: rest))) = none := by
  rw [run_tableRule_nodes, Parser.run_bind_some run_commaOpt_comma,
    Parser.run_bind_some run_commaOpt_comma, Parser.run_bind_some run_commaOpt_comma,
    Parser.run_bind_some run_commaOpt_comma]
  refine Parser.run_bind_none ?_
  simp

theorem run_enclosedStrategy {k : Keyword} (hk : k ∈ keywords .sharding) :
    (enclosedStrategy k).run (lex .sharding (kw k ++ ' ' :: '(' :: rest)) = (do
      let strategy ← shardingStrategy
      skip .sharding (.symbol .rp)
      return strategy : TokenParser ShardingStrategyContext).run (lex .sharding rest) := by
  rw [enclosedStrategy, Parser.run_bind_some (run_skip_kw hk rfl), lex_blank,
    Parser.run_bind_some run_skip_lp]

theorem run_tableRule_some (l : Name) (nodes : Many (Leaf .sharding .string))
    (s : ShardingStrategyContext) {r : ShardingTableRuleContext × List (List Char)}
    (h : shardingTableRule.run (lex .sharding (l.1 ++ '(' ::
      ((visitDataNodes nodes).toString.toList ++ ',' :: (kw .databaseStrategy ++ ' ' :: '(' ::
        ((visitShardingStrategy s).toString.toList ++ rest))))) = some r) :
    ∃ s', r.1.databaseStrategy = some s' ∧ visitShardingStrategy s' ≠ visitShardingStrategy s := by
  have hkw : Keyword.databaseStrategy ∈ keywords .sharding := by decide
  rw [run_tableRule_nodes, Parser.run_bind, run_commaOpt_pos hkw rfl,
    run_enclosedStrategy hkw] at h
  obtain ⟨_, hopt, hrest⟩ := Option.bind_eq_some_iff.mp h
  obtain ⟨_, hs, rfl⟩ := Option.map_eq_some_iff.mp hopt
  obtain ⟨s', _, hs', hrp⟩ := Parser.run_bind_inv hs
  obtain ⟨_, _, -, hpure⟩ := Parser.run_bind_inv hrp
  obtain rfl := Option.some.inj hpure
  obtain ⟨table, _, -, hkey⟩ := Parser.run_bind_inv hrest
  obtain ⟨key, _, -, haudit⟩ := Parser.run_bind_inv hkey
  obtain ⟨audit, _, -, hend⟩ := Parser.run_bind_inv haudit
  obtain ⟨_, _, -, hrule⟩ := Parser.run_bind_inv hend
  obtain rfl := Option.some.inj hrule
  exact ⟨s', rfl, strategy_lost s hs'⟩

theorem auto_text (c : ShardingAutoTableRuleContext) (rest : List Char) : ∃ tail,
    (visitShardingTableRuleDefinition (.auto c)).toString.toList ++ rest =
      c.tableName.1 ++ ' ' :: '(' :: ((visitStorageUnits c.storageUnits).toString.toList ++ ',' ::
        ((visitShardingColumn c.shardingColumn).toString.toList ++ tail)) := by
  rw [← name_text c.tableName]
  exact auto_format _ _ _ _ _ _

theorem table_text (c : ShardingTableRuleContext) (rest : List Char) : ∃ tail,
    (visitShardingTableRuleDefinition (.table c)).toString.toList ++ rest =
      c.tableName.1 ++ '(' :: ((visitDataNodes c.dataNodes).toString.toList ++ ',' ::
        ((orEmpty DatabaseStrategy.toString (c.databaseStrategy.map
          (fun s => ⟨visitShardingStrategy s⟩))).toList ++ ',' :: tail)) := by
  rw [← name_text c.tableName]
  exact table_format _ _ _ _ _ _

theorem auto_lost (c : ShardingAutoTableRuleContext) :
    shardingTableRuleDefinition.rule.run (lex .sharding
      ((visitShardingTableRuleDefinition (.auto c)).toString.toList ++ rest)) = none := by
  obtain ⟨tail, htext⟩ := auto_text c rest
  have hkw : Keyword.storageUnits ∈ keywords .sharding := by decide
  have hahead : ahead .sharding [.identifier, .symbol .lp, .keyword .storageUnits]
      (lex .sharding (c.tableName.1 ++ ' ' :: '(' ::
        ((visitStorageUnits c.storageUnits).toString.toList ++ ',' ::
          ((visitShardingColumn c.shardingColumn).toString.toList ++ tail)))) = true := by
    rw [lex_name c.tableName rfl, lex_blank, lex_lp, storageUnits_text, lex_kw hkw rfl]
    simp [hkw]
  rw [htext, shardingTableRuleDefinition, Parser.run_look, if_pos hahead]
  exact Parser.run_bind_none (run_autoRule _ _ _)

theorem table_lost (c : ShardingTableRuleContext)
    {r : ShardingTableRuleDefinitionContext × List (List Char)}
    (h : shardingTableRuleDefinition.rule.run (lex .sharding
      ((visitShardingTableRuleDefinition (.table c)).toString.toList ++ rest)) = some r) :
    visitShardingTableRuleDefinition r.1 ≠ visitShardingTableRuleDefinition (.table c) := by
  obtain ⟨tail, htext⟩ := table_text c rest
  have hkw : Keyword.datanodes ∈ keywords .sharding := by decide
  have hahead : ∀ tail, ahead .sharding [.identifier, .symbol .lp, .keyword .storageUnits]
      (lex .sharding (c.tableName.1 ++ '(' ::
        ((visitDataNodes c.dataNodes).toString.toList ++ tail))) = false := by
    intro tail
    rw [lex_name c.tableName rfl, lex_lp, dataNodes_text, lex_kw hkw rfl]
    simp [hkw]
  rw [htext, shardingTableRuleDefinition, Parser.run_look, hahead, if_neg Bool.false_ne_true] at h
  obtain ⟨r', hr', hpure⟩ := Option.bind_eq_some_iff.mp h
  obtain rfl := Option.some.inj hpure
  obtain ⟨table, nodes, _ | s, strategy, keyGenerate, audit⟩ := c
  · have hnone : (orEmpty DatabaseStrategy.toString ((none : Option ShardingStrategyContext).map
        (fun s => (⟨visitShardingStrategy s⟩ : DatabaseStrategy)))).toList = [] := rfl
    rw [hnone, List.nil_append, run_tableRule_none] at hr'
    cases hr'
  · have hsome : (orEmpty DatabaseStrategy.toString ((some s).map
        (fun s => (⟨visitShardingStrategy s⟩ : DatabaseStrategy)))).toList =
          kw .databaseStrategy ++ ' ' :: '(' ::
            ((visitShardingStrategy s).toString.toList ++ [')']) := database_format _
    rw [hsome, List.append_assoc, List.cons_append, List.cons_append, List.append_assoc] at hr'
    obtain ⟨s', hs', hne⟩ := run_tableRule_some _ _ _ hr'
    intro he
    have hrule := Option.some.inj (congrArg ShardingTableRuleDefinition.shardingTableRule he)
    have hvisit := congrArg ShardingTableRule.databaseStrategy hrule
    change r'.1.databaseStrategy.map _ = _ at hvisit
    rw [hs'] at hvisit
    exact hne (congrArg DatabaseStrategy.shardingStrategy (Option.some.inj hvisit))

theorem shardingTableRuleDefinition_loses : shardingTableRuleDefinition.Loses .sharding
    (fun c => some (visitShardingTableRuleDefinition c).toString.toList) where
  prints n c := rfl
  starts := by
    intro c s rest hs hr
    obtain rfl := Option.some.inj hs
    cases c with
    | auto c =>
      obtain ⟨tail, htext⟩ := auto_text c rest
      rw [htext, lex_name c.tableName rfl]
      simp
    | table c =>
      obtain ⟨tail, htext⟩ := table_text c rest
      rw [htext, lex_name c.tableName rfl]
      simp
  loses := by
    intro c s rest r hs hr h
    obtain rfl := Option.some.inj hs
    cases c with
    | auto c =>
      rw [auto_lost] at h
      cases h
    | table c => exact table_lost c h

end Rules

section RoundTrips

def typeWord : List Char := "type".toList

theorem run_defaultHeader {verb : Keyword} (hverb : verb ∈ keywords .sharding)
    (rest : List Char) : (defaultHeader verb).run (lex .sharding
      (headerText [verb, .default, .sharding] ++ (typeWord ++ '=' :: rest))) = none := by
  have hks : ∀ k ∈ [verb, Keyword.default, .sharding], k ∈ keywords .sharding := by
    simp only [List.forall_mem_cons, List.not_mem_nil, false_imp_iff, implies_true, and_true]
    exact ⟨hverb, by decide, by decide⟩
  have hkind : ∀ k : Keyword, typeWord.map Char.toUpper ≠ k.text.toList →
      kindOf .sharding typeWord ≠ some (.keyword k) := by
    intro k hne h
    exact hne (Shapes.mem_anyCase.mp (kind_mem h).2)
  have hlex : lex .sharding (typeWord ++ '=' :: rest) = typeWord :: lex .sharding ('=' :: rest) :=
    lex_word (List.all_eq_true.mp (by decide)) ⟨'t', by decide, rfl⟩ (by decide) rfl
  have hdatabase := hkind .database (by decide)
  have htable := hkind .table (by decide)
  rw [defaultHeader, Parser.run_bind_some (run_header hks), hlex]
  refine Parser.run_bind_none ?_
  rw [strategyLevel, Parser.run_look, if_neg (by simp [hdatabase])]
  exact Parser.run_bind_none (run_leaf_none htable)

theorem default_format (clause strategy : String) :
    (∃ tail, ("CREATE DEFAULT SHARDING type=(DATABASE | TABLE) STRATEGY " ++ clause ++ "(" ++
      strategy ++ ")").toList =
        headerText [.create, .default, .sharding] ++ (typeWord ++ '=' :: tail)) ∧
    (∃ tail, ("ALTER DEFAULT SHARDING type=(DATABASE | TABLE) STRATEGY (" ++ strategy ++ ")").toList =
      headerText [.alter, .default, .sharding] ++ (typeWord ++ '=' :: tail)) ∧
    ∃ tail, ("DROP DEFAULT SHARDING type=(DATABASE | TABLE) STRATEGY " ++ clause).toList =
      headerText [.drop, .default, .sharding] ++ (typeWord ++ '=' :: tail) := by
  simp [headerText, kw, Keyword.text, typeWord]

theorem createDefault_not_keeps (t : CreateDefaultShardingStrategyContext) :
    ¬ createDefaultShardingStrategy.Keeps .sharding
      (fun t => (visitCreateDefaultShardingStrategy t, t.type.isDatabase)) t := by
  obtain ⟨tail, htext⟩ := (default_format (orEmpty IfNotExists.toString
    (t.ifNotExists.map visitIfNotExists)) (visitShardingStrategy t.shardingStrategy).toString).1
  refine not_keeps (fun _ => congrArg some htext) ?_
  exact Parser.run_bind_none (run_defaultHeader (by decide) tail)

theorem alterDefault_not_keeps (t : AlterDefaultShardingStrategyContext) :
    ¬ alterDefaultShardingStrategy.Keeps .sharding
      (fun t => (visitAlterDefaultShardingStrategy t, t.type.isDatabase)) t := by
  obtain ⟨tail, htext⟩ := (default_format ""
    (visitShardingStrategy t.shardingStrategy).toString).2.1
  refine not_keeps (fun _ => congrArg some htext) ?_
  exact Parser.run_bind_none (run_defaultHeader (by decide) tail)

theorem dropDefault_not_keeps (t : DropDefaultShardingStrategyContext) :
    ¬ dropDefaultShardingStrategy.Keeps .sharding
      (fun t => (visitDropDefaultShardingStrategy t, t.type.isDatabase)) t := by
  obtain ⟨type, _ | c⟩ := t
  · rintro ⟨n, s, hs, -⟩
    cases hs
  · obtain ⟨tail, htext⟩ := (default_format (visitIfExists c).toString "").2.2
    refine not_keeps (fun _ => congrArg some htext) ?_
    exact Parser.run_bind_none (run_defaultHeader (by decide) tail)

theorem dropAlgorithm_format (clause names : String) :
    ∃ tail, ("DROP BROADCAST TABLE RULE " ++ clause ++ " " ++ names).toList =
      kw .drop ++ ' ' :: (kw .broadcast ++ ' ' :: tail) := by
  simp [kw, Keyword.text]

theorem dropAlgorithm_not_roundTrips
    (t : Listed (IfExistsContext .sharding) (Many (Leaf .sharding .identifier))) :
    ¬ dropShardingAlgorithm.RoundTrips .sharding t := by
  rintro ⟨n, s, hs, r, hr, -⟩
  obtain ⟨names, -, hs⟩ := Option.bind_eq_some_iff.mp hs
  obtain rfl := Option.some.inj hs
  obtain ⟨tail, htext⟩ := dropAlgorithm_format (orEmpty (ifExistsClause .sharding).toString
    (dropShardingAlgorithm.visit t).clause) (join names)
  have hnone : dropShardingAlgorithm.rule.run (lex .sharding
      (kw .drop ++ ' ' :: (kw .broadcast ++ ' ' :: tail))) = none := by
    refine Parser.run_bind_none ?_
    rw [header, Parser.run_bind_some (run_skip_kw (by decide) rfl), lex_blank]
    exact Parser.run_bind_none (run_skip_other (by decide) rfl (by decide))
  rw [htext, hnone] at hr
  cases hr

theorem createTable_not_roundTrips
    (t : Listed (IfNotExistsContext .sharding) (Many ShardingTableRuleDefinitionContext)) :
    ¬ createShardingTableRule.RoundTrips .sharding t :=
  listing_loses shardingTableRuleDefinition_loses ifNotExistsClause_reads rfl (by decide) t

/-- None of the statements with definitions comes back. -/
theorem sharding_never_round_trips
    (tables : Listed (IfNotExistsContext .sharding) (Many ShardingTableRuleDefinitionContext))
    (altered : Many ShardingTableRuleDefinitionContext)
    (create : CreateDefaultShardingStrategyContext) (alter : AlterDefaultShardingStrategyContext)
    (drop : DropDefaultShardingStrategyContext)
    (names : Listed (IfExistsContext .sharding) (Many (Leaf .sharding .identifier))) :
    ¬ createShardingTableRule.RoundTrips .sharding tables ∧
    ¬ alterShardingTableRule.RoundTrips .sharding altered ∧
    ¬ createDefaultShardingStrategy.Keeps .sharding
      (fun t => (visitCreateDefaultShardingStrategy t, t.type.isDatabase)) create ∧
    ¬ alterDefaultShardingStrategy.Keeps .sharding
      (fun t => (visitAlterDefaultShardingStrategy t, t.type.isDatabase)) alter ∧
    ¬ dropDefaultShardingStrategy.Keeps .sharding
      (fun t => (visitDropDefaultShardingStrategy t, t.type.isDatabase)) drop ∧
    ¬ dropShardingAlgorithm.RoundTrips .sharding names :=
  ⟨createTable_not_roundTrips tables,
    bareListing_loses shardingTableRuleDefinition_loses rfl (by decide) altered,
    createDefault_not_keeps create, alterDefault_not_keeps alter, dropDefault_not_keeps drop,
    dropAlgorithm_not_roundTrips names⟩

theorem kindOf_dataNode : kindOf .sharding "\"n\"".toList = some .string := by
  have htext : "\"n\"".toList = doubleQuote :: (['n'] ++ [doubleQuote]) := String.toList_ofList
  have hbody : Shapes.Body doubleQuote ['n'] :=
    Shapes.body_plain (by decide) (by decide) Shapes.body_nil
  rw [htext]
  exact kindOf_quoted (Or.inl rfl) hbody

def plainTable : ShardingTableRuleContext where
  tableName := quotedName _ 't' t_ne_backQuote
  dataNodes := ⟨⟨"\"n\"".toList, kindOf_dataNode⟩, []⟩
  databaseStrategy := none
  tableStrategy := none
  keyGenerateDefinition := none
  auditDefinition := none

theorem plainTable_is_lost :
    ¬ createShardingTableRule.RoundTrips .sharding ⟨none, ⟨.table plainTable, []⟩⟩ :=
  createTable_not_roundTrips _

end RoundTrips

end ShardingOnCloud.Distsql.ShardingRoundTrip
