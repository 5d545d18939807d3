import ShardingOnCloud.Distsql.EncryptRule

namespace ShardingOnCloud.Distsql.EncryptRoundTrip

open ShardingOnCloud.Lib.Descent
open ShardingOnCloud.Distsql.Ast ShardingOnCloud.Distsql.BaseRule ShardingOnCloud.Distsql.Phrases
open ShardingOnCloud.Distsql.Tokens hiding literal
open ShardingOnCloud.Distsql.Shapes ShardingOnCloud.Distsql.Lexing ShardingOnCloud.Distsql.Reading
open ShardingOnCloud.Distsql.EncryptRule

section Keywords

def dataTyp : List Char := "DATA_TYP".toList

theorem kindOf_dataTyp : kindOf .encrypt dataTyp = some .identifier := by
  have hkeyword : (keywords .encrypt).find? (fun k =>
      dataTyp.map Char.toUpper = k.text.toList) = none := by
    decide +kernel
  have hliteral : (Kind.forGenerator :: literals .encrypt).find? (fun k =>
      k.pattern.accepts dataTyp) = some .identifier := by
    decide +kernel
  rw [kindOf_name (by decide) (List.all_eq_true.mp (by decide)) (by decide), hkeyword, hliteral]
  rfl

end Keywords

section Names

variable {k kt : Keyword} {rest : List Char}

theorem name_head (l : Leaf .encrypt .identifier) (rest : List Char) :
    (l.1 ++ rest).head? ≠ some '=' := head_ne l rest (by simp only [First]; decide)

theorem run_name (l : Leaf .encrypt .identifier) (hr : parts rest = true) :
    name.run (lex .encrypt (l.1 ++ rest)) = some (l, lex .encrypt rest) := by
  rw [lex_name l hr, name, run_leaf]

/-- What is read after the name of a column decides what its data type is. -/
theorem run_typedName (hk : k ∈ keywords .encrypt) (l : Leaf .encrypt .identifier)
    (hr : parts rest = true) :
    (typedName k kt).run (lex .encrypt (kw k ++ '=' :: (l.1 ++ rest))) =
      ((commaOpt .encrypt kt (dataType kt)).run (lex .encrypt rest)).map
        (fun r => (⟨l, r.1⟩, r.2)) := by
  rw [typedName, Parser.run_bind_some (run_skip_kw hk rfl),
    Parser.run_bind_some (run_skip_eq (name_head l rest)), Parser.run_bind_some (run_name l hr),
    Parser.run_bind]
  cases (commaOpt .encrypt kt (dataType kt)).run (lex .encrypt rest) <;> rfl

theorem run_dataType (hk : kt ∈ keywords .encrypt) (d : Leaf .encrypt .string)
    (hr : closes rest = true) :
    (commaOpt .encrypt kt (dataType kt)).run (lex .encrypt (',' :: (kw kt ++ '=' ::
      (d.1 ++ rest)))) = some (some d, lex .encrypt rest) := by
  have hhead : (d.1 ++ rest).head? ≠ some '=' := head_ne d rest (by simp only [First]; decide)
  rw [run_commaOpt_pos hk rfl, dataType, Parser.run_bind_some (run_skip_kw hk rfl),
    Parser.run_bind_some (run_skip_eq hhead), lex_string d.2 hr, run_leaf]
  rfl

end Names

section Parts

variable {k : Keyword} {rest : List Char} {α : Type} {p : TokenParser α}

def queryToken : QueryWithCipherColumnContext → List Char
  | .trueToken l => l.1
  | .falseToken l => l.1

def queryText : Option QueryWithCipherColumnContext → List Char
  | none => []
  | some q => ',' :: (kw .queryWithCipherColumn ++ '=' :: queryToken q)

theorem run_queryText_other (q : Option QueryWithCipherColumnContext)
    (hk : Keyword.queryWithCipherColumn ≠ k) :
    (commaOpt .encrypt k p).run (lex .encrypt (queryText q ++ ')' :: rest)) =
      some (none, lex .encrypt (queryText q ++ ')' :: rest)) := by
  cases q with
  | none => exact run_commaOpt_rp
  | some q =>
    have htext : queryText (some q) ++ ')' :: rest = ',' :: (kw .queryWithCipherColumn ++
        '=' :: (queryToken q ++ ')' :: rest)) := by
      simp [queryText]
    rw [htext, run_commaOpt_other (by decide) rfl hk]

theorem run_queryText (q : Option QueryWithCipherColumnContext) :
    (commaOpt .encrypt .queryWithCipherColumn queryWithCipherColumn).run
        (lex .encrypt (queryText q ++ ')' :: rest)) = some (q, lex .encrypt (')' :: rest)) := by
  cases q with
  | none => exact run_commaOpt_rp
  | some q =>
    have htext : queryText (some q) ++ ')' :: rest = ',' :: (kw .queryWithCipherColumn ++
        '=' :: (queryToken q ++ ')' :: rest)) := by
      simp [queryText]
    have hhead : (queryToken q ++ ')' :: rest).head? ≠ some '=' := by
      cases q with
      | trueToken l => exact head_ne l _ (by simp only [First]; decide)
      | falseToken l => exact head_ne l _ (by simp only [First]; decide)
    rw [htext, run_commaOpt_pos (by decide) rfl, queryWithCipherColumn,
      Parser.run_bind_some (run_skip_kw (by decide) rfl), Parser.run_bind_some (run_skip_eq hhead)]
    cases q with
    | trueToken l =>
      rw [queryToken, lex_leaf_keyword l rfl]
      simp
    | falseToken l =>
      rw [queryToken, lex_leaf_keyword l rfl]
      simp

def wrappedText (k : Keyword) (a : EncryptAlgorithmContext) : List Char :=
  kw k ++ '(' :: (algorithmText a ++ [')'])

theorem run_wrappedAlgorithm (hk : k ∈ keywords .encrypt) (a : EncryptAlgorithmContext) :
    (wrappedAlgorithm k).run (lex .encrypt (kw k ++ '(' :: (algorithmText a ++ ')' :: rest))) =
      (Option.guard printable a).map (fun a => (a, lex .encrypt rest)) := by
  rw [wrappedAlgorithm, Parser.run_bind_some (run_skip_kw hk rfl),
    Parser.run_bind_some run_skip_lp, Parser.run_bind, run_algorithmDefinition]
  cases Option.guard printable a with
  | none => rfl
  | some a =>
    rw [Option.map_some, Option.bind_some, Parser.run_bind_some run_skip_rp]
    rfl

def typeText (key : List Char) : Option (Leaf .encrypt .string) → List Char
  | none => []
  | some d => ',' :: (key ++ '=' :: d.1)

def assistedText : Option TypedNameContext → List Char
  | none => []
  | some a => ',' :: (kw .assistedQueryColumn ++ '=' :: (a.columnName.1 ++
      typeText (kw .assistedQueryDataType) a.dataType))

theorem assistedText_parts (a : Option TypedNameContext) (rest : List Char) :
    ∃ cs, assistedText a ++ ',' :: (kw .encryptAlgorithm ++ '(' :: rest) = ',' :: cs := by
  cases a with
  | none => exact ⟨_, rfl⟩
  | some a => exact ⟨_, rfl⟩

theorem run_assistedText_other (a : Option TypedNameContext)
    (hk : Keyword.assistedQueryColumn ≠ k) (hk' : Keyword.encryptAlgorithm ≠ k) :
    (commaOpt .encrypt k p).run
        (lex .encrypt (assistedText a ++ ',' :: (kw .encryptAlgorithm ++ '(' :: rest))) =
      some (none,
        lex .encrypt (assistedText a ++ ',' :: (kw .encryptAlgorithm ++ '(' :: rest))) := by
  cases a with
  | none => exact run_commaOpt_other (by decide) rfl hk'
  | some a =>
    rw [assistedText, List.cons_append, List.append_assoc]
    exact run_commaOpt_other (by decide) rfl hk

theorem run_assistedText (a : Option TypedNameContext) :
    (commaOpt .encrypt .assistedQueryColumn (typedName .assistedQueryColumn
        .assistedQueryDataType)).run
        (lex .encrypt (assistedText a ++ ',' :: (kw .encryptAlgorithm ++ '(' :: rest))) =
      some (a, lex .encrypt (',' :: (kw .encryptAlgorithm ++ '(' :: rest))) := by
  obtain _ | ⟨l, _ | d⟩ := a
  · exact run_commaOpt_other (by decide) rfl (by decide)
  · have htext : assistedText (some ⟨l, none⟩) ++ ',' :: (kw .encryptAlgorithm ++ '(' :: rest) =
        ',' :: (kw .assistedQueryColumn ++ '=' :: (l.1 ++
          ',' :: (kw .encryptAlgorithm ++ '(' :: rest))) := by
      simp [assistedText, typeText]
    rw [htext, run_commaOpt_pos (by decide) rfl, run_typedName (by decide) l rfl,
      run_commaOpt_other (by decide) rfl (by decide)]
    rfl
  · have htext : assistedText (some ⟨l, some d⟩) ++ ',' :: (kw .encryptAlgorithm ++ '(' :: rest) =
        ',' :: (kw .assistedQueryColumn ++ '=' :: (l.1 ++ ',' :: (kw .assistedQueryDataType ++
          '=' :: (d.1 ++ ',' :: (kw .encryptAlgorithm ++ '(' :: rest))))) := by
      simp [assistedText, typeText]
    rw [htext, run_commaOpt_pos (by decide) rfl, run_typedName (by decide) l rfl,
      run_dataType (by decide) d rfl]
    rfl

end Parts

section Columns

variable {k : Keyword} {rest : List Char} {α : Type} {p : TokenParser α}

def columnText (c : TypedNameContext) : List Char :=
  kw .name ++ '=' :: (c.columnName.1 ++ typeText dataTyp c.dataType)

def plainText : Option TypedNameContext → List Char
  | none => []
  | some c => ',' :: (kw .plain ++ ' ' :: '=' :: ' ' :: (kw .plain ++ '=' :: (c.columnName.1 ++
      ',' :: ' ' :: (kw .plainDataType ++ ' ' :: '=' :: ' ' ::
        (orEmpty DataType.toString (c.dataType.map visitDataType)).toList))))

def cipherTypeText : Option (Leaf .encrypt .string) → List Char
  | none => []
  | some _ => ',' :: (kw .cipherDataType ++ ['='])

def assistedAlgorithmText : Option EncryptAlgorithmContext → List Char
  | none => []
  | some a => ',' :: algorithmText a

def definitionText (c : EncryptColumnDefinitionContext) : List Char :=
  '(' :: (columnText c.columnDefinition ++ (plainText c.plainColumnDefinition ++
    ',' :: (kw .cipher ++ '=' :: (c.cipherColumnDefinition.columnName.1 ++
      (cipherTypeText c.cipherColumnDefinition.dataType ++
        (assistedText c.assistedQueryColumnDefinition ++
          ',' :: (wrappedText .encryptAlgorithm c.encryptAlgorithm ++
            (assistedAlgorithmText c.assistedQueryAlgorithm ++
              (queryText c.queryWithCipherColumn ++ [')'])))))))))

theorem run_dataTyp_other :
    (commaOpt .encrypt k p).run (lex .encrypt (',' :: (dataTyp ++ '=' :: rest))) =
      some (none, lex .encrypt (',' :: (dataTyp ++ '=' :: rest))) := by
  refine Parser.run_opt_neg ?_
  rw [lex_comma, lex_identifier kindOf_dataTyp rfl, ahead_cons, ahead_cons, kindOf_dataTyp]
  simp

theorem run_typedName_dataTyp {kt : Keyword} :
    (typedName k kt).run (lex .encrypt (dataTyp ++ '=' :: rest)) = none := by
  refine Parser.run_bind_none ?_
  rw [lex_identifier kindOf_dataTyp rfl, run_skip_cons, kindOf_dataTyp]
  simp

/-- The parts of a column that are printed so that they are not read back. -/
def kept (c : EncryptColumnDefinitionContext) : Bool :=
  c.columnDefinition.dataType.isNone && c.plainColumnDefinition.isNone &&
    c.cipherColumnDefinition.dataType.isNone && printable c.encryptAlgorithm &&
    c.assistedQueryAlgorithm.isNone

def rereadColumn (c : EncryptColumnDefinitionContext) : Option EncryptColumnDefinitionContext :=
  if kept c then some { c with likeQueryColumnDefinition := none } else none

theorem rereadColumn_lost {c : EncryptColumnDefinitionContext} (h : kept c = false) :
    (rereadColumn c).map (fun c => (c, lex .encrypt rest)) = none := by
  rw [rereadColumn, h, if_neg Bool.false_ne_true, Option.map_none]

theorem run_column_dataType (l : Leaf .encrypt .identifier) :
    encryptColumnDefinition.rule.run (lex .encrypt ('(' :: (kw .name ++ '=' ::
      (l.1 ++ ',' :: (dataTyp ++ '=' :: rest))))) = none := by
  have hcolumn : (typedName .name .dataType).run (lex .encrypt (kw .name ++ '=' ::
      (l.1 ++ ',' :: (dataTyp ++ '=' :: rest)))) =
        some (⟨l, none⟩, lex .encrypt (',' :: (dataTyp ++ '=' :: rest))) := by
    rw [run_typedName (by decide) l rfl, run_dataTyp_other]
    rfl
  rw [encryptColumnDefinition, Parser.run_bind_some run_skip_lp, Parser.run_bind_some hcolumn,
    Parser.run_bind_some run_dataTyp_other, Parser.run_bind_some run_skip_comma,
    Parser.run_bind_none run_typedName_dataTyp]

theorem run_columnName (l : Leaf .encrypt .identifier) (hk : k ∈ keywords .encrypt)
    (hr : stops rest = true) (hne : k ≠ .dataType) :
    (typedName .name .dataType).run (lex .encrypt (kw .name ++ '=' ::
      (l.1 ++ ',' :: (kw k ++ rest)))) =
        some (⟨l, none⟩, lex .encrypt (',' :: (kw k ++ rest))) := by
  rw [run_typedName (by decide) l rfl, run_commaOpt_other hk hr hne]
  rfl

theorem run_column_plain (l : Leaf .encrypt .identifier) :
    encryptColumnDefinition.rule.run (lex .encrypt ('(' :: (kw .name ++ '=' ::
      (l.1 ++ ',' :: (kw .plain ++ ' ' :: '=' :: ' ' :: (kw .plain ++ '=' :: rest)))))) = none := by
  have hplain : (commaOpt .encrypt .plain (typedName .plain .plainDataType)).run
      (lex .encrypt (',' :: (kw .plain ++ ' ' :: '=' :: ' ' :: (kw .plain ++ '=' :: rest)))) =
        none := by
    rw [run_commaOpt_pos (by decide) rfl, typedName,
      Parser.run_bind_some (run_skip_kw (by decide) rfl), lex_blank,
      Parser.run_bind_some (run_skip_eq (by simp)), lex_blank, Parser.run_bind_none]
    · rfl
    · rw [lex_kw (by decide) rfl, name, run_leaf_none]
      rw [kindOf_kw (by decide)]
      simp
  rw [encryptColumnDefinition, Parser.run_bind_some run_skip_lp,
    Parser.run_bind_some (run_columnName l (by decide) rfl (by decide)),
    Parser.run_bind_none hplain]

theorem run_cipher (z : Leaf .encrypt .identifier) (zd : Option (Leaf .encrypt .string))
    (a : Option TypedNameContext) :
    (typedName .cipher .cipherDataType).run (lex .encrypt (kw .cipher ++ '=' :: (z.1 ++
      (cipherTypeText zd ++ (assistedText a ++ ',' :: (kw .encryptAlgorithm ++ '(' :: rest)))))) =
      if zd.isNone then
        some (⟨z, none⟩, lex .encrypt (assistedText a ++
          ',' :: (kw .encryptAlgorithm ++ '(' :: rest)))
      else none := by
  obtain ⟨cs, hcs⟩ := assistedText_parts a rest
  cases zd with
  | none =>
    rw [cipherTypeText, List.nil_append, run_typedName (by decide) z (by rw [hcs]; rfl),
      run_assistedText_other a (by decide) (by decide)]
    rfl
  | some d =>
    have hstring : (leaf .encrypt .string).run (lex .encrypt (',' :: cs)) = none := by
      rw [lex_comma, run_leaf_none]
      rw [kindOf_comma]
      simp
    rw [hcs, cipherTypeText, List.cons_append, List.append_assoc, List.singleton_append,
      run_typedName (by decide) z rfl, run_commaOpt_pos (by decide) rfl, dataType,
      Parser.run_bind_some (run_skip_kw (by decide) rfl),
      Parser.run_bind_some (run_skip_eq (by simp)), hstring]
    rfl

/-- Only the wrapper of the algorithm of the assisted query tells it from what may follow. -/
theorem run_unwrapped (a : EncryptAlgorithmContext) (hk : Keyword.type ≠ k) :
    (commaOpt .encrypt k p).run (lex .encrypt (',' :: (algorithmText a ++ rest))) =
      some (none, lex .encrypt (',' :: (algorithmText a ++ rest))) := by
  rw [algorithmText, List.append_assoc]
  exact run_commaOpt_other (by decide) rfl hk

theorem run_column (c : EncryptColumnDefinitionContext) (hlike : c.likeQueryAlgorithm = none) :
    encryptColumnDefinition.rule.run (lex .encrypt (definitionText c ++ rest)) =
      (rereadColumn c).map (fun c => (c, lex .encrypt rest)) := by
  obtain ⟨⟨l, d⟩, plain, ⟨z, zd⟩, assisted, like, algorithm, assistedAlgorithm, _, query⟩ := c
  obtain rfl : _ = none := hlike
  simp only [definitionText, columnText, List.cons_append, List.append_assoc, List.nil_append]
  cases d with
  | some d =>
    simp only [typeText, List.cons_append, List.append_assoc]
    rw [run_column_dataType, rereadColumn_lost rfl]
  | none =>
    cases plain with
    | some plain =>
      simp only [typeText, plainText, List.cons_append, List.append_assoc, List.nil_append]
      rw [run_column_plain, rereadColumn_lost rfl]
    | none =>
      simp only [typeText, plainText, wrappedText, List.cons_append, List.append_assoc,
        List.nil_append]
      rw [encryptColumnDefinition, Parser.run_bind_some run_skip_lp,
        Parser.run_bind_some (run_columnName l (by decide) rfl (by decide)),
        Parser.run_bind_some (run_commaOpt_other (by decide) rfl (by decide)),
        Parser.run_bind_some run_skip_comma, Parser.run_bind, run_cipher]
      cases zd with
      | some zd =>
        rw [rereadColumn_lost rfl]
        rfl
      | none =>
        rw [Option.isNone_none, if_pos rfl, Option.bind_some,
          Parser.run_bind_some (run_assistedText assisted),
          Parser.run_bind_some (run_commaOpt_other (by decide) rfl (by decide)),
          Parser.run_bind_some run_skip_comma, Parser.run_bind,
          run_wrappedAlgorithm (by decide) algorithm]
        cases hprintable : printable algorithm with
        | false =>
          have hguard : Option.guard printable algorithm = none := by
            simp [Option.guard, hprintable]
          rw [rereadColumn_lost (by simp [kept, hprintable]), hguard]
          rfl
        | true =>
          rw [Option.guard_eq_some_iff.mpr ⟨rfl, hprintable⟩, Option.map_some, Option.bind_some]
          cases assistedAlgorithm with
          | some a =>
            have hrp : (skip .encrypt (.symbol .rp)).run (lex .encrypt (',' :: (algorithmText a ++
                (queryText query ++ ')' :: rest)))) = none := by
              rw [lex_comma, run_skip_cons, kindOf_comma]
              simp
            rw [assistedAlgorithmText, List.cons_append,
              Parser.run_bind_some (run_unwrapped a (by decide)),
              Parser.run_bind_some (run_unwrapped a (by decide)),
              Parser.run_bind_some (run_unwrapped a (by decide)), Parser.run_bind_none hrp,
              rereadColumn_lost (by simp [kept])]
          | none =>
            rw [assistedAlgorithmText, List.nil_append,
              Parser.run_bind_some (run_queryText_other query (by decide)),
              Parser.run_bind_some (run_queryText_other query (by decide)),
              Parser.run_bind_some (run_queryText query), Parser.run_bind_some run_skip_rp,
              rereadColumn, if_pos (by simp [kept, hprintable])]
            rfl

end Columns

section Texts

theorem name_format (name type : String) :
    ("NAME=" ++ name ++ type).toList = kw .name ++ '=' :: (name.toList ++ type.toList) := by
  simp [kw, Keyword.text]

theorem type_format (type : String) : (",DATA_TYP=" ++ type).toList =
    ',' :: (dataTyp ++ '=' :: type.toList) := by
  have h : ",DATA_TYP=".toList = ',' :: (dataTyp ++ ['=']) := by decide
  simp only [String.toList_append, h, List.cons_append, List.append_assoc, List.nil_append]

theorem plain_format (name type : String) :
    ("," ++ ("PLAIN = " ++ ("PLAIN=" ++ name) ++ ", PLAIN_DATA_TYPE = " ++ type)).toList =
      ',' :: (kw .plain ++ ' ' :: '=' :: ' ' :: (kw .plain ++ '=' :: (name.toList ++ ',' :: ' ' ::
        (kw .plainDataType ++ ' ' :: '=' :: ' ' :: type.toList)))) := by
  simp [kw, Keyword.text]

theorem cipher_format (name type : String) :
    ("CIPHER=" ++ name ++ type).toList = kw .cipher ++ '=' :: (name.toList ++ type.toList) := by
  simp [kw, Keyword.text]

theorem assisted_format (name type : String) : ("," ++ ("ASSISTED_QUERY_COLUMN=" ++ name ++
    type)).toList = ',' :: (kw .assistedQueryColumn ++ '=' :: (name.toList ++ type.toList)) := by
  simp [kw, Keyword.text]

theorem assistedType_format (type : String) : (",ASSISTED_QUERY_DATA_TYPE=" ++ type).toList =
    ',' :: (kw .assistedQueryDataType ++ '=' :: type.toList) := by
  simp [kw, Keyword.text]

theorem algorithm_format (algorithm : String) : ("ENCRYPT_ALGORITHM(" ++ algorithm ++ ")").toList =
    kw .encryptAlgorithm ++ '(' :: (algorithm.toList ++ [')']) := by
  simp [kw, Keyword.text]

theorem query_format (query : String) : (",QUERY_WITH_CIPHER_COLUMN=" ++ query).toList =
    ',' :: (kw .queryWithCipherColumn ++ '=' :: query.toList) := by
  simp [kw, Keyword.text]

theorem columnDefinition_text (c : TypedNameContext) :
    (visitColumnDefinition c).toString.toList = columnText c := by
  obtain ⟨l, d⟩ := c
  refine (name_format _ _).trans ?_
  rw [visitColumnDefinition, name_text]
  refine congrArg (fun cs => kw .name ++ '=' :: (l.1 ++ cs)) ?_
  cases d with
  | none => rfl
  | some d =>
    refine (type_format _).trans ?_
    rw [visitDataType, DataType.toString, toList_text]
    rfl

theorem plainColumnDefinition_text (c : Option TypedNameContext) :
    (orEmpty (fun p => "," ++ p.toString) (c.map visitPlainColumnDefinition)).toList =
      plainText c := by
  obtain _ | ⟨l, d⟩ := c
  · rfl
  · refine (plain_format _ _).trans ?_
    rw [visitPlainColumnDefinition, name_text]
    rfl

theorem cipherColumnDefinition_text (c : TypedNameContext) :
    (visitCipherColumnDefinition c).toString.toList =
      kw .cipher ++ '=' :: (c.columnName.1 ++ cipherTypeText c.dataType) := by
  obtain ⟨l, _ | d⟩ := c
  · rw [CipherColumnDefinition.toString, cipher_format, visitCipherColumnDefinition, name_text]
    rfl
  · rw [CipherColumnDefinition.toString, cipher_format, visitCipherColumnDefinition, name_text]
    simp [orEmpty, cipherTypeText, kw, Keyword.text]

theorem assistedQueryColumnDefinition_text (c : Option TypedNameContext) :
    (orEmpty (fun a => "," ++ a.toString) (c.map visitAssistedQueryColumnDefinition)).toList =
      assistedText c := by
  obtain _ | ⟨l, _ | d⟩ := c
  · rfl
  · refine (assisted_format _ _).trans ?_
    rw [visitAssistedQueryColumnDefinition, name_text]
    rfl
  · refine (assisted_format _ _).trans ?_
    rw [visitAssistedQueryColumnDefinition, name_text]
    refine congrArg (fun cs => ',' :: (kw .assistedQueryColumn ++ '=' :: (l.1 ++ cs))) ?_
    refine (assistedType_format _).trans ?_
    rw [visitDataType, DataType.toString, toList_text]
    rfl

theorem encryptAlgorithm_text (a : EncryptAlgorithmContext) :
    (EncryptAlgorithm.mk (visitAlgorithmDefinition a)).toString.toList =
      wrappedText .encryptAlgorithm a := by
  refine (algorithm_format _).trans ?_
  rw [algorithm_text]
  rfl

theorem assistedQueryAlgorithm_text (a : Option EncryptAlgorithmContext) :
    (orEmpty (fun a : AssistedQueryAlgorithm => "," ++ a.toString)
      (a.map (fun a => ⟨visitAlgorithmDefinition a⟩))).toList = assistedAlgorithmText a := by
  cases a with
  | none => rfl
  | some a =>
    refine (String.toList_append).trans ?_
    rw [AssistedQueryAlgorithm.toString, algorithm_text]
    rfl

theorem queryWithCipherColumn_text (q : Option QueryWithCipherColumnContext) :
    (orEmpty (fun q => ",QUERY_WITH_CIPHER_COLUMN=" ++ q.toString)
      (q.map visitQueryWithCipherColumn)).toList = queryText q := by
  obtain _ | l | l := q
  · rfl
  all_goals
    refine (query_format _).trans ?_
    rw [visitQueryWithCipherColumn, QueryWithCipherColumn.toString, toList_text]
    rfl

theorem likeQueryAlgorithm_diverges (l : LikeQueryAlgorithm) (n : ℕ) : l.toString n = none := by
  induction n with
  | zero => rfl
  | succ n ih =>
    rw [LikeQueryAlgorithm.toString, ih]
    rfl

def printedColumn (c : EncryptColumnDefinitionContext) : Option (List Char) :=
  if c.likeQueryAlgorithm.isNone then some (definitionText c) else none

theorem column_text (n : ℕ) (c : EncryptColumnDefinitionContext) :
    ((visitEncryptColumnDefinition c).toString n).map String.toList = printedColumn c := by
  obtain ⟨column, plain, cipher, assisted, like, algorithm, assistedAlgorithm, likeAlgorithm,
    query⟩ := c
  cases likeAlgorithm with
  | some a =>
    have hlike : likeQueryText n (some ⟨visitAlgorithmDefinition a⟩) = none := by
      rw [likeQueryText, likeQueryAlgorithm_diverges]
      rfl
    change (Option.bind (likeQueryText n (some ⟨visitAlgorithmDefinition a⟩)) _).map _ = none
    rw [hlike]
    rfl
  | none =>
    refine congrArg some ?_
    simp only [visitEncryptColumnDefinition, String.toList_append, columnDefinition_text,
      plainColumnDefinition_text, cipherColumnDefinition_text, assistedQueryColumnDefinition_text,
      encryptAlgorithm_text, assistedQueryAlgorithm_text, queryWithCipherColumn_text,
      String.toList_empty, List.append_nil, List.append_assoc, List.cons_append]
    rfl

theorem encryptColumnDefinition_reads :
    encryptColumnDefinition.Reads .encrypt printedColumn rereadColumn where
  prints := column_text
  reads := by
    intro c s rest hs hr
    obtain ⟨hlike, hs⟩ := Option.ite_none_right_eq_some.mp hs
    obtain rfl := Option.some.inj hs
    exact run_column c (Option.isNone_iff_eq_none.mp hlike)
  starts := by
    intro c s rest hs hr
    obtain ⟨-, hs⟩ := Option.ite_none_right_eq_some.mp hs
    obtain rfl := Option.some.inj hs
    rw [definitionText, List.cons_append, lex_lp]
    simp

end Texts

section Rules

variable {rest : List Char}

def resourceText : Option (Leaf .encrypt .identifier) → List Char
  | none => []
  | some l => kw .resource ++ '=' :: l.1

def ruleText (c : EncryptRuleDefinitionContext) (columns : List (List Char)) : List Char :=
  c.tableName.1 ++ ' ' :: '(' :: (resourceText c.resourceDefinition ++ (kw .columns ++
    '(' :: ([','].intercalate columns ++ ')' :: (queryText c.queryWithCipherColumn ++ [')']))))

def printedRule (c : EncryptRuleDefinitionContext) : Option (List Char) :=
  (c.encryptColumnDefinitions.toList.mapM printedColumn).map (ruleText c)

def rereadRule (c : EncryptRuleDefinitionContext) : Option EncryptRuleDefinitionContext :=
  if c.resourceDefinition.isNone then
    (c.encryptColumnDefinitions.mapM rereadColumn).map
      (fun columns => { c with encryptColumnDefinitions := columns })
  else none

theorem rule_format (table resource columns query : String) :
    (table ++ " (" ++ resource ++ "COLUMNS(" ++ columns ++ ")" ++ query ++ ")").toList =
      table.toList ++ ' ' :: '(' :: (resource.toList ++ (kw .columns ++ '(' :: (columns.toList ++
        ')' :: (query.toList ++ [')'])))) := by
  simp [kw, Keyword.text]

theorem resource_format (resource : String) : ("RESOURCE=" ++ resource).toList =
    kw .resource ++ '=' :: resource.toList := by
  simp [kw, Keyword.text]

theorem resourceDefinition_text (r : Option (Leaf .encrypt .identifier)) :
    (orEmpty ResourceDefinition.toString (r.map (fun r => ⟨visitName r⟩))).toList =
      resourceText r := by
  cases r with
  | none => rfl
  | some l =>
    refine (resource_format _).trans ?_
    rw [name_text]
    rfl

theorem rule_text (n : ℕ) (c : EncryptRuleDefinitionContext) :
    ((visitEncryptRuleDefinition c).toString n).map String.toList = printedRule c := by
  have hcolumns := congrArg (Option.map (fun cs => c.tableName.1 ++ ' ' :: '(' ::
      (resourceText c.resourceDefinition ++ (kw .columns ++ '(' :: (cs ++ ')' ::
        (queryText c.queryWithCipherColumn ++ [')']))))))
    (items_print encryptColumnDefinition_reads.toPrints n c.encryptColumnDefinitions.toList)
  rw [Option.map_map, Option.map_map] at hcolumns
  refine Eq.trans ?_ hcolumns
  change (Option.bind ((c.encryptColumnDefinitions.toList.map visitEncryptColumnDefinition).mapM
    (EncryptColumnDefinition.toString n)) _).map _ = Option.map _
      ((c.encryptColumnDefinitions.toList.map visitEncryptColumnDefinition).mapM
        (EncryptColumnDefinition.toString n))
  cases (c.encryptColumnDefinitions.toList.map visitEncryptColumnDefinition).mapM
      (EncryptColumnDefinition.toString n) with
  | none => rfl
  | some columns =>
    refine congrArg some ((rule_format _ _ _ _).trans ?_)
    simp only [visitEncryptRuleDefinition, resourceDefinition_text, queryWithCipherColumn_text,
      name_text]
    rfl

theorem run_resourceDefinition (l : Leaf .encrypt .identifier) :
    resourceDefinition.run (lex .encrypt (kw .resource ++ '=' ::
      (l.1 ++ (kw .columns ++ '(' :: rest)))) = none := by
  have hlp : (skip .encrypt (.symbol .comma)).run (lex .encrypt ('(' :: rest)) = none := by
    rw [lex_lp, run_skip_cons, kindOf_lp]
    simp
  rw [resourceDefinition, Parser.run_bind_some (run_skip_kw (by decide) rfl),
    Parser.run_bind_some (run_skip_eq (name_head l _))]
  obtain hp | hq := (kind_mem l.2).2
  · obtain ⟨hall, c, hc, hstart⟩ := mem_plainIdentifier.mp hp
    have hcolumns : ∀ c ∈ kw .columns, isNameChar c = true := List.all_eq_true.mp (by decide)
    have hword : lex .encrypt (l.1 ++ kw .columns ++ '(' :: rest) =
        (l.1 ++ kw .columns) :: lex .encrypt ('(' :: rest) := by
      refine lex_word (List.forall_mem_append.mpr ⟨hall, hcolumns⟩)
        ⟨c, List.mem_append_left _ hc, hstart⟩ ?_ rfl
      intro he
      have hlen := congrArg List.length he
      rw [List.length_append] at hlen
      have hseven : (kw .columns).length = 7 := rfl
      have htwo : "DO".toList.length = 2 := rfl
      omega
    rw [← List.append_assoc, hword]
    cases hname : name.run ((l.1 ++ kw .columns) :: lex .encrypt ('(' :: rest)) with
    | none => exact Parser.run_bind_none hname
    | some r =>
      obtain ⟨_, -, rfl⟩ := Option.map_eq_some_iff.mp hname
      rw [Parser.run_bind_some hname, Parser.run_bind_none hlp]
  · obtain ⟨b, hne, hb, he⟩ := mem_quotedIdentifier.mp hq
    have hname : name.run (lex .encrypt (l.1 ++ (kw .columns ++ '(' :: rest))) =
        some (l, lex .encrypt (kw .columns ++ '(' :: rest)) := by
      rw [lex_append l.2 (by decide) (by rw [he]; exact ends_quoted hne hb), name, run_leaf]
    have hcolumns : (skip .encrypt (.symbol .comma)).run
        (lex .encrypt (kw .columns ++ '(' :: rest)) = none := by
      rw [lex_kw (by decide) rfl, run_skip_cons, kindOf_kw (by decide)]
      simp
    rw [Parser.run_bind_some hname, Parser.run_bind_none hcolumns]

theorem encryptRuleDefinition_reads :
    encryptRuleDefinition.Reads .encrypt printedRule rereadRule where
  prints := rule_text
  reads := by
    intro c s rest hs hr
    obtain ⟨columns, hcolumns, rfl⟩ := Option.map_eq_some_iff.mp hs
    obtain ⟨table, resource, definitions, query⟩ := c
    simp only [ruleText, List.append_assoc, List.cons_append, List.nil_append]
    rw [encryptRuleDefinition, Parser.run_bind_some (run_name table rfl), lex_blank,
      Parser.run_bind_some run_skip_lp]
    cases resource with
    | some l =>
      have hahead : ahead .encrypt [.keyword .resource] (lex .encrypt (kw .resource ++ '=' ::
          (l.1 ++ (kw .columns ++ '(' :: ([','].intercalate columns ++ ')' ::
            (queryText query ++ ')' :: rest)))))) = true := by
        rw [lex_kw (by decide) rfl, ahead_cons, kindOf_kw (by decide)]
        simp
      simp only [resourceText, List.append_assoc, List.cons_append]
      rw [Parser.run_bind, Parser.run_opt_pos hahead, run_resourceDefinition]
      rfl
    | none =>
      have hahead : ahead .encrypt [.keyword .resource] (lex .encrypt (kw .columns ++
          '(' :: ([','].intercalate columns ++ ')' :: (queryText query ++ ')' :: rest)))) =
            false := by
        rw [lex_kw (by decide) rfl, ahead_cons, kindOf_kw (by decide)]
        simp
      rw [resourceText, List.nil_append, Parser.run_bind_some (Parser.run_opt_neg hahead),
        Parser.run_bind_some (run_skip_kw (by decide) rfl), Parser.run_bind_some run_skip_lp,
        Parser.run_bind, run_items encryptColumnDefinition_reads hcolumns rfl (by simp)]
      change _ = ((definitions.mapM rereadColumn).map (fun columns =>
        (⟨table, none, columns, query⟩ : EncryptRuleDefinitionContext))).map _
      cases definitions.mapM rereadColumn with
      | none => rfl
      | some ys =>
        rw [Option.map_some, Option.bind_some, Parser.run_bind_some run_skip_rp,
          Parser.run_bind_some (run_queryText query), Parser.run_bind_some run_skip_rp]
        rfl
  starts := by
    intro c s rest hs hr
    obtain ⟨columns, hcolumns, rfl⟩ := Option.map_eq_some_iff.mp hs
    rw [ruleText, List.append_assoc, lex_name c.tableName rfl]
    simp

end Rules

section RoundTrips

/-- What a column may have: a name without a data type, a cipher column without one, an
assisted query column, one algorithm whose properties are read back, and the choice of the
column that is queried. -/
def Simple (c : EncryptColumnDefinitionContext) : Prop :=
  c.columnDefinition.dataType = none ∧ c.plainColumnDefinition = none ∧
    c.cipherColumnDefinition.dataType = none ∧ c.likeQueryColumnDefinition = none ∧
    printable c.encryptAlgorithm = true ∧ c.assistedQueryAlgorithm = none ∧
    c.likeQueryAlgorithm = none

theorem returns_column (c : EncryptColumnDefinitionContext) :
    encryptColumnDefinition.Returns printedColumn rereadColumn c ↔ Simple c := by
  have hkept : kept c = true ↔ c.columnDefinition.dataType = none ∧
      c.plainColumnDefinition = none ∧ c.cipherColumnDefinition.dataType = none ∧
      printable c.encryptAlgorithm = true ∧ c.assistedQueryAlgorithm = none := by
    simp only [kept, Bool.and_eq_true, Option.isNone_iff_eq_none, and_assoc]
  constructor
  · rintro ⟨hprinted, y, hy, hvisit⟩
    obtain ⟨hk, hy⟩ := Option.ite_none_right_eq_some.mp hy
    obtain rfl := Option.some.inj hy
    obtain ⟨hd, hp, hz, ha, haq⟩ := hkept.mp hk
    have hlike : c.likeQueryColumnDefinition = none :=
      Option.map_eq_none_iff.mp
        (congrArg EncryptColumnDefinition.likeQueryColumnDefinition hvisit).symm
    obtain ⟨s, hs⟩ := Option.isSome_iff_exists.mp hprinted
    obtain ⟨hla, -⟩ := Option.ite_none_right_eq_some.mp hs
    exact ⟨hd, hp, hz, hlike, ha, haq, Option.isNone_iff_eq_none.mp hla⟩
  · rintro ⟨hd, hp, hz, hlike, ha, haq, hla⟩
    refine ⟨?_, c, ?_, rfl⟩
    · rw [printedColumn, hla]
      rfl
    · rw [rereadColumn, if_pos (hkept.mpr ⟨hd, hp, hz, ha, haq⟩), ← hlike]

def SimpleRule (c : EncryptRuleDefinitionContext) : Prop :=
  c.resourceDefinition = none ∧ ∀ x ∈ c.encryptColumnDefinitions.toList, Simple x

theorem returns_rule (c : EncryptRuleDefinitionContext) :
    encryptRuleDefinition.Returns printedRule rereadRule c ↔ SimpleRule c := by
  have hcolumns : _ ↔ ∀ x ∈ c.encryptColumnDefinitions.toList,
      encryptColumnDefinition.Returns printedColumn rereadColumn x := returns_items _
  simp only [returns_column] at hcolumns
  rw [SimpleRule, ← hcolumns]
  constructor
  · rintro ⟨hprinted, y, hy, hvisit⟩
    obtain ⟨s, hs⟩ := Option.isSome_iff_exists.mp hprinted
    obtain ⟨ss, hss, -⟩ := Option.map_eq_some_iff.mp hs
    obtain ⟨hresource, hy⟩ := Option.ite_none_right_eq_some.mp hy
    obtain ⟨columns, hreread, rfl⟩ := Option.map_eq_some_iff.mp hy
    exact ⟨Option.isNone_iff_eq_none.mp hresource, ⟨ss, hss⟩, columns, hreread,
      congrArg EncryptRuleDefinition.allEncryptColumnDefinition hvisit⟩
  · rintro ⟨hresource, ⟨ss, hss⟩, columns, hreread, hvisit⟩
    refine ⟨?_, { c with encryptColumnDefinitions := columns }, ?_, ?_⟩
    · rw [printedRule, hss]
      rfl
    · rw [rereadRule, hresource, if_pos Option.isNone_none, hreread]
      rfl
    · exact congrArg (fun columns => EncryptRuleDefinition.mk (visitName c.tableName)
        (c.resourceDefinition.map (fun r => ⟨visitName r⟩)) columns
        (c.queryWithCipherColumn.map visitQueryWithCipherColumn)) hvisit

theorem alter_roundTrips (t : Many EncryptRuleDefinitionContext) :
    alterEncryptRule.RoundTrips .encrypt t ↔ ∀ x ∈ t.toList, SimpleRule x := by
  have hbefore : ∀ cs, lex .encrypt (("ALTER ENCRYPT RULE " ++ "" ++ " ").toList ++ cs) =
      lex .encrypt (headerText [.alter, .encrypt, .rule] ++ cs) := by
    intro cs
    have htext : ("ALTER ENCRYPT RULE " ++ "" ++ " ").toList ++ cs =
        kw .alter ++ ' ' :: (kw .encrypt ++ ' ' :: (kw .rule ++ ' ' :: ' ' :: cs)) := by
      simp [kw, Keyword.text]
    have hheader : headerText [.alter, .encrypt, .rule] ++ cs =
        kw .alter ++ ' ' :: (kw .encrypt ++ ' ' :: (kw .rule ++ ' ' :: cs)) := by
      simp [headerText]
    rw [htext, hheader, lex_kw (by decide) rfl, lex_kw (by decide) rfl]
    simp only [lex_blank]
    rw [lex_kw (by decide) rfl, lex_kw (by decide) rfl]
    simp only [lex_blank]
    rw [lex_kw (by decide) rfl, lex_kw (by decide) rfl]
    simp only [lex_blank]
  rw [alterEncryptRule, bareListing_roundTrips encryptRuleDefinition_reads hbefore (Or.inr rfl)
    (by decide)]
  exact forall₂_congr (fun x _ => returns_rule x)

theorem create_format (clause rules : String) :
    ("CREATE ENCRYPT RULE" ++ clause ++ " " ++ rules ++ ";").toList = kw .create ++ ' ' ::
      (kw .encrypt ++ ' ' :: (kw .rule ++ (clause.toList ++ ' ' :: (rules.toList ++ [';'])))) := by
  simp [kw, Keyword.text]

def clauseText : Option (IfNotExistsContext .encrypt) → List Char
  | none => []
  | some i => (visitIfNotExists i).toString.toList

def createText (clause : Option (IfNotExistsContext .encrypt)) (rules : List (List Char)) :
    List Char :=
  kw .create ++ ' ' :: (kw .encrypt ++ ' ' :: (kw .rule ++ (clauseText clause ++ ' ' ::
    ([','].intercalate rules ++ [';']))))

theorem create_text (clause : Option (IfNotExistsContext .encrypt))
    (items : Many EncryptRuleDefinitionContext) (n : ℕ) :
    (createEncryptRule.toString n (createEncryptRule.visit ⟨clause, items⟩)).map String.toList =
      (items.toList.mapM printedRule).map (createText clause) := by
  have hclause : (orEmpty IfNotExists.toString (clause.map visitIfNotExists)).toList =
      clauseText clause := by
    cases clause <;> rfl
  have hitems := congrArg (Option.map (fun cs => kw .create ++ ' ' :: (kw .encrypt ++ ' ' ::
      (kw .rule ++ (clauseText clause ++ ' ' :: (cs ++ [';']))))))
    (items_print encryptRuleDefinition_reads.toPrints n items.toList)
  rw [Option.map_map, Option.map_map] at hitems
  refine Eq.trans ?_ hitems
  change (Option.bind ((items.toList.map visitEncryptRuleDefinition).mapM
    (EncryptRuleDefinition.toString n)) _).map _ = Option.map _
      ((items.toList.map visitEncryptRuleDefinition).mapM (EncryptRuleDefinition.toString n))
  cases (items.toList.map visitEncryptRuleDefinition).mapM (EncryptRuleDefinition.toString n) with
  | none => rfl
  | some rules =>
    refine congrArg some ((create_format _ _).trans ?_)
    rw [← hclause]
    rfl

theorem lex_joined_rule (i : Leaf .encrypt (.keyword .ifKw)) (rest : List Char) :
    lex .encrypt (kw .rule ++ i.1 ++ ' ' :: rest) = (kw .rule ++ i.1) :: lex .encrypt rest := by
  have hall := (name_of_keyword i.2).1
  have hrule : ∀ c ∈ kw .rule, isNameChar c = true := List.all_eq_true.mp (by decide)
  have hdo : kw .rule ++ i.1 ≠ "DO".toList := by
    intro he
    have hlen := congrArg List.length he
    have hrule : (kw .rule).length = 4 := rfl
    have htwo : "DO".toList.length = 2 := rfl
    rw [List.length_append, hrule, htwo] at hlen
    omega
  rw [lex_word (List.forall_mem_append.mpr ⟨hrule, hall⟩)
    ⟨'R', List.mem_append_left _ (by decide), rfl⟩ hdo rfl, lex_blank]

theorem kindOf_joined_rule (i : Leaf .encrypt (.keyword .ifKw)) :
    kindOf .encrypt (kw .rule ++ i.1) ≠ some (.keyword .rule) := by
  intro hk
  have hlen := congrArg List.length (mem_anyCase.mp (kind_mem hk).2)
  have hrule : (kw .rule).length = 4 := rfl
  have htext : Keyword.rule.text.toList.length = 4 := rfl
  rw [List.length_map, List.length_append, hrule, htext] at hlen
  have hpos := List.length_pos_iff.mpr (leaf_ne_nil i.2)
  omega

theorem run_joined_rule (i : Leaf .encrypt (.keyword .ifKw)) (rest : List Char) :
    (header .encrypt [.create, .encrypt, .rule]).run (lex .encrypt (kw .create ++ ' ' ::
      (kw .encrypt ++ ' ' :: (kw .rule ++ i.1 ++ ' ' :: rest)))) = none := by
  rw [header, Parser.run_bind_some (run_skip_kw (by decide) rfl), lex_blank, header,
    Parser.run_bind_some (run_skip_kw (by decide) rfl), lex_blank, header, lex_joined_rule]
  refine Parser.run_bind_none ?_
  rw [run_skip_cons, if_neg (kindOf_joined_rule i)]

theorem createText_clause (i : IfNotExistsContext .encrypt) (rules : List (List Char)) :
    createText (some i) rules =
      kw .create ++ ' ' :: (kw .encrypt ++ ' ' :: (kw .rule ++ i.ifToken.1 ++ ' ' ::
        (i.notToken.1 ++ ' ' :: (i.existsToken.1 ++ ' ' :: ([','].intercalate rules ++ [';']))))) := by
  simp [createText, clauseText, visitIfNotExists, IfNotExists.toString]

theorem create_clause_lost (i : IfNotExistsContext .encrypt)
    (items : Many EncryptRuleDefinitionContext) :
    ¬ createEncryptRule.RoundTrips .encrypt ⟨some i, items⟩ := by
  rw [roundTrips_iff (create_text (some i) items)]
  rintro ⟨cs, hcs, r, hr, -⟩
  obtain ⟨rules, -, rfl⟩ := Option.map_eq_some_iff.mp hcs
  rw [createText_clause, createEncryptRule, Parser.run_bind_none (run_joined_rule _ _)] at hr
  cases hr

theorem create_roundTrips_bare (items : Many EncryptRuleDefinitionContext) :
    createEncryptRule.RoundTrips .encrypt ⟨none, items⟩ ↔ ∀ x ∈ items.toList, SimpleRule x := by
  have hitems : _ ↔ ∀ x ∈ items.toList, encryptRuleDefinition.Returns printedRule rereadRule x :=
    returns_items _
  simp only [returns_rule] at hitems
  have hrun : ∀ rules, items.toList.mapM printedRule = some rules →
      createEncryptRule.rule.run (lex .encrypt (createText none rules)) =
        (items.mapM rereadRule).map (fun ys => (⟨none, ys⟩, lex .encrypt [';'])) := by
    intro rules hrules
    have htext : createText none rules = headerText [.create, .encrypt, .rule] ++
        ([','].intercalate rules ++ [';']) := by
      simp [createText, clauseText, headerText]
    have hstarts : ahead .encrypt _ (lex .encrypt ([','].intercalate rules ++ [';'])) = false :=
      starts_items encryptRuleDefinition_reads.toPrints hrules rfl
    rw [htext, createEncryptRule, Parser.run_bind_some (run_header (by decide)),
      Parser.run_bind_some (Parser.run_opt_neg hstarts), Parser.run_bind,
      run_items encryptRuleDefinition_reads hrules rfl (by simp)]
    cases items.mapM rereadRule <;> rfl
  rw [roundTrips_iff (create_text none items), ← hitems]
  constructor
  · rintro ⟨cs, hcs, r, hr, hvisit, -⟩
    obtain ⟨rules, hrules, rfl⟩ := Option.map_eq_some_iff.mp hcs
    obtain ⟨ys, hys, rfl⟩ := Option.map_eq_some_iff.mp ((hrun rules hrules).symm.trans hr)
    exact ⟨⟨rules, hrules⟩, ys, hys, congrArg CreateEncryptRule.allEncryptRuleDefinition hvisit⟩
  · rintro ⟨⟨rules, hrules⟩, ys, hys, hvisit⟩
    refine ⟨_, by rw [hrules]; rfl, (⟨none, ys⟩, lex .encrypt [';']), ?_, ?_, by simp⟩
    · exact (hrun rules hrules).trans (by rw [hys]; rfl)
    · exact congrArg₂ (CreateEncryptRule.mk none) (List.cons.inj hvisit).1 hvisit

theorem create_roundTrips
    (t : Listed (IfNotExistsContext .encrypt) (Many EncryptRuleDefinitionContext)) :
    createEncryptRule.RoundTrips .encrypt t ↔
      t.clause = none ∧ ∀ x ∈ t.items.toList, SimpleRule x := by
  obtain ⟨_ | i, items⟩ := t
  · rw [and_iff_right rfl]
    exact create_roundTrips_bare items
  · constructor
    · intro h
      exact absurd h (create_clause_lost i items)
    · rintro ⟨h, -⟩
      cases h

/-- What the statements may have to be read back: no clause, no resource, and simple columns. -/
theorem encrypt_round_trips
    (t : Listed (IfNotExistsContext .encrypt) (Many EncryptRuleDefinitionContext))
    (u : Many EncryptRuleDefinitionContext) :
    (createEncryptRule.RoundTrips .encrypt t ↔
      t.clause = none ∧ ∀ x ∈ t.items.toList, SimpleRule x) ∧
    (alterEncryptRule.RoundTrips .encrypt u ↔ ∀ x ∈ u.toList, SimpleRule x) :=
  ⟨create_roundTrips t, alter_roundTrips u⟩

def plainRule : EncryptRuleDefinitionContext where
  tableName := quotedName _ 't' t_ne_backQuote
  resourceDefinition := none
  encryptColumnDefinitions := ⟨{
    columnDefinition := ⟨quotedName _ 'u' (by decide), none⟩
    plainColumnDefinition := some ⟨quotedName _ 'p' (by decide), none⟩
    cipherColumnDefinition := ⟨quotedName _ 'c' c_ne_backQuote, none⟩
    assistedQueryColumnDefinition := none
    likeQueryColumnDefinition := none
    encryptAlgorithm := ⟨.buildin .aes (by decide) (keywordLeaf _ .aes (by decide)), none⟩
    assistedQueryAlgorithm := none
    likeQueryAlgorithm := none
    queryWithCipherColumn := none }, []⟩
  queryWithCipherColumn := none

theorem plainRule_is_lost :
    ¬ createEncryptRule.RoundTrips .encrypt ⟨none, ⟨plainRule, []⟩⟩ := by
  rw [create_roundTrips]
  rintro ⟨-, h⟩
  obtain ⟨-, hcolumns⟩ := h plainRule List.mem_cons_self
  obtain ⟨-, hplain, -⟩ := hcolumns _ List.mem_cons_self
  cases hplain

end RoundTrips

end ShardingOnCloud.Distsql.EncryptRoundTrip
