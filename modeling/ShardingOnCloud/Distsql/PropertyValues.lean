import ShardingOnCloud.Distsql.Reading

namespace ShardingOnCloud.Distsql.PropertyValues

open ShardingOnCloud.Lib.Descent
open ShardingOnCloud.Distsql.Ast ShardingOnCloud.Distsql.BaseRule
open ShardingOnCloud.Distsql.Tokens hiding literal
open ShardingOnCloud.Distsql.Lexing ShardingOnCloud.Distsql.Reading

variable {g : Grammar}

section Tokens

/-- The tokens of a value: one, and a sign before a negative number. -/
def valueTokens : LiteralContext g → List (List Char)
  | .string l => [l.1]
  | .int (some minus) l => [minus.1, l.1]
  | .int none l => [l.1]
  | .trueToken l => [l.1]
  | .falseToken l => [l.1]

theorem run_valueTokens (v : LiteralContext g) (ws : List (List Char)) :
    literal.run (valueTokens v ++ ws) = some (v, ws) := by
  obtain l | ⟨_ | m, l⟩ | l | l := v <;> simp [literal, valueTokens]

/-- A property reads back from its own tokens, whatever follows them. -/
theorem run_propertyTokens (p : PropertyContext g) (ws : List (List Char)) :
    property.run (p.key.1 :: ['='] :: (valueTokens p.value ++ ws)) = some (p, ws) := by
  simp only [property, Parser.run_bind, run_leaf, Option.bind_some, run_skip_cons, kindOf_eq,
    if_true, run_valueTokens]
  rfl

def valueText (v : LiteralContext g) : String := String.ofList (valueTokens v).flatten

end Tokens

section Values

/-- A property is read with the text of its key and the whole text of its value. -/
def ReadAs (p : PropertyContext g) (q : Property) : Prop :=
  q.key = text p.key ∧ ∃ l, q.literal = some l ∧ l.literal = valueText p.value

/-- All properties are read, in their order, and each without a loss. -/
def Lossless (ctx : Many (PropertyContext g)) : Prop :=
  List.Forall₂ ReadAs ctx.toList (visitProperties ctx).properties

theorem visitLiteral_eq (v : LiteralContext g) :
    (visitLiteral v).literal = String.ofList (literalText v) := by
  obtain l | ⟨_ | m, l⟩ | l | l := v <;> rfl

theorem literalText_eq_iff (v : LiteralContext g) :
    literalText v = (valueTokens v).flatten ↔ negative v = false := by
  obtain l | ⟨_ | m, l⟩ | l | l := v
  · simp [literalText, valueTokens, negative]
  · simp [literalText, valueTokens, negative]
  · have hne : l.1 ≠ [] := leaf_ne_nil l.2
    simpa [literalText, valueTokens, negative] using hne
  · simp [literalText, valueTokens, negative]
  · simp [literalText, valueTokens, negative]

theorem readAs_visitProperty (p : PropertyContext g) :
    ReadAs p (visitProperty p) ↔ negative p.value = false := by
  rw [← literalText_eq_iff]
  constructor
  · rintro ⟨-, l, hl, htext⟩
    obtain rfl := Option.some.inj hl
    rw [visitLiteral_eq] at htext
    exact String.ofList_injective htext
  · intro h
    refine ⟨rfl, visitLiteral p.value, rfl, ?_⟩
    rw [visitLiteral_eq, h]
    rfl

/-- A list of properties is read without a loss exactly if no value is a negative number. -/
theorem lossless_iff (ctx : Many (PropertyContext g)) :
    Lossless ctx ↔ ∀ p ∈ ctx.toList, negative p.value = false := by
  rw [Lossless, visitProperties, List.forall₂_map_right_iff, List.forall₂_same]
  exact forall₂_congr (fun p _ => readAs_visitProperty p)

theorem kindOf_key : kindOf .sharding "\"k\"".toList = some .string := by
  have htext : "\"k\"".toList = doubleQuote :: (['k'] ++ [doubleQuote]) := String.toList_ofList
  have hbody : Shapes.Body doubleQuote ['k'] :=
    Shapes.body_plain (by decide) (by decide) Shapes.body_nil
  rw [htext]
  exact kindOf_quoted (Or.inl rfl) hbody

theorem kindOf_one : kindOf .sharding ['1'] = some .int :=
  kindOf_digits (List.cons_ne_nil _ _) (by simp)

/-- The property `"k"=-1`. -/
def minusOne : PropertyContext .sharding where
  key := ⟨"\"k\"".toList, kindOf_key⟩
  value := .int (some ⟨['-'], kindOf_minus⟩) ⟨['1'], kindOf_one⟩

/-- Of the value `-1` only the sign is read. -/
theorem not_all_lossless : ¬ ∀ (g : Grammar) (ctx : Many (PropertyContext g)), Lossless ctx := by
  intro h
  cases h .sharding ⟨minusOne, []⟩ with
  | cons hread _ => cases (readAs_visitProperty minusOne).mp hread

end Values

end ShardingOnCloud.Distsql.PropertyValues
