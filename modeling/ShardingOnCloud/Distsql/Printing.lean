import ShardingOnCloud.Distsql.NameLists
import ShardingOnCloud.Distsql.ReadwriteSplitting
import ShardingOnCloud.Distsql.Shadow
import ShardingOnCloud.Distsql.EncryptRoundTrip
import ShardingOnCloud.Distsql.Mask
import ShardingOnCloud.Distsql.ShardingRule

namespace ShardingOnCloud.Distsql.Printing

open ShardingOnCloud.Lib.Descent
open ShardingOnCloud.Distsql.Tokens ShardingOnCloud.Distsql.BaseRule
open ShardingOnCloud.Distsql.Phrases ShardingOnCloud.Distsql.NameLists
open ShardingOnCloud.Distsql.ReadwriteSplitting ShardingOnCloud.Distsql.Shadow
open ShardingOnCloud.Distsql.EncryptRule ShardingOnCloud.Distsql.Mask
open ShardingOnCloud.Distsql.ShardingRule

section Phrases

variable {T N C D : Type}

def print (P : Phrase T N) (n : ℕ) (t : T) : Option String := P.toString n (P.visit t)

/-- Which trees are printed does not depend on how many calls are allowed. -/
def Prints (P : Phrase T N) (ok : T → Prop) : Prop :=
  ∀ n t, (print P n t).isSome = true ↔ ok t

theorem isSome_mapM {α β : Type} (f : α → Option β) (xs : List α) :
    (xs.mapM f).isSome = true ↔ ∀ x ∈ xs, (f x).isSome = true := by
  induction xs with
  | nil => simp
  | cons x xs ih =>
    rw [List.mapM_cons, List.forall_mem_cons, ← ih]
    cases f x with
    | none => simp
    | some y => cases xs.mapM f <;> simp

theorem isSome_items {P : Phrase T N} {ok : T → Prop} (h : Prints P ok) (n : ℕ) (xs : List T) :
    ((xs.map P.visit).mapM (P.toString n)).isSome = true ↔ ∀ x ∈ xs, ok x := by
  rw [isSome_mapM, List.forall_mem_map]
  exact forall₂_congr (fun x _ => h n x)

theorem isSome_bind_pure {α β : Type} (o : Option α) (f : α → β) :
    (o >>= fun a => pure (f a)).isSome = o.isSome := by
  cases o <;> rfl

theorem prints_listing {P : Phrase T N} {ok : T → Prop} (h : Prints P ok) (g : Grammar)
    (before : String) (keywords : List Keyword) (clause : Clause C D) :
    Prints (listing g before keywords clause P) (fun t => ∀ x ∈ t.items.toList, ok x) := by
  intro n t
  exact (Bool.eq_iff_iff.mp (isSome_bind_pure _ _)).trans (isSome_items h n _)

theorem prints_bareListing {P : Phrase T N} {ok : T → Prop} (h : Prints P ok) (g : Grammar)
    (before after : String) (keywords : List Keyword) :
    Prints (bareListing g before after keywords P) (fun t => ∀ x ∈ t.toList, ok x) := by
  intro n t
  exact (Bool.eq_iff_iff.mp (isSome_bind_pure _ _)).trans (isSome_items h n _)

/-- A statement that is printed whatever it holds. -/
theorem prints_always {P : Phrase T N} (toString : N → String)
    (h : ∀ n s, P.toString n s = some (toString s)) : Prints P (fun _ => True) := by
  intro n t
  rw [print, h]
  exact ⟨fun _ => trivial, fun _ => rfl⟩

theorem prints_listing_always {P : Phrase T N} (h : Prints P (fun _ => True)) (g : Grammar)
    (before : String) (keywords : List Keyword) (clause : Clause C D) :
    Prints (listing g before keywords clause P) (fun _ => True) := by
  intro n t
  rw [prints_listing h]
  exact ⟨fun _ => trivial, fun _ _ _ => trivial⟩

theorem prints_bareListing_always {P : Phrase T N} (h : Prints P (fun _ => True)) (g : Grammar)
    (before after : String) (keywords : List Keyword) :
    Prints (bareListing g before after keywords P) (fun _ => True) := by
  intro n t
  rw [prints_bareListing h]
  exact ⟨fun _ => trivial, fun _ _ _ => trivial⟩

end Phrases

section Statements

abbrev DropContext (g : Grammar) := Listed (IfExistsContext g) (Many (Leaf g .identifier))

/-- A parse tree of a statement of one of the five grammars. -/
inductive StatementContext
  | createEncryptRule (t : Listed (IfNotExistsContext .encrypt) (Many EncryptRuleDefinitionContext))
  | alterEncryptRule (t : Many EncryptRuleDefinitionContext)
  | dropEncryptRule (t : DropContext .encrypt)
  | createShardingTableRule
      (t : Listed (IfNotExistsContext .sharding) (Many ShardingTableRuleDefinitionContext))
  | alterShardingTableRule (t : Many ShardingTableRuleDefinitionContext)
  | dropShardingTableRule (t : DropContext .sharding)
  | createShardingTableReferenceRule
      (t : Listed (IfNotExistsContext .sharding) (Many TableReferenceRuleDefinitionContext))
  | alterShardingTableReferenceRule (t : Many TableReferenceRuleDefinitionContext)
  | dropShardingTableReferenceRule (t : DropContext .sharding)
  | createBroadcastTableRule
      (t : Listed (IfNotExistsContext .sharding) (Many (Leaf .sharding .identifier)))
  | dropBroadcastTableRule (t : DropContext .sharding)
  | dropShardingAlgorithm (t : DropContext .sharding)
  | createDefaultShardingStrategy (t : CreateDefaultShardingStrategyContext)
  | alterDefaultShardingStrategy (t : AlterDefaultShardingStrategyContext)
  | dropDefaultShardingStrategy (t : DropDefaultShardingStrategyContext)
  | dropShardingKeyGenerator (t : DropContext .sharding)
  | dropShardingAuditor (t : DropContext .sharding)
  | createMaskRule (t : CreateMaskRuleContext)
  | alterMaskRule (t : AlterMaskRuleContext)
  | dropMaskRule (t : DropMaskRuleContext)
  | createReadwriteSplittingRule (t : Listed (IfNotExistsContext .readWriteSplitting)
      (Many ReadwriteSplittingRuleDefinitionContext))
  | alterReadwriteSplittingRule (t : Many ReadwriteSplittingRuleDefinitionContext)
  | dropReadwriteSplittingRule (t : DropContext .readWriteSplitting)
  | createShadowRule (t : Listed (IfNotExistsContext .shadow) (Many ShadowRuleDefinitionContext))
  | alterShadowRule (t : Many ShadowRuleDefinitionContext)
  | dropShadowRule (t : DropContext .shadow)
  | dropShadowAlgorithm (t : DropContext .shadow)
  | createDefaultShadowAlgorithm (t : CreateDefaultShadowAlgorithmContext)
  | dropDefaultShadowAlgorithm (t : Option (IfExistsContext .shadow))
  | alterDefaultShadowAlgorithm (t : ShadowAlgorithmContext)

/-- What `ToString` returns for the statement that is visited, if it needs at most this many
nested calls and follows no `nil` pointer. -/
def StatementContext.toString (n : ℕ) : StatementContext → Option String
  | .createEncryptRule t => print EncryptRule.createEncryptRule n t
  | .alterEncryptRule t => print EncryptRule.alterEncryptRule n t
  | .dropEncryptRule t => print EncryptRule.dropEncryptRule n t
  | .createShardingTableRule t => print ShardingRule.createShardingTableRule n t
  | .alterShardingTableRule t => print ShardingRule.alterShardingTableRule n t
  | .dropShardingTableRule t => print NameLists.dropShardingTableRule n t
  | .createShardingTableReferenceRule t => print NameLists.createShardingTableReferenceRule n t
  | .alterShardingTableReferenceRule t => print NameLists.alterShardingTableReferenceRule n t
  | .dropShardingTableReferenceRule t => print NameLists.dropShardingTableReferenceRule n t
  | .createBroadcastTableRule t => print NameLists.createBroadcastTableRule n t
  | .dropBroadcastTableRule t => print NameLists.dropBroadcastTableRule n t
  | .dropShardingAlgorithm t => print ShardingRule.dropShardingAlgorithm n t
  | .createDefaultShardingStrategy t => print ShardingRule.createDefaultShardingStrategy n t
  | .alterDefaultShardingStrategy t => print ShardingRule.alterDefaultShardingStrategy n t
  | .dropDefaultShardingStrategy t => print ShardingRule.dropDefaultShardingStrategy n t
  | .dropShardingKeyGenerator t => print NameLists.dropShardingKeyGenerator n t
  | .dropShardingAuditor t => print NameLists.dropShardingAuditor n t
  | .createMaskRule t => print Mask.createMaskRule n t
  | .alterMaskRule t => print Mask.alterMaskRule n t
  | .dropMaskRule t => print Mask.dropMaskRule n t
  | .createReadwriteSplittingRule t => print ReadwriteSplitting.createReadwriteSplittingRule n t
  | .alterReadwriteSplittingRule t => print ReadwriteSplitting.alterReadwriteSplittingRule n t
  | .dropReadwriteSplittingRule t => print NameLists.dropReadwriteSplittingRule n t
  | .createShadowRule t => print Shadow.createShadowRule n t
  | .alterShadowRule t => print Shadow.alterShadowRule n t
  | .dropShadowRule t => print NameLists.dropShadowRule n t
  | .dropShadowAlgorithm t => print NameLists.dropShadowAlgorithm n t
  | .createDefaultShadowAlgorithm t => print Shadow.createDefaultShadowAlgorithm n t
  | .dropDefaultShadowAlgorithm t => print Shadow.dropDefaultShadowAlgorithm n t
  | .alterDefaultShadowAlgorithm t => print Shadow.alterDefaultShadowAlgorithm n t

/-- `ToString` returns. -/
def StatementContext.Terminates (t : StatementContext) : Prop := ∃ n s, t.toString n = some s

def NoLikeQuery (c : EncryptRuleDefinitionContext) : Prop :=
  ∀ x ∈ c.encryptColumnDefinitions.toList, x.likeQueryAlgorithm = none

/-- The statements no defect of the printers is met in: of the rules for encryption those
without an algorithm for like queries, no definition of a shadow rule, and the statements about
defaults whose clause is printed unseen only with the clause. -/
def StatementContext.Clean : StatementContext → Prop
  | .createEncryptRule t => ∀ c ∈ t.items.toList, NoLikeQuery c
  | .alterEncryptRule t => ∀ c ∈ t.toList, NoLikeQuery c
  | .createShadowRule _ => False
  | .alterShadowRule _ => False
  | .createDefaultShadowAlgorithm t => t.ifNotExists ≠ none
  | .dropDefaultShadowAlgorithm t => t ≠ none
  | .dropDefaultShardingStrategy t => t.ifExists ≠ none
  | _ => True

end Statements

section Encrypt

theorem prints_column : Prints encryptColumnDefinition (fun c => c.likeQueryAlgorithm = none) := by
  intro n c
  have htext := congrArg Option.isSome (EncryptRoundTrip.column_text n c)
  rw [Option.isSome_map] at htext
  rw [print, encryptColumnDefinition, htext, EncryptRoundTrip.printedColumn]
  cases hlike : c.likeQueryAlgorithm <;> simp [hlike]

theorem prints_rule : Prints encryptRuleDefinition NoLikeQuery := by
  intro n c
  exact (Bool.eq_iff_iff.mp (isSome_bind_pure _ _)).trans (isSome_items prints_column n _)

theorem prints_createEncryptRule :
    Prints createEncryptRule (fun t => ∀ c ∈ t.items.toList, NoLikeQuery c) := by
  intro n t
  exact (Bool.eq_iff_iff.mp (isSome_bind_pure _ _)).trans (isSome_items prints_rule n _)

end Encrypt

section Shadow

theorem prints_createShadowRule : Prints createShadowRule (fun _ => False) := by
  intro n t
  refine (Bool.eq_iff_iff.mp (isSome_bind_pure _ _)).trans ?_
  change (Option.isSome ((t.items.toList.map visitShadowRuleDefinition).mapM _)) = true ↔ False
  rw [mapM_diverges]
  simp

theorem prints_alterShadowRule : Prints alterShadowRule (fun _ => False) := by
  intro n t
  refine (Bool.eq_iff_iff.mp (isSome_bind_pure _ _)).trans ?_
  change (Option.isSome ((t.toList.map visitShadowRuleDefinition).mapM _)) = true ↔ False
  rw [mapM_diverges]
  simp

theorem prints_createDefaultShadowAlgorithm :
    Prints createDefaultShadowAlgorithm (fun t => t.ifNotExists ≠ none) := by
  intro n t
  refine (Bool.eq_iff_iff.mp (isSome_bind_pure _ _)).trans ?_
  rw [createDefaultShadowAlgorithm, Option.isSome_map, Option.isSome_iff_ne_none]

theorem prints_dropDefaultShadowAlgorithm :
    Prints dropDefaultShadowAlgorithm (fun t => t ≠ none) := by
  intro n t
  refine (Bool.eq_iff_iff.mp (isSome_bind_pure _ _)).trans ?_
  rw [dropDefaultShadowAlgorithm, Option.isSome_map, Option.isSome_iff_ne_none]

end Shadow

section Termination

theorem prints_name (g : Grammar) : Prints (namePhrase g) (fun _ => True) :=
  prints_always _ (fun _ _ => rfl)

theorem prints_reference : Prints tableReferenceRuleDefinition (fun _ => True) :=
  prints_always _ (fun _ _ => rfl)

theorem prints_readwriteSplitting : Prints readwriteSplittingRuleDefinition (fun _ => True) :=
  prints_always _ (fun _ _ => rfl)

theorem prints_shardingTableRule : Prints shardingTableRuleDefinition (fun _ => True) :=
  prints_always _ (fun _ _ => rfl)

theorem prints_dropDefaultShardingStrategy :
    Prints dropDefaultShardingStrategy (fun t => t.ifExists ≠ none) := by
  intro n t
  rw [print, dropDefaultShardingStrategy]
  dsimp only
  rw [DropDefaultShardingStrategy.toString, Option.isSome_map, visitDropDefaultShardingStrategy,
    Option.isSome_map, Option.isSome_iff_ne_none]

theorem isSome_iff_clean (n : ℕ) (t : StatementContext) :
    (t.toString n).isSome = true ↔ t.Clean := by
  cases t with
  | createEncryptRule t => exact prints_createEncryptRule n t
  | alterEncryptRule t => exact prints_bareListing prints_rule _ _ _ _ n t
  | dropEncryptRule t => exact prints_always _ (fun _ _ => rfl) n t
  | createShardingTableRule t => exact prints_listing_always prints_shardingTableRule _ _ _ _ n t
  | alterShardingTableRule t => exact prints_bareListing_always prints_shardingTableRule _ _ _ _ n t
  | createShardingTableReferenceRule t => exact prints_listing_always prints_reference _ _ _ _ n t
  | alterShardingTableReferenceRule t =>
    exact prints_bareListing_always prints_reference _ _ _ _ n t
  | createReadwriteSplittingRule t =>
    exact prints_listing_always prints_readwriteSplitting _ _ _ _ n t
  | alterReadwriteSplittingRule t =>
    exact prints_bareListing_always prints_readwriteSplitting _ _ _ _ n t
  | createDefaultShardingStrategy t => exact prints_always _ (fun _ _ => rfl) n t
  | alterDefaultShardingStrategy t => exact prints_always _ (fun _ _ => rfl) n t
  | dropDefaultShardingStrategy t => exact prints_dropDefaultShardingStrategy n t
  | createMaskRule t => exact prints_always _ (fun _ _ => rfl) n t
  | alterMaskRule t => exact prints_always _ (fun _ _ => rfl) n t
  | dropMaskRule t => exact prints_always _ (fun _ _ => rfl) n t
  | createShadowRule t => exact prints_createShadowRule n t
  | alterShadowRule t => exact prints_alterShadowRule n t
  | createDefaultShadowAlgorithm t => exact prints_createDefaultShadowAlgorithm n t
  | dropDefaultShadowAlgorithm t => exact prints_dropDefaultShadowAlgorithm n t
  | alterDefaultShadowAlgorithm t => exact prints_always _ (fun _ _ => rfl) n t
  | dropShardingTableRule t | dropShardingTableReferenceRule t | createBroadcastTableRule t
  | dropBroadcastTableRule t | dropShardingAlgorithm t | dropShardingKeyGenerator t
  | dropShardingAuditor t | dropReadwriteSplittingRule t | dropShadowRule t
  | dropShadowAlgorithm t => exact prints_listing_always (prints_name _) _ _ _ _ n t

/-- `ToString` returns for a statement exactly if none of the five defects is met. -/
theorem terminates_iff_clean (t : StatementContext) : t.Terminates ↔ t.Clean := by
  constructor
  · rintro ⟨n, s, hs⟩
    rw [← isSome_iff_clean n, hs]
    rfl
  · intro h
    rw [← isSome_iff_clean 0] at h
    obtain ⟨s, hs⟩ := Option.isSome_iff_exists.mp h
    exact ⟨0, s, hs⟩

/-- A shadow rule for one table, visited from its text. -/
theorem not_all_terminate : ¬ ∀ t : StatementContext, t.Terminates := by
  intro h
  obtain ⟨n, s, hs⟩ := h (.createShadowRule ⟨none, ⟨shadowedTable, []⟩⟩)
  have hprints := (prints_createShadowRule n ⟨none, ⟨shadowedTable, []⟩⟩).mp
  exact hprints (Option.isSome_iff_exists.mpr ⟨s, hs⟩)

end Termination

end ShardingOnCloud.Distsql.Printing
