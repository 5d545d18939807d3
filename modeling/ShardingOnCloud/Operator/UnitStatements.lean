import ShardingOnCloud.Operator.RegisterText
import ShardingOnCloud.Operator.StorageUnits

namespace ShardingOnCloud.Operator.UnitStatements

open ShardingOnCloud.Lib.Program ShardingOnCloud.Lib.Pool ShardingOnCloud.Lib.Footprint
open ShardingOnCloud.Operator.StorageNodeTypes ShardingOnCloud.Operator.Calls
open ShardingOnCloud.Operator.StorageNodeController ShardingOnCloud.Operator.Provisioning
open ShardingOnCloud.Operator.StorageNodeWrites ShardingOnCloud.Operator.Server
open ShardingOnCloud.Operator.RegisterText (isObjectNameChar)

section Names

/-- The first and the last character of a name that Kubernetes admits. -/
def isEndChar (c : Char) : Bool := c.isLower || c.isDigit

structure ObjectName (name : String) : Prop where
  chars : ∀ c ∈ name.toList, isObjectNameChar c = true
  first : name.toList.head?.any isEndChar = true
  last : name.toList.getLast?.any isEndChar = true

/-- What the proxy admits in the name of a data source. -/
def isSourceChar (c : Char) : Bool := c.isAlphanum || c = '_'

structure LegalName (name : String) : Prop where
  chars : ∀ c ∈ name.toList, isSourceChar c = true
  first : name.toList.head?.any Char.isAlpha = true

/-- What `getDSName` does to a character. -/
def rename (c : Char) : Char := if c = '-' then '_' else c

theorem getDSName_toList (node : StorageNode) :
    (getDSName node).toList = "ds_".toList ++ node.name.toList.map rename := by
  have hname : (String.ofList (node.name.toList.map
      (fun c => if c = '-' then '_' else c))).toList = node.name.toList.map rename :=
    String.toList_ofList
  rw [getDSName, String.toList_append, hname]

theorem rename_source {c : Char} (h : isObjectNameChar c = true) (hdot : c ≠ '.') :
    isSourceChar (rename c) = true := by
  unfold rename
  split
  · rfl
  · rename_i hdash
    have hcases : c.isLower = true ∨ c.isDigit = true := by
      simpa [isObjectNameChar, hdash, hdot] using h
    unfold isSourceChar
    delta Char.isAlphanum Char.isAlpha
    obtain hlower | hdigit := hcases
    · simp [hlower]
    · simp [hdigit]

theorem getDSName_legal_iff {node : StorageNode}
    (h : ∀ c ∈ node.name.toList, isObjectNameChar c = true) :
    LegalName (getDSName node) ↔ '.' ∉ node.name.toList := by
  have hds : ∀ c ∈ "ds_".toList, isSourceChar c = true := List.all_eq_true.mp (by decide)
  constructor
  · intro hlegal hdot
    have hmem : '.' ∈ (getDSName node).toList := by
      rw [getDSName_toList]
      exact List.mem_append_right _ (List.mem_map.mpr ⟨'.', hdot, rfl⟩)
    exact absurd (hlegal.chars '.' hmem) (by decide)
  · intro hdot
    refine ⟨?_, ?_⟩
    · intro c hc
      rw [getDSName_toList] at hc
      obtain hc | hc := List.mem_append.mp hc
      · exact hds c hc
      · obtain ⟨d, hd, rfl⟩ := List.mem_map.mp hc
        exact rename_source (h d hd) (fun hx => hdot (hx ▸ hd))
    · rw [getDSName_toList]
      rfl

/-- The name of the object, read back from that of the data source. -/
def original (c : Char) : Char := if c = '_' then '-' else c

theorem original_rename {c : Char} (h : isObjectNameChar c = true) :
    original (rename c) = c := by
  unfold rename
  split
  · rename_i hdash
    rw [hdash]
    rfl
  · rw [original, if_neg]
    rintro rfl
    cases h

theorem getDSName_injective {node other : StorageNode}
    (h : ∀ c ∈ node.name.toList, isObjectNameChar c = true)
    (h' : ∀ c ∈ other.name.toList, isObjectNameChar c = true)
    (heq : getDSName other = getDSName node) : other.name = node.name := by
  have hback : ∀ cs : List Char, (∀ c ∈ cs, isObjectNameChar c = true) →
      (cs.map rename).map original = cs := by
    intro cs hcs
    rw [List.map_map]
    refine (List.map_congr_left ?_).trans (List.map_id cs)
    intro c hc
    exact original_rename (hcs c hc)
  have hlists := congrArg String.toList heq
  rw [getDSName_toList, getDSName_toList] at hlists
  have hmaps := List.append_cancel_left hlists
  apply String.toList_inj.mp
  rw [← hback _ h, ← hback _ h', hmaps]

/-- The name of the data source of a node is legal, and no other node of the namespace has it. -/
structure WellNamed (node : StorageNode) : Prop where
  legal : LegalName (getDSName node)
  unique : ∀ other : StorageNode, ObjectName other.name → other.nameSpace = node.nameSpace →
    other.name ≠ node.name → getDSName other ≠ getDSName node

/-- A dot is the only thing that goes wrong, and then only with the alphabet. -/
theorem wellNamed_iff {node : StorageNode} (h : ObjectName node.name) :
    (WellNamed node ↔ '.' ∉ node.name.toList) ∧
      ∀ other : StorageNode, ObjectName other.name → other.nameSpace = node.nameSpace →
        other.name ≠ node.name → getDSName other ≠ getDSName node := by
  have hunique : ∀ other : StorageNode, ObjectName other.name →
      other.nameSpace = node.nameSpace → other.name ≠ node.name →
      getDSName other ≠ getDSName node := by
    intro other hother _ hne heq
    exact hne (getDSName_injective h.chars hother.chars heq)
  refine ⟨⟨?_, ?_⟩, hunique⟩
  · intro hwell
    exact (getDSName_legal_iff h.chars).mp hwell.legal
  · intro hdot
    exact ⟨(getDSName_legal_iff h.chars).mpr hdot, hunique⟩

theorem sampleNode_wellNamed : ObjectName sampleNode.name ∧ WellNamed sampleNode := by
  have hname : ObjectName sampleNode.name :=
    ⟨List.all_eq_true.mp (by decide), by decide, by decide⟩
  exact ⟨hname, (wellNamed_iff hname).1.mpr (by decide)⟩

def dottedNode : StorageNode := { sampleNode with name := "mysql.0" }

theorem not_all_wellNamed : ¬∀ node : StorageNode, ObjectName node.name → WellNamed node := by
  intro h
  have hname : ObjectName dottedNode.name :=
    ⟨List.all_eq_true.mp (by decide), by decide, by decide⟩
  have hdot := (h dottedNode hname).legal.chars '.' (by decide)
  exact absurd hdot (by decide)

end Names

section Rules

def Succeeded : (c : Op) → OpR c → Prop
  | .dbExec _, r => r = none
  | .dbQuery _, r => ∃ rows rules, r = .ok rows ∧ scanRules rows.rows = .ok rules ∧ rows.err = none
  | _, _ => True

/-- Statements one after the other up to the first that fails, and whether all of them have
succeeded. -/
inductive Executes : List Op → List Ev → Bool → Prop
  | nil : Executes [] [] true
  | stop {c cs r} (h : ¬Succeeded c r) : Executes (c :: cs) (whole c r []) false
  | next {c cs tr b r} (h : Succeeded c r) (hs : Executes cs tr b) :
    Executes (c :: cs) (whole c r [] ++ tr) b

theorem Executes.stop_append {cs ds : List Op} {tr : List Ev} {b : Bool} (h : Executes cs tr b)
    (hb : b = false) : Executes (cs ++ ds) tr false := by
  induction h with
  | nil => cases hb
  | stop hx => exact .stop hx
  | next hx _ ih => exact .next hx (ih hb)

theorem Executes.append {cs ds : List Op} {tr tr' : List Ev} {b b' : Bool} (h : Executes cs tr b)
    (hb : b = true) (h' : Executes ds tr' b') : Executes (cs ++ ds) (tr ++ tr') b' := by
  induction h with
  | nil => exact h'
  | stop _ => cases hb
  | next hx _ ih =>
    rw [List.append_assoc]
    exact .next hx (ih hb)

theorem about_whole {c : Op} {r : OpR c} {e : Ev} (he : e ∈ (whole c r [] : List Ev)) :
    about e = c := by
  have hcases : e = .main (.issue c) ∨ e = .main (.reply c r) := by simpa [whole] using he
  obtain rfl | rfl := hcases <;> rfl

theorem Executes.about_mem {cs : List Op} {tr : List Ev} {b : Bool} (h : Executes cs tr b) :
    ∀ e ∈ tr, about e ∈ cs := by
  induction h with
  | nil => simp
  | stop _ =>
    intro e he
    rw [about_whole he]
    exact List.mem_cons_self
  | next _ _ ih =>
    intro e he
    obtain he | he := List.mem_append.mp he
    · rw [about_whole he]
      exact List.mem_cons_self
    · exact List.mem_cons_of_mem _ (ih e he)

theorem executes_last_iff {cs : List Op} {c : Op} {tr : List Ev} {b : Bool} (hc : c ∉ cs)
    (h : Executes (cs ++ [c]) tr b) :
    (∃ e ∈ tr, about e = c) ↔ ∃ tr₁ tr₂, tr = tr₁ ++ tr₂ ∧ Executes cs tr₁ true := by
  induction cs generalizing tr with
  | nil =>
    refine ⟨fun _ => ⟨[], tr, rfl, .nil⟩, fun _ => ?_⟩
    cases h with
    | stop _ => exact ⟨.main (.issue c), List.mem_cons_self, rfl⟩
    | next _ _ => exact ⟨.main (.issue c), List.mem_cons_self, rfl⟩
  | cons d cs ih =>
    obtain ⟨hd, hc⟩ := List.ne_and_not_mem_of_not_mem_cons hc
    cases h with
    | stop hx =>
      constructor
      · rintro ⟨e, he, habout⟩
        exact absurd (habout.symm.trans (about_whole he)) hd
      · rintro ⟨tr₁, tr₂, heq, hok⟩
        cases hok with
        | next hy _ =>
          rw [← List.append_nil (whole d _ []), List.append_assoc] at heq
          exact absurd ((whole_inj heq).1 ▸ hy) hx
    | next hx hrest =>
      simp only [List.mem_append, or_and_right, exists_or]
      constructor
      · rintro (⟨e, he, habout⟩ | hlate)
        · exact absurd (habout.symm.trans (about_whole he)) hd
        · obtain ⟨tr₁, tr₂, rfl, hok⟩ := (ih hc hrest).mp hlate
          exact ⟨_, tr₂, (List.append_assoc _ _ _).symm, .next hx hok⟩
      · rintro ⟨tr₁, tr₂, heq, hok⟩
        cases hok with
        | next _ hok =>
          rw [List.append_assoc] at heq
          exact Or.inr ((ih hc hrest).mpr ⟨_, tr₂, (whole_inj heq).2.2, hok⟩)

theorem executes_op {c : Op} {r : OpR c} {b : Bool} (h : b = true ↔ Succeeded c r) :
    Executes [c] (whole c r []) b := by
  cases b with
  | false => exact .stop (fun hx => absurd (h.mpr hx) (by decide))
  | true => simpa using Executes.next (h.mp rfl) .nil

def useCall (logicDBName : String) : Op := .dbExec (.useDatabase logicDBName)

def queryCall (dsName : String) : Op := .dbQuery (.showRulesUsed dsName)

def dropCall (rule : Rule) : Op := .dbExec (.dropRule (ruleTypeMap rule.type) rule.name)

def unRegisterCall (dsName : String) : Op := .dbExec (.unRegisterStorageUnit dsName)

theorem dropRules_executes {rules : List Rule} {tr : List Ev} {r : Option Err}
    (h : Run alone (dropRules rules) tr r) :
    Executes (rules.map dropCall) tr r.isNone := by
  induction rules generalizing tr with
  | nil =>
    obtain ⟨rfl, rfl⟩ := run_ret.mp h
    exact .nil
  | cons rule rules ih =>
    obtain ⟨tr₁, err, tr₂, h₁, h₂, rfl⟩ := run_bind.mp h
    obtain ⟨tr₃, err', tr₄, h₃, h₄, rfl⟩ := run_bind.mp h₁
    rw [run_op h₃]
    cases err' with
    | some err' =>
      obtain ⟨rfl, rfl⟩ := run_ret.mp h₄
      obtain ⟨rfl, rfl⟩ := run_ret.mp h₂
      rw [List.append_nil, List.append_nil]
      exact .stop (c := dropCall rule) (fun hx => by cases hx)
    | none =>
      obtain ⟨rfl, rfl⟩ := run_ret.mp h₄
      rw [List.append_nil]
      exact .next rfl (ih h₂)

/-- The rules that the proxy has reported, once it was asked. -/
def Reports (dsName : String) (tr : List Ev) (rules : List Rule) : Prop :=
  ∃ rows : Rows, .main (.reply (queryCall dsName) (.ok rows)) ∈ tr ∧
    scanRules rows.rows = .ok rules ∧ rows.err = none

def earlier (logicDBName dsName : String) (rules : List Rule) : List Op :=
  useCall logicDBName :: queryCall dsName :: rules.map dropCall

theorem getRulesUsed_cases {dsName : String} {tr : List Ev} {r : Except Err (List Rule)}
    (h : Run alone (getRulesUsed dsName) tr r) :
    (∃ err, r = .error err ∧ Executes [queryCall dsName] tr false) ∨
      ∃ rules, r = .ok rules ∧ Reports dsName tr rules ∧ Executes [queryCall dsName] tr true := by
  obtain ⟨tr₁, reply, tr₂, h₁, h₂, rfl⟩ := run_bind.mp h
  rw [run_op h₁]
  cases reply with
  | error err =>
    obtain ⟨rfl, rfl⟩ := run_ret.mp h₂
    rw [List.append_nil]
    refine Or.inl ⟨_, rfl, .stop (c := queryCall dsName) ?_⟩
    rintro ⟨rows, rules, hrows, -⟩
    cases hrows
  | ok rows =>
    dsimp only at h₂
    split at h₂
    · rename_i err hscan
      obtain ⟨rfl, rfl⟩ := run_ret.mp h₂
      rw [List.append_nil]
      refine Or.inl ⟨_, rfl, .stop (c := queryCall dsName) ?_⟩
      rintro ⟨rows', rules, hrows, hscan', -⟩
      cases hrows
      rw [hscan] at hscan'
      cases hscan'
    · rename_i rules err hscan herr
      obtain ⟨rfl, rfl⟩ := run_ret.mp h₂
      rw [List.append_nil]
      refine Or.inl ⟨_, rfl, .stop (c := queryCall dsName) ?_⟩
      rintro ⟨rows', rules', hrows, -, herr'⟩
      cases hrows
      rw [herr] at herr'
      cases herr'
    · rename_i rules hscan herr
      obtain ⟨rfl, rfl⟩ := run_ret.mp h₂
      rw [List.append_nil]
      refine Or.inr ⟨rules, rfl, ⟨rows, by simp [whole, queryCall], hscan, herr⟩, ?_⟩
      exact executes_op (c := queryCall dsName) (iff_of_true rfl ⟨rows, rules, rfl, hscan, herr⟩)

/-- The statements of a call, whatever their outcomes. -/
theorem unRegisterStorageUnit_executes {logicDBName dsName : String} {rules : List Rule}
    {tr : List Ev} {r : Option Err}
    (h : Run alone (unRegisterStorageUnit logicDBName dsName) tr r)
    (hrules : ∀ rules', Reports dsName tr rules' → rules' = rules) :
    Executes (earlier logicDBName dsName rules ++ [unRegisterCall dsName]) tr r.isNone := by
  obtain ⟨tr₀, err, tr₁, h₀, h₁, rfl⟩ := run_bind.mp h
  rw [run_op h₀] at hrules ⊢
  cases err with
  | some err =>
    obtain ⟨rfl, rfl⟩ := run_ret.mp h₁
    rw [List.append_nil]
    exact .stop (c := useCall logicDBName) (fun hx => by cases hx)
  | none =>
    refine .next (c := useCall logicDBName) rfl ?_
    obtain ⟨tr₂, reply, tr₃, h₂, h₃, rfl⟩ := run_bind.mp h₁
    obtain ⟨err, rfl, hquery⟩ | ⟨rules', rfl, hreport, hquery⟩ := getRulesUsed_cases h₂
    · obtain ⟨rfl, rfl⟩ := run_ret.mp h₃
      rw [List.append_nil]
      exact hquery.stop_append rfl
    · obtain ⟨rows, hmem, hscan⟩ := hreport
      obtain rfl := hrules rules' ⟨rows, by simp [hmem], hscan⟩
      refine hquery.append rfl ?_
      obtain ⟨tr₄, err, tr₅, h₄, h₅, rfl⟩ := run_bind.mp h₃
      have hdrops := dropRules_executes h₄
      cases err with
      | some err =>
        obtain ⟨rfl, rfl⟩ := run_ret.mp h₅
        rw [List.append_nil]
        exact hdrops.stop_append rfl
      | none =>
        refine hdrops.append rfl ?_
        obtain ⟨tr₆, err, tr₇, h₆, h₇, rfl⟩ := run_bind.mp h₅
        rw [run_op h₆]
        cases err with
        | some err =>
          obtain ⟨rfl, rfl⟩ := run_ret.mp h₇
          rw [List.append_nil]
          exact .stop (c := unRegisterCall dsName) (fun hx => by cases hx)
        | none =>
          obtain ⟨rfl, rfl⟩ := run_ret.mp h₇
          exact .next (c := unRegisterCall dsName) rfl .nil

/-- What a deregistration should do when the proxy reports these rules. -/
structure DropsFirst (logicDBName dsName : String) (rules : List Rule) (tr : List Ev) : Prop where
  executes : ∃ b, Executes (earlier logicDBName dsName rules ++ [unRegisterCall dsName]) tr b
  unregisters : (∃ e ∈ tr, about e = unRegisterCall dsName) ↔
    ∃ tr₁ tr₂, tr = tr₁ ++ tr₂ ∧ Executes (earlier logicDBName dsName rules) tr₁ true
  keywords : ∀ e ∈ tr, ∀ ruleType ruleName, about e = .dbExec (.dropRule ruleType ruleName) →
    ruleType ≠ ""

theorem ruleTypeMap_ne_iff (ruleType : String) :
    ruleTypeMap ruleType ≠ "" ↔ ruleType = "sharding" := by
  unfold ruleTypeMap
  split
  · rename_i h
    exact iff_of_true (by decide) h
  · rename_i h
    exact iff_of_false (fun hx => hx rfl) h

theorem unRegisterCall_not_mem (logicDBName dsName : String) (rules : List Rule) :
    unRegisterCall dsName ∉ earlier logicDBName dsName rules := by
  simp [earlier, unRegisterCall, useCall, queryCall, dropCall]

theorem dropsFirst_of_sharding {logicDBName dsName : String} {rules : List Rule} {tr : List Ev}
    {r : Option Err} (hsharding : ∀ rule ∈ rules, rule.type = "sharding")
    (h : Run alone (unRegisterStorageUnit logicDBName dsName) tr r)
    (hrules : ∀ rules', Reports dsName tr rules' → rules' = rules) :
    DropsFirst logicDBName dsName rules tr := by
  have hexec := unRegisterStorageUnit_executes h hrules
  refine ⟨⟨_, hexec⟩, executes_last_iff (unRegisterCall_not_mem _ _ _) hexec, ?_⟩
  intro e he ruleType ruleName habout
  have hmem := hexec.about_mem e he
  rw [habout] at hmem
  have hdrop : ∃ rule ∈ rules, ruleTypeMap rule.type = ruleType ∧ rule.name = ruleName := by
    simpa [earlier, unRegisterCall, useCall, queryCall, dropCall] using hmem
  obtain ⟨rule, hrule, rfl, -⟩ := hdrop
  exact (ruleTypeMap_ne_iff _).mpr (hsharding rule hrule)

/-- A proxy that reports these rules and accepts every statement. -/
def obliging (rules : List Rule) : Unit → (c : Op) → Option (OpR c × Unit)
  | _, .dbExec _ => some (none, ())
  | _, .dbQuery _ => some (.ok ⟨rules.map .ok, none⟩, ())
  | _, _ => none

theorem scanRules_ok (rules : List Rule) : scanRules (rules.map .ok) = .ok rules := by
  induction rules with
  | nil => rfl
  | cons rule rules ih =>
    rw [List.map_cons, scanRules, ih]
    rfl

theorem dbExec_ends (reported : List Rule) (stmt : Stmt) :
    Ends (obliging reported) () (op (.dbExec stmt)) none () :=
  ends_call rfl (ends_ret _ _)

theorem dropRules_ends (reported rules : List Rule) :
    Ends (obliging reported) () (dropRules rules) none () := by
  induction rules with
  | nil => exact ends_ret _ _
  | cons rule rules ih => exact ends_bind (dbExec_ends _ _) ih

theorem unRegisterStorageUnit_ends (logicDBName dsName : String) (rules : List Rule) :
    Ends (obliging rules) () (unRegisterStorageUnit logicDBName dsName) none () := by
  have hquery : Ends (obliging rules) () (getRulesUsed dsName) (.ok rules) () := by
    have hreply : Ends (obliging rules) () (op (.dbQuery (.showRulesUsed dsName)))
        (.ok ⟨rules.map .ok, none⟩) () := ends_call rfl (ends_ret _ _)
    refine ends_bind hreply ?_
    dsimp only
    rw [scanRules_ok]
    exact ends_ret _ _
  refine ends_bind (dbExec_ends _ _) (ends_bind hquery (ends_bind (dropRules_ends _ _) ?_))
  exact ends_bind (dbExec_ends _ _) (ends_ret _ _)

theorem obliging_reports {logicDBName dsName : String} {rules rules' : List Rule}
    (h : Reports dsName
      (drive (obliging rules) () (unRegisterStorageUnit logicDBName dsName)).1 rules') :
    rules' = rules := by
  obtain ⟨rows, hmem, hscan, -⟩ := h
  obtain ⟨u, t, henv⟩ := drive_reply hmem
  cases henv
  rw [scanRules_ok] at hscan
  cases hscan
  rfl

theorem Executes.exists_of_mem {cs : List Op} {tr : List Ev} {b : Bool} (h : Executes cs tr b)
    (hb : b = true) : ∀ c ∈ cs, ∃ e ∈ tr, about e = c := by
  induction h with
  | nil => simp
  | stop _ => cases hb
  | next _ _ ih =>
    intro c hc
    obtain rfl | hc := List.mem_cons.mp hc
    · exact ⟨.main (.issue c), List.mem_append_left _ List.mem_cons_self, rfl⟩
    · obtain ⟨e, he, habout⟩ := ih hb c hc
      exact ⟨e, List.mem_append_right _ he, habout⟩

theorem sharding_of_dropsFirst {logicDBName dsName : String} {rules : List Rule}
    (h : ∀ tr r, Run alone (unRegisterStorageUnit logicDBName dsName) tr r →
      (∀ rules', Reports dsName tr rules' → rules' = rules) →
      DropsFirst logicDBName dsName rules tr) :
    ∀ rule ∈ rules, rule.type = "sharding" := by
  intro rule hrule
  have hrun := drive_run (unRegisterStorageUnit_ends logicDBName dsName rules).1
  have hreports : ∀ rules', Reports dsName (drive (obliging rules) ()
      (unRegisterStorageUnit logicDBName dsName)).1 rules' → rules' = rules :=
    fun _ hx => obliging_reports hx
  have hexec := unRegisterStorageUnit_executes hrun hreports
  have hmem : dropCall rule ∈ earlier logicDBName dsName rules ++ [unRegisterCall dsName] := by
    simp only [earlier, List.cons_append, List.mem_cons, List.mem_append, List.mem_map]
    exact Or.inr (Or.inr (Or.inl ⟨rule, hrule, rfl⟩))
  obtain ⟨e, he, habout⟩ := hexec.exists_of_mem rfl _ hmem
  exact (ruleTypeMap_ne_iff _).mp ((h _ _ hrun hreports).keywords e he _ _ habout)

/-- The order of the statements is right whatever happens, and each of the rules is dropped by its
keyword exactly when all of them are sharding rules. -/
theorem dropsFirst_iff (logicDBName dsName : String) (rules : List Rule) :
    (∀ tr r, Run alone (unRegisterStorageUnit logicDBName dsName) tr r →
      (∀ rules', Reports dsName tr rules' → rules' = rules) →
      DropsFirst logicDBName dsName rules tr) ↔ ∀ rule ∈ rules, rule.type = "sharding" :=
  ⟨sharding_of_dropsFirst, fun hs _ _ hrun hrules => dropsFirst_of_sharding hs hrun hrules⟩

/-- A rule of another kind is dropped without a keyword. -/
theorem not_all_dropsFirst :
    ¬∀ (logicDBName dsName : String) (rules : List Rule) (tr : List Ev) (r : Option Err),
      Run alone (unRegisterStorageUnit logicDBName dsName) tr r →
      (∀ rules', Reports dsName tr rules' → rules' = rules) →
      DropsFirst logicDBName dsName rules tr := by
  intro h
  have hrule := sharding_of_dropsFirst (h "logic" "ds_0" [⟨"readwrite_splitting", "group_0"⟩])
    ⟨"readwrite_splitting", "group_0"⟩ List.mem_cons_self
  exact absurd hrule (by decide)

end Rules

end ShardingOnCloud.Operator.UnitStatements
