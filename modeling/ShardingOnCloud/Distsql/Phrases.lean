import ShardingOnCloud.Distsql.Reading

namespace ShardingOnCloud.Distsql.Phrases

open ShardingOnCloud.Lib.Descent
open ShardingOnCloud.Distsql.Ast ShardingOnCloud.Distsql.BaseRule
open ShardingOnCloud.Distsql.Tokens hiding literal
open ShardingOnCloud.Distsql.Lexing ShardingOnCloud.Distsql.Reading

/-- A phrase of a grammar: its parse trees, how they are visited, how what comes out of
that is printed, if `ToString` returns at all within this many calls, and its rule. -/
structure Phrase (T N : Type) where
  visit : T → N
  toString : ℕ → N → Option String
  rule : TokenParser T

/-- What is printed for a tree parses under the same rule, with nothing left but a closing
semicolon, into a tree with the same data. -/
def Phrase.Keeps {T N D : Type} (P : Phrase T N) (g : Grammar) (data : T → D) (t : T) : Prop :=
  ∃ n s, P.toString n (P.visit t) = some s ∧
    ∃ r, P.rule.run (lex g s.toList) = some r ∧ data r.1 = data t ∧
      ∀ w ∈ r.2, kindOf g w = some (.symbol .semi)

def Phrase.RoundTrips {T N : Type} (P : Phrase T N) (g : Grammar) (t : T) : Prop :=
  P.Keeps g P.visit t

structure Clause (C D : Type) where
  visit : C → D
  toString : D → String
  rule : TokenParser C

def ifExistsClause (g : Grammar) : Clause (IfExistsContext g) IfExists where
  visit := visitIfExists
  toString := IfExists.toString
  rule := ifExists

def ifNotExistsClause (g : Grammar) : Clause (IfNotExistsContext g) IfNotExists where
  visit := visitIfNotExists
  toString := IfNotExists.toString
  rule := ifNotExists

structure Listed (C I : Type) where
  clause : Option C
  items : I

section Definitions

variable (g : Grammar) {T N C D : Type}

def header : List Keyword → TokenParser Unit
  | [] => pure ()
  | k :: ks => do
    skip g (.keyword k)
    header ks

def namePhrase : Phrase (Leaf g .identifier) CommonIdentifier where
  visit := visitName
  toString _ c := some c.toString
  rule := name

/-- `keywords clause? item (COMMA_ item)*`, printed with the format `before%s %s`. -/
def listing (before : String) (keywords : List Keyword) (clause : Clause C D)
    (item : Phrase T N) : Phrase (Listed C (Many T)) (Listed D (List N)) where
  visit t := ⟨t.clause.map clause.visit, t.items.toList.map item.visit⟩
  toString n s := do
    let items ← s.items.mapM (item.toString n)
    return before ++ orEmpty clause.toString s.clause ++ " " ++ join items
  rule := do
    header g keywords
    let clause ← .opt (ahead g [.keyword .ifKw]) clause.rule
    let items ← commaList g item.rule
    return ⟨clause, items⟩

/-- `keywords item (COMMA_ item)*`, printed with the format `before%safter`. -/
def bareListing (before after : String) (keywords : List Keyword) (item : Phrase T N) :
    Phrase (Many T) (List N) where
  visit t := t.toList.map item.visit
  toString n s := do
    let items ← s.mapM (item.toString n)
    return before ++ join items ++ after
  rule := do
    header g keywords
    commaList g item.rule

end Definitions

section Items

variable {g : Grammar} {T N : Type} {rest : List Char}

def follows : List Char → Bool
  | [] => true
  | c :: _ => c = ',' || c = ')' || c = ';'

theorem parts_of_follows (h : follows rest = true) : parts rest = true := by
  cases rest with
  | nil => rfl
  | cons c rest =>
    simp only [follows, Bool.or_eq_true, decide_eq_true_eq] at h
    obtain (rfl | rfl) | rfl := h <;> rfl

theorem closes_of_follows (h : follows rest = true) : closes rest = true := by
  cases rest with
  | nil => rfl
  | cons c rest =>
    simp only [follows, Bool.or_eq_true, decide_eq_true_eq] at h
    obtain (rfl | rfl) | rfl := h <;> rfl

structure Phrase.Prints (P : Phrase T N) (g : Grammar) (printed : T → Option (List Char)) :
    Prop where
  prints : ∀ n x, (P.toString n (P.visit x)).map String.toList = printed x
  starts : ∀ x s rest, printed x = some s → follows rest = true →
    ahead g [.keyword .ifKw] (lex g (s ++ rest)) = false

structure Phrase.Reads (P : Phrase T N) (g : Grammar) (printed : T → Option (List Char))
    (reread : T → Option T) : Prop extends Phrase.Prints P g printed where
  reads : ∀ x s rest, printed x = some s → follows rest = true →
    P.rule.run (lex g (s ++ rest)) = (reread x).map (fun y => (y, lex g rest))

/-- No tree of the phrase is read back with the same meaning. -/
structure Phrase.Loses (P : Phrase T N) (g : Grammar) (printed : T → Option (List Char)) :
    Prop extends Phrase.Prints P g printed where
  loses : ∀ x s rest r, printed x = some s → follows rest = true →
    P.rule.run (lex g (s ++ rest)) = some r → P.visit r.1 ≠ P.visit x

/-- The tree is printed, and comes back with the same meaning. -/
def Phrase.Returns (P : Phrase T N) (printed : T → Option (List Char)) (reread : T → Option T)
    (x : T) : Prop :=
  (printed x).isSome = true ∧ ∃ y, reread x = some y ∧ P.visit y = P.visit x

theorem toList_join (parts : List String) :
    (join parts).toList = [','].intercalate (parts.map String.toList) := by
  rw [join, String.toList_intercalate]
  rfl

theorem mapM_eq_some_getD {α : Type} {printed : α → Option (List Char)} {xs : List α}
    {ss : List (List Char)} : xs.mapM printed = some ss ↔
      (∀ x ∈ xs, printed x = some ((printed x).getD [])) ∧
        ss = xs.map (fun x => (printed x).getD []) := by
  induction xs generalizing ss with
  | nil => simp [eq_comm]
  | cons x xs ih =>
    rw [List.mapM_cons, List.forall_mem_cons, List.map_cons]
    cases hx : printed x with
    | none => simp
    | some s =>
      rw [Option.getD_some, and_iff_right rfl]
      constructor
      · intro h
        obtain ⟨_, hs, h⟩ := Option.bind_eq_some_iff.mp h
        obtain ⟨ss', hss, h⟩ := Option.bind_eq_some_iff.mp h
        obtain rfl := Option.some.inj hs
        obtain rfl := Option.some.inj h
        obtain ⟨hall, rfl⟩ := ih.mp hss
        exact ⟨hall, rfl⟩
      · rintro ⟨hall, rfl⟩
        rw [ih.mpr ⟨hall, rfl⟩]
        rfl

variable {P : Phrase T N} {printed : T → Option (List Char)} {reread : T → Option T}

theorem items_print (h : P.Prints g printed) (n : ℕ) (xs : List T) :
    ((xs.map P.visit).mapM (P.toString n)).map (fun parts => (join parts).toList) =
      (xs.mapM printed).map [','].intercalate := by
  have hmap : ((xs.map P.visit).mapM (P.toString n)).map (List.map String.toList) =
      xs.mapM printed := by
    induction xs with
    | nil => rfl
    | cons x xs ih =>
      rw [List.map_cons, List.mapM_cons, List.mapM_cons, ← h.prints n x, ← ih]
      cases P.toString n (P.visit x) with
      | none => rfl
      | some s => cases (xs.map P.visit).mapM (P.toString n) <;> rfl
  rw [← hmap, Option.map_map]
  refine congrFun (congrArg Option.map ?_) _
  funext parts
  exact toList_join parts

theorem run_items (h : P.Reads g printed reread) {xs : Many T} {ss : List (List Char)}
    (hss : xs.toList.mapM printed = some ss) (hr : follows rest = true)
    (hend : ahead g [.symbol .comma] (lex g rest) = false) :
    (commaList g P.rule).run (lex g ([','].intercalate ss ++ rest)) =
      (xs.mapM reread).map (fun ys => (ys, lex g rest)) := by
  obtain ⟨hall, rfl⟩ := mapM_eq_some_getD.mp hss
  refine Parser.run_sepBy_text (F := fun rest => follows rest = true) ?_ (fun _ => lex_comma)
    comma_comma (fun _ => rfl) (fun _ _ _ _ => by simp) hr hend
  intro y hy rest' hr'
  exact h.reads y _ rest' (hall y hy) hr'

theorem printed_items (xs : List T) : (∃ ss, xs.mapM printed = some ss) ↔
    ∀ x ∈ xs, (printed x).isSome = true := by
  constructor
  · rintro ⟨ss, hss⟩ x hx
    rw [(mapM_eq_some_getD.mp hss).1 x hx]
    rfl
  · intro hall
    refine ⟨_, mapM_eq_some_getD.mpr ⟨?_, rfl⟩⟩
    intro x hx
    obtain ⟨s, hs⟩ := Option.isSome_iff_exists.mp (hall x hx)
    rw [hs]
    rfl

theorem returns_items (xs : Many T) : (∃ ss, xs.toList.mapM printed = some ss) ∧
    (∃ ys, xs.mapM reread = some ys ∧ ys.toList.map P.visit = xs.toList.map P.visit) ↔
      ∀ x ∈ xs.toList, P.Returns printed reread x := by
  rw [Many.mapM_returns, printed_items]
  exact ⟨fun h x hx => ⟨h.1 x hx, h.2 x hx⟩, fun h => ⟨fun x hx => (h x hx).1,
    fun x hx => (h x hx).2⟩⟩

theorem intercalate_items {xs : Many T} {ss : List (List Char)}
    (hss : xs.toList.mapM printed = some ss) (hr : follows rest = true) :
    ∃ s tail, printed xs.first = some s ∧ follows tail = true ∧
      [','].intercalate ss ++ rest = s ++ tail := by
  obtain ⟨hall, rfl⟩ := mapM_eq_some_getD.mp hss
  rw [Many.toList, List.map_cons, Parser.intercalate_cons, List.append_assoc]
  refine ⟨_, _, hall xs.first List.mem_cons_self, ?_, rfl⟩
  cases xs.others with
  | nil => exact hr
  | cons y ys => rfl

theorem starts_items (h : P.Prints g printed) {xs : Many T} {ss : List (List Char)}
    (hss : xs.toList.mapM printed = some ss) (hr : follows rest = true) :
    ahead g [.keyword .ifKw] (lex g ([','].intercalate ss ++ rest)) = false := by
  obtain ⟨s, tail, hs, htail, he⟩ := intercalate_items hss hr
  rw [he]
  exact h.starts xs.first s tail hs htail

theorem first_of_commaList {p : TokenParser T} {ts : List (List Char)}
    {r : Many T × List (List Char)} (h : (commaList g p).run ts = some r) :
    ∃ r', p.run ts = some r' ∧ r.1.first = r'.1 := by
  obtain ⟨r', hr', h⟩ := Option.bind_eq_some_iff.mp h
  obtain ⟨_, -, h⟩ := Option.bind_eq_some_iff.mp h
  obtain rfl := Option.some.inj h
  exact ⟨r', hr', rfl⟩

theorem items_lost (h : P.Loses g printed) {xs : Many T} {ss : List (List Char)}
    (hss : xs.toList.mapM printed = some ss) (hr : follows rest = true)
    {r : Many T × List (List Char)}
    (hrun : (commaList g P.rule).run (lex g ([','].intercalate ss ++ rest)) = some r) :
    r.1.toList.map P.visit ≠ xs.toList.map P.visit := by
  obtain ⟨s, tail, hs, htail, he⟩ := intercalate_items hss hr
  rw [he] at hrun
  obtain ⟨r', hr', hfirst⟩ := first_of_commaList hrun
  intro hvisit
  refine h.loses xs.first s tail r' hs htail hr' ?_
  rw [← hfirst]
  exact (List.cons.inj hvisit).1

end Items

section Statements

variable {g : Grammar} {T N C D : Type} {rest : List Char}

/-- The clause is read back, and begins with the keyword that announces it. -/
def Clause.Reads (c : Clause C D) (g : Grammar) : Prop :=
  ∀ t rest, stops rest = true →
    c.rule.run (lex g ((c.toString (c.visit t)).toList ++ rest)) = some (t, lex g rest) ∧
      ahead g [.keyword .ifKw] (lex g ((c.toString (c.visit t)).toList ++ rest)) = true

theorem ifExistsClause_reads : (ifExistsClause g).Reads g := by
  intro t rest hr
  dsimp only [ifExistsClause]
  refine ⟨run_ifExists t hr, ?_⟩
  have htext : (visitIfExists t).toString.toList ++ rest =
      t.ifToken.1 ++ ' ' :: (t.existsToken.1 ++ rest) := by
    simp [visitIfExists, IfExists.toString]
  rw [htext, lex_leaf_keyword t.ifToken rfl]
  simp

theorem ifNotExistsClause_reads : (ifNotExistsClause g).Reads g := by
  intro t rest hr
  dsimp only [ifNotExistsClause]
  refine ⟨run_ifNotExists t hr, ?_⟩
  have htext : (visitIfNotExists t).toString.toList ++ rest =
      t.ifToken.1 ++ ' ' :: (t.notToken.1 ++ ' ' :: (t.existsToken.1 ++ rest)) := by
    simp [visitIfNotExists, IfNotExists.toString]
  rw [htext, lex_leaf_keyword t.ifToken rfl]
  simp

theorem run_clause {c : Clause C D} (hc : c.Reads g) (t : Option C)
    (hr : ahead g [.keyword .ifKw] (lex g rest) = false) :
    (Parser.opt (ahead g [.keyword .ifKw]) c.rule).run
        (lex g ((orEmpty c.toString (t.map c.visit)).toList ++ ' ' :: rest)) =
      some (t, lex g rest) := by
  cases t with
  | none =>
    change Parser.run _ (lex g (' ' :: rest)) = _
    rw [lex_blank, Parser.run_opt_neg hr]
  | some t =>
    obtain ⟨hrun, hahead⟩ := hc t (' ' :: rest) rfl
    rw [lex_blank] at hrun
    change Parser.run _ (lex g ((c.toString (c.visit t)).toList ++ ' ' :: rest)) = _
    rw [Parser.run_opt_pos hahead, hrun]
    rfl

def headerText (ks : List Keyword) : List Char := ks.flatMap (fun k => kw k ++ [' '])

theorem run_header {ks : List Keyword} (h : ∀ k ∈ ks, k ∈ keywords g) :
    (header g ks).run (lex g (headerText ks ++ rest)) = some ((), lex g rest) := by
  induction ks with
  | nil => rfl
  | cons k ks ih =>
    obtain ⟨hk, hks⟩ := List.forall_mem_cons.mp h
    have htext : headerText (k :: ks) ++ rest = kw k ++ ' ' :: (headerText ks ++ rest) := by
      simp [headerText]
    rw [htext, lex_kw hk rfl, lex_blank, header, Parser.run_bind, run_skip_cons,
      if_pos (kindOf_kw hk), Option.bind_some, ih hks]

variable {P : Phrase T N} {printed : T → Option (List Char)} {reread : T → Option T}

theorem roundTrips_iff {t : T} {text : Option (List Char)}
    (ht : ∀ n, (P.toString n (P.visit t)).map String.toList = text) :
    P.RoundTrips g t ↔ ∃ cs, text = some cs ∧ ∃ r, P.rule.run (lex g cs) = some r ∧
      P.visit r.1 = P.visit t ∧ ∀ w ∈ r.2, kindOf g w = some (.symbol .semi) := by
  constructor
  · rintro ⟨n, s, hs, hr⟩
    exact ⟨s.toList, by rw [← ht n, hs]; rfl, hr⟩
  · rintro ⟨cs, hcs, hr⟩
    obtain ⟨s, hs, rfl⟩ := Option.map_eq_some_iff.mp ((ht 0).trans hcs)
    exact ⟨0, s, hs, hr⟩

theorem not_keeps {D : Type} {data : T → D} {t : T} {cs : List Char}
    (ht : ∀ n, (P.toString n (P.visit t)).map String.toList = some cs)
    (hrun : P.rule.run (lex g cs) = none) : ¬ P.Keeps g data t := by
  rintro ⟨n, s, hs, r, hr, -⟩
  have hcs := ht n
  rw [hs] at hcs
  obtain rfl := Option.some.inj hcs
  rw [hrun] at hr
  cases hr

theorem roundTrips_guard {t : T} (cs : List Char) (ok : T → Bool)
    (ht : ∀ n, (P.toString n (P.visit t)).map String.toList = some cs)
    (hrun : P.rule.run (lex g cs) = (Option.guard ok t).map (fun t => (t, []))) :
    P.RoundTrips g t ↔ ok t = true := by
  rw [roundTrips_iff ht]
  constructor
  · rintro ⟨cs', hcs, r, hr, -, -⟩
    obtain rfl := Option.some.inj hcs
    rw [hrun] at hr
    obtain ⟨t', ht', -⟩ := Option.map_eq_some_iff.mp hr
    exact (Option.guard_eq_some_iff.mp ht').2
  · intro h
    refine ⟨cs, rfl, (t, []), ?_, rfl, by simp⟩
    rw [hrun, Option.guard_eq_some_iff.mpr ⟨rfl, h⟩]
    rfl

def listingText (ks : List Keyword) (c : Clause C D) (clause : Option C) (ss : List (List Char)) :
    List Char :=
  headerText ks ++ ((orEmpty c.toString (clause.map c.visit)).toList ++
    ' ' :: ([','].intercalate ss ++ []))

theorem listing_text {before : String} {ks : List Keyword} {c : Clause C D}
    (hP : P.Prints g printed) (hbefore : before.toList = headerText ks)
    (t : Listed C (Many T)) (n : ℕ) :
    ((listing g before ks c P).toString n ((listing g before ks c P).visit t)).map String.toList =
      (t.items.toList.mapM printed).map (listingText ks c t.clause) := by
  have hprint := congrArg (Option.map (fun cs => headerText ks ++
      ((orEmpty c.toString (t.clause.map c.visit)).toList ++ ' ' :: (cs ++ []))))
    (items_print hP n t.items.toList)
  rw [Option.map_map, Option.map_map] at hprint
  refine Eq.trans ?_ hprint
  change (Option.bind ((t.items.toList.map P.visit).mapM (P.toString n)) _).map _ = _
  cases (t.items.toList.map P.visit).mapM (P.toString n) with
  | none => rfl
  | some parts => simp [listing, ← hbefore]

theorem run_listing {before : String} {ks : List Keyword} {c : Clause C D}
    (hP : P.Prints g printed) (hc : c.Reads g) (hks : ∀ k ∈ ks, k ∈ keywords g)
    (t : Listed C (Many T)) {ss : List (List Char)}
    (hss : t.items.toList.mapM printed = some ss) :
    (listing g before ks c P).rule.run (lex g (listingText ks c t.clause ss)) =
      ((commaList g P.rule).run (lex g ([','].intercalate ss ++ []))).map
        (fun r => (⟨t.clause, r.1⟩, r.2)) := by
  rw [listing, listingText, Parser.run_bind, run_header hks, Option.bind_some, Parser.run_bind,
    run_clause hc t.clause (starts_items hP hss rfl), Option.bind_some, Parser.run_bind]
  cases (commaList g P.rule).run (lex g ([','].intercalate ss ++ [])) <;> rfl

theorem listing_roundTrips {before : String} {ks : List Keyword} {c : Clause C D}
    (hP : P.Reads g printed reread) (hc : c.Reads g) (hbefore : before.toList = headerText ks)
    (hks : ∀ k ∈ ks, k ∈ keywords g) (t : Listed C (Many T)) :
    (listing g before ks c P).RoundTrips g t ↔
      ∀ x ∈ t.items.toList, P.Returns printed reread x := by
  have hrun : ∀ ss, t.items.toList.mapM printed = some ss →
      (listing g before ks c P).rule.run (lex g (listingText ks c t.clause ss)) =
        (t.items.mapM reread).map (fun ys => (⟨t.clause, ys⟩, [])) := by
    intro ss hss
    rw [run_listing hP.toPrints hc hks t hss, run_items hP hss rfl (by simp), lex_nil]
    cases t.items.mapM reread <;> rfl
  rw [roundTrips_iff (listing_text hP.toPrints hbefore t), ← returns_items]
  constructor
  · rintro ⟨cs, hcs, r, hr, hvisit, -⟩
    obtain ⟨ss, hss, rfl⟩ := Option.map_eq_some_iff.mp hcs
    rw [hrun ss hss] at hr
    obtain ⟨ys, hys, rfl⟩ := Option.map_eq_some_iff.mp hr
    exact ⟨⟨ss, hss⟩, ys, hys, congrArg Listed.items hvisit⟩
  · rintro ⟨⟨ss, hss⟩, ys, hys, hv⟩
    refine ⟨_, by rw [hss]; rfl, (⟨t.clause, ys⟩, []), ?_, ?_, by simp⟩
    · rw [hrun ss hss, hys]
      rfl
    · exact congrArg (Listed.mk (t.clause.map c.visit)) hv

theorem listing_loses {before : String} {ks : List Keyword} {c : Clause C D}
    (hP : P.Loses g printed) (hc : c.Reads g) (hbefore : before.toList = headerText ks)
    (hks : ∀ k ∈ ks, k ∈ keywords g) (t : Listed C (Many T)) :
    ¬ (listing g before ks c P).RoundTrips g t := by
  rw [roundTrips_iff (listing_text hP.toPrints hbefore t)]
  rintro ⟨cs, hcs, r, hr, hvisit, -⟩
  obtain ⟨ss, hss, rfl⟩ := Option.map_eq_some_iff.mp hcs
  rw [run_listing hP.toPrints hc hks t hss] at hr
  obtain ⟨r', hr', rfl⟩ := Option.map_eq_some_iff.mp hr
  exact items_lost hP hss rfl hr' (congrArg Listed.items hvisit)

/-- What stands after the items is a semicolon or nothing. -/
def isEnd (cs : List Char) : Prop := cs = [] ∨ cs = [';']

theorem bareListing_text {before after : String} {ks : List Keyword} (hP : P.Prints g printed)
    (t : Many T) (n : ℕ) :
    ((bareListing g before after ks P).toString n ((bareListing g before after ks P).visit t)).map
      String.toList = (t.toList.mapM printed).map (fun ss =>
        before.toList ++ ([','].intercalate ss ++ after.toList)) := by
  have hprint := congrArg (Option.map (fun cs => before.toList ++ (cs ++ after.toList)))
    (items_print hP n t.toList)
  rw [Option.map_map, Option.map_map] at hprint
  refine Eq.trans ?_ hprint
  change (Option.bind ((t.toList.map P.visit).mapM (P.toString n)) _).map _ = _
  cases (t.toList.map P.visit).mapM (P.toString n) with
  | none => rfl
  | some parts => simp

theorem bareListing_roundTrips {before after : String} {ks : List Keyword}
    (hP : P.Reads g printed reread) (hbefore : ∀ cs, lex g (before.toList ++ cs) =
      lex g (headerText ks ++ cs)) (hafter : isEnd after.toList)
    (hks : ∀ k ∈ ks, k ∈ keywords g) (t : Many T) :
    (bareListing g before after ks P).RoundTrips g t ↔
      ∀ x ∈ t.toList, P.Returns printed reread x := by
  have hrun : ∀ ss, t.toList.mapM printed = some ss →
      (bareListing g before after ks P).rule.run (lex g (before.toList ++
        ([','].intercalate ss ++ after.toList))) =
          (t.mapM reread).map (fun ys => (ys, lex g after.toList)) := by
    intro ss hss
    rw [bareListing, Parser.run_bind, hbefore, run_header hks, Option.bind_some]
    obtain he | he := hafter
    · exact run_items hP hss (by rw [he]; rfl) (by rw [he]; simp)
    · exact run_items hP hss (by rw [he]; rfl) (by rw [he]; simp)
  have hend : ∀ w ∈ lex g after.toList, kindOf g w = some (.symbol .semi) := by
    obtain he | he := hafter <;> simp [he]
  rw [roundTrips_iff (bareListing_text hP.toPrints t), ← returns_items]
  constructor
  · rintro ⟨cs, hcs, r, hr, hvisit, -⟩
    obtain ⟨ss, hss, rfl⟩ := Option.map_eq_some_iff.mp hcs
    rw [hrun ss hss] at hr
    obtain ⟨ys, hys, rfl⟩ := Option.map_eq_some_iff.mp hr
    exact ⟨⟨ss, hss⟩, ys, hys, hvisit⟩
  · rintro ⟨⟨ss, hss⟩, ys, hys, hv⟩
    refine ⟨_, by rw [hss]; rfl, (ys, lex g after.toList), ?_, hv, hend⟩
    rw [hrun ss hss, hys]
    rfl

theorem bareListing_loses {before : String} {ks : List Keyword} (hP : P.Loses g printed)
    (hbefore : before.toList = headerText ks) (hks : ∀ k ∈ ks, k ∈ keywords g) (t : Many T) :
    ¬ (bareListing g before "" ks P).RoundTrips g t := by
  rw [roundTrips_iff (bareListing_text hP.toPrints t)]
  rintro ⟨cs, hcs, r, hr, hvisit, -⟩
  obtain ⟨ss, hss, rfl⟩ := Option.map_eq_some_iff.mp hcs
  rw [bareListing, Parser.run_bind, hbefore, run_header hks, Option.bind_some] at hr
  exact items_lost hP hss rfl hr hvisit

theorem name_reads : (namePhrase g).Reads g (fun l => some l.1) some where
  prints n l := congrArg some (toList_text l)
  reads := by
    intro l s rest hs hr
    obtain rfl := Option.some.inj hs
    change name.run _ = _
    rw [lex_name l (parts_of_follows hr), name, run_leaf]
    rfl
  starts := by
    intro l s rest hs hr
    obtain rfl := Option.some.inj hs
    rw [lex_name l (parts_of_follows hr)]
    simp

theorem mapM_some (xs : Many T) : xs.mapM some = some xs := by
  have hothers : xs.others.mapM some = some xs.others :=
    List.mapM_pure.trans (congrArg some (List.map_id _))
  rw [Many.mapM, hothers]
  rfl

/-- How a list of phrases that are never lost is printed and read back. -/
theorem run_listed {printed : T → List Char} {print : N → String}
    (h : P.Reads g (fun x => some (printed x)) some)
    (hprint : ∀ n s, P.toString n s = some (print s)) (xs : Many T) (hr : follows rest = true)
    (hend : ahead g [.symbol .comma] (lex g rest) = false) :
    (commaList g P.rule).run (lex g ((join ((xs.toList.map P.visit).map print)).toList ++ rest)) =
      some (xs, lex g rest) := by
  have hss : xs.toList.mapM (fun x => some (printed x)) = some (xs.toList.map printed) :=
    List.mapM_pure
  have htext : (join ((xs.toList.map P.visit).map print)).toList =
      [','].intercalate (xs.toList.map printed) := by
    rw [toList_join, List.map_map, List.map_map]
    congr 2
    funext x
    have hx := h.prints 0 x
    rw [hprint] at hx
    exact Option.some.inj hx
  have hrun := run_items h hss hr hend
  rw [mapM_some] at hrun
  rw [htext]
  exact hrun

theorem run_names (names : Many (Leaf g .identifier)) (hr : follows rest = true)
    (hend : ahead g [.symbol .comma] (lex g rest) = false) :
    (commaList g name).run (lex g ((join ((names.toList.map visitName).map
        CommonIdentifier.toString)).toList ++ rest)) = some (names, lex g rest) :=
  run_listed name_reads (fun _ _ => rfl) names hr hend

theorem returns_of_some {P : Phrase T N} {text : T → List Char} (x : T) :
    P.Returns (fun x => some (text x)) some x := ⟨rfl, x, rfl, rfl⟩

end Statements

end ShardingOnCloud.Distsql.Phrases
