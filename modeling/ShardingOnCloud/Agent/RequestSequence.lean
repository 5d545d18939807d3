import ShardingOnCloud.Agent.HandlerRuns

namespace ShardingOnCloud.Agent.RequestSequence

open ShardingOnCloud.Lib.Program ShardingOnCloud.Lib.Assertions ShardingOnCloud.Lib.Pool
open ShardingOnCloud.Lib.Directory ShardingOnCloud.Pitr.Model ShardingOnCloud.Agent.Commands
open ShardingOnCloud.Agent.Restore ShardingOnCloud.Agent.RestoreSpec
open ShardingOnCloud.Agent.DataDirectory ShardingOnCloud.Agent.HandlerRuns

def errored : (c : Op) → OpR c → Bool
  | .bodyParser, .error _ => true
  | .bodyParser, .ok _ => false
  | .auth _ _ _ _, r | .stop, r | .start, r | .mvPgDataToTemp, r | .mvTempToPgData, r
  | .restore _ _ _ _, r | .cleanPgDataTemp, r | .success, r => r.isSome

section FailingStep

variable {I : Type} {M : Sem Op OpR I}

def failedCall : Event Op OpR I → Option Op
  | .main (.reply c r) => if errored c r then some c else none
  | _ => none

def failingStep (evs : List (Event Op OpR I)) : Option Op := evs.findSome? failedCall

theorem failingStep_whole (c : Op) (r : OpR c) (is : List I) :
    failingStep (whole c r is) = if errored c r then some c else none := by
  have hinside : (is.map Event.sub).findSome? (failedCall (I := I)) = none := by
    rw [List.findSome?_eq_none_iff]
    intro x hx
    obtain ⟨y, -, rfl⟩ := List.mem_map.mp hx
    rfl
  change (is.map Event.sub ++ [Event.main (.reply c r)]).findSome? failedCall = _
  rw [List.findSome?_append, hinside, Option.none_or, List.findSome?_singleton, failedCall]

theorem failingStep_append (as bs : List (Event Op OpR I)) :
    failingStep (as ++ bs) = (failingStep as).or (failingStep bs) := List.findSome?_append

theorem failingStep_among {P : Op → Bool} {evs : List (Event Op OpR I)}
    (h : ∀ x ∈ evs, Among P x) {c : Op} (hc : failingStep evs = some c) : P c = true := by
  obtain ⟨x, hx, hfailed⟩ := List.exists_of_findSome?_eq_some hc
  unfold failedCall at hfailed
  split at hfailed
  · next c' r =>
    split at hfailed
    · cases hfailed
      exact h _ hx
    · cases hfailed
  · cases hfailed

end FailingStep

/-- A request that was handled, with the directory before and after. -/
structure Request where
  before : Entries
  evs : List Ev
  res : Option Err
  after : Entries

inductive Requests (og : OpenGauss) (isData : Entries → Prop) (d₀ : Entries) :
    List Request → Entries → Prop
  | none : Requests og isData d₀ [] d₀
  | request {rs : List Request} {d t t' : Entries} {evs : List Ev} {res : Option Err} :
      Requests og isData d₀ rs d → Run (sem og) restore evs res →
      (files isData).Path d evs t → Served isData (base og.pgData) t t' →
      Requests og isData d₀ (rs ++ [⟨d, evs, res, t⟩]) t'

/-- The request was answered with success, or it has failed at one of its last steps. -/
def Replaced (q : Request) : Prop :=
  q.res = none ∨ failingStep q.evs = some .cleanPgDataTemp ∨ failingStep q.evs = some .start

/-- `rm -r` has failed and left the temporary directory in place. -/
def LeavesTemp (isData : Entries → Prop) (q : Request) : Prop :=
  ∃ a b is e u, q.evs = a ++ (whole Op.cleanPgDataTemp (some e) is ++ b) ∧
    (files isData).Path q.before (a ++ whole Op.cleanPgDataTemp (some e) is) u ∧
    (files isData).Path u b q.after ∧ u "temp" ≠ none

/-- When the next request comes to `MvPgDataToTemp`, the move puts exactly the data
directory at the temporary path. -/
def MovesNext (og : OpenGauss) (isData : Entries → Prop) (d : Entries) : Prop :=
  ∀ evs u, Cut (sem og) restore (evs ++ [Event.main (.issue .mvPgDataToTemp)]) →
    .main (.issue .mvPgDataToTemp) ∉ evs → (files isData).Path d evs u →
    ∃ entries t, u (base og.pgData) = some (.dir entries) ∧
      Mv (base og.pgData) (base og.pgDataTemp) u t ∧ t (base og.pgDataTemp) = some (.dir entries)

def closing : Op → Bool
  | .start | .success => true
  | _ => false

theorem replaced_stopped {I : Type} {M : Sem Op OpR I} {evs : List (Event Op OpR I)}
    {res : Option Err} (h : Handled M evs res)
    (hq : res = none ∨ failingStep evs = some .cleanPgDataTemp ∨ failingStep evs = some .start) :
    ∃ i tr₁ is₁ is₂ tr₂ tr₃ err, Calls M early tr₁ ∧ M.returns .mvPgDataToTemp none is₁ ∧
      M.returns (restoreOp i) none is₂ ∧ Finished M tr₂ err ∧ Restarted M err tr₃ res ∧
      evs = tr₁ ++ (whole Op.mvPgDataToTemp none is₁ ++ (whole (restoreOp i) none is₂ ++
        (tr₂ ++ tr₃))) := by
  cases h with
  | refused hcalls _ =>
    have hearly := fun {c} => failingStep_among (calls_among hcalls) (c := c)
    rcases hq with hq | hq | hq
    · cases hq
    · cases hearly hq
    · cases hearly hq
  | @stopped i tr₁ tr₂ tr₃ err _ hcalls hstopped hrestart =>
    have hearly := fun {c} => failingStep_among (calls_among hcalls) (c := c)
    -- a step that has failed before comes first
    have hfirst : ∀ c tr, early c = false → failingStep (tr₁ ++ tr) = some c →
        failingStep tr = some c := by
      intro c tr hc hfail
      rw [failingStep_append] at hfail
      cases hfirst : failingStep tr₁ with
      | none => rwa [hfirst, Option.none_or] at hfail
      | some c' =>
        rw [hfirst, Option.some_or] at hfail
        cases hfail
        rw [hearly hfirst] at hc
        cases hc
    have hq' : res = none ∨ failingStep (tr₂ ++ tr₃) = some .cleanPgDataTemp ∨
        failingStep (tr₂ ++ tr₃) = some .start :=
      hq.imp id (Or.imp (hfirst _ _ rfl) (hfirst _ _ rfl))
    cases hstopped with
    | notMoved _ =>
      cases hrestart
      simp [failingStep_append, failingStep_whole, errored] at hq'
    | rolledBack _ _ _ =>
      cases hrestart
      simp [failingStep_append, failingStep_whole, errored] at hq'
    | replaced hmv hrestore hfin =>
      exact ⟨i, tr₁, _, _, _, tr₃, err, hcalls, hmv, hrestore, hfin, hrestart, by simp⟩

theorem finished_clean {I : Type} {M : Sem Op OpR I} {tr : List (Event Op OpR I)} {err : Option Err}
    (h : Finished M tr err) : ∃ r is b, M.returns .cleanPgDataTemp r is ∧ Calls M closing b ∧
      tr = whole Op.cleanPgDataTemp r is ++ b := by
  cases h with
  | clean hclean => exact ⟨_, _, [], hclean, .none, by simp⟩
  | start hclean hstart => exact ⟨_, _, _, hclean, .call rfl hstart .none, by simp⟩
  | success hclean hstart hsuccess =>
    exact ⟨_, _, _, hclean, .call rfl hstart (.call rfl hsuccess .none), by simp⟩

theorem restarted_closing {I : Type} {M : Sem Op OpR I} {tr : List (Event Op OpR I)}
    {err res : Option Err} (h : Restarted M err tr res) : Calls M closing tr := by
  cases h with
  | quiet => exact .none
  | start hstart =>
    have hcalls := Calls.call (M := M) (P := closing) rfl hstart .none
    rwa [List.append_nil] at hcalls

theorem closing_harmless (c : Op) (hc : closing c = true) : harmless c = true := by
  cases c <;> first | rfl | cases hc

variable {shell : String} {pgData : FilePath} {og : OpenGauss} {isData : Entries → Prop}

/-- When such a request comes to remove the temporary directory, the data directory is
in its place. -/
theorem replaced_clean (isData : Entries → Prop) {evs : List Ev} {res : Option Err}
    (h : Run (sem og) restore evs res)
    (hq : res = none ∨ failingStep evs = some .cleanPgDataTemp ∨ failingStep evs = some .start) :
    ∃ a r is b, evs = a ++ (whole Op.cleanPgDataTemp r is ++ b) ∧
      (sem og).returns .cleanPgDataTemp r is ∧ Calls (sem og) closing b ∧
      .main (.issue .cleanPgDataTemp) ∉ a ∧
      ∀ d u, (files isData).Path d a u → Holds isData (base og.pgData) u := by
  obtain ⟨i, tr₁, is₁, is₂, tr₂, tr₃, err, hcalls, -, hrestore, hfin, hrestart, rfl⟩ :=
    replaced_stopped (restore_handled h) hq
  obtain ⟨r, is, b, hclean, hclosing, rfl⟩ := finished_clean hfin
  refine ⟨tr₁ ++ (whole Op.mvPgDataToTemp none is₁ ++ whole (restoreOp i) none is₂), r, is,
    b ++ tr₃, by simp, hclean, calls_append hclosing (restarted_closing hrestart), ?_, ?_⟩
  · simp [main_mem_whole, among_issue (calls_among hcalls) (c := .cleanPgDataTemp) rfl]
  · intro d u hu
    rw [← List.append_assoc] at hu
    obtain ⟨v, -, hv⟩ := World.path_append.mp hu
    obtain ⟨new, hnew, rfl⟩ := method_effect hrestore hv
    exact ⟨new, Function.update_self _ _ _, hnew⟩

theorem requests_last {d₀ t : Entries} {rs : List Request} {q : Request}
    (h : Requests og isData d₀ (rs ++ [q]) t) :
    Run (sem og) restore q.evs q.res ∧ (files isData).Path q.before q.evs q.after ∧
      Served isData (base og.pgData) q.after t := by
  generalize hall : rs ++ [q] = all at h
  cases h with
  | none => simp at hall
  | request _ hrun hpath hserved =>
    obtain ⟨-, hlast⟩ := List.append_inj' hall rfl
    cases hlast
    exact ⟨hrun, hpath, hserved⟩

theorem admitted_cut :
    Cut (sem og) restore (admitted og ++ [Event.main (.issue Op.mvPgDataToTemp)]) := by
  refine (admitted_run og).bind_cut ?_
  exact Cut.inside (w := []) (Cut.here _)

/-- The next move puts the data directory at the temporary path if and only if nothing
is there. -/
theorem movesNext_iff (hne : base pgData ≠ "temp") {d : Entries}
    (hd : Holds isData (base pgData) d) :
    MovesNext (newOpenGauss shell pgData) isData d ↔ d "temp" = none := by
  rw [MovesNext, newOpenGauss_data, newOpenGauss_temp]
  constructor
  · intro h
    have hfirst : .main (.issue .mvPgDataToTemp) ∉ admitted (newOpenGauss shell pgData) := by
      simp [admitted, main_mem_whole]
    obtain ⟨entries, t, hentries, hmv, ht⟩ := h _ d admitted_cut hfirst (admitted_path _ _ d)
    exact hmv.dst_eq_iff.mp (ht.trans hentries.symm)
  · intro htemp evs u hcut hfirst hu
    obtain ⟨hother, hholds⟩ := calls_harmless early_harmless (cut_before_move hcut hfirst) hu
    obtain ⟨entries, hentries, -⟩ := hholds hd
    have hfree : u "temp" = none := (hother "temp" hne.symm).trans htemp
    exact ⟨entries, _, hentries, mv_of_absent hentries hne hfree, Function.update_self _ _ _⟩

theorem clean_holds (hne : base pgData ≠ "temp") {r : Option Err} {d t : Entries}
    (h : Effect (newOpenGauss shell pgData) isData d t .cleanPgDataTemp r)
    (hd : Holds isData (base pgData) d) : Holds isData (base pgData) t := by
  obtain ⟨entries, hentries, hdata⟩ := hd
  refine ⟨entries, ?_, hdata⟩
  cases r with
  | none =>
    obtain ⟨-, rfl⟩ := h
    rwa [newOpenGauss_temp, Function.update_of_ne hne]
  | some e =>
    obtain ⟨x, -, rfl⟩ := h
    rwa [newOpenGauss_temp, Function.update_of_ne hne]

theorem leavesTemp_iff (hne : base pgData ≠ "temp") {q : Request} {a b : List Ev} {r : Option Err}
    {is : List SysEv} (hpath : (files isData).Path q.before q.evs q.after)
    (hevs : q.evs = a ++ (whole Op.cleanPgDataTemp r is ++ b))
    (hclean : (sem (newOpenGauss shell pgData)).returns .cleanPgDataTemp r is)
    (hclosing : Calls (sem (newOpenGauss shell pgData)) closing b)
    (hfirst : .main (.issue .cleanPgDataTemp) ∉ a) :
    LeavesTemp isData q ↔ q.after "temp" ≠ none := by
  have hkept : ∀ {v : Entries}, (files isData).Path v b q.after → q.after "temp" = v "temp" :=
    fun hv => (calls_harmless closing_harmless hclosing hv).1 "temp" hne.symm
  constructor
  · rintro ⟨a', b', is', e, u, hevs', -, hb, hu⟩
    have hlast : .main (.issue .cleanPgDataTemp) ∉ b := among_issue (calls_among hclosing) rfl
    obtain ⟨rfl, rfl, rfl, rfl⟩ := whole_unique (hevs.symm.trans hevs') hfirst hlast
    rwa [hkept hb]
  · intro hleft
    rw [hevs] at hpath
    obtain ⟨u, hu, hpath⟩ := World.path_append.mp hpath
    obtain ⟨v, hv, hb⟩ := World.path_append.mp hpath
    rw [hkept hb] at hleft
    cases r with
    | none =>
      obtain ⟨-, rfl⟩ := method_effect hclean hv
      rw [newOpenGauss_temp, Function.update_self] at hleft
      exact absurd rfl hleft
    | some e =>
      exact ⟨a, b, is, e, v, hevs, World.path_append.mpr ⟨u, hu, hv⟩, hb, hleft⟩

/-- After a request that was answered with success, or has failed at one of its last
steps, the next request moves the data directory away as it should if and only
if `rm -r` has not left the old one at the temporary path. -/
theorem requests_move_iff {shell : String} {pgData : FilePath} {isData : Entries → Prop}
    {d₀ t : Entries} {rs : List Request} {q : Request} (hdata : Holds isData (base pgData) d₀)
    (htemp : d₀ "temp" = none) (h : Requests (newOpenGauss shell pgData) isData d₀ (rs ++ [q]) t)
    (hq : Replaced q) :
    Holds isData (base pgData) t ∧ MovesNext (newOpenGauss shell pgData) isData t ↔
      ¬LeavesTemp isData q := by
  have hne : base pgData ≠ "temp" := by
    intro heq
    obtain ⟨entries, hentries, -⟩ := hdata
    rw [heq, htemp] at hentries
    cases hentries
  obtain ⟨hrun, hpath, hserved⟩ := requests_last h
  obtain ⟨a, r, is, b, hevs, hclean, hclosing, hfirst, hholds⟩ :=
    replaced_clean isData hrun hq
  rw [leavesTemp_iff hne hpath hevs hclean hclosing hfirst]
  rw [hevs] at hpath
  obtain ⟨u, hu, hpath⟩ := World.path_append.mp hpath
  obtain ⟨v, hv, hlast⟩ := World.path_append.mp hpath
  have hplace := calls_harmless closing_harmless hclosing hlast
  have hcleaned := clean_holds hne (method_effect hclean hv) (hholds _ u hu)
  have hnow : Holds isData (base pgData) t := served_holds hserved (hplace.2 hcleaned)
  rw [movesNext_iff hne hnow, served_other hserved hne.symm, not_not]
  exact and_iff_right hnow

/-- The restored directory is in its place and the old one is still there. -/
def both : Entries := Function.update away "data" (some (.dir versionDir))

theorem both_temp : both "temp" = some (.dir versionDir) := by simp [both, away_temp]

theorem restoreDone_path : (files hasVersion).Path away (restoreDone sampleAgent) both :=
  (restored_path _ _).mpr ⟨versionDir, versionDir_hasVersion, rfl⟩

theorem restarted_path (d : Entries) : (files hasVersion).Path d (restarted sampleAgent) d :=
  (ended_path _ _).mpr (Or.inl rfl)

theorem restoreDone_first {tr : List Ev} {t : Entries} (h : (files hasVersion).Path both tr t) :
    (files hasVersion).Path atRest
      (admitted sampleAgent ++ (movedAway sampleAgent ++ (restoreDone sampleAgent ++ tr))) t :=
  World.path_append.mpr ⟨atRest, admitted_path _ _ _, World.path_append.mpr ⟨away, movedAway_path,
    World.path_append.mpr ⟨both, restoreDone_path, h⟩⟩⟩

def replacedDir : Entries := Function.update both "temp" none

theorem succeeded_path : (files hasVersion).Path atRest (succeeded sampleAgent) replacedDir := by
  have hclean : (files hasVersion).Path both (cleaned sampleAgent) replacedDir := by
    refine (ended_path _ _).mpr ⟨?_, rfl⟩
    have hbase : base sampleAgent.pgDataTemp = "temp" := rfl
    rw [hbase, both_temp]
    exact Option.some_ne_none _
  refine restoreDone_first (World.path_append.mpr ⟨_, hclean, World.path_append.mpr
    ⟨_, restarted_path _, ?_⟩⟩)
  exact path_whole.mpr (path_sys.mpr rfl)

theorem succeeded_moves : Holds hasVersion "data" replacedDir ∧
    MovesNext sampleAgent hasVersion replacedDir := by
  have hrequests : Requests sampleAgent hasVersion atRest
      ([] ++ [⟨atRest, succeeded sampleAgent, none, replacedDir⟩]) replacedDir :=
    .request .none (succeeded_run _) succeeded_path (Or.inl rfl)
  refine (requests_move_iff atRest_holds atRest_temp hrequests (Or.inl rfl)).mpr ?_
  rintro ⟨a, b, is, e, u, hevs, -⟩
  have hevs' : succeeded sampleAgent = a ++ (whole Op.cleanPgDataTemp (some e) is ++ b) := hevs
  have hfailed : .main (.reply .cleanPgDataTemp (some e)) ∈ succeeded sampleAgent := by
    simp [hevs', main_mem_whole]
  simp [succeeded, admitted, movedAway, restoreDone, cleaned, restarted, sent,
    main_mem_whole] at hfailed

theorem notCleaned_path : (files hasVersion).Path atRest (notCleaned sampleAgent) both := by
  have hclean : (files hasVersion).Path both (cleanFailed sampleAgent) both := by
    refine path_whole.mpr (path_sys.mpr ⟨both "temp", Or.inr (Or.inl rfl), ?_⟩)
    exact (Function.update_eq_self _ _).symm
  exact restoreDone_first (World.path_append.mpr ⟨_, hclean, restarted_path _⟩)

/-- The data directory is moved into the one that could not be removed. -/
theorem not_all_requests_move :
    ¬∀ (shell : String) (pgData : FilePath) (isData : Entries → Prop) (d₀ t : Entries)
      (rs : List Request) (q : Request), Holds isData (base pgData) d₀ → d₀ "temp" = none →
      Requests (newOpenGauss shell pgData) isData d₀ (rs ++ [q]) t → Replaced q →
      Holds isData (base pgData) t ∧ MovesNext (newOpenGauss shell pgData) isData t := by
  intro h
  have hrequests : Requests sampleAgent hasVersion atRest
      ([] ++ [⟨atRest, notCleaned sampleAgent,
        some ("pkg.OG.CleanPgDataTemp return err wrap: " ++ "busy"), both⟩]) both :=
    .request .none (notCleaned_run _) notCleaned_path (Or.inl rfl)
  have hstep : failingStep (notCleaned sampleAgent) = some .cleanPgDataTemp := by
    simp [notCleaned, admitted, movedAway, restoreDone, cleanFailed, failingStep_append,
      failingStep_whole, errored]
  obtain ⟨hholds, hmoves⟩ := h _ _ _ _ _ _ _ atRest_holds atRest_temp hrequests
    (Or.inr (Or.inl hstep))
  have hfree := (movesNext_iff (by decide) hholds).mp hmoves
  rw [both_temp] at hfree
  cases hfree

end ShardingOnCloud.Agent.RequestSequence
