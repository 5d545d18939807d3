import ShardingOnCloud.Lib.Lookaround
import ShardingOnCloud.Agent.AsyncExec

namespace ShardingOnCloud.Agent.AsyncBackup

open ShardingOnCloud.Lib.Schedules ShardingOnCloud.Lib.Lookaround ShardingOnCloud.Lib.Program
open ShardingOnCloud.Lib.Pool ShardingOnCloud.Pitr.Model ShardingOnCloud.Agent.Commands
open ShardingOnCloud.Agent.CommandLine ShardingOnCloud.Agent.AsyncExec

/-- The character classes `\w` and `\s` of `regexp2`. -/
structure Classes where
  word : Char → Bool
  space : Char → Bool

def backupIDText : List Char := "backup ID:".toList

/-- In a line, the word `id` with `n` characters before it stands between the text
`backup ID:` with blanks and a comma. -/
def IdAt (k : Classes) (line : List Char) (n : ℕ) (id : List Char) : Prop :=
  ∃ pre ws post, line = pre ++ backupIDText ++ ws ++ id ++ ',' :: post ∧
    (pre ++ backupIDText ++ ws).length = n ∧ ws ≠ [] ∧ (∀ c ∈ ws, k.space c = true) ∧
    id ≠ [] ∧ ∀ c ∈ id, k.word c = true

def FirstId (k : Classes) (line id : List Char) : Prop :=
  ∃ n, IdAt k line n id ∧ ∀ n' id', IdAt k line n' id' → n ≤ n'

/-- The search of `regexp2` for `(?<=backup ID:\s+)\w+(?=,)`, which finds the first place of a
text. -/
structure Regexp2 extends Classes where
  findStringMatch : String → Option String
  found : ∀ {msg id}, findStringMatch msg = some id → FirstId toClasses msg.toList id.toList
  unfound : ∀ {msg}, findStringMatch msg = none → ∀ n id, ¬IdAt toClasses msg.toList n id

section Search

variable {k : Classes}

def matchHere (k : Classes) (before rest : List Char) : Option (List Char) :=
  if behind backupIDText k.space before then
    greedy k.word (fun rest => rest.head? == some ',') rest
  else none

theorem matchHere_some {before rest m : List Char} (h : matchHere k before rest = some m) :
    IdAt k (before ++ rest) before.length m := by
  unfold matchHere at h
  split at h
  next hb =>
    obtain ⟨pre, ws, rfl, hne, hall⟩ := behind_iff.mp hb
    obtain ⟨tail, rfl, hm, hword, hcomma⟩ := takes_of_greedy h
    obtain ⟨post, rfl⟩ := List.head?_eq_some_iff.mp (eq_of_beq hcomma)
    exact ⟨pre, ws, post, by simp, rfl, hne, hall, hm, hword⟩
  next => cases h

theorem matchHere_none {before rest m : List Char} (h : matchHere k before rest = none) :
    ¬ IdAt k (before ++ rest) before.length m := by
  rintro ⟨pre, ws, post, hline, hlen, hne, hall, hm, hword⟩
  rw [List.append_assoc (pre ++ backupIDText ++ ws)] at hline
  obtain ⟨rfl, rfl⟩ := List.append_inj hline hlen.symm
  have hb : behind backupIDText k.space (pre ++ backupIDText ++ ws) = true :=
    behind_iff.mpr ⟨pre, ws, rfl, hne, hall⟩
  rw [matchHere, if_pos hb] at h
  exact not_takes_of_greedy h ⟨',' :: post, rfl, hm, hword, rfl⟩

theorem idAt_split {line id : List Char} {n : ℕ} (h : IdAt k line n id) :
    ∃ before rest, line = before ++ rest ∧ before.length = n ∧
      IdAt k (before ++ rest) before.length id := by
  obtain ⟨pre, ws, post, hline, hlen, hrest⟩ := h
  refine ⟨pre ++ backupIDText ++ ws, id ++ ',' :: post, by rw [hline, List.append_assoc], hlen,
    pre, ws, post, by simp, rfl, hrest⟩

theorem search_firstId {line m : List Char} (hm : search (matchHere k) [] line = some m) :
    FirstId k line m := by
  obtain ⟨skipped, tail, hmsg, hhere, hfirst⟩ := search_some hm
  rw [List.nil_append] at hhere
  refine ⟨skipped.length, hmsg ▸ matchHere_some hhere, ?_⟩
  intro n' id' hid
  obtain ⟨before, rest, hline, rfl, hat⟩ := idAt_split hid
  by_contra hlt
  have hnone := hfirst before rest hline (Nat.lt_of_not_le hlt)
  rw [List.nil_append] at hnone
  exact matchHere_none hnone hat

theorem search_no_id {line : List Char} (h : search (matchHere k) [] line = none) (n : ℕ)
    (id : List Char) : ¬IdAt k line n id := by
  intro hid
  obtain ⟨before, rest, hline, rfl, hat⟩ := idAt_split hid
  have hnone := search_none h hline
  rw [List.nil_append] at hnone
  exact matchHere_none hnone hat

def searching (k : Classes) : Regexp2 where
  toClasses := k
  findStringMatch msg := (search (matchHere k) [] msg.toList).map String.ofList
  found h := by
    obtain ⟨m, hm, rfl⟩ := Option.map_eq_some_iff.mp h
    rw [String.toList_ofList]
    exact search_firstId hm
  unfound h := search_no_id (Option.map_eq_none_iff.mp h)

/-- The letters, digits and blanks of English texts. -/
def ascii : Classes where
  word c := c.isAlphanum || c == '_'
  space := Char.isWhitespace

end Search

/-- The error is that of the search, which has no time limit and does not fail: a
message without a match is logged, and the error that is returned is nil. -/
def getBackupID (k : Regexp2) (msg : String) : String × Option Err :=
  match k.findStringMatch msg with
  | some m => (m, none)
  | none => ("", none)

def backupStart : String := "INFO: Backup start"

def cmdAsyncBackupFailed : Err := xerror 10035 "Command `gs_probackup backup` failed."

/-- The loop of `AsyncBackup`, with the variable `bid`. -/
def asyncBackupLoop (k : Regexp2) : Loop String (Except Err String) where
  body bid output :=
    match output.error with
    | some err => .inr (.error err)
    | none =>
      if contains output.message backupStart then
        match getBackupID k output.message with
        | (_, some err) => .inr (.error err)
        | (bid, none) => .inl bid
      else .inl bid
  rest bid := .ok bid

/-- `AsyncBackup`, when the command has been started or could not be. -/
def asyncBackup (og : OpenGauss) (backupPath instanceName backupMode : String)
    (threadsNum : UInt8) (dbPort : UInt16) :
    Except Err Process → State String (Except Err String)
  | .error _ =>
    let cmd := backupCmd backupPath instanceName backupMode og.pgData threadsNum dbPort
    ⟨none, false, 0, .inr (.error ("cmds.AsyncExec[shell=" ++ og.shell ++ ",cmd=" ++ cmd ++
      "] return err wrap: " ++ cmdAsyncBackupFailed))⟩
  | .ok p => started p ""

/-- The loop of `Restore`, with the error of `AsyncExec`. -/
def restoreLoop (err : Option Err) : Loop Unit (Option Err) where
  body _ output :=
    match err with
    | some err => .inr (some err)
    | none =>
      match output.error with
      | some err => .inr (some err)
      | none => .inl ()
  rest _ := none

/-- `Restore`: without a command the loop is entered all the same, over a nil channel. -/
def restore : Except Err Process → State Unit (Option Err)
  | .error _ => ⟨none, false, 0, .inl ()⟩
  | .ok p => started p ()

/-- The command that runs; without a goroutine nothing of it is looked at. -/
def ran : Except Err Process → Process
  | .error _ => ⟨[], none, none⟩
  | .ok p => p

def startErr : Except Err Process → Option Err
  | .error err => some err
  | .ok _ => none

variable {σ ρ : Type} {k : Regexp2} {p : Process}

/-- Nobody sends on a nil channel, and nobody closes it. -/
theorem nil_channel_blocks {L : Loop σ ρ} {reaped : Bool} {consumer : σ ⊕ ρ} {t : State σ ρ} :
    ¬ Step p L ⟨none, reaped, 0, consumer⟩ t := by
  intro h
  cases h

theorem reaches_nil_channel {L : Loop σ ρ} {reaped : Bool} {consumer : σ ⊕ ρ} {t : State σ ρ}
    (h : Reaches (Step p L) ⟨none, reaped, 0, consumer⟩ t) : t = ⟨none, reaped, 0, consumer⟩ := by
  induction h with
  | refl => rfl
  | tail _ hst ih =>
    subst ih
    exact absurd hst nil_channel_blocks

def lineErr (line : String) : Option Err :=
  if contains line noSpaceLeft then some noSpaceLeft else none

theorem outputsFrom_errors (p : Process) (index : UInt32) (lines : List String) :
    (outputsFrom p none index lines).map (·.error) = lines.map lineErr ++
      (p.scanErr.toList.map some ++ p.exitErr.toList.map (fun e => some (exitText e))) := by
  induction lines generalizing index with
  | nil => simp [outputsFrom, scanOutputs, exitOutputs, Function.comp_def]
  | cons line lines ih =>
    rw [outputsFrom, List.map_cons, ih]
    rfl

/-- The errors of the outputs are those that the commands of the agent are modelled
with. -/
theorem outputs_errors (p : Process) : (outputs p).map (·.error) = outputErrors p := by
  rw [outputs, outputsFrom_errors, ← List.append_assoc]
  rfl

/-- What a start line does to the variable `bid`. -/
def nextID (k : Regexp2) (bid : String) (line : String) : String :=
  if contains line backupStart then (k.findStringMatch line).getD "" else bid

theorem asyncBackupLoop_body (k : Regexp2) (bid : String) {o : Output} (h : o.error = none) :
    (asyncBackupLoop k).body bid o = .inl (nextID k bid o.message) := by
  rw [asyncBackupLoop, nextID]
  simp only [h]
  split
  · unfold getBackupID
    cases k.findStringMatch o.message with
    | none => rfl
    | some m => rfl
  · rfl

/-- A line that reports a full device is the last output of a command that is read to
its end and exits successfully, and so does a command that is not read to its end. -/
def Quiet (p : Process) : Prop :=
  (∀ as line bs, p.lines = as ++ line :: bs → contains line noSpaceLeft = true →
    bs = [] ∧ p.scanErr = none ∧ p.exitErr = none) ∧
  (p.scanErr ≠ none → p.exitErr = none)

def endErrors (p : Process) : List (Option Err) :=
  p.scanErr.toList.map some ++ p.exitErr.toList.map (fun e => some (exitText e))

theorem endErrors_eq_nil : endErrors p = [] ↔ p.scanErr = none ∧ p.exitErr = none := by
  simp [endErrors]

theorem lineErr_ne_none {line : String} :
    lineErr line ≠ none ↔ contains line noSpaceLeft = true := by
  unfold lineErr
  split <;> simp_all

def Fails : Except Err Process → Prop
  | .error _ => True
  | .ok p => (∃ line ∈ p.lines, contains line noSpaceLeft = true) ∨ p.scanErr ≠ none ∨
      p.exitErr ≠ none

/-- `Restore` returns under every schedule, with an error just when the command fails. -/
def ReportsFailure (start : Except Err Process) : Prop :=
  Inevitable (Step (ran start) (restoreLoop (startErr start))) (fun t => ∃ r, Returned t r)
      (restore start) ∧
    ∀ t r, Reaches (Step (ran start) (restoreLoop (startErr start))) (restore start) t →
      Returned t r → (r ≠ none ↔ Fails start)

theorem restoreLoop_result (os : List Output) :
    ((restoreLoop none).outcome () os).1 = (os.map (·.error)).findSome? id := by
  induction os with
  | nil => rfl
  | cons o os ih =>
    rw [Loop.outcome, List.map_cons, List.findSome?_cons]
    cases ho : o.error with
    | none =>
      have hbody : (restoreLoop none).body () o = .inl () := by simp only [restoreLoop, ho]
      rw [hbody]
      exact ih
    | some err =>
      have hbody : (restoreLoop none).body () o = .inr (some err) := by
        simp only [restoreLoop, ho]
      rw [hbody]
      rfl

theorem findSome_outputErrors : (outputErrors p).findSome? id ≠ none ↔ Fails (.ok p) := by
  have herrors : outputErrors p = p.lines.map lineErr ++ endErrors p := by
    rw [← outputs_errors, outputs, outputsFrom_errors]
    rfl
  have hlines : (∀ e ∈ p.lines.map lineErr, e = none) ↔
      ¬ ∃ line ∈ p.lines, contains line noSpaceLeft = true := by
    simp [← lineErr_ne_none]
  have hend : (∀ e ∈ endErrors p, e = none) ↔ p.scanErr = none ∧ p.exitErr = none := by
    rw [← endErrors_eq_nil]
    cases hs : p.scanErr <;> cases he : p.exitErr <;> simp [endErrors, hs, he]
  rw [herrors, ne_eq, List.findSome?_eq_none_iff]
  simp only [id_eq]
  rw [List.forall_mem_append, hlines, hend, Fails, not_and_or, not_not, not_and_or]

/-- `Restore` does what it should just when the command could be started. -/
theorem restore_reports_iff (start : Except Err Process) :
    ReportsFailure start ↔ ∃ p, start = .ok p := by
  cases start with
  | error err =>
    refine iff_of_false ?_ (by simp)
    rintro ⟨hreturns, -⟩
    obtain ⟨t, ht, r, hr⟩ := hreturns.reached
    rw [restore] at ht
    obtain rfl := reaches_nil_channel ht
    cases hr
  | ok p =>
    refine iff_of_true ⟨reading_returns p (restoreLoop none) (), ?_⟩ ⟨p, rfl⟩
    intro t r ht hr
    have hresult := returned_result ht hr
    rw [startErr, restoreLoop_result, outputs_errors] at hresult
    rw [hresult]
    exact findSome_outputErrors

theorem missing_shell_blocks : ¬ ReportsFailure
    (.error "the command is err[args=[-c gs_probackup restore]]:fork/exec: no such file") := by
  rintro ⟨hreturns, -⟩
  obtain ⟨t, ht, r, hr⟩ := hreturns.reached
  rw [restore] at ht
  obtain rfl := reaches_nil_channel ht
  cases hr

/-- `Restore` as the handler is modelled with it. -/
theorem restore_refines (og : OpenGauss) (backupPath instanceName backupID : String)
    (threadsNum : UInt8) {t : State Unit (Option Err)} {r : Option Err}
    (h : Reaches (Step p (restoreLoop none)) (restore (.ok p)) t) (hr : Returned t r) :
    Run alone (og.restore backupPath instanceName backupID threadsNum)
      (whole (Sys.asyncExec og.shell
        (.restore backupPath instanceName backupID og.pgData threadsNum))
          (Except.ok p) [] ++ []) r := by
  have hresult := returned_result h hr
  rw [restoreLoop_result, outputs_errors] at hresult
  subst hresult
  exact Run.call rfl (Run.ret _)

def lastStart (lines : List String) : Option String :=
  (lines.filter (fun line => contains line backupStart)).getLast?

theorem foldl_nextID (k : Regexp2) (bid : String) (lines : List String) :
    lines.foldl (nextID k) bid =
      (lastStart lines).elim bid (fun line => (k.findStringMatch line).getD "") := by
  induction lines using List.reverseRecOn with
  | nil => rfl
  | append_singleton lines line ih =>
    rw [List.foldl_append, ih, List.foldl_cons, List.foldl_nil, nextID]
    by_cases h : contains line backupStart = true
    · simp [lastStart, h]
    · simp [lastStart, h]

/-- Without an error, `bid` goes through all lines. -/
theorem asyncBackupLoop_result (k : Regexp2) (bid : String) (index : UInt32)
    (lines : List String) :
    ((asyncBackupLoop k).outcome bid (outputsFrom p none index lines)).1 =
      ((lines.map lineErr ++ endErrors p).findSome? id).elim
        (.ok (lines.foldl (nextID k) bid)) .error := by
  induction lines generalizing bid index with
  | nil =>
    rw [outputsFrom, List.map_nil, List.nil_append, List.foldl_nil, endErrors]
    unfold scanOutputs exitOutputs
    cases p.scanErr with
    | some err => rfl
    | none =>
      cases p.exitErr with
      | some e => rfl
      | none => rfl
  | cons line lines ih =>
    rw [outputsFrom, Loop.outcome, List.map_cons, List.cons_append, List.findSome?_cons]
    cases hline : lineErr line with
    | some err =>
      have hbody : (asyncBackupLoop k).body bid (lineOutput index none line) =
          .inr (.error err) := by
        have herr : (lineOutput index none line).error = some err := hline
        simp only [asyncBackupLoop, herr]
      rw [hbody]
      rfl
    | none =>
      have herr : (lineOutput index none line).error = none := hline
      rw [asyncBackupLoop_body k bid herr]
      exact ih _ _

/-- Whenever `AsyncBackup` returns without an error, the ID is not empty and is the word
that the last start line names. -/
def ReturnsID (k : Regexp2) (og : OpenGauss) (backupPath instanceName backupMode : String)
    (threadsNum : UInt8) (dbPort : UInt16) (start : Except Err Process) : Prop :=
  ∀ t bid, Reaches (Step (ran start) (asyncBackupLoop k))
      (asyncBackup og backupPath instanceName backupMode threadsNum dbPort start) t →
    Returned t (.ok bid) → bid ≠ "" ∧
      ∃ line, lastStart (ran start).lines = some line ∧ FirstId k.toClasses line.toList bid.toList

def NamesID (k : Regexp2) (lines : List String) : Prop :=
  ∃ line, lastStart lines = some line ∧ ∃ n id, IdAt k.toClasses line.toList n id

theorem firstId_ne {line : List Char} {id : String} (h : FirstId k.toClasses line id.toList) :
    id ≠ "" := by
  obtain ⟨n, ⟨pre, ws, post, -, -, -, -, hne, -⟩, -⟩ := h
  rintro rfl
  exact hne rfl

theorem names_iff (k : Regexp2) (lines : List String) :
    (lines.foldl (nextID k) "" ≠ "" ∧ ∃ line, lastStart lines = some line ∧
      FirstId k.toClasses line.toList (lines.foldl (nextID k) "").toList) ↔ NamesID k lines := by
  constructor
  · rintro ⟨-, line, hline, n, hid, -⟩
    exact ⟨line, hline, n, _, hid⟩
  · rintro ⟨line, hline, n, id, hid⟩
    cases hm : k.findStringMatch line with
    | none => exact absurd hid (k.unfound hm n id)
    | some m =>
      have hbid : lines.foldl (nextID k) "" = m := by
        rw [foldl_nextID, hline, Option.elim_some, hm, Option.getD_some]
      rw [hbid]
      have hfirst := k.found hm
      exact ⟨firstId_ne hfirst, line, hline, hfirst⟩

theorem asyncBackup_result (k : Regexp2) (p : Process) :
    ((asyncBackupLoop k).outcome "" (outputs p)).1 =
      ((outputErrors p).findSome? id).elim (.ok (p.lines.foldl (nextID k) "")) .error := by
  rw [outputs, asyncBackupLoop_result, ← outputs_errors, outputs, outputsFrom_errors]
  rfl

/-- A backup without an error has its ID just when the command fails, or its last
start line names one. -/
theorem backup_id_iff (k : Regexp2) (og : OpenGauss) (backupPath instanceName backupMode : String)
    (threadsNum : UInt8) (dbPort : UInt16) (start : Except Err Process) :
    ReturnsID k og backupPath instanceName backupMode threadsNum dbPort start ↔
      Fails start ∨ NamesID k (ran start).lines := by
  cases start with
  | error err =>
    refine iff_of_true ?_ (Or.inl trivial)
    intro t bid ht hr
    rw [asyncBackup] at ht
    obtain rfl := reaches_nil_channel ht
    cases hr
  | ok p =>
    have hresult := asyncBackup_result k p
    constructor
    · intro h
      rw [or_iff_not_imp_left, ← findSome_outputErrors, not_not]
      intro hnone
      rw [hnone, Option.elim_none] at hresult
      obtain ⟨t, ht, r, hr⟩ := (reading_returns p (asyncBackupLoop k) "").reached
      obtain rfl : r = .ok _ := (returned_result ht hr).trans hresult
      exact (names_iff k p.lines).mp (h t _ ht hr)
    · intro h t bid ht hr
      have hbid := (returned_result ht hr).trans hresult
      cases herr : (outputErrors p).findSome? id with
      | some err =>
        rw [herr] at hbid
        cases hbid
      | none =>
        rw [herr, Option.elim_none] at hbid
        obtain rfl := Except.ok.inj hbid
        have hfails : ¬ Fails (.ok p) := by
          rw [← findSome_outputErrors, not_not]
          exact herr
        exact (names_iff k p.lines).mpr (h.resolve_left hfails)

/-- A command that succeeds and says nothing of a backup ID. -/
def silent : Process where
  lines := ["INFO: Backup start, pg_probackup version: 2.4.2, instance: ins-default-0"]
  scanErr := none
  exitErr := none

theorem silent_has_no_id : ¬ ReturnsID (searching ascii) sampleGauss "/home/omm/data"
    "ins-default-0" "FULL" 1 5432 (.ok silent) := by
  intro h
  obtain ⟨t, ht, r, hr⟩ := (reading_returns silent (asyncBackupLoop (searching ascii)) "").reached
  have hresult : ((asyncBackupLoop (searching ascii)).outcome "" (outputs silent)).1 = .ok "" := by
    decide +kernel
  obtain rfl : r = .ok "" := (returned_result ht hr).trans hresult
  exact (h t "" ht hr).1 rfl

end ShardingOnCloud.Agent.AsyncBackup
