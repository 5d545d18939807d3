import ShardingOnCloud.Agent.CommandLine

namespace ShardingOnCloud.Agent.AsyncExec

open ShardingOnCloud.Lib.Schedules ShardingOnCloud.Pitr.Model ShardingOnCloud.Agent.Commands

structure Output where
  lineNo : UInt32
  message : String
  error : Option Err
  deriving DecidableEq

/-- Where the goroutine of `AsyncExec` is. The function that it runs returns nil, so
that the branch for the error of a panic is not taken. -/
inductive Pc
  | scan
  | sendLine (op : Output)
  | sendScanErr (op : Output)
  | wait
  | sendExit (op : Output)
  | returned
  | close
  | done

/-- The goroutine: the lines that the scanner has still to find, and the variables that
it captures. -/
structure Producer where
  lines : List String
  index : UInt32
  err : Option Err
  pc : Pc

/-- A `for … range` loop over the channel: its body goes on or returns, and the rest of
the function comes after the channel is closed. -/
structure Loop (σ ρ : Type) where
  body : σ → Output → σ ⊕ ρ
  rest : σ → ρ

/-- The goroutine and the function that reads from its channel. Without a goroutine
the channel is nil. -/
structure State (σ ρ : Type) where
  producer : Option Producer
  reaped : Bool
  closes : ℕ
  consumer : σ ⊕ ρ

def lineOutput (index : UInt32) (err : Option Err) (text : String) : Output where
  lineNo := index
  message := text
  error := if contains text noSpaceLeft then some noSpaceLeft else err

/-- After the last line the error of the scanner is looked at. -/
def afterScan (index : UInt32) : Option Err → Pc
  | some err => .sendScanErr ⟨index, "", some err⟩
  | none => .wait

def afterWait : Option ExitErr → Pc
  | some e => .sendExit ⟨0, "", some (exitText e)⟩
  | none => .returned

/-- An error of `cmd.Wait` as it is kept in the captured variable. -/
def waitErr : ExitErr → Err
  | .exitError ee => ee
  | .other _ err => err

variable {σ ρ : Type}

/-- The channel is unbuffered: a send and a receive happen together. -/
inductive Step (p : Process) (L : Loop σ ρ) : State σ ρ → State σ ρ → Prop
  | scanLine {line : String} {lines : List String} {index : UInt32} {err : Option Err}
      {reaped : Bool} {closes : ℕ} {consumer : σ ⊕ ρ} :
      Step p L ⟨some ⟨line :: lines, index, err, .scan⟩, reaped, closes, consumer⟩
        ⟨some ⟨lines, index, err, .sendLine (lineOutput index err line)⟩, reaped, closes, consumer⟩
  | scanEnd {index : UInt32} {err : Option Err} {reaped : Bool} {closes : ℕ}
      {consumer : σ ⊕ ρ} :
      Step p L ⟨some ⟨[], index, err, .scan⟩, reaped, closes, consumer⟩
        ⟨some ⟨[], index, p.scanErr, afterScan index p.scanErr⟩, reaped, closes, consumer⟩
  | sentLine {lines : List String} {index : UInt32} {err : Option Err} {op : Output}
      {reaped : Bool} {closes : ℕ} {s : σ} :
      Step p L ⟨some ⟨lines, index, err, .sendLine op⟩, reaped, closes, .inl s⟩
        ⟨some ⟨lines, index + 1, err, .scan⟩, reaped, closes, L.body s op⟩
  | sentScanErr {lines : List String} {index : UInt32} {err : Option Err} {op : Output}
      {reaped : Bool} {closes : ℕ} {s : σ} :
      Step p L ⟨some ⟨lines, index, err, .sendScanErr op⟩, reaped, closes, .inl s⟩
        ⟨some ⟨lines, index, err, .wait⟩, reaped, closes, L.body s op⟩
  | wait {lines : List String} {index : UInt32} {err : Option Err} {reaped : Bool} {closes : ℕ}
      {consumer : σ ⊕ ρ} :
      Step p L ⟨some ⟨lines, index, err, .wait⟩, reaped, closes, consumer⟩
        ⟨some ⟨lines, index, p.exitErr.map waitErr, afterWait p.exitErr⟩, true, closes, consumer⟩
  | sentExit {lines : List String} {index : UInt32} {err : Option Err} {op : Output}
      {reaped : Bool} {closes : ℕ} {s : σ} :
      Step p L ⟨some ⟨lines, index, err, .sendExit op⟩, reaped, closes, .inl s⟩
        ⟨some ⟨lines, index, err, .returned⟩, reaped, closes, L.body s op⟩
  | returned {lines : List String} {index : UInt32} {err : Option Err} {reaped : Bool}
      {closes : ℕ} {consumer : σ ⊕ ρ} :
      Step p L ⟨some ⟨lines, index, err, .returned⟩, reaped, closes, consumer⟩
        ⟨some ⟨lines, index, none, .close⟩, reaped, closes, consumer⟩
  | close {lines : List String} {index : UInt32} {err : Option Err} {reaped : Bool} {closes : ℕ}
      {consumer : σ ⊕ ρ} :
      Step p L ⟨some ⟨lines, index, err, .close⟩, reaped, closes, consumer⟩
        ⟨some ⟨lines, index, err, .done⟩, reaped, closes + 1, consumer⟩
  | closed {producer : Option Producer} {reaped : Bool} {closes : ℕ} {s : σ} :
      Step p L ⟨producer, reaped, closes + 1, .inl s⟩
        ⟨producer, reaped, closes + 1, .inr (L.rest s)⟩

/-- `AsyncExec` once the command runs, and a function that begins to read. -/
def started (p : Process) (s : σ) : State σ ρ :=
  ⟨some ⟨p.lines, 1, none, .scan⟩, false, 0, .inl s⟩

def exitOutputs (p : Process) : List Output :=
  p.exitErr.toList.map (fun e => ⟨0, "", some (exitText e)⟩)

def scanOutputs (p : Process) (index : UInt32) : List Output :=
  p.scanErr.toList.map (fun err => ⟨index, "", some err⟩)

/-- What is sent from the line with number `index` on. -/
def outputsFrom (p : Process) (err : Option Err) : UInt32 → List String → List Output
  | index, [] => scanOutputs p index ++ exitOutputs p
  | index, line :: lines => lineOutput index err line :: outputsFrom p err (index + 1) lines

def outputs (p : Process) : List Output := outputsFrom p none 1 p.lines

def pending (p : Process) (q : Producer) : List Output :=
  match q.pc with
  | .scan => outputsFrom p q.err q.index q.lines
  | .sendLine op => op :: outputsFrom p q.err (q.index + 1) q.lines
  | .sendScanErr op => op :: exitOutputs p
  | .wait => exitOutputs p
  | .sendExit op => [op]
  | .returned | .close | .done => []

/-- What a loop returns for these outputs, and those of them that it does not receive. -/
def Loop.outcome (L : Loop σ ρ) : σ → List Output → ρ × List Output
  | s, [] => (L.rest s, [])
  | s, o :: os =>
    match L.body s o with
    | .inl s' => L.outcome s' os
    | .inr r => (r, os)

/-- The same for a function that may have returned already. -/
def Loop.after (L : Loop σ ρ) (os : List Output) : σ ⊕ ρ → ρ × List Output
  | .inl s => L.outcome s os
  | .inr r => (r, os)

theorem Loop.outcome_cons (L : Loop σ ρ) (s : σ) (o : Output) (os : List Output) :
    L.outcome s (o :: os) = L.after os (L.body s o) := by
  rw [outcome, after.eq_def]

theorem afterScan_pending (p : Process) (lines : List String) (index : UInt32) :
    pending p ⟨lines, index, p.scanErr, afterScan index p.scanErr⟩ =
      scanOutputs p index ++ exitOutputs p := by
  unfold pending scanOutputs
  cases p.scanErr with
  | none => rfl
  | some err => rfl

theorem afterWait_pending (p : Process) (lines : List String) (index : UInt32)
    (err : Option Err) :
    pending p ⟨lines, index, err, afterWait p.exitErr⟩ = exitOutputs p := by
  unfold pending exitOutputs
  cases p.exitErr with
  | none => rfl
  | some e => rfl

/-- The channel is closed once, as the last thing that the goroutine does, and by then
the command has been waited for. -/
def Pc.closes : Pc → ℕ
  | .done => 1
  | _ => 0

def Pc.reaped : Pc → Bool
  | .sendExit _ | .returned | .close | .done => true
  | _ => false

variable {p : Process} {L : Loop σ ρ} {s₀ : σ} {s t : State σ ρ}

/-- What holds while the two run: what is left to do comes to the same as all of it. -/
def Inv (p : Process) (L : Loop σ ρ) (s₀ : σ) (s : State σ ρ) : Prop :=
  ∃ q, s.producer = some q ∧ s.reaped = q.pc.reaped ∧ s.closes = q.pc.closes ∧
    L.after (pending p q) s.consumer = L.outcome s₀ (outputs p)

theorem inv_started (p : Process) (L : Loop σ ρ) (s₀ : σ) : Inv p L s₀ (started p s₀) :=
  ⟨_, rfl, rfl, rfl, rfl⟩

theorem afterScan_closes (index : UInt32) (e : Option Err) :
    false = (afterScan index e).reaped ∧ 0 = (afterScan index e).closes := by
  cases e <;> exact ⟨rfl, rfl⟩

theorem afterWait_closes (e : Option ExitErr) :
    true = (afterWait e).reaped ∧ 0 = (afterWait e).closes := by
  cases e <;> exact ⟨rfl, rfl⟩

theorem done_of_closes {pc : Pc} {n : ℕ} (h : n + 1 = pc.closes) : pc = .done := by
  cases pc with
  | done => rfl
  | _ => cases h

theorem inv_step (hs : Inv p L s₀ s) (hst : Step p L s t) : Inv p L s₀ t := by
  obtain ⟨q, hq, hreaped, hcloses, hout⟩ := hs
  cases hst with
  | scanLine =>
    cases hq
    exact ⟨_, rfl, hreaped, hcloses, hout⟩
  | @scanEnd index _ _ _ _ =>
    cases hq
    obtain ⟨hr, hc⟩ := afterScan_closes index p.scanErr
    exact ⟨_, rfl, hreaped.trans hr, hcloses.trans hc, by rw [afterScan_pending]; exact hout⟩
  | sentLine =>
    cases hq
    exact ⟨_, rfl, hreaped, hcloses, (L.outcome_cons _ _ _).symm.trans hout⟩
  | sentScanErr =>
    cases hq
    exact ⟨_, rfl, hreaped, hcloses, (L.outcome_cons _ _ _).symm.trans hout⟩
  | wait =>
    cases hq
    obtain ⟨hr, hc⟩ := afterWait_closes p.exitErr
    exact ⟨_, rfl, hr, hcloses.trans hc, by rw [afterWait_pending]; exact hout⟩
  | sentExit =>
    cases hq
    exact ⟨_, rfl, hreaped, hcloses, (L.outcome_cons _ _ _).symm.trans hout⟩
  | returned =>
    cases hq
    exact ⟨_, rfl, hreaped, hcloses, hout⟩
  | close =>
    cases hq
    exact ⟨_, rfl, hreaped, congrArg (· + 1) hcloses, hout⟩
  | closed =>
    obtain ⟨lines, index, err, pc⟩ := q
    obtain rfl := done_of_closes hcloses
    exact ⟨_, hq, hreaped, hcloses, hout⟩

/-- How much the goroutine has still to do, and the function after it. -/
def Pc.work : Pc → ℕ
  | .sendLine _ => 9
  | .scan => 8
  | .sendScanErr _ => 7
  | .wait => 6
  | .sendExit _ => 5
  | .returned => 4
  | .close => 3
  | .done => 2

def waiting : σ ⊕ ρ → ℕ
  | .inl _ => 1
  | .inr _ => 0

def work (s : State σ ρ) : ℕ :=
  (s.producer.elim 0 (fun q => 2 * q.lines.length + q.pc.work)) + waiting s.consumer

@[simp] theorem waiting_inl (s : σ) : waiting (.inl s : σ ⊕ ρ) = 1 := rfl

@[simp] theorem waiting_inr (r : ρ) : waiting (.inr r : σ ⊕ ρ) = 0 := rfl

theorem waiting_le (x : σ ⊕ ρ) : waiting x ≤ 1 := by
  cases x <;> simp

theorem work_falls (h : Step p L s t) : work t < work s := by
  cases h with
  | scanLine =>
    simp only [work, Option.elim_some, List.length_cons, Pc.work]
    omega
  | scanEnd =>
    cases p.scanErr with
    | none => simp [work, afterScan, Pc.work]
    | some e => simp [work, afterScan, Pc.work]
  | @sentLine _ _ _ op _ _ s' =>
    have hle := waiting_le (L.body s' op)
    simp only [work, Option.elim_some, Pc.work, waiting_inl]
    omega
  | @sentScanErr _ _ _ op _ _ s' =>
    have hle := waiting_le (L.body s' op)
    simp only [work, Option.elim_some, Pc.work, waiting_inl]
    omega
  | wait =>
    cases p.exitErr with
    | none => simp [work, afterWait, Pc.work]
    | some e => simp [work, afterWait, Pc.work]
  | @sentExit _ _ _ op _ _ s' =>
    have hle := waiting_le (L.body s' op)
    simp only [work, Option.elim_some, Pc.work, waiting_inl]
    omega
  | returned => simp [work, Pc.work]
  | close => simp [work, Pc.work]
  | closed => simp [work]

/-- The function that reads has returned, and with what. -/
def Returned (s : State σ ρ) (r : ρ) : Prop := s.consumer = .inr r

theorem reached_inv (h : Reaches (Step p L) (started p s₀) t) : Inv p L s₀ t :=
  h.keeps (fun _ _ => inv_step) (inv_started p L s₀)

theorem reading_goes_on (hs : Inv p L s₀ s) :
    (∃ r, Returned s r) ∨ ∃ t, Step p L s t := by
  obtain ⟨producer, reaped, closes, consumer⟩ := s
  obtain ⟨⟨lines, index, err, pc⟩, hq, -, hcloses, -⟩ := hs
  obtain rfl : producer = _ := hq
  obtain rfl : closes = _ := hcloses
  cases consumer with
  | inr r => exact Or.inl ⟨r, rfl⟩
  | inl s =>
    right
    cases pc with
    | scan =>
      cases lines with
      | nil => exact ⟨_, Step.scanEnd⟩
      | cons line lines => exact ⟨_, Step.scanLine⟩
    | sendLine op => exact ⟨_, Step.sentLine⟩
    | sendScanErr op => exact ⟨_, Step.sentScanErr⟩
    | wait => exact ⟨_, Step.wait⟩
    | sendExit op => exact ⟨_, Step.sentExit⟩
    | returned => exact ⟨_, Step.returned⟩
    | close => exact ⟨_, Step.close⟩
    | done => exact ⟨_, Step.closed⟩

theorem reading_returns (p : Process) (L : Loop σ ρ) (s₀ : σ) :
    Inevitable (Step p L) (fun t => ∃ r, Returned t r) (started p s₀) :=
  inevitable_of_measure work (fun _ _ => inv_step) (fun _ _ _ => work_falls)
    (fun _ => reading_goes_on) (inv_started p L s₀)

theorem returned_result {r : ρ} (h : Reaches (Step p L) (started p s₀) t) (hr : Returned t r) :
    r = (L.outcome s₀ (outputs p)).1 := by
  obtain ⟨q, -, -, -, hout⟩ := reached_inv h
  rw [hr, Loop.after] at hout
  exact congrArg Prod.fst hout

/-- What is promised of the outputs: one for each line, in order and numbered from 1,
with an error just when the line reports a full device; then an error of the scanner,
if there is one, and an error of the command, if it did not exit successfully. -/
structure Contract (p : Process) (received : List Output) : Prop where
  lines : ∀ (i : ℕ) (line : String), p.lines[i]? = some line → ∃ o, received[i]? = some o ∧
    o.lineNo.toNat = i + 1 ∧ o.message = line ∧
    (o.error ≠ none ↔ contains line noSpaceLeft = true)
  rest : ∃ k, received.drop p.lines.length =
    p.scanErr.toList.map (fun err => ⟨k, "", some err⟩) ++
      p.exitErr.toList.map (fun e => ⟨0, "", some (exitText e)⟩)

def restoring : Process where
  lines := ["INFO: Validating backup RJ2Q", "ERROR: No space left on device"]
  scanErr := none
  exitErr := some (.exitError "exit status 1")

end ShardingOnCloud.Agent.AsyncExec
