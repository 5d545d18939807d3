import Mathlib.Data.PNat.Basic
import ShardingOnCloud.Lib.Schedules
import ShardingOnCloud.Agent.Commands

namespace ShardingOnCloud.Agent.Exec

open ShardingOnCloud.Lib.Schedules ShardingOnCloud.Pitr.Model ShardingOnCloud.Agent.Commands

/-- One of the two replacements of `loadArgs`: a command that begins with `word` gets
the value of the environment variable of that name instead. -/
def replaceWord (env : String → Option String) (word arg : String) : String :=
  match env word with
  | some v =>
    if word.toList <+: arg.toList then v ++ String.ofList (arg.toList.drop word.length) else arg
  | none => arg

def loadArgs (env : String → Option String) : List String → List String
  | [] => []
  | arg :: args =>
    (if "gs_probackup".toList <+: arg.toList then replaceWord env "gs_probackup" arg
      else replaceWord env "gs_ctrl" arg) :: args

def shellArgs (env : String → Option String) (args : List String) : List String :=
  "-c" :: loadArgs env args

abbrev Bytes := List UInt8

def bytes (s : String) : Bytes := s.toUTF8.toList

inductive Stream
  | stdout
  | stderr
  deriving DecidableEq

/-- A command: the bytes it writes, in their order, and how it ends. -/
structure Child where
  writes : List (Stream × UInt8)
  exitErr : Option ExitErr

def into (k : Stream) (ws : List (Stream × UInt8)) : Bytes :=
  ws.filterMap (fun w => if w.1 = k then some w.2 else none)

def Child.stdout (c : Child) : Bytes := into .stdout c.writes

def Child.stderr (c : Child) : Bytes := into .stderr c.writes

/-- What `Exec` returns after `cmd.Wait`. -/
def execResult (exitErr : Option ExitErr) (reader ereader : Bytes) : Except Bytes Bytes :=
  match exitErr with
  | some (.exitError ee) =>
    .error (bytes ("exec failure[ee=" ++ ee ++ ",stdout=") ++ reader ++ bytes ",stderr=" ++
      ereader ++ bytes ("], wrap:" ++ cmdOperateFailed))
  | some (.other cmd _) => .error (bytes (cmd ++ " err: ") ++ ereader)
  | none => .ok reader

/-- Where `Exec` is once the command has been started: it reads one pipe to its end,
then the other one, and then waits for the command. -/
inductive Pc
  | readStdout (reader : Bytes)
  | readStderr (reader ereader : Bytes)
  | wait (reader ereader : Bytes)
  | returned (r : Except Bytes Bytes)

/-- `todo` is what the command has still to write. Its ends of the pipes are closed
when it exits. -/
structure State where
  todo : List (Stream × UInt8)
  exited : Bool
  pipe : Stream → Bytes
  pc : Pc

/-- What the calls before the first read come to: an error of one of them, or a
command that runs. -/
inductive Launch
  | stdoutPipe (err : Err)
  | stderrPipe (err : Err)
  | start (err : Err)
  | started (c : Child)

/-- `fmt` with `%+v` -/
def argsText (args : List String) : String := "[" ++ " ".intercalate args ++ "]"

def refused (args : List String) (text : String) (err : Err) : State where
  todo := []
  exited := true
  pipe := fun _ => []
  pc := .returned (.error (bytes (text ++ "[args=" ++ argsText args ++ "]:" ++ err)))

/-- `Exec`, when it begins to read or has already returned. -/
def exec (env : String → Option String) (args : List String) : Launch → State
  | .stdoutPipe err => refused (shellArgs env args) "can not obtain stdout pipe for command" err
  | .stderrPipe err => refused (shellArgs env args) "can not obtain stderr pipe for cmand" err
  | .start err => refused (shellArgs env args) "the command is err" err
  | .started c => ⟨c.writes, false, fun _ => [], .readStdout []⟩

/-- The command writes while there is room in the pipe; a read takes some of what
the pipe holds and finds its end once the command has exited. -/
inductive Step (cap : ℕ+) (exitErr : Option ExitErr) : State → State → Prop
  | write {todo : List (Stream × UInt8)} {pipe : Stream → Bytes} {pc : Pc} (k : Stream)
      (b : UInt8) : (pipe k).length < cap →
      Step cap exitErr ⟨(k, b) :: todo, false, pipe, pc⟩
        ⟨todo, false, Function.update pipe k (pipe k ++ [b]), pc⟩
  | exit {pipe : Stream → Bytes} {pc : Pc} :
      Step cap exitErr ⟨[], false, pipe, pc⟩ ⟨[], true, pipe, pc⟩
  | readOut {todo : List (Stream × UInt8)} {exited : Bool} {pipe : Stream → Bytes}
      {reader xs ys : Bytes} : pipe .stdout = xs ++ ys → xs ≠ [] →
      Step cap exitErr ⟨todo, exited, pipe, .readStdout reader⟩
        ⟨todo, exited, Function.update pipe .stdout ys, .readStdout (reader ++ xs)⟩
  | endOut {todo : List (Stream × UInt8)} {pipe : Stream → Bytes} {reader : Bytes} :
      pipe .stdout = [] →
      Step cap exitErr ⟨todo, true, pipe, .readStdout reader⟩ ⟨todo, true, pipe, .readStderr reader []⟩
  | readErr {todo : List (Stream × UInt8)} {exited : Bool} {pipe : Stream → Bytes}
      {reader ereader xs ys : Bytes} : pipe .stderr = xs ++ ys → xs ≠ [] →
      Step cap exitErr ⟨todo, exited, pipe, .readStderr reader ereader⟩
        ⟨todo, exited, Function.update pipe .stderr ys, .readStderr reader (ereader ++ xs)⟩
  | endErr {todo : List (Stream × UInt8)} {pipe : Stream → Bytes} {reader ereader : Bytes} :
      pipe .stderr = [] →
      Step cap exitErr ⟨todo, true, pipe, .readStderr reader ereader⟩
        ⟨todo, true, pipe, .wait reader ereader⟩
  | wait {todo : List (Stream × UInt8)} {pipe : Stream → Bytes} {reader ereader : Bytes} :
      Step cap exitErr ⟨todo, true, pipe, .wait reader ereader⟩
        ⟨todo, true, pipe, .returned (execResult exitErr reader ereader)⟩

theorem into_cons (k j : Stream) (b : UInt8) (ws : List (Stream × UInt8)) :
    into k ((j, b) :: ws) = (if j = k then [b] else []) ++ into k ws := by
  by_cases h : j = k
  · simp [into, h]
  · simp [into, h]

variable {cap : ℕ+} {c : Child} {s t : State}

/-- What holds while `Exec` runs: nothing of what was written is lost, and it gets past
the first read only when the pipe could hold all of the other stream. -/
inductive Inv (cap : ℕ+) (c : Child) : State → Prop
  | readStdout {todo : List (Stream × UInt8)} {exited : Bool} {pipe : Stream → Bytes}
      {reader : Bytes} : (exited = true → todo = []) → (∀ k, (pipe k).length ≤ cap) →
      reader ++ pipe .stdout ++ into .stdout todo = c.stdout →
      pipe .stderr ++ into .stderr todo = c.stderr →
      Inv cap c ⟨todo, exited, pipe, .readStdout reader⟩
  | readStderr {pipe : Stream → Bytes} {ereader : Bytes} : ereader ++ pipe .stderr = c.stderr →
      c.stderr.length ≤ cap → Inv cap c ⟨[], true, pipe, .readStderr c.stdout ereader⟩
  | wait {pipe : Stream → Bytes} : c.stderr.length ≤ cap →
      Inv cap c ⟨[], true, pipe, .wait c.stdout c.stderr⟩
  | returned {pipe : Stream → Bytes} : c.stderr.length ≤ cap →
      Inv cap c ⟨[], true, pipe, .returned (execResult c.exitErr c.stdout c.stderr)⟩

theorem inv_started (env : String → Option String) (args : List String) :
    Inv cap c (exec env args (.started c)) :=
  Inv.readStdout (fun h => absurd h Bool.false_ne_true) (fun _ => Nat.zero_le _) rfl rfl

theorem length_written {pipe : Stream → Bytes} {k j : Stream} {b : UInt8}
    (hroom : ∀ j, (pipe j).length ≤ cap) (h : (pipe k).length < cap) :
    (Function.update pipe k (pipe k ++ [b]) j).length ≤ cap := by
  by_cases hj : j = k
  · subst hj
    rw [Function.update_self, List.length_append, List.length_singleton]
    omega
  · rw [Function.update_of_ne hj]
    exact hroom j

theorem length_read {pipe : Stream → Bytes} {k j : Stream} {xs ys : Bytes}
    (hroom : ∀ j, (pipe j).length ≤ cap) (h : pipe k = xs ++ ys) :
    (Function.update pipe k ys j).length ≤ cap := by
  by_cases hj : j = k
  · subst hj
    have hle := hroom j
    rw [h, List.length_append] at hle
    rw [Function.update_self]
    omega
  · rw [Function.update_of_ne hj]
    exact hroom j

theorem inv_step (hs : Inv cap c s) (hst : Step cap c.exitErr s t) : Inv cap c t := by
  cases hs with
  | @readStdout todo exited pipe reader hexit hroom hout herr =>
    cases hst with
    | write k b hlt =>
      refine Inv.readStdout (fun h => absurd h Bool.false_ne_true)
        (fun j => length_written hroom hlt) ?_ ?_
      · rw [into_cons] at hout
        cases k with
        | stdout => simpa using hout
        | stderr => simpa using hout
      · rw [into_cons] at herr
        cases k with
        | stdout => simpa using herr
        | stderr => simpa using herr
    | exit => exact Inv.readStdout (fun _ => rfl) hroom hout herr
    | @readOut _ _ _ _ xs ys hpipe _ =>
      refine Inv.readStdout hexit (fun j => length_read hroom hpipe) ?_ ?_
      · rw [hpipe] at hout
        simpa using hout
      · simpa using herr
    | endOut hpipe =>
      obtain rfl := hexit rfl
      have hreader : reader = c.stdout := by simpa [hpipe, into] using hout
      have hstderr : pipe .stderr = c.stderr := by simpa [into] using herr
      subst hreader
      exact Inv.readStderr hstderr (hstderr ▸ hroom .stderr)
  | readStderr herr hle =>
    cases hst with
    | readErr hpipe _ =>
      refine Inv.readStderr ?_ hle
      rw [hpipe] at herr
      simpa using herr
    | endErr hpipe =>
      rw [hpipe, List.append_nil] at herr
      subst herr
      exact Inv.wait hle
  | wait hle =>
    cases hst with
    | wait => exact Inv.returned hle
  | returned hle => cases hst

def work (s : State) : ℕ :=
  2 * s.todo.length + (s.pipe .stdout).length + (s.pipe .stderr).length +
    (if s.exited then 0 else 1) +
    match s.pc with
    | .readStdout _ => 3
    | .readStderr _ _ => 2
    | .wait _ _ => 1
    | .returned _ => 0

theorem work_falls {exitErr : Option ExitErr} (h : Step cap exitErr s t) : work t < work s := by
  cases h with
  | write k b _ =>
    cases k with
    | stdout =>
      simp [work]
      omega
    | stderr =>
      simp [work]
      omega
  | exit => simp [work]
  | readOut hpipe hne =>
    have hpos := List.length_pos_iff.mpr hne
    simp [work, hpipe]
    omega
  | endOut _ => simp [work]
  | readErr hpipe hne =>
    have hpos := List.length_pos_iff.mpr hne
    simp [work, hpipe]
    omega
  | endErr _ => simp [work]
  | wait => simp [work]

theorem exec_goes_on (hle : c.stderr.length ≤ cap) (hs : Inv cap c s) :
    (∃ r, s.pc = .returned r) ∨ ∃ t, Step cap c.exitErr s t := by
  cases hs with
  | @readStdout todo exited pipe reader hexit hroom hout herr =>
    right
    by_cases hpipe : pipe .stdout = []
    · cases exited with
      | true => exact ⟨_, Step.endOut hpipe⟩
      | false =>
        cases todo with
        | nil => exact ⟨_, Step.exit⟩
        | cons w todo =>
          obtain ⟨k, b⟩ := w
          refine ⟨_, Step.write k b ?_⟩
          cases k with
          | stdout =>
            rw [hpipe]
            exact cap.pos
          | stderr =>
            rw [into_cons, if_pos rfl] at herr
            have hlen := congrArg List.length herr
            simp only [List.length_append, List.length_singleton] at hlen
            omega
    · exact ⟨_, Step.readOut (List.append_nil _).symm hpipe⟩
  | @readStderr pipe ereader herr hle =>
    right
    by_cases hpipe : pipe .stderr = []
    · exact ⟨_, Step.endErr hpipe⟩
    · exact ⟨_, Step.readErr (List.append_nil _).symm hpipe⟩
  | wait hle => exact Or.inr ⟨_, Step.wait⟩
  | returned hle => exact Or.inl ⟨_, rfl⟩

def Returned (s : State) : Prop := ∃ r, s.pc = .returned r

/-- `Exec` returns under every schedule, and what it returns without an error is what
the command wrote to its standard output. -/
def ReturnsStdout (cap : ℕ+) (c : Child) (s : State) : Prop :=
  Inevitable (Step cap c.exitErr) Returned s ∧
    ∀ t out, Reaches (Step cap c.exitErr) s t → t.pc = .returned (.ok out) → out = c.stdout

theorem ok_of_execResult {exitErr : Option ExitErr} {reader ereader out : Bytes}
    (h : execResult exitErr reader ereader = .ok out) : out = reader := by
  cases exitErr with
  | none => exact (Except.ok.inj h).symm
  | some e => cases e <;> cases h

theorem returned_of_inv {r : Except Bytes Bytes} (hs : Inv cap c s) (hr : s.pc = .returned r) :
    r = execResult c.exitErr c.stdout c.stderr ∧ c.stderr.length ≤ cap := by
  cases hs with
  | readStdout _ _ _ _ => cases hr
  | readStderr _ _ => cases hr
  | wait _ => cases hr
  | returned hle => exact ⟨(Pc.returned.inj hr).symm, hle⟩

theorem exec_returns_iff (env : String → Option String) (args : List String) (cap : ℕ+)
    (c : Child) :
    ReturnsStdout cap c (exec env args (.started c)) ↔ c.stderr.length ≤ cap := by
  have hinv : ∀ t, Reaches (Step cap c.exitErr) (exec env args (.started c)) t → Inv cap c t :=
    fun t ht => ht.keeps (fun _ _ => inv_step) (inv_started env args)
  constructor
  · rintro ⟨hreturns, -⟩
    obtain ⟨t, ht, r, hr⟩ := hreturns.reached
    exact (returned_of_inv (hinv t ht) hr).2
  · intro hle
    refine ⟨?_, ?_⟩
    · exact inevitable_of_measure work (fun _ _ => inv_step) (fun _ _ _ => work_falls)
        (fun _ => exec_goes_on hle) (inv_started env args)
    · intro t out ht hout
      exact ok_of_execResult (returned_of_inv (hinv t ht) hout).1.symm

/-- With one byte more than the pipe holds, the command waits for room in the pipe, and
`Exec` for the end of the command. -/
def chatty (n : ℕ) : Child where
  writes := List.replicate n (.stderr, 10)
  exitErr := none

theorem length_chatty (n : ℕ) : (chatty n).stderr.length = n := by
  simp [Child.stderr, chatty, into]

theorem chatty_deadlocks : ¬ ReturnsStdout 65536 (chatty 65537)
    (exec (fun _ => none) ["gs_ctl start --pgdata=/opengauss/data"] (.started (chatty 65537))) := by
  rintro ⟨hreturns, -⟩
  obtain ⟨t, ht, r, hr⟩ := hreturns.reached
  have hinv : Inv 65536 (chatty 65537) t := ht.keeps (fun _ _ => inv_step) (inv_started _ _)
  have hle := (returned_of_inv hinv hr).2
  rw [length_chatty] at hle
  exact absurd hle (by decide)

end ShardingOnCloud.Agent.Exec
