import ShardingOnCloud.Lib.ShellWords
import ShardingOnCloud.Agent.Exec
import ShardingOnCloud.Agent.Restore

namespace ShardingOnCloud.Agent.CommandLine

open ShardingOnCloud.Lib.ShellWords ShardingOnCloud.Pitr.Model ShardingOnCloud.Agent.Commands
open ShardingOnCloud.Agent.Exec

def pathText (path : FilePath) : String := "/".intercalate path

/-- `_backupFmt` -/
def backupCmd (backupPath instanceName backupMode : String) (pgData : FilePath)
    (threadsNum : UInt8) (dbPort : UInt16) : String :=
  "gs_probackup backup --backup-path=" ++ backupPath ++ " --instance=" ++ instanceName ++
    " --backup-mode=" ++ backupMode ++ " --pgdata=" ++ pathText pgData ++ " --threads=" ++
    toString threadsNum.toNat ++ " --pgport " ++ toString dbPort.toNat ++ " 2>&1"

/-- `_showFmt` -/
def showCmd (instanceName backupPath backupID : String) : String :=
  "gs_probackup show --instance=" ++ instanceName ++ " --backup-path=" ++ backupPath ++
    " --backup-id=" ++ backupID ++ " --format=json 2>&1"

/-- `_delBackupFmt` -/
def delBackupCmd (backupPath instanceName backupID : String) : String :=
  "gs_probackup delete --backup-path=" ++ backupPath ++ " --instance=" ++ instanceName ++
    " --backup-id=" ++ backupID ++ " 2>&1"

/-- `_restoreFmt` -/
def restoreCmd (backupPath instanceName backupID : String) (pgData : FilePath)
    (threadsNum : UInt8) : String :=
  "gs_probackup restore --backup-path=" ++ backupPath ++ " --instance=" ++ instanceName ++
    " --backup-id=" ++ backupID ++ " --pgdata=" ++ pathText pgData ++ " --threads=" ++
    toString threadsNum.toNat ++ " 2>&1"

def invalidDnThreadsNum : Err := xerror 10015 "Invalid dn threads num."
def missingDnBackupMode : Err := xerror 10016 "Missing dn backup mode."
def invalidDnBackupMode : Err := xerror 10017 "Invalid dn backup mode."
def missingBackupID : Err := xerror 10030 "Missing backup id."

def dbBackModeFull : String := "FULL"
def dbBackModePTrack : String := "PTRACK"

/-- The checks of a `Validate` method, one after the other. -/
def firstError : List (Bool × Err) → Option Err
  | [] => none
  | (failed, err) :: checks => if failed then some err else firstError checks

def login (dbPort : UInt16) (dbName username password : String) : List (Bool × Err) :=
  [(dbPort == 0, Restore.invalidDBPort), (dbName == "", Restore.missingDBName),
    (username == "", Restore.missingUsername), (password == "", Restore.missingPassword)]

def validateBackup (i : BackupIn) : Option Err :=
  firstError (login i.dbPort i.dbName i.username i.password ++
    [(i.dnBackupPath == "", Restore.missingDnBackupPath),
      (i.dnThreadsNum == 0, invalidDnThreadsNum),
      (i.dnBackupMode.text == "", missingDnBackupMode),
      (i.dnBackupMode.text != dbBackModeFull && i.dnBackupMode.text != dbBackModePTrack,
        invalidDnBackupMode),
      (i.instanceName == "", Restore.missingInstance)])

def validateDelete (i : DeleteBackupIn) : Option Err :=
  firstError (login i.dbPort i.dbName i.username i.password ++
    [(i.dnBackupPath == "", Restore.missingDnBackupPath), (i.backupID == "", missingBackupID),
      (i.instanceName == "", Restore.missingInstance)])

def validateShow (i : ShowDetailIn) : Option Err :=
  firstError (login i.dbPort i.dbName i.username i.password ++
    [(i.dnBackupPath == "", Restore.missingDnBackupPath),
      (i.dnBackupID == "", Restore.missingDnBackupID),
      (i.instanceName == "", Restore.missingInstance)])

/-- The requests for which the agent runs `gs_probackup` on a backup. -/
inductive Request
  | backup (i : BackupIn)
  | restore (i : RestoreIn)
  | showDetail (i : ShowDetailIn)
  | delete (i : DeleteBackupIn)

namespace Request

def validate : Request → Option Err
  | .backup i => validateBackup i
  | .restore i => Restore.validate i
  | .showDetail i => validateShow i
  | .delete i => validateDelete i

/-- The command of `AsyncBackup`, `Restore`, `ShowBackup` or `DelBackup`. -/
def command (og : OpenGauss) : Request → String
  | .backup i => backupCmd i.dnBackupPath i.instanceName i.dnBackupMode.text og.pgData
      i.dnThreadsNum i.dbPort
  | .restore i => restoreCmd i.dnBackupPath i.instanceName i.dnBackupID og.pgData i.dnThreadsNum
  | .showDetail i => showCmd i.instanceName i.dnBackupPath i.dnBackupID
  | .delete i => delBackupCmd i.dnBackupPath i.instanceName i.backupID

/-- The words of the command after the program, as they are meant. -/
def words (og : OpenGauss) : Request → List String
  | .backup i =>
    ["backup", "--backup-path=" ++ i.dnBackupPath, "--instance=" ++ i.instanceName,
      "--backup-mode=" ++ i.dnBackupMode.text, "--pgdata=" ++ pathText og.pgData,
      "--threads=" ++ toString i.dnThreadsNum.toNat, "--pgport", toString i.dbPort.toNat]
  | .restore i =>
    ["restore", "--backup-path=" ++ i.dnBackupPath, "--instance=" ++ i.instanceName,
      "--backup-id=" ++ i.dnBackupID, "--pgdata=" ++ pathText og.pgData,
      "--threads=" ++ toString i.dnThreadsNum.toNat]
  | .showDetail i =>
    ["show", "--instance=" ++ i.instanceName, "--backup-path=" ++ i.dnBackupPath,
      "--backup-id=" ++ i.dnBackupID, "--format=json"]
  | .delete i =>
    ["delete", "--backup-path=" ++ i.dnBackupPath, "--instance=" ++ i.instanceName,
      "--backup-id=" ++ i.backupID]

/-- The texts that are put into the command: fields of the request, and the data
directory that the agent is configured with. -/
def inserted (og : OpenGauss) : Request → List String
  | .backup i => [i.dnBackupPath, i.instanceName, pathText og.pgData]
  | .restore i => [i.dnBackupPath, i.instanceName, i.dnBackupID, pathText og.pgData]
  | .showDetail i => [i.instanceName, i.dnBackupPath, i.dnBackupID]
  | .delete i => [i.dnBackupPath, i.instanceName, i.backupID]

end Request

/-- How `gs_probackup` is called on this host: a program and its first arguments. -/
structure Program where
  name : String
  args : List String
  begins : ∀ w ∈ name :: args, Begins w.toList
  plain : ∀ w ∈ name :: args, ∀ c ∈ w.toList, plain c = true

def Program.text (p : Program) : String := " ".intercalate (p.name :: p.args)

/-- The line is one simple command of these words, with the redirection `2>&1`. -/
def SimpleCommand (words : List String) (line : String) : Prop :=
  tokens line.toList = some (words.map (fun w => .word w.toList) ++ redirection)

def RunsAsMeant (env : String → Option String) (p : Program) (og : OpenGauss) (r : Request) : Prop :=
  ∃ line, shellArgs env [r.command og] = ["-c", line] ∧
    SimpleCommand (p.name :: p.args ++ r.words og) line

section Formats

variable (a b c d e g : String)

theorem backup_format :
    ("gs_probackup backup --backup-path=" ++ a ++ " --instance=" ++ b ++ " --backup-mode=" ++ c ++
      " --pgdata=" ++ d ++ " --threads=" ++ e ++ " --pgport " ++ g ++ " 2>&1").toList =
    "gs_probackup".toList ++ arguments (["backup", "--backup-path=" ++ a, "--instance=" ++ b,
      "--backup-mode=" ++ c, "--pgdata=" ++ d, "--threads=" ++ e, "--pgport", g].map
        String.toList) := by
  simp [arguments, redirect]

theorem restore_format :
    ("gs_probackup restore --backup-path=" ++ a ++ " --instance=" ++ b ++ " --backup-id=" ++ c ++
      " --pgdata=" ++ d ++ " --threads=" ++ e ++ " 2>&1").toList =
    "gs_probackup".toList ++ arguments (["restore", "--backup-path=" ++ a, "--instance=" ++ b,
      "--backup-id=" ++ c, "--pgdata=" ++ d, "--threads=" ++ e].map String.toList) := by
  simp [arguments, redirect]

theorem show_format :
    ("gs_probackup show --instance=" ++ a ++ " --backup-path=" ++ b ++ " --backup-id=" ++ c ++
      " --format=json 2>&1").toList =
    "gs_probackup".toList ++ arguments (["show", "--instance=" ++ a, "--backup-path=" ++ b,
      "--backup-id=" ++ c, "--format=json"].map String.toList) := by
  simp [arguments, redirect]

theorem delete_format :
    ("gs_probackup delete --backup-path=" ++ a ++ " --instance=" ++ b ++ " --backup-id=" ++ c ++
      " 2>&1").toList =
    "gs_probackup".toList ++ arguments (["delete", "--backup-path=" ++ a, "--instance=" ++ b,
      "--backup-id=" ++ c].map String.toList) := by
  simp [arguments, redirect]

end Formats

theorem command_text (og : OpenGauss) (r : Request) :
    (r.command og).toList =
      "gs_probackup".toList ++ arguments ((r.words og).map String.toList) := by
  cases r with
  | backup i => exact backup_format _ _ _ _ _ _
  | restore i => exact restore_format _ _ _ _ _
  | showDetail i => exact show_format _ _ _
  | delete i => exact delete_format _ _ _

theorem loadArgs_probackup (env : String → Option String) {cmd : String} {rest : List Char}
    (h : cmd.toList = "gs_probackup".toList ++ rest) :
    loadArgs env [cmd] = [(env "gs_probackup").getD "gs_probackup" ++ String.ofList rest] := by
  have hpre : "gs_probackup".toList <+: cmd.toList := ⟨rest, h.symm⟩
  have hdrop : cmd.toList.drop "gs_probackup".length = rest := by
    rw [h]
    exact List.drop_left' rfl
  rw [loadArgs, if_pos hpre, replaceWord]
  cases env "gs_probackup" with
  | some v => simp only [if_pos hpre, hdrop, Option.getD_some]
  | none =>
    have hcmd : cmd = "gs_probackup" ++ String.ofList rest := by
      apply String.toList_injective
      rw [h, String.toList_append]
      exact congrArg _ String.toList_ofList.symm
    exact congrArg (fun s => [s]) hcmd

theorem intercalate_blank (w : List Char) (ws : List (List Char)) :
    [' '].intercalate (w :: ws) = w ++ ws.flatMap (' ' :: ·) := by
  induction ws generalizing w with
  | nil => simp
  | cons v ws ih =>
    rw [List.intercalate_cons_cons, ih v]
    simp

theorem program_text (p : Program) (ws : List (List Char)) :
    (p.text ++ String.ofList (arguments ws)).toList =
      p.name.toList ++ arguments (p.args.map String.toList ++ ws) := by
  rw [String.toList_append, String.toList_ofList, Program.text, String.toList_intercalate,
    List.map_cons]
  refine (congrArg (· ++ arguments ws) (intercalate_blank _ _)).trans ?_
  simp [arguments]

theorem plain_digit {c : Char} (h : c.isDigit = true) : plain c = true := by
  have hall : ∀ n < 58, 48 ≤ n → plain (Char.ofNat n) = true := by decide
  obtain ⟨hlo, hhi⟩ := Char.isDigit_iff_toNat.mp h
  rw [← Char.ofNat_toNat c]
  exact hall c.toNat (Nat.lt_succ_of_le hhi) hlo

theorem plain_iff_all {ws : List String} : (∀ w ∈ ws, ∀ c ∈ w.toList, plain c = true) ↔
    ws.all (fun w => w.toList.all plain) = true := by
  simp only [List.all_eq_true]

theorem plain_number (n : ℕ) : ∀ c ∈ (toString n).toList, plain c = true := by
  intro c hc
  have hlist : (toString n).toList = Nat.toDigits 10 n := Nat.toList_repr
  rw [hlist] at hc
  exact plain_digit (Nat.isDigit_of_mem_toDigits (by decide) (by decide) hc)

theorem begins_number (n : ℕ) : Begins (toString n).toList := by
  have hplain := plain_number n
  have hlist : (toString n).toList = Nat.toDigits 10 n := Nat.toList_repr
  cases hs : (toString n).toList with
  | nil => exact absurd (hlist.symm.trans hs) Nat.toDigits_ne_nil
  | cons c cs =>
    rw [hs] at hplain hlist
    refine ⟨c, cs, rfl, hplain c List.mem_cons_self, ?_⟩
    rintro rfl
    have hmem : '#' ∈ Nat.toDigits 10 n := hlist ▸ List.mem_cons_self
    exact absurd (Nat.isDigit_of_mem_toDigits (by decide) (by decide) hmem) (by decide)

theorem plain_option (opt value : String) (h : ∀ c ∈ opt.toList, plain c = true) :
    (∀ c ∈ (opt ++ value).toList, plain c = true) ↔ ∀ c ∈ value.toList, plain c = true := by
  rw [String.toList_append, List.forall_mem_append]
  exact and_iff_right h

theorem begins_append {opt : String} (value : String) (h : Begins opt.toList) :
    Begins (opt ++ value).toList := by
  obtain ⟨c, u, hw, hc, hne⟩ := h
  exact ⟨c, u ++ value.toList, by rw [String.toList_append, hw, List.cons_append], hc, hne⟩

theorem begins_option (c : Char) (opt value : String) (h : opt.toList.head? = some c)
    (hc : plain c = true) (hne : c ≠ '#') : Begins (opt ++ value).toList := by
  obtain ⟨u, hu⟩ := List.head?_eq_some_iff.mp h
  exact begins_append value ⟨c, u, hu, hc, hne⟩

theorem begins_words (og : OpenGauss) (r : Request) : ∀ w ∈ r.words og, Begins w.toList := by
  have hopt : ∀ opt value : String, opt.toList.head? = some '-' → Begins (opt ++ value).toList :=
    fun opt value h => begins_option '-' opt value h (by decide) (by decide)
  have hport : Begins "--pgport".toList := ⟨'-', _, rfl, by decide, by decide⟩
  have hjson : Begins "--format=json".toList := ⟨'-', _, rfl, by decide, by decide⟩
  cases r with
  | backup i =>
    have hname : Begins "backup".toList := ⟨'b', _, rfl, by decide, by decide⟩
    simp only [Request.words, List.forall_mem_cons]
    exact ⟨hname, hopt _ _ rfl, hopt _ _ rfl, hopt _ _ rfl, hopt _ _ rfl, hopt _ _ rfl, hport,
      begins_number _, by simp⟩
  | restore i =>
    have hname : Begins "restore".toList := ⟨'r', _, rfl, by decide, by decide⟩
    simp only [Request.words, List.forall_mem_cons]
    exact ⟨hname, hopt _ _ rfl, hopt _ _ rfl, hopt _ _ rfl, hopt _ _ rfl, hopt _ _ rfl, by simp⟩
  | showDetail i =>
    have hname : Begins "show".toList := ⟨'s', _, rfl, by decide, by decide⟩
    simp only [Request.words, List.forall_mem_cons]
    exact ⟨hname, hopt _ _ rfl, hopt _ _ rfl, hopt _ _ rfl, hjson, by simp⟩
  | delete i =>
    have hname : Begins "delete".toList := ⟨'d', _, rfl, by decide, by decide⟩
    simp only [Request.words, List.forall_mem_cons]
    exact ⟨hname, hopt _ _ rfl, hopt _ _ rfl, hopt _ _ rfl, by simp⟩

theorem of_firstError {checks : List (Bool × Err)} (h : firstError checks = none) :
    ∀ x ∈ checks, x.1 = false := by
  induction checks with
  | nil => simp
  | cons x checks ih =>
    obtain ⟨failed, err⟩ := x
    cases failed with
    | true => cases h
    | false => exact List.forall_mem_cons.mpr ⟨rfl, ih h⟩

theorem mode_of_valid {i : BackupIn} (h : validateBackup i = none) :
    i.dnBackupMode.text = dbBackModeFull ∨ i.dnBackupMode.text = dbBackModePTrack := by
  have hmode := of_firstError h (i.dnBackupMode.text != dbBackModeFull &&
    i.dnBackupMode.text != dbBackModePTrack, invalidDnBackupMode) (by simp)
  by_contra hne
  rw [not_or] at hne
  simp [hne.1, hne.2] at hmode

theorem plain_words_iff (og : OpenGauss) {r : Request} (h : r.validate = none) :
    (∀ w ∈ r.words og, ∀ c ∈ w.toList, plain c = true) ↔
      ∀ v ∈ r.inserted og, ∀ c ∈ v.toList, plain c = true := by
  have hpath := fun value => plain_option "--backup-path=" value (List.all_eq_true.mp (by decide))
  have hinstance := fun value => plain_option "--instance=" value (List.all_eq_true.mp (by decide))
  have hid := fun value => plain_option "--backup-id=" value (List.all_eq_true.mp (by decide))
  have hdata := fun value => plain_option "--pgdata=" value (List.all_eq_true.mp (by decide))
  have hthreads := fun value => plain_option "--threads=" value (List.all_eq_true.mp (by decide))
  cases r with
  | backup i =>
    have hname : ∀ c ∈ "backup".toList, plain c = true :=
      List.all_eq_true.mp (by decide)
    have hport : ∀ c ∈ "--pgport".toList, plain c = true :=
      List.all_eq_true.mp (by decide)
    have hmode : ∀ c ∈ ("--backup-mode=" ++ i.dnBackupMode.text).toList, plain c = true := by
      obtain hm | hm := mode_of_valid h
      · rw [hm]
        exact List.all_eq_true.mp (by decide)
      · rw [hm]
        exact List.all_eq_true.mp (by decide)
    have hnumber := plain_number i.dnThreadsNum.toNat
    have hdigits := plain_number i.dbPort.toNat
    simp only [Request.words, Request.inserted, List.forall_mem_cons, hpath, hinstance, hdata,
      hthreads]
    constructor
    · rintro ⟨-, h₁, h₂, -, h₃, -⟩
      exact ⟨h₁, h₂, h₃, by simp⟩
    · rintro ⟨h₁, h₂, h₃, -⟩
      exact ⟨hname, h₁, h₂, hmode, h₃, hnumber, hport, hdigits, by simp⟩
  | restore i =>
    have hname : ∀ c ∈ "restore".toList, plain c = true :=
      List.all_eq_true.mp (by decide)
    have hnumber := plain_number i.dnThreadsNum.toNat
    simp only [Request.words, Request.inserted, List.forall_mem_cons, hpath, hinstance, hid, hdata,
      hthreads]
    constructor
    · rintro ⟨-, h₁, h₂, h₃, h₄, -⟩
      exact ⟨h₁, h₂, h₃, h₄, by simp⟩
    · rintro ⟨h₁, h₂, h₃, h₄, -⟩
      exact ⟨hname, h₁, h₂, h₃, h₄, hnumber, by simp⟩
  | showDetail i =>
    have hname : ∀ c ∈ "show".toList, plain c = true :=
      List.all_eq_true.mp (by decide)
    have hjson : ∀ c ∈ "--format=json".toList, plain c = true :=
      List.all_eq_true.mp (by decide)
    simp only [Request.words, Request.inserted, List.forall_mem_cons, hpath, hinstance, hid]
    constructor
    · rintro ⟨-, h₁, h₂, h₃, -⟩
      exact ⟨h₁, h₂, h₃, by simp⟩
    · rintro ⟨h₁, h₂, h₃, -⟩
      exact ⟨hname, h₁, h₂, h₃, hjson, by simp⟩
  | delete i =>
    have hname : ∀ c ∈ "delete".toList, plain c = true :=
      List.all_eq_true.mp (by decide)
    simp only [Request.words, Request.inserted, List.forall_mem_cons, hpath, hinstance, hid]
    constructor
    · rintro ⟨-, h₁, h₂, h₃, -⟩
      exact ⟨h₁, h₂, h₃, by simp⟩
    · rintro ⟨h₁, h₂, h₃, -⟩
      exact ⟨hname, h₁, h₂, h₃, by simp⟩

variable {env : String → Option String} {p : Program} {og : OpenGauss} {r : Request}

theorem runs_iff_words (henv : (env "gs_probackup").getD "gs_probackup" = p.text) :
    RunsAsMeant env p og r ↔ ∀ w ∈ r.words og, ∀ c ∈ w.toList, plain c = true := by
  have hline : shellArgs env [r.command og] =
      ["-c", p.text ++ String.ofList (arguments ((r.words og).map String.toList))] := by
    rw [shellArgs, loadArgs_probackup env (command_text og r), henv]
  have hname := p.begins p.name List.mem_cons_self
  have hbegins : ∀ w ∈ p.args.map String.toList ++ (r.words og).map String.toList, Begins w := by
    intro w hw
    rw [← List.map_append] at hw
    obtain ⟨v, hv, rfl⟩ := List.mem_map.mp hw
    obtain hv | hv := List.mem_append.mp hv
    · exact p.begins v (List.mem_cons_of_mem _ hv)
    · exact begins_words og r v hv
  have hiff := run_arguments_iff (w := p.name.toList) hbegins
  have hplain := p.plain p.name List.mem_cons_self
  constructor
  · rintro ⟨line, hargs, htokens⟩
    rw [hline] at hargs
    obtain rfl := (List.cons.inj (List.cons.inj hargs).2).1
    rw [SimpleCommand, tokens, program_text, run_word hname hplain] at htokens
    intro w hw
    refine hiff.mp ?_ w.toList (List.mem_append_right _ (List.mem_map_of_mem hw))
    simpa [Function.comp_def] using htokens
  · intro h
    refine ⟨_, hline, ?_⟩
    rw [SimpleCommand, tokens, program_text, run_word hname hplain]
    have hall : ∀ w ∈ p.args.map String.toList ++ (r.words og).map String.toList, ∀ c ∈ w,
        plain c = true := by
      intro w hw
      rw [← List.map_append] at hw
      obtain ⟨v, hv, rfl⟩ := List.mem_map.mp hw
      obtain hv | hv := List.mem_append.mp hv
      · exact p.plain v (List.mem_cons_of_mem _ hv)
      · exact h v hv
    simpa [Function.comp_def] using hiff.mpr hall

/-- A valid request runs the command that is meant just when no text that is inserted
has a character that means something to the shell. -/
theorem request_runs_as_meant_iff (env : String → Option String) (p : Program) (og : OpenGauss)
    (r : Request) (henv : (env "gs_probackup").getD "gs_probackup" = p.text)
    (hvalid : r.validate = none) :
    RunsAsMeant env p og r ↔ ∀ v ∈ r.inserted og, ∀ c ∈ v.toList, plain c = true :=
  (runs_iff_words henv).trans (plain_words_iff og hvalid)

def probackup : Program where
  name := "gs_probackup"
  args := []
  begins := by
    intro w hw
    obtain rfl := List.mem_singleton.mp hw
    exact ⟨'g', _, rfl, by decide, by decide⟩
  plain := plain_iff_all.mpr (by decide)

def sampleShow (path : String) : Request := .showDetail
  { dbPort := 5432, dbName := "omm", username := "gaussdb", password := "secret",
    dnBackupID := "RJ2Q", dnBackupPath := path, instanceName := "ins-default-0" }

def sampleGauss : OpenGauss := newOpenGauss "/bin/sh" ["", "opengauss", "data"]

theorem sample_runs_as_meant :
    RunsAsMeant (fun _ => none) probackup sampleGauss (sampleShow "/home/omm/data") :=
  (request_runs_as_meant_iff (fun _ => none) probackup sampleGauss (sampleShow "/home/omm/data")
    rfl (by decide)).mpr (plain_iff_all.mpr (by decide))

/-- A path with a semicolon brings a command of its own. -/
theorem semicolon_runs_another_command :
    (sampleShow "/tmp;reboot").validate = none ∧
      ¬ RunsAsMeant (fun _ => none) probackup sampleGauss (sampleShow "/tmp;reboot") := by
  refine ⟨by decide, ?_⟩
  rw [runs_iff_words rfl, plain_words_iff sampleGauss (by decide), plain_iff_all]
  decide

end ShardingOnCloud.Agent.CommandLine
