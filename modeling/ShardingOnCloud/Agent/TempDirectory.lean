import Mathlib.Data.List.DropRight
import ShardingOnCloud.Agent.Commands
import ShardingOnCloud.Lib.Paths

namespace ShardingOnCloud.Agent.TempDirectory

open ShardingOnCloud.Lib.Paths ShardingOnCloud.Pitr.Model ShardingOnCloud.Agent.Commands

structure Flags where
  pgData : String
  tlsCrt : String
  tlsKey : String
  envSourceFile : String

/-- The surroundings of the agent. The variables are those after the source file is loaded. -/
structure Surroundings where
  loadEnv : String → Option Err
  shell : String
  pgData : String
  notExist : String → Bool

/-- `strings.Trim(s, " ")` -/
def trimBlanks (s : String) : String :=
  String.ofList ((s.toList.dropWhile (· = ' ')).rdropWhile (· = ' '))

def trimSlash (pgData : String) : String :=
  if ['/'].isSuffixOf pgData.toList then join (split pgData).dropLast else pgData

/-- The path of the flag, or else that of the variable. -/
def givenPgData (flags : Flags) (s : Surroundings) : String :=
  if flags.pgData = "" then s.pgData else flags.pgData

def lookupPgData (flags : Flags) (s : Surroundings) : Except Err String :=
  let pgData := givenPgData flags s
  if pgData = "" then
    .error "PGDATA: no database directory specified and environment variable PGDATA unset"
  else if s.notExist pgData then
    .error ("PGDATA: " ++ pgData ++ " the database directory does not exist")
  else .ok (trimSlash (trimBlanks pgData))

def checkTls (flags : Flags) (s : Surroundings) : Option Err :=
  if trimBlanks flags.tlsCrt = "" ∨ trimBlanks flags.tlsKey = "" then
    some "lack of HTTPs certificate"
  else if s.notExist flags.tlsCrt then some "TLS certificate file does not exist"
  else if s.notExist flags.tlsKey then some "TLS key file does not exist"
  else none

def loadEnv (flags : Flags) (s : Surroundings) : Option Err :=
  if flags.envSourceFile ≠ "" then
    (s.loadEnv flags.envSourceFile).map ("load env source file error: " ++ ·)
  else none

/-- `main` up to `pkg.Init`, whose arguments it returns. An error is a panic. -/
def main (flags : Flags) (s : Surroundings) : Except Err (String × String) :=
  match loadEnv flags s with
  | some err => .error err
  | none =>
    if s.shell = "" then .error "shell does not exist"
    else
      match lookupPgData flags s with
      | .error err => .error err
      | .ok pgData =>
        match checkTls flags s with
        | some err => .error err
        | none => .ok (s.shell, pgData)

def openGauss (shell pgData : String) : OpenGauss := newOpenGauss shell (split pgData)

/-- The temporary directory is neither the data directory nor inside it. -/
def Apart (cwd : FilePath) (og : OpenGauss) : Prop := ¬ Within cwd og.pgData og.pgDataTemp

instance (cwd : FilePath) (og : OpenGauss) : Decidable (Apart cwd og) :=
  inferInstanceAs (Decidable (¬ _))

def lastPart (path : String) : String := (split path).getLast (split_ne_nil path)

/-- The last parts of a path that put the temporary directory into the data directory. -/
def forbidden : List String := ["", ".", "..", "temp"]

theorem lookupPgData_ok {flags : Flags} {s : Surroundings} {pgData : String}
    (h : lookupPgData flags s = .ok pgData) :
    pgData = trimSlash (trimBlanks (givenPgData flags s)) := by
  dsimp only [lookupPgData] at h
  split at h
  · simp only [reduceCtorEq] at h
  split at h
  · simp only [reduceCtorEq] at h
  · exact (Except.ok.inj h).symm

theorem main_ok {flags : Flags} {s : Surroundings} {shell pgData : String}
    (h : main flags s = .ok (shell, pgData)) :
    pgData = trimSlash (trimBlanks (givenPgData flags s)) := by
  unfold main at h
  split at h
  · simp only [reduceCtorEq] at h
  split at h
  · simp only [reduceCtorEq] at h
  split at h
  · simp only [reduceCtorEq] at h
  · rename_i hlookup
    split at h
    · simp only [reduceCtorEq] at h
    · rw [← (Prod.mk.inj (Except.ok.inj h)).2]
      exact lookupPgData_ok hlookup

theorem apart_iff (cwd : FilePath) (shell pgData : String) :
    Apart cwd (openGauss shell pgData) ↔ lastPart pgData ∉ forbidden := by
  have hdata : (openGauss shell pgData).pgData = (split pgData).dropLast ++ [lastPart pgData] :=
    (List.dropLast_append_getLast (split_ne_nil pgData)).symm
  have htemp : (openGauss shell pgData).pgDataTemp = (split pgData).dropLast ++ ["temp"] := rfl
  have hforbidden : lastPart pgData ∈ forbidden ↔
      lastPart pgData ∈ special ∨ lastPart pgData = "temp" := by
    simp [forbidden, special, or_assoc]
  rw [Apart, hdata, htemp, within_sibling_iff cwd _ (by decide), hforbidden]

/-- The temporary directory is where it should be if and only if what is left of the path ends
with the name of a directory other than `temp`. -/
theorem temp_directory_apart_iff (cwd : FilePath) {flags : Flags} {s : Surroundings}
    {shell pgData : String} (h : main flags s = .ok (shell, pgData)) :
    Apart cwd (openGauss shell pgData) ↔
      lastPart (trimSlash (trimBlanks (givenPgData flags s))) ∉ forbidden := by
  rw [apart_iff, main_ok h]

def sampleFlags (pgData : String) : Flags := ⟨pgData, "tls.crt", "tls.key", ""⟩

def sampleMachine : Surroundings where
  loadEnv _ := none
  shell := "/bin/bash"
  pgData := ""
  notExist _ := false

theorem omm_apart : main (sampleFlags " /data/omm/") sampleMachine = .ok ("/bin/bash", "/data/omm") ∧
    Apart [] (openGauss "/bin/bash" "/data/omm") := by
  have hmain : main (sampleFlags " /data/omm/") sampleMachine = .ok ("/bin/bash", "/data/omm") := by
    decide
  exact ⟨hmain, (temp_directory_apart_iff [] hmain).mpr (by decide)⟩

/-- With a second slash at the end the temporary directory is `/data/omm/temp`. -/
theorem not_all_directories_apart :
    main (sampleFlags "/data/omm//") sampleMachine = .ok ("/bin/bash", "/data/omm/") ∧
    ¬ Apart [] (openGauss "/bin/bash" "/data/omm/") := by
  decide

end ShardingOnCloud.Agent.TempDirectory
