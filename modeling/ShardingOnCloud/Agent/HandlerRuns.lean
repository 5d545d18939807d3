import ShardingOnCloud.Agent.DataDirectory

namespace ShardingOnCloud.Agent.HandlerRuns

open ShardingOnCloud.Lib.Program ShardingOnCloud.Lib.Assertions ShardingOnCloud.Lib.Pool
open ShardingOnCloud.Lib.Directory ShardingOnCloud.Pitr.Model ShardingOnCloud.Agent.Commands
open ShardingOnCloud.Agent.Restore ShardingOnCloud.Agent.RestoreSpec
open ShardingOnCloud.Agent.DataDirectory

def sampleIn : RestoreIn where
  dbPort := 5432
  dbName := "omm"
  username := "gaussdb"
  password := "secret"
  instanceName := "ins-default-0"
  dnBackupPath := "/home/omm/data"
  dnBackupID := "RJ2Q"
  dnThreadsNum := 1

def sampleAgent : OpenGauss := newOpenGauss "/bin/sh" ["", "opengauss", "data"]

variable (og : OpenGauss)

theorem run_sys {α : Type} {a : Sys} {k : SysR a → Sh α} {tr : List SysEv} {x : α} (r : SysR a)
    (h : Run alone (k r) tr x) : Run alone (.call a k) (whole a r [] ++ tr) x := Run.call rfl h

/-- A command that ends well, and one that does not. -/
def ended (cmd : Cmd) : List SysEv := whole (Sys.exec og.shell cmd) (.ok "") [] ++ []

def failed (cmd : Cmd) (err : Err) : List SysEv :=
  whole (Sys.exec og.shell cmd) (.error err) [] ++ []

theorem ended_run (cmd : Cmd) : Run alone (og.command cmd) (ended og cmd) none :=
  run_sys (a := .exec og.shell cmd) (Except.ok "") (.ret _)

theorem failed_run (cmd : Cmd) (err : Err) :
    Run alone (og.command cmd) (failed og cmd err) (some err) :=
  run_sys (a := .exec og.shell cmd) (Except.error err) (.ret _)

def authenticated : List SysEv :=
  whole (Sys.sqlOpen 5432 "gaussdb" "secret" "omm") none [] ++ [] ++
    (whole Sys.dbPing none [] ++ (whole Sys.dbClose none [] ++ []))

theorem auth_run : Run alone (OpenGauss.auth "gaussdb" "secret" "omm" 5432) authenticated none := by
  have hopen : Run alone (gsutilOpen "gaussdb" "secret" "omm" 5432)
      (whole (Sys.sqlOpen 5432 "gaussdb" "secret" "omm") none [] ++ []) none := by
    rw [gsutilOpen, if_neg (by decide), if_neg (by decide), if_neg (by decide)]
    exact run_sys (a := .sqlOpen _ _ _ _) none (.ret _)
  have hping : Run alone (ping "gaussdb" "secret" "omm")
      (whole Sys.dbPing none [] ++ (whole Sys.dbClose none [] ++ [])) none :=
    run_sys (a := .dbPing) none (run_sys (a := .dbClose) none (.ret _))
  rw [OpenGauss.auth, if_neg (by decide)]
  exact run_bind.mpr ⟨_, _, _, hopen, hping, rfl⟩

/-- The request is valid, the user is known and the server can be stopped. -/
def admitted : List Ev :=
  whole Op.bodyParser (.ok sampleIn) (whole Sys.bodyParser (.ok sampleIn) [] ++ []) ++
    (whole (Op.auth "gaussdb" "secret" "omm" 5432) none authenticated ++
      (whole Op.stop none (ended og (.stopOpenGauss og.pgData)) ++ []))

theorem admitted_run : Run (sem og) untilStopped (admitted og) (.ok sampleIn) := by
  have hparse : (sem og).returns .bodyParser (.ok sampleIn)
      (whole Sys.bodyParser (Except.ok sampleIn) [] ++ []) := run_sys _ (.ret _)
  have hvalid : validate sampleIn = none := by decide
  refine Run.call hparse ?_
  simp only [Proc.bind, hvalid]
  have hauth : (sem og).returns (.auth "gaussdb" "secret" "omm" 5432) none authenticated := auth_run
  have hstop : (sem og).returns .stop none (ended og (.stopOpenGauss og.pgData)) := ended_run og _
  exact Run.call hauth (Run.call hstop (.ret _))

theorem ended_path (cmd : Cmd) {isData : Entries → Prop} {c : Op} {r : OpR c} {d t : Entries} :
    (files isData).Path d (whole c r (ended og cmd)) t ↔
      Performs isData d t (.exec og.shell cmd) (.ok "") := by
  rw [path_whole, ended, List.append_nil, path_sys]

theorem admitted_path (isData : Entries → Prop) (d : Entries) :
    (files isData).Path d (admitted og) d := by
  refine World.path_append.mpr ⟨d, path_whole.mpr (path_sys.mpr rfl), ?_⟩
  refine World.path_append.mpr ⟨d, path_whole.mpr ?_, ?_⟩
  · exact ⟨d, rfl, d, rfl, d, rfl, d, rfl, d, rfl, d, rfl, rfl⟩
  · exact World.path_append.mpr ⟨d, (ended_path og _).mpr (Or.inl rfl), rfl⟩

def restored (p : Process) : List SysEv :=
  whole (Sys.asyncExec og.shell (.restore "/home/omm/data" "ins-default-0" "RJ2Q" og.pgData 1))
    (.ok p) [] ++ []

theorem restored_returns (p : Process) :
    (sem og).returns (restoreOp sampleIn) ((outputErrors p).findSome? id) (restored og p) :=
  run_sys (a := .asyncExec _ _) (Except.ok p) (.ret _)

theorem restored_path (p : Process) {isData : Entries → Prop} {r : Option Err} {d t : Entries} :
    (files isData).Path d (whole (restoreOp sampleIn) r (restored og p)) t ↔
      Performs isData d t
        (.asyncExec og.shell (.restore "/home/omm/data" "ins-default-0" "RJ2Q" og.pgData 1))
        (.ok p) := by
  rw [path_whole, restored, List.append_nil, path_sys]

/-- The restore ends with an error, or without one. -/
def badExit : Process := ⟨[], none, some (.exitError "exit status 1")⟩

def goodExit : Process := ⟨[], none, none⟩

def exitFailure : Err := exitText (.exitError "exit status 1")

def movedAway : List Ev := whole Op.mvPgDataToTemp none (ended og (.mv og.pgData og.pgDataTemp))

def movedBack : List Ev := whole Op.mvTempToPgData none (ended og (.mv og.pgDataTemp og.pgData))

def restarted : List Ev := whole Op.start none (ended og (.startOpenGauss og.pgData))

def restoreFailed : List Ev := whole (restoreOp sampleIn) (some exitFailure) (restored og badExit)

def rolledBack : List Ev :=
  admitted og ++ (movedAway og ++ (restoreFailed og ++ (movedBack og ++ restarted og)))

def restoreDone : List Ev := whole (restoreOp sampleIn) none (restored og goodExit)

def cleaned : List Ev := whole Op.cleanPgDataTemp none (ended og (.rmDir og.pgDataTemp))

def cleanFailed : List Ev :=
  whole Op.cleanPgDataTemp (some "busy") (failed og (.rmDir og.pgDataTemp) "busy")

def sent : List Ev := whole Op.success none (whole Sys.sendJSON none [] ++ [])

def notCleaned : List Ev :=
  admitted og ++ (movedAway og ++ (restoreDone og ++ (cleanFailed og ++ restarted og)))

def succeeded : List Ev :=
  admitted og ++ (movedAway og ++ (restoreDone og ++ (cleaned og ++ (restarted og ++ sent))))

variable {og}

theorem restore_run_of {tr₂ tr₃ : List Ev} {err res : Option Err}
    (h : Run (sem og) (whileStopped sampleIn) tr₂ err) (hd : Run (sem og) (restart err) tr₃ res) :
    Run (sem og) restore (admitted og ++ (tr₂ ++ tr₃)) res :=
  run_bind.mpr ⟨_, _, _, admitted_run og, run_bind.mpr ⟨_, _, _, h, hd, rfl⟩, rfl⟩

theorem whileStopped_run_of {status : String} {tr₁ tr₂ : List Ev} {err res : Option Err}
    (h : Run (sem og) (replaceData sampleIn) tr₁ (status, err))
    (hd : Run (sem og) (rollback status err) tr₂ res) :
    Run (sem og) (whileStopped sampleIn) (movedAway og ++ (tr₁ ++ tr₂)) res := by
  have hmv : (sem og).returns .mvPgDataToTemp none (ended og (.mv og.pgData og.pgDataTemp)) :=
    ended_run og _
  refine Run.call hmv ?_
  change Run (sem og) (replaceData sampleIn >>= _) _ _
  exact run_bind.mpr ⟨_, _, _, h, hd, rfl⟩

theorem restarted_run (err : Err) :
    Run (sem og) (restart (some err)) (restarted og) (some err) := by
  have hstart : (sem og).returns .start none (ended og (.startOpenGauss og.pgData)) :=
    ended_run og _
  have hrun : Run (sem og) (restart (some err)) (restarted og ++ []) (some err) :=
    Run.call hstart (.ret _)
  rwa [List.append_nil] at hrun

theorem rolledBack_run (og : OpenGauss) : Run (sem og) restore (rolledBack og)
    (some ("restore failure[err=" ++ exitFailure ++ "]")) := by
  have hrestore : (sem og).returns (restoreOp sampleIn) (some exitFailure) (restored og badExit) :=
    restored_returns og badExit
  have hdata : Run (sem og) (replaceData sampleIn) (restoreFailed og ++ [])
      ("restore failure", some exitFailure) := Run.call hrestore (.ret _)
  have hback : (sem og).returns .mvTempToPgData none (ended og (.mv og.pgDataTemp og.pgData)) :=
    ended_run og _
  have hroll : Run (sem og) (rollback "restore failure" (some exitFailure)) (movedBack og ++ [])
      (some ("restore failure[err=" ++ exitFailure ++ "]")) := by
    rw [rollback, if_pos (by decide)]
    exact Run.call hback (.ret _)
  have hall := restore_run_of (whileStopped_run_of hdata hroll) (restarted_run _)
  simpa only [rolledBack, List.append_nil, List.append_assoc] using hall

theorem rollback_success_run (err : Option Err) :
    Run (sem og) (rollback "restore success" err) [] err := by
  rw [rollback, if_neg (by decide)]
  exact .ret _

theorem restoreDone_returns :
    (sem og).returns (restoreOp sampleIn) none (restored og goodExit) :=
  restored_returns og goodExit

theorem notCleaned_run (og : OpenGauss) : Run (sem og) restore (notCleaned og)
    (some ("pkg.OG.CleanPgDataTemp return err wrap: " ++ "busy")) := by
  have hclean : (sem og).returns .cleanPgDataTemp (some "busy")
      (failed og (.rmDir og.pgDataTemp) "busy") := failed_run og _ _
  have hdata : Run (sem og) (replaceData sampleIn) (restoreDone og ++ (cleanFailed og ++ []))
      ("restore success", some ("pkg.OG.CleanPgDataTemp return err wrap: " ++ "busy")) :=
    Run.call restoreDone_returns (Run.call hclean (.ret _))
  have hall := restore_run_of (whileStopped_run_of hdata (rollback_success_run _)) (restarted_run _)
  simpa only [notCleaned, List.append_nil, List.append_assoc] using hall

theorem succeeded_run (og : OpenGauss) : Run (sem og) restore (succeeded og) none := by
  have hclean : (sem og).returns .cleanPgDataTemp none (ended og (.rmDir og.pgDataTemp)) :=
    ended_run og _
  have hstart : (sem og).returns .start none (ended og (.startOpenGauss og.pgData)) :=
    ended_run og _
  have hsuccess : (sem og).returns .success none (whole Sys.sendJSON none [] ++ []) :=
    run_sys (a := .sendJSON) none (.ret _)
  have hdata : Run (sem og) (replaceData sampleIn)
      (restoreDone og ++ (cleaned og ++ (restarted og ++ (sent ++ []))))
      ("restore success", none) :=
    Run.call restoreDone_returns (Run.call hclean (Run.call hstart (Run.call hsuccess (.ret _))))
  have hall := restore_run_of (whileStopped_run_of hdata (rollback_success_run _)) (.ret none)
  simpa only [succeeded, List.append_nil, List.append_assoc] using hall

/-- A data directory is known by the file with the version of the server. -/
def hasVersion (entries : Entries) : Prop := entries "PG_VERSION" ≠ none

def versionDir : Entries := Function.update (fun _ => none) "PG_VERSION" (some (.file "9.2"))

theorem versionDir_hasVersion : hasVersion versionDir := by simp [hasVersion, versionDir]

def atRest : Entries := Function.update (fun _ => none) "data" (some (.dir versionDir))

def away : Entries :=
  Function.update (Function.update atRest "data" none) "temp" (some (.dir versionDir))

theorem atRest_data : atRest "data" = some (.dir versionDir) := by simp [atRest]

theorem atRest_temp : atRest "temp" = none := by simp [atRest]

theorem atRest_holds : Holds hasVersion (base ["", "opengauss", "data"]) atRest :=
  ⟨versionDir, atRest_data, versionDir_hasVersion⟩

theorem away_temp : away "temp" = some (.dir versionDir) := by simp [away]

theorem movedAway_path : (files hasVersion).Path atRest (movedAway sampleAgent) away :=
  (ended_path _ _).mpr (mv_of_absent atRest_data (by decide) atRest_temp)

theorem restoreFailed_path (d : Entries) (x : Option Entries) : (files hasVersion).Path d
    (restoreFailed sampleAgent) (Function.update d "data" (x.map .dir)) :=
  (restored_path _ _).mpr ⟨x, rfl⟩

end ShardingOnCloud.Agent.HandlerRuns
