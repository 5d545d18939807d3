import ShardingOnCloud.Agent.RestoreSpec
import ShardingOnCloud.Lib.Directory

namespace ShardingOnCloud.Agent.DataDirectory

open ShardingOnCloud.Lib.Program ShardingOnCloud.Lib.Assertions ShardingOnCloud.Lib.Pool
open ShardingOnCloud.Lib.Directory ShardingOnCloud.Pitr.Model ShardingOnCloud.Agent.Commands
open ShardingOnCloud.Agent.Restore ShardingOnCloud.Agent.RestoreSpec

def base (path : FilePath) : String := path.getLast?.getD ""

theorem newOpenGauss_data (shell : String) (pgData : FilePath) :
    (newOpenGauss shell pgData).pgData = pgData := rfl

theorem newOpenGauss_temp (shell : String) (pgData : FilePath) :
    base (newOpenGauss shell pgData).pgDataTemp = "temp" := by
  simp [base, newOpenGauss]

/-- A server changes what is in its data directory, which is still a data directory
then. -/
def Served (isData : Entries → Prop) (name : String) (d t : Entries) : Prop :=
  t = d ∨ ∃ old new, d name = some (.dir old) ∧ (isData old → isData new) ∧
    t = Function.update d name (some (.dir new))

/-- What may be left of a directory when it could not be removed. -/
def Left (x y : Option Tree) : Prop :=
  y = none ∨ y = x ∨ ∃ old new, x = some (.dir old) ∧ y = some (.dir new) ∧
    ∀ name, old name = none → new name = none

/-- What a command does to the directory that the data directory of the agent is in, when
it has ended. A command that is reported as failed may have done its work, or a
part of it. -/
def Performs (isData : Entries → Prop) (d t : Entries) : (a : Sys) → SysR a → Prop
  | .exec _ (.mv src dst), .ok _ => Mv (base src) (base dst) d t
  | .exec _ (.mv src dst), .error _ => t = d ∨ Mv (base src) (base dst) d t
  | .exec _ (.rmDir path), .ok _ => d (base path) ≠ none ∧ t = Function.update d (base path) none
  | .exec _ (.rmDir path), .error _ =>
    ∃ x, Left (d (base path)) x ∧ t = Function.update d (base path) x
  | .exec _ (.startOpenGauss pgData), _ => Served isData (base pgData) d t
  | .exec _ (.stopOpenGauss pgData), _ => Served isData (base pgData) d t
  | .asyncExec _ (.restore _ _ _ pgData _), .ok p => match p.exitErr with
    | none => ∃ new, isData new ∧ t = Function.update d (base pgData) (some (.dir new))
    | some _ => ∃ x : Option Entries, t = Function.update d (base pgData) (x.map .dir)
  | _, _ => t = d

def files (isData : Entries → Prop) : World Entries Ev where
  step d
    | .sub (.main (.reply a r)), t => Performs isData d t a r
    | _, t => t = d

variable {og : OpenGauss} {isData : Entries → Prop}

theorem path_sys {d t : Entries} {a : Sys} {r : SysR a} :
    (files isData).Path d ((whole a r [] : List SysEv).map .sub) t ↔ Performs isData d t a r := by
  simp only [whole, List.map_nil, List.cons_append, List.nil_append, List.map_cons, World.Path]
  constructor
  · rintro ⟨u, rfl, v, hv, rfl⟩
    exact hv
  · intro h
    exact ⟨d, rfl, t, h, rfl⟩

theorem path_whole {d t : Entries} {c : Op} {r : OpR c} {is : List SysEv} :
    (files isData).Path d (whole c r is) t ↔ (files isData).Path d (is.map .sub) t := by
  rw [whole, List.cons_append]
  constructor
  · rintro ⟨u, rfl, h⟩
    obtain ⟨v, hv, w, hw, rfl⟩ := World.path_append.mp h
    cases hw
    exact hv
  · intro h
    exact ⟨d, rfl, World.path_append.mpr ⟨t, h, t, rfl, rfl⟩⟩

/-- What the calls of the handler do to the directory. -/
def Effect (og : OpenGauss) (isData : Entries → Prop) (d t : Entries) : (c : Op) → OpR c → Prop
  | .mvPgDataToTemp, none => Mv (base og.pgData) (base og.pgDataTemp) d t
  | .mvPgDataToTemp, some _ => t = d ∨ Mv (base og.pgData) (base og.pgDataTemp) d t
  | .mvTempToPgData, none => Mv (base og.pgDataTemp) (base og.pgData) d t
  | .mvTempToPgData, some _ => t = d ∨ Mv (base og.pgDataTemp) (base og.pgData) d t
  | .cleanPgDataTemp, none =>
    d (base og.pgDataTemp) ≠ none ∧ t = Function.update d (base og.pgDataTemp) none
  | .cleanPgDataTemp, some _ =>
    ∃ x, Left (d (base og.pgDataTemp)) x ∧ t = Function.update d (base og.pgDataTemp) x
  | .restore _ _ _ _, none =>
    ∃ new, isData new ∧ t = Function.update d (base og.pgData) (some (.dir new))
  | .restore _ _ _ _, some _ =>
    ∃ x : Option Entries, t = Function.update d (base og.pgData) (x.map .dir)
  | .start, _ => Served isData (base og.pgData) d t
  | .stop, _ => Served isData (base og.pgData) d t
  | _, _ => t = d

theorem command_run {cmd : Cmd} {is : List SysEv} {r : Option Err}
    (h : Run alone (og.command cmd) is r) :
    (∃ out, r = none ∧ is = whole (Sys.exec og.shell cmd) (.ok out) []) ∨
      ∃ err, r = some err ∧ is = whole (Sys.exec og.shell cmd) (.error err) [] := by
  obtain ⟨answer, tr, h₁, rfl⟩ := run_alone h
  cases answer with
  | error err =>
    obtain ⟨rfl, rfl⟩ := run_ret.mp h₁
    exact Or.inr ⟨err, rfl, List.append_nil _⟩
  | ok out =>
    obtain ⟨rfl, rfl⟩ := run_ret.mp h₁
    exact Or.inl ⟨out, rfl, List.append_nil _⟩

theorem restore_run {x y z : String} {n : UInt8} {is : List SysEv} {r : Option Err}
    (h : Run alone (og.restore x y z n) is r) :
    ∃ p, r = (outputErrors p).findSome? id ∧
      is = whole (Sys.asyncExec og.shell (.restore x y z og.pgData n)) (.ok p) [] := by
  obtain ⟨answer, tr, h₁, rfl⟩ := run_alone h
  cases answer with
  | error err =>
    obtain ⟨e, -⟩ := run_call.mp h₁
    cases e
  | ok p =>
    obtain ⟨rfl, rfl⟩ := run_ret.mp h₁
    exact ⟨p, rfl, List.append_nil _⟩

theorem exitErr_reported {p : Process} (h : (outputErrors p).findSome? id = none) :
    p.exitErr = none := by
  cases hexit : p.exitErr with
  | none => rfl
  | some e =>
    rw [List.findSome?_eq_none_iff] at h
    have hnone := h (some (exitText e)) (by simp [outputErrors, hexit])
    cases hnone

/-- An event that is not the end of a command. -/
def Quiet : SysEv → Prop
  | .main (.reply (.exec _ _) _) | .main (.reply (.asyncExec _ _) _) => False
  | _ => True

theorem quiet_path {is : List SysEv} (h : ∀ x ∈ is, Quiet x) {d t : Entries}
    (ht : (files isData).Path d (is.map .sub) t) : t = d := by
  induction is generalizing d with
  | nil => exact ht.symm
  | cons x is ih =>
    obtain ⟨u, hu, ht⟩ := ht
    have hx := h x (by simp)
    have hu' : u = d := by
      rcases x with (c | ⟨c, r⟩) | e
      · exact hu
      · cases c <;> first | exact hu | exact hx.elim
      · cases e
    subst hu'
    exact ih (fun y hy => h y (by simp [hy])) ht

theorem gsutilOpen_quiet (user password dbName : String) (dbPort : UInt16) :
    Emits alone Quiet (gsutilOpen user password dbName dbPort) (fun _ => True) := by
  unfold gsutilOpen
  split
  · trivial
  split
  · trivial
  split
  · trivial
  exact emits_alone trivial (fun _ => trivial) (fun _ => trivial)

theorem auth_quiet (user password dbName : String) (dbPort : UInt16) :
    Emits alone Quiet (OpenGauss.auth user password dbName dbPort) (fun _ => True) := by
  unfold OpenGauss.auth
  split
  · trivial
  · refine emits_bind (gsutilOpen_quiet user password dbName dbPort) (fun err _ => ?_)
    cases err with
    | some err => trivial
    | none =>
      refine emits_alone trivial (fun _ => trivial) (fun err => ?_)
      cases err with
      | some err => trivial
      | none => exact emits_alone trivial (fun _ => trivial) (fun _ => trivial)

theorem method_effect {c : Op} {r : OpR c} {is : List SysEv} (h : (sem og).returns c r is)
    {d t : Entries} (ht : (files isData).Path d (whole c r is) t) : Effect og isData d t c r := by
  rw [path_whole] at ht
  have hcommand : ∀ {cmd : Cmd} {r : Option Err}, Run alone (og.command cmd) is r →
      (∃ out, r = none ∧ Performs isData d t (.exec og.shell cmd) (.ok out)) ∨
        ∃ err, r = some err ∧ Performs isData d t (.exec og.shell cmd) (.error err) := by
    intro cmd r hrun
    obtain ⟨out, hr, rfl⟩ | ⟨err, hr, rfl⟩ := command_run hrun
    · exact Or.inl ⟨out, hr, path_sys.mp ht⟩
    · exact Or.inr ⟨err, hr, path_sys.mp ht⟩
  cases c with
  | bodyParser =>
    obtain ⟨parsed, tr, h₁, rfl⟩ := run_alone h
    obtain ⟨rfl, rfl⟩ := run_ret.mp h₁
    exact path_sys.mp ht
  | auth x y z n => exact quiet_path ((auth_quiet x y z n).cut h.cut) ht
  | stop => obtain ⟨out, rfl, hp⟩ | ⟨err, rfl, hp⟩ := hcommand h <;> exact hp
  | start => obtain ⟨out, rfl, hp⟩ | ⟨err, rfl, hp⟩ := hcommand h <;> exact hp
  | mvPgDataToTemp => obtain ⟨out, rfl, hp⟩ | ⟨err, rfl, hp⟩ := hcommand h <;> exact hp
  | mvTempToPgData => obtain ⟨out, rfl, hp⟩ | ⟨err, rfl, hp⟩ := hcommand h <;> exact hp
  | cleanPgDataTemp => obtain ⟨out, rfl, hp⟩ | ⟨err, rfl, hp⟩ := hcommand h <;> exact hp
  | restore x y z n =>
    obtain ⟨p, hr, rfl⟩ := restore_run h
    have hp := path_sys.mp ht
    simp only [Performs] at hp
    cases r with
    | none =>
      rw [exitErr_reported hr.symm] at hp
      exact hp
    | some err =>
      -- the command may have ended well even so
      cases hexit : p.exitErr with
      | none =>
        rw [hexit] at hp
        obtain ⟨new, -, heq⟩ := hp
        exact ⟨some new, heq⟩
      | some e =>
        rw [hexit] at hp
        exact hp
  | success =>
    obtain ⟨answer, tr, h₁, rfl⟩ := run_alone h
    obtain ⟨rfl, rfl⟩ := run_ret.mp h₁
    exact path_sys.mp ht

def Holds (isData : Entries → Prop) (name : String) (d : Entries) : Prop :=
  ∃ entries, d name = some (.dir entries) ∧ isData entries

theorem served_other {name other : String} {d t : Entries} (h : Served isData name d t)
    (hne : other ≠ name) : t other = d other := by
  obtain rfl | ⟨old, new, -, -, rfl⟩ := h
  · rfl
  · rw [Function.update_of_ne hne]

theorem served_holds {name : String} {d t : Entries} (h : Served isData name d t)
    (hd : Holds isData name d) : Holds isData name t := by
  obtain rfl | ⟨old, new, hold, hnew, rfl⟩ := h
  · exact hd
  · obtain ⟨entries, hentries, hdata⟩ := hd
    obtain rfl : old = entries := by simpa [hold] using hentries
    exact ⟨new, Function.update_self _ _ _, hnew hdata⟩

/-- The calls that neither move, remove nor restore a directory. -/
def harmless : Op → Bool
  | .bodyParser | .auth _ _ _ _ | .stop | .start | .success => true
  | _ => false

theorem harmless_served {c : Op} {r : OpR c} {d t : Entries} (hc : harmless c = true)
    (h : Effect og isData d t c r) : Served isData (base og.pgData) d t := by
  cases c with
  | bodyParser => exact Or.inl h
  | auth x y z n => exact Or.inl h
  | stop => exact h
  | start => exact h
  | success => exact Or.inl h
  | _ => cases hc

theorem calls_harmless {P : Op → Bool} (hP : ∀ c, P c = true → harmless c = true) {tr : List Ev}
    (h : Calls (sem og) P tr) {d t : Entries} (ht : (files isData).Path d tr t) :
    (∀ name, name ≠ base og.pgData → t name = d name) ∧
      (Holds isData (base og.pgData) d → Holds isData (base og.pgData) t) := by
  induction h generalizing d with
  | none =>
    cases ht
    exact ⟨fun _ _ => rfl, id⟩
  | call hc hr _ ih =>
    obtain ⟨u, hu, ht⟩ := World.path_append.mp ht
    have hserved := harmless_served (hP _ hc) (method_effect hr hu)
    obtain ⟨hother, hholds⟩ := ih ht
    refine ⟨fun name hne => ?_, fun hd => hholds (served_holds hserved hd)⟩
    rw [hother name hne, served_other hserved hne]

theorem early_harmless (c : Op) (hc : early c = true) : harmless c = true := by
  cases c <;> first | rfl | cases hc

end ShardingOnCloud.Agent.DataDirectory
