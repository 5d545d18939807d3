import Mathlib.Data.List.Forall2
import Mathlib.Data.List.Nodup
import ShardingOnCloud.Pitr.BackupIds

namespace ShardingOnCloud.Pitr.AgentAddresses

open ShardingOnCloud.Lib.Program ShardingOnCloud.Lib.Assertions ShardingOnCloud.Lib.Pool
open ShardingOnCloud.Pitr.Model ShardingOnCloud.Pitr.Calls
open ShardingOnCloud.Pitr.Backup ShardingOnCloud.Pitr.BackupSpec ShardingOnCloud.Pitr.BackupRuns
open ShardingOnCloud.Pitr.Restore ShardingOnCloud.Pitr.RestoreSpec ShardingOnCloud.Pitr.Delete
open ShardingOnCloud.Pitr.BackupIds

/-- The agent that is asked for a backup, about it, for its restore or for its deletion. -/
def address : Act → Option String
  | .backup addr _ | .showDetail addr _ | .restore addr _ | .deleteBackup addr _ => some addr
  | _ => none

/-- Goroutine `i`, which works for one storage node, asks the agent at the address. -/
def AsksAt (tr : List Ev) (i : ℕ) (addr : String) : Prop :=
  ∃ a, address a = some addr ∧ .sub (i, .issue a) ∈ tr

/-- What the functions that ask the agents may have done at some moment. -/
inductive Asks (pk : Packages) (f : Flags) (r : LsBackup) (tr : List Ev) : Prop
  | execBackup : Cut (sem pk) (execBackup f r) tr → Asks pk f r tr
  | checkBackupStatus : Cut (sem pk) (checkBackupStatus f r) tr → Asks pk f r tr
  | execRestore : Cut (sem pk) (execRestore f r) tr → Asks pk f r tr
  | execDelete : Cut (sem pk) (_execDelete f r) tr → Asks pk f r tr

/-- No agent is asked on behalf of two storage nodes. -/
def OneEach (pk : Packages) (f : Flags) (r : LsBackup) : Prop :=
  ∀ tr, Asks pk f r tr → ∀ i j addr, AsksAt tr i addr → AsksAt tr j addr → i = j

def To (addr : String) : Label Act ActR → Prop
  | .issue a => ∀ x, address a = some x → x = addr
  | .reply _ _ => True

def Serves (f : Flags) {α : Type} (sn : StorageNode) (w : Go α) : Prop :=
  Emits alone (onMain (To (agentAddr f sn))) w (fun _ => True)

section Tasks

variable {addr : String} {f : Flags}

theorem to_none {a : Act} (h : address a = none) : AllowsGo (To addr) a := by
  refine ⟨fun x hx => ?_, fun _ => trivial⟩
  rw [h] at hx
  cases hx

theorem to_some {a : Act} (h : address a = some addr) : AllowsGo (To addr) a := by
  refine ⟨fun x hx => ?_, fun _ => trivial⟩
  rw [h, Option.some.injEq] at hx
  exact hx.symm

theorem looping_to (a : Act) (ha : looping a = true) : AllowsGo (To addr) a := by
  refine to_none ?_
  cases a <;> first | rfl | cases ha

theorem _execBackup_serves (sn : StorageNode) : Serves f sn (_execBackup f sn) := by
  refine emits_goAct (to_some rfl) (fun res => emits_goAct (to_none rfl) (fun _ => ?_))
  cases res with
  | error err => exact emits_goAct (to_none rfl) (fun _ => trivial)
  | ok backupID => exact emits_goAct (to_none rfl) (fun _ => trivial)

theorem backupTask_serves (dns : String → Option DataNode) (sn : StorageNode) :
    Serves f sn (backupTask f dns sn) := by
  cases hdn : dns sn.ip with
  | some dn =>
    exact backupTask_found_emits (to_none rfl) (to_none rfl) (fun _ _ => to_none rfl) f sn
      looping_to (fun _ _ => to_some rfl) hdn
  | none =>
    rw [Serves]
    simp only [backupTask, hdn]
    refine updateProgress_emits (I := fun _ => True) looping_to (fun _ _ => ?_) trivial
    refine emits_goCall (to_none rfl) (fun e => ?_)
    cases e

theorem restoreTask_serves (sn : StorageNode) (dn : DataNode) :
    Serves f sn (restoreTask f sn dn) := by
  refine updateProgress_emits (I := fun _ => True) looping_to (fun _ _ => ?_) trivial
  exact checkRestoreProgress_emits f sn dn.backupID (fun _ _ => to_some rfl) (fun _ => to_none rfl)

theorem deleteTask_serves (sn : StorageNode) (dn : DataNode) :
    Serves f sn (deleteTask f sn dn) := by
  refine updateProgress_emits (I := fun _ => True) looping_to (fun _ _ => ?_) trivial
  refine emits_goAct (to_some rfl) (fun err => ?_)
  cases err with
  | some err => exact emits_goAct (to_none rfl) (fun _ => trivial)
  | none => exact emits_goAct (to_none rfl) (fun _ => trivial)

def Staffed (f : Flags) {α : Type} (nodes : List StorageNode) (ws : List (Go α)) : Prop :=
  ∃ sns, sns.Sublist nodes ∧ List.Forall₂ (Serves f) sns ws

theorem staffed_map {α : Type} {task : StorageNode → Go α} (h : ∀ sn, Serves f sn (task sn))
    (nodes : List StorageNode) : Staffed f nodes (nodes.map task) := by
  refine ⟨nodes, List.Sublist.refl _, ?_⟩
  rw [List.forall₂_map_right_iff, List.forall₂_same]
  exact fun sn _ => h sn

theorem staffed_restore (dns : String → Option DataNode) (nodes : List StorageNode) :
    Staffed f nodes (restoreTasks f dns nodes).1 := by
  induction nodes with
  | nil => exact ⟨[], List.Sublist.refl _, List.Forall₂.nil⟩
  | cons sn nodes ih =>
    rw [restoreTasks]
    cases hdn : dns sn.ip with
    | none => exact ⟨[], List.nil_sublist _, List.Forall₂.nil⟩
    | some dn =>
      obtain ⟨sns, hsub, hserves⟩ := ih
      exact ⟨sn :: sns, hsub.cons_cons sn, hserves.cons (restoreTask_serves sn dn)⟩

theorem staffed_delete (dns : String → Option DataNode) (nodes : List StorageNode) :
    Staffed f nodes (execDeleteTasks f dns nodes) := by
  induction nodes with
  | nil => exact ⟨[], List.Sublist.refl _, List.Forall₂.nil⟩
  | cons sn nodes ih =>
    obtain ⟨sns, hsub, hserves⟩ := ih
    rw [execDeleteTasks, List.filterMap_cons]
    cases hdn : dns sn.ip with
    | none => exact ⟨sns, hsub.cons sn, hserves⟩
    | some dn => exact ⟨sn :: sns, hsub.cons_cons sn, hserves.cons (deleteTask_serves sn dn)⟩

end Tasks

/-- Goroutine `k` only asks the agent of node `k` of the list. -/
def Sent (f : Flags) (sns : List StorageNode) : Ev → Prop
  | .sub (k, .issue a) => ∀ x, address a = some x → (sns.map (agentAddr f))[k]? = some x
  | _ => True

section Functions

variable {pk : Packages} {f : Flags} {sns : List StorageNode}

theorem sent_main (a : Act) : Allows (Sent f sns) a := ⟨trivial, fun _ => trivial⟩

theorem path_sent {α : Type} {G : Log → ℕ × Label Act ActR → Prop} {ws : List (Go α)} {log : Log}
    {us : List (Thread Act ActR α)} (hws : List.Forall₂ (Serves f) sns ws)
    (hp : Path G (start ws) log us) : ∀ x ∈ log, Sent f sns (.sub x) := by
  rintro ⟨k, l⟩ hl
  obtain ⟨w, u, hk, -, hpath, hown⟩ := path_thread hp hl
  obtain ⟨hlt, rfl⟩ := List.getElem?_eq_some_iff.mp hk
  have hlt' : k < sns.length := hws.length_eq ▸ hlt
  have hto := (hws.get hlt' hlt).cut (cut_of_path hpath) (.main l) (List.mem_map_of_mem hown)
  cases l with
  | issue a =>
    intro x hx
    rw [List.getElem?_map, List.getElem?_eq_getElem hlt', Option.map_some, hto x hx]
    rfl
  | reply a r => trivial

theorem execBackup_sent {r : LsBackup} {ss : SsBackup} (hss : r.ssBackup = some ss) :
    ∃ sns, sns.Sublist ss.storageNodes ∧
      Emits (sem pk) (Sent f sns) (execBackup f r) (fun _ => True) := by
  obtain ⟨sns, hsub, hws⟩ := staffed_map (f := f) _execBackup_serves ss.storageNodes
  refine ⟨sns, hsub, emits_bind (deref_emits (sent_main _) r.ssBackup) (fun ss' hss' => ?_)⟩
  cases hss.symm.trans hss'
  refine ⟨trivial, ?_, ?_⟩
  · rintro is ⟨us, hp⟩
    exact path_sent hws hp
  · rintro ⟨dns, err⟩ is ⟨us, hp, -⟩
    refine ⟨trivial, path_sent hws hp, ?_⟩
    cases err <;> trivial

theorem render_sent {α : Type} {κ : Chan} {cap : ℕ} {ws : List (Go Unit)}
    {k : List κ.Elem → Cli α} {Q : α → Prop} (hws : List.Forall₂ (Serves f) sns ws)
    (hk : ∀ r, Emits (sem pk) (Sent f sns) (k r) Q) :
    Emits (sem pk) (Sent f sns) (.call (.goRender κ cap ws) k) Q := by
  refine ⟨trivial, ?_, ?_⟩
  · rintro is ⟨us, hp⟩
    exact path_sent hws hp
  · rintro r is ⟨us, hp, -⟩
    exact ⟨trivial, path_sent hws hp, hk r⟩

theorem checkBackupStatus_sent {r : LsBackup} {ss : SsBackup} (hss : r.ssBackup = some ss) :
    ∃ sns, sns.Sublist ss.storageNodes ∧
      Emits (sem pk) (Sent f sns) (checkBackupStatus f r) (fun _ => True) := by
  obtain ⟨sns, hsub, hws⟩ :=
    staffed_map (f := f) (backupTask_serves (dataNodeMap r.dnList)) ss.storageNodes
  refine ⟨sns, hsub, emits_bind (deref_emits (sent_main _) r.ssBackup) (fun ss' hss' => ?_)⟩
  cases hss.symm.trans hss'
  dsimp only
  split
  · trivial
  · refine render_sent hws (fun dnResult => ?_)
    change Emits (sem pk) (Sent f sns) (deref r.info >>= _) _
    refine emits_bind (deref_emits (sent_main _) r.info) (fun info _ => ?_)
    refine emits_act (sent_main _) (fun _ => ?_)
    trivial

theorem execRestore_sent {r : LsBackup} {ss : SsBackup} (hss : r.ssBackup = some ss) :
    ∃ sns, sns.Sublist ss.storageNodes ∧
      Emits (sem pk) (Sent f sns) (execRestore f r) (fun _ => True) := by
  obtain ⟨sns, hsub, hws⟩ :=
    staffed_restore (f := f) (dataNodeMap r.dnList) ss.storageNodes
  refine ⟨sns, hsub, emits_bind (deref_emits (sent_main _) r.ssBackup) (fun ss' hss' => ?_)⟩
  cases hss.symm.trans hss'
  dsimp only
  split
  · refine emits_bind (deref_emits (sent_main _) r.info) (fun info _ => ?_)
    trivial
  split
  · next tasks hts =>
    rw [hts] at hws
    refine ⟨trivial, ?_, fun _ _ hr => hr.elim⟩
    rintro is ⟨us, hp⟩
    exact path_sent hws hp
  · next tasks hts =>
    rw [hts] at hws
    refine render_sent hws (fun dnResult => ?_)
    change Emits (sem pk) (Sent f sns) (if _ then _ else _) _
    split <;> trivial

theorem _execDelete_sent {r : LsBackup} {ss : SsBackup} (hss : r.ssBackup = some ss) :
    ∃ sns, sns.Sublist ss.storageNodes ∧
      Emits (sem pk) (Sent f sns) (_execDelete f r) (fun _ => True) := by
  obtain ⟨sns, hsub, hws⟩ :=
    staffed_delete (f := f) (dataNodeMap r.dnList) ss.storageNodes
  refine ⟨sns, hsub, emits_bind (deref_emits (sent_main _) r.ssBackup) (fun ss' hss' => ?_)⟩
  cases hss.symm.trans hss'
  dsimp only
  split
  · trivial
  · refine render_sent hws (fun dnResult => ?_)
    change Emits (sem pk) (Sent f sns) (if _ then _ else _) _
    split <;> trivial

theorem asks_sent {r : LsBackup} {ss : SsBackup} (hss : r.ssBackup = some ss) {tr : List Ev}
    (h : Asks pk f r tr) :
    ∃ sns, sns.Sublist ss.storageNodes ∧ ∀ e ∈ tr, Sent f sns e := by
  cases h with
  | execBackup hcut =>
    obtain ⟨sns, hsub, hsent⟩ := execBackup_sent hss
    exact ⟨sns, hsub, hsent.cut hcut⟩
  | checkBackupStatus hcut =>
    obtain ⟨sns, hsub, hsent⟩ := checkBackupStatus_sent hss
    exact ⟨sns, hsub, hsent.cut hcut⟩
  | execRestore hcut =>
    obtain ⟨sns, hsub, hsent⟩ := execRestore_sent hss
    exact ⟨sns, hsub, hsent.cut hcut⟩
  | execDelete hcut =>
    obtain ⟨sns, hsub, hsent⟩ := _execDelete_sent hss
    exact ⟨sns, hsub, hsent.cut hcut⟩

theorem oneEach_of_nodup {r : LsBackup} {ss : SsBackup} (hss : r.ssBackup = some ss)
    (hnd : (ss.storageNodes.map (agentAddr f)).Nodup) : OneEach pk f r := by
  rintro tr h i j addr ⟨a, ha, hi⟩ ⟨b, hb, hj⟩
  obtain ⟨sns, hsub, hsent⟩ := asks_sent hss h
  have hai := hsent _ hi addr ha
  have hbj := hsent _ hj addr hb
  have hlt := (List.getElem?_eq_some_iff.mp hai).1
  exact (List.getElem?_inj hlt (hnd.sublist (hsub.map _))).mp (hai.trans hbj.symm)

end Functions

/-- What `convertLocalhost` replaces. -/
def localhost : String := "127.0.0.1"

/-- When the addresses of the nodes are different, they still are after the conversion. -/
def Unaliased (f : Flags) (nodes : List StorageNode) : Prop :=
  (nodes.map (·.ip)).Nodup → localhost ∈ nodes.map (·.ip) → f.host ∈ nodes.map (·.ip) →
    f.host = localhost

section Addresses

variable {f : Flags} {nodes : List StorageNode}

theorem convertLocalhost_eq (f : Flags) (ip : String) :
    convertLocalhost f ip = if ip = localhost then f.host else ip := rfl

theorem agentAddr_inj {a b : StorageNode} :
    agentAddr f a = agentAddr f b ↔ convertLocalhost f a.ip = convertLocalhost f b.ip := by
  rw [agentAddr, agentAddr, String.append_left_inj, String.append_left_inj]

theorem nodup_of_unaliased (hnd : (nodes.map (·.ip)).Nodup) (h : Unaliased f nodes) :
    (nodes.map (agentAddr f)).Nodup := by
  refine List.Nodup.map_on (fun a ha b hb hab => ?_) hnd.of_map
  have hin : ∀ {x}, x ∈ nodes → x.ip ∈ nodes.map (·.ip) := fun hx => List.mem_map_of_mem hx
  refine List.inj_on_of_nodup_map hnd ha hb ?_
  rw [agentAddr_inj, convertLocalhost_eq, convertLocalhost_eq] at hab
  split at hab
  · next hloc =>
    split at hab
    · next hloc' => rw [hloc, hloc']
    · rw [hloc, ← hab]
      exact (h hnd (hloc ▸ hin ha) (hab ▸ hin hb)).symm
  · split at hab
    · next hloc' =>
      rw [hloc', hab]
      exact h hnd (hloc' ▸ hin hb) (hab ▸ hin ha)
    · exact hab

end Addresses

section Check

variable {pk : Packages} {f : Flags}

/-- The check only ends well when the addresses of the nodes are different, and then it may. -/
theorem available_iff {info : Option BackupMetaInfo} {dnList : List DataNode} {ss : SsBackup} :
    (∃ tr, Run (sem pk) (checkAgentServerStatus f ⟨info, dnList, some ss⟩) tr true) ↔
      (ss.storageNodes.map (·.ip)).Nodup := by
  constructor
  · rintro ⟨tr, h⟩
    by_contra hnd
    obtain ⟨tr₁, ss', tr₂, h₁, h₂, -⟩ := run_bind.mp h
    obtain ⟨-, rfl⟩ := run_ret.mp h₁
    obtain ⟨tr₃, available, tr₄, -, h₄, -⟩ := run_bind.mp h₂
    rw [if_neg hnd] at h₄
    cases (run_ret.mp h₄).2
  · intro hnd
    refine ⟨checked f ss.storageNodes, run_bind.mpr ⟨[], ss, _, .ret _, ?_, rfl⟩⟩
    refine run_bind.mpr ⟨_, true, [], checkStatuses_run f ss.storageNodes true, ?_, by simp⟩
    rw [if_pos hnd]
    exact .ret _

def backupRequest (f : Flags) (sn : StorageNode) : Act :=
  .backup (agentAddr f sn)
    { dbPort := sn.port, dbName := sn.database, username := sn.username,
      password := sn.password, dnBackupPath := f.backupPath, dnThreadsNum := f.threadsNum,
      dnBackupMode := f.backupMode, instanceName := defaultInstance }

theorem execBackup_asks {info : Option BackupMetaInfo} {dnList : List DataNode} {ss : SsBackup}
    {i j : ℕ} (hij : i ≠ j) {a b : StorageNode} (ha : ss.storageNodes[i]? = some a)
    (hb : ss.storageNodes[j]? = some b) :
    ∃ tr, Asks pk f ⟨info, dnList, some ss⟩ tr ∧ AsksAt tr i (agentAddr f a) ∧
      AsksAt tr j (agentAddr f b) := by
  have hstart : ∀ {k : ℕ} {sn : StorageNode}, ss.storageNodes[k]? = some sn →
      (start (ss.storageNodes.map (_execBackup f)))[k]? = some (.run (_execBackup f sn)) := by
    intro k sn hk
    simp [start, hk]
  have hroom : ∀ {log : Log} {k : ℕ} {sn : StorageNode}, (∀ n, (n, .issue .panic) ∉ log) →
      Room .dataNode ss.storageNodes.length log (k, .issue (backupRequest f sn)) := by
    intro log k sn h
    exact ⟨fun hsome => (Bool.false_ne_true hsome).elim, h⟩
  have hissue : ∀ sn, ∃ t, Thread.Step (.run (_execBackup f sn)) (.issue (backupRequest f sn)) t :=
    fun sn => ⟨_, Thread.Step.issue _ _⟩
  obtain ⟨t, ht⟩ := hissue a
  obtain ⟨u, hu⟩ := hissue b
  have hfirst := Path.snoc Path.nil (hstart ha) ht (hroom (by simp))
  have hb' : ((start (ss.storageNodes.map (_execBackup f))).set i t)[j]? =
      some (.run (_execBackup f b)) := by
    rw [List.getElem?_set_ne hij, hstart hb]
  have hsecond := Path.snoc hfirst hb' hu (hroom (by simp [backupRequest]))
  refine ⟨_, .execBackup (Cut.inside ⟨_, hsecond⟩), ⟨backupRequest f a, rfl, ?_⟩,
    ⟨backupRequest f b, rfl, ?_⟩⟩
  · exact List.mem_cons_of_mem _ (List.mem_map_of_mem (by simp))
  · exact List.mem_cons_of_mem _ (List.mem_map_of_mem (by simp))

/-- Two nodes whose addresses are different before the conversion of the local one, and not
after it. -/
theorem exists_alias {nodes : List StorageNode} (h : ¬ Unaliased f nodes) :
    (nodes.map (·.ip)).Nodup ∧ ∃ (i j : ℕ) (a b : StorageNode), i ≠ j ∧ nodes[i]? = some a ∧
      nodes[j]? = some b ∧ agentAddr f a = agentAddr f b := by
  simp only [Unaliased, Classical.not_imp] at h
  obtain ⟨hnd, hlocal, hhost, hne⟩ := h
  obtain ⟨a, ha, hia⟩ := List.mem_map.mp hlocal
  obtain ⟨b, hb, hib⟩ := List.mem_map.mp hhost
  obtain ⟨i, hi⟩ := List.getElem?_of_mem ha
  obtain ⟨j, hj⟩ := List.getElem?_of_mem hb
  refine ⟨hnd, i, j, a, b, ?_, hi, hj, ?_⟩
  · rintro rfl
    cases hi.symm.trans hj
    exact hne (hib.symm.trans hia)
  · rw [agentAddr_inj, hia, hib, convertLocalhost_eq, convertLocalhost_eq, if_pos rfl, if_neg hne]

/-- One agent is asked for each node if and only if the address of the proxy does not stand
beside the local one. -/
theorem one_agent_per_node_iff (pk : Packages) (f : Flags) (info : Option BackupMetaInfo)
    (dnList : List DataNode) (ss : SsBackup) :
    (∀ tr, Run (sem pk) (checkAgentServerStatus f ⟨info, dnList, some ss⟩) tr true →
      OneEach pk f ⟨info, dnList, some ss⟩) ↔ Unaliased f ss.storageNodes := by
  constructor
  · intro h
    by_contra halias
    obtain ⟨hnd, i, j, a, b, hij, hi, hj, haddr⟩ := exists_alias halias
    obtain ⟨tr, hrun⟩ := available_iff.mpr hnd
    obtain ⟨tr', hasks, hai, hbj⟩ := execBackup_asks hij hi hj
    exact hij (h tr hrun tr' hasks i j _ hai (haddr ▸ hbj))
  · intro h tr hrun
    exact oneEach_of_nodup rfl (nodup_of_unaliased (available_iff.mp ⟨tr, hrun⟩) h)

/-- A local node, and one at the address of the proxy. -/
def aliased : SsBackup where
  status := ssBackupStatusWaiting
  clusterInfo := none
  storageNodes := [⟨"127.0.0.1", 5432, "omm", "omm", "postgres", ""⟩,
    ⟨"10.0.0.1", 5433, "omm", "omm", "postgres", ""⟩]

theorem not_all_nodes_have_own_agent :
    (∃ tr, Run (sem .documented) (checkAgentServerStatus .sample ⟨none, [], some aliased⟩) tr true) ∧
    ¬ OneEach .documented .sample ⟨none, [], some aliased⟩ := by
  refine ⟨available_iff.mpr (by decide), fun h => ?_⟩
  obtain ⟨tr, hasks, hi, hj⟩ :=
    @execBackup_asks .documented .sample none [] aliased 0 1 (by decide) _ _ rfl rfl
  exact absurd (h tr hasks 0 1 _ hi hj) (by decide)

end Check

end ShardingOnCloud.Pitr.AgentAddresses
