import ShardingOnCloud.Pitr.Delete
import ShardingOnCloud.Pitr.StorageSpec
import ShardingOnCloud.Pitr.RestoreRecord

namespace ShardingOnCloud.Pitr.BackupIds

open ShardingOnCloud.Lib.Program ShardingOnCloud.Lib.Assertions ShardingOnCloud.Lib.Pool
open ShardingOnCloud.Pitr.Model ShardingOnCloud.Pitr.Calls ShardingOnCloud.Pitr.LocalStorage
open ShardingOnCloud.Pitr.Backup ShardingOnCloud.Pitr.BackupSpec ShardingOnCloud.Pitr.RecordStore
open ShardingOnCloud.Pitr.Restore ShardingOnCloud.Pitr.RestoreSpec ShardingOnCloud.Pitr.StorageSpec
open ShardingOnCloud.Pitr.Delete ShardingOnCloud.Pitr.BackupRuns ShardingOnCloud.Pitr.RestoreRuns
open ShardingOnCloud.Pitr.RestoreRecord (Reads)

/-- The backup ID that the agent of the node returned to goroutine `i` of `execBackup`. -/
def Returned (f : Flags) (sn : StorageNode) (tr : List Ev) (i : ℕ) (id : String) : Prop :=
  ∃ x, .sub (i, .reply (.backup (agentAddr f sn) x) (.ok id)) ∈ tr

/-- The agent that a request about a backup goes to, and the backup ID in it. -/
def request : Act → Option (String × String)
  | .showDetail addr x => some (addr, x.dnBackupID)
  | .deleteBackup addr x => some (addr, x.backupID)
  | .restore addr x => some (addr, x.dnBackupID)
  | _ => none

/-- Only requests that satisfy `W` are made. -/
def Requests (W : String × String → Prop) : Label Act ActR → Prop
  | .issue a => ∀ q, request a = some q → W q
  | .reply _ _ => True

section Tasks

variable {W : String × String → Prop}

theorem requests_none {a : Act} (h : request a = none) : AllowsGo (Requests W) a := by
  refine ⟨fun q hq => ?_, fun _ => trivial⟩
  rw [h] at hq
  cases hq

theorem requests_some {a : Act} {q : String × String} (h : request a = some q) (hW : W q) :
    AllowsGo (Requests W) a := by
  refine ⟨fun q' hq => ?_, fun _ => trivial⟩
  rw [h, Option.some.injEq] at hq
  rwa [← hq]

theorem looping_requests (a : Act) (ha : looping a = true) : AllowsGo (Requests W) a := by
  refine requests_none ?_
  cases a <;> first | rfl | cases ha

variable {f : Flags} {sn : StorageNode} {dn : DataNode}
  (hW : W (agentAddr f sn, dn.backupID))

include hW in
theorem backupTask_requests {dns : String → Option DataNode} (hdn : dns sn.ip = some dn) :
    Emits alone (onMain (Requests W)) (backupTask f dns sn) (fun _ => True) := by
  refine backupTask_found_emits (requests_none rfl) (requests_none rfl)
    (fun _ _ => requests_none rfl) f sn looping_requests (fun x hx => ?_) hdn
  exact requests_some rfl (hx ▸ hW)

include hW in
theorem doDelete_requests : Emits alone (onMain (Requests W)) (doDelete f sn dn) (fun _ => True) := by
  refine emits_goAct (requests_none rfl) (fun _ => emits_goAct (requests_some rfl hW) (fun err => ?_))
  cases err with
  | some err =>
    exact emits_goAct (requests_none rfl) (fun _ => emits_goCall (requests_none rfl)
      (fun _ => trivial))
  | none =>
    exact emits_goAct (requests_none rfl) (fun _ => emits_goCall (requests_none rfl)
      (fun _ => trivial))

include hW in
theorem deleteTask_requests :
    Emits alone (onMain (Requests W)) (deleteTask f sn dn) (fun _ => True) := by
  refine updateProgress_emits (I := fun _ => True) looping_requests (fun _ _ => ?_) trivial
  refine emits_goAct (requests_some rfl hW) (fun err => ?_)
  cases err with
  | some err => exact emits_goAct (requests_none rfl) (fun _ => trivial)
  | none => exact emits_goAct (requests_none rfl) (fun _ => trivial)

include hW in
theorem restoreTask_requests :
    Emits alone (onMain (Requests W)) (restoreTask f sn dn) (fun _ => True) := by
  refine updateProgress_emits (I := fun _ => True) looping_requests (fun _ _ => ?_) trivial
  refine checkRestoreProgress_emits f sn dn.backupID (fun x hx => ?_)
    (fun _ => requests_none rfl)
  exact requests_some rfl (hx ▸ hW)

theorem removeRecord_requests (filename : String) :
    Emits alone (onMain (Requests W)) (removeRecord filename) (fun _ => True) := by
  refine emits_goAct (requests_none rfl) (fun r => ?_)
  cases r <;> trivial

end Tasks

/-- The tasks of the nodes that have a data node, when all of them have one. -/
theorem filterMap_get {α β : Type} {g : α → Option β} {xs : List α}
    (h : ∀ x ∈ xs, g x ≠ none) (k : ℕ) : (xs.filterMap g)[k]? = xs[k]?.bind g := by
  induction xs generalizing k with
  | nil => simp
  | cons x xs ih =>
    obtain ⟨y, hy⟩ := Option.ne_none_iff_exists'.mp (h x (by simp))
    rw [List.filterMap_cons_some hy]
    cases k with
    | zero => simp [hy]
    | succ k => simpa using ih (fun z hz => h z (by simp [hz])) k

theorem restoreTasks_at {f : Flags} {dns : String → Option DataNode} {sns : List StorageNode}
    {k : ℕ} {p : Go Unit} (h : (restoreTasks f dns sns).1[k]? = some p) :
    ∃ sn dn, sns[k]? = some sn ∧ dns sn.ip = some dn ∧ p = restoreTask f sn dn := by
  induction sns generalizing k with
  | nil => simp [restoreTasks] at h
  | cons sn sns ih =>
    rw [restoreTasks] at h
    cases hdn : dns sn.ip with
    | none => simp [hdn] at h
    | some dn =>
      rw [hdn] at h
      cases k with
      | zero => exact ⟨sn, dn, rfl, hdn, by simpa using h.symm⟩
      | succ k => simpa using ih (by simpa using h)

variable {pk : Packages}

/-- The record has the backup ID of every node under the address of the node. -/
structure Keeps (f : Flags) (tr : List Ev) (nodes : List StorageNode) (r : LsBackup) : Prop where
  nodes_eq : ∃ ss, r.ssBackup = some ss ∧ ss.storageNodes = nodes
  own : ∀ j sn, nodes[j]? = some sn →
    ∃ dn, dataNodeMap r.dnList sn.ip = some dn ∧ Returned f sn tr j dn.backupID

theorem ip_index {nodes : List StorageNode} (hnd : (nodes.map (·.ip)).Nodup) {i j : ℕ}
    {a b : StorageNode} (hi : nodes[i]? = some a) (hj : nodes[j]? = some b) (h : a.ip = b.ip) :
    i = j := by
  have hlt : i < (nodes.map (·.ip)).length := by
    rw [List.length_map]
    exact (List.getElem?_eq_some_iff.mp hi).1
  apply (List.getElem?_inj hlt hnd).mp
  rw [List.getElem?_map, List.getElem?_map, hi, hj, Option.map_some, Option.map_some, h]

theorem mem_map_get {α β : Type} {g : α → β} {xs : List α} {k : ℕ} {y : β}
    (h : (xs.map g)[k]? = some y) : ∃ x, xs[k]? = some x ∧ y = g x := by
  rw [List.getElem?_map, Option.map_eq_some_iff] at h
  obtain ⟨x, hx, rfl⟩ := h
  exact ⟨x, hx, rfl⟩

/-- A goroutine of `execBackup` that succeeds reports the ID that it was given. -/
theorem execBackup_thread {f : Flags} {sn : StorageNode} {ls : List (Label Act ActR)}
    (h : Thread.Path (.run (_execBackup f sn)) ls (.run (.ret none))) :
    ∃ x id t dn, dn.ip = sn.ip ∧ dn.backupID = id ∧
      ls = [.issue (.backup (agentAddr f sn) x), .reply (.backup (agentAddr f sn) x) (.ok id),
        .issue .now, .reply .now t, .issue (.sendDataNode dn), .reply (.sendDataNode dn) ()] := by
  obtain ⟨res, ls₁, rfl, h₁⟩ := Thread.path_call_done h
  obtain ⟨t, ls₂, rfl, h₂⟩ := Thread.path_call_done h₁
  cases res with
  | error err =>
    obtain ⟨_, ls₃, rfl, h₃⟩ := Thread.path_call_done h₂
    cases (Thread.path_run_ret.mp h₃).2
  | ok id =>
    obtain ⟨_, ls₃, rfl, h₃⟩ := Thread.path_call_done h₂
    obtain ⟨rfl, -⟩ := Thread.path_run_ret.mp h₃
    exact ⟨_, id, t, _, rfl, rfl, rfl⟩

theorem execBackup_inv {f : Flags} {r r' : LsBackup} {tr : List Ev}
    (h : Run (sem pk) (execBackup f r) tr (r', none)) :
    ∃ ss dns log, r.ssBackup = some ss ∧
      (sem pk).returns (.goWait ss.storageNodes.length (ss.storageNodes.map (_execBackup f)))
        (dns, none) log ∧
      tr = whole (.goWait ss.storageNodes.length (ss.storageNodes.map (_execBackup f)))
        (dns, none) log ∧
      r' = { r with
        dnList := r.dnList ++ dns
        ssBackup := some { ss with status := ssBackupStatusRunning } } := by
  obtain ⟨tr₁, ss, tr₂, hderef, h₁, rfl⟩ := run_bind.mp h
  obtain ⟨rfl, hss⟩ := run_deref hderef
  obtain ⟨⟨dns, err⟩, log, tr₃, hret, h₂, rfl⟩ := run_call.mp h₁
  cases err with
  | some err => cases (run_ret.mp h₂).2
  | none =>
    obtain ⟨rfl, hr⟩ := run_ret.mp h₂
    cases hr
    exact ⟨ss, dns, log, hss, hret, by simp, rfl⟩

section Asking

variable {f : Flags} {nodes : List StorageNode} {cap : ℕ} {us : List (Thread Act ActR (Option Err))}
  {log : Log}

/-- What goroutine `j` has done when `Wait` has returned nil. -/
theorem asked_thread (hpath : Path (Room .dataNode cap) (start (nodes.map (_execBackup f))) log us)
    (hgroup : pk.group.Returns (us.map Thread.result) none) {j : ℕ} {sn : StorageNode}
    (hj : nodes[j]? = some sn) :
    ∃ x id t dn, dn.ip = sn.ip ∧ dn.backupID = id ∧ own j log =
      [.issue (.backup (agentAddr f sn) x), .reply (.backup (agentAddr f sn) x) (.ok id),
        .issue .now, .reply .now t, .issue (.sendDataNode dn), .reply (.sendDataNode dn) ()] := by
  have hprogram : (nodes.map (_execBackup f))[j]? = some (_execBackup f sn) := by
    rw [List.getElem?_map, hj, Option.map_some]
  obtain ⟨u, hu, hown⟩ := path_program hpath hprogram
  have hnone := (pk.group.nil_iff _ _ hgroup).mp rfl u.result
    (List.mem_map_of_mem (List.mem_of_getElem? hu))
  rw [Thread.result_eq_some.mp hnone] at hown
  exact execBackup_thread hown

/-- A data node on the channel carries the ID that the agent of its node returned. -/
theorem asked_sent (hpath : Path (Room .dataNode cap) (start (nodes.map (_execBackup f))) log us)
    (hgroup : pk.group.Returns (us.map Thread.result) none) {dn : DataNode}
    (hdn : dn ∈ contents .dataNode log) :
    ∃ i sn x, nodes[i]? = some sn ∧ dn.ip = sn.ip ∧
      (i, .reply (.backup (agentAddr f sn) x) (.ok dn.backupID)) ∈ log := by
  obtain ⟨i, l, hl, hrec⟩ := mem_contents.mp hdn
  obtain ⟨p, u, hp, -, -, hown⟩ := path_thread hpath hl
  obtain ⟨sn, hsn, -⟩ := mem_map_get hp
  obtain ⟨x, id, t, dn', hip, hid, heq⟩ := asked_thread hpath hgroup hsn
  have hdn' : dn = dn' := by
    rw [heq] at hown
    simp only [List.mem_cons, List.not_mem_nil, or_false] at hown
    rcases hown with rfl | rfl | rfl | rfl | rfl | rfl <;> first | cases hrec; rfl | cases hrec
  subst hdn'
  refine ⟨i, sn, x, hsn, hip, mem_own.mp ?_⟩
  rw [heq, hid]
  simp

end Asking

theorem mem_whole_sub {c : Call} {r : Reply c} {log : Log} {x : ℕ × Label Act ActR} :
    .sub x ∈ whole c r log ↔ x ∈ log := by
  simp [whole]

theorem returned_unique {f : Flags} {r r' : LsBackup} {ss : SsBackup} {tr : List Ev}
    (hss : r.ssBackup = some ss) (h : Run (sem pk) (execBackup f r) tr (r', none)) {j : ℕ}
    {sn : StorageNode} (hj : ss.storageNodes[j]? = some sn) : ∃! id, Returned f sn tr j id := by
  obtain ⟨ss', dns, log, hss', ⟨us, hpath, hgroup, rfl⟩, rfl, -⟩ := execBackup_inv h
  cases hss.symm.trans hss'
  obtain ⟨x, id, t, dn, -, -, heq⟩ := asked_thread hpath hgroup hj
  refine ⟨id, ⟨x, mem_whole_sub.mpr (mem_own.mp ?_)⟩, ?_⟩
  · rw [heq]
    simp
  · rintro id' ⟨x', hx'⟩
    have hown := mem_own.mpr (mem_whole_sub.mp hx')
    rw [heq] at hown
    simp at hown
    exact hown.2

theorem execBackup_keeps {f : Flags} {r r' : LsBackup} {ss : SsBackup} {tr : List Ev}
    (hss : r.ssBackup = some ss) (hnd : (ss.storageNodes.map (·.ip)).Nodup)
    (h : Run (sem pk) (execBackup f r) tr (r', none)) : Keeps f tr ss.storageNodes r' := by
  obtain ⟨ss', dns, log, hss', ⟨us, hpath, hgroup, rfl⟩, rfl, rfl⟩ := execBackup_inv h
  cases hss.symm.trans hss'
  refine ⟨⟨_, rfl, rfl⟩, fun j sn hj => ?_⟩
  -- the data node of the goroutine is on the channel
  obtain ⟨x, id, t, dn, hip, -, heq⟩ := asked_thread hpath hgroup hj
  have hmem : dn ∈ contents .dataNode log := by
    refine mem_contents.mpr ⟨j, .reply (.sendDataNode dn) (), mem_own.mp ?_, rfl⟩
    rw [heq]
    simp
  obtain ⟨dn', hdn', hip', hmap⟩ := dataNodeMap_append_of_mem r.dnList ⟨dn, hmem, hip⟩
  -- and no other goroutine sends one of the same IP
  obtain ⟨i, sn', x', hi, hsn', hreply⟩ := asked_sent hpath hgroup hdn'
  obtain rfl := ip_index hnd hi hj (hsn'.symm.trans hip')
  cases hi.symm.trans hj
  exact ⟨dn', hmap, x', mem_whole_sub.mpr hreply⟩

def Reports (dn : DataNode) : Label Act ActR → Prop
  | .reply (.sendDataNode dn') _ => Same dn dn'
  | _ => True

theorem reports_other (dn : DataNode) {a : Act} (ha : ∀ dn', a ≠ .sendDataNode dn') :
    AllowsGo (Reports dn) a := by
  cases a with
  | sendDataNode dn' => exact absurd rfl (ha dn')
  | _ => exact ⟨trivial, fun _ => trivial⟩

theorem backupTask_reports {f : Flags} {dns : String → Option DataNode} {sn : StorageNode}
    {dn : DataNode} (hdn : dns sn.ip = some dn) :
    Emits alone (onMain (Reports dn)) (backupTask f dns sn) (fun _ => True) := by
  refine backupTask_found_emits (reports_other dn nofun) (reports_other dn nofun)
    (fun dn' h => ⟨trivial, fun _ => h⟩) f sn (fun a ha => reports_other dn ?_)
    (fun _ _ => reports_other dn nofun) hdn
  rintro dn' rfl
  cases ha

theorem checkBackupStatus_keeps {f f' : Flags} {tr tr' : List Ev} {nodes : List StorageNode}
    (hnd : (nodes.map (·.ip)).Nodup) {r : LsBackup} (hr : Keeps f tr nodes r)
    {x : LsBackup × BackupStatus} (h : Run (sem pk) (checkBackupStatus f' r) tr' x) :
    Keeps f tr nodes x.1 := by
  obtain ⟨⟨ss₀, hss₀, rfl⟩, hown⟩ := hr
  have hchecked : StatusChecked pk f' r x :=
    (checkBackupStatus_emits (P := fun _ => True) (L := fun _ => True) f' r
      ⟨trivial, fun _ => trivial⟩ ⟨trivial, fun _ => trivial⟩
      (fun _ _ => ⟨trivial, fun _ => trivial⟩) (fun _ _ _ => trivial)
      (fun _ _ => ⟨trivial, fun _ => trivial⟩)).run h
  obtain ⟨ss, hss, -, rfl⟩ | ⟨ss, info, dnResult, log, hss, ⟨us, hpath, hstop, rfl⟩, rfl⟩ := hchecked
  · exact ⟨⟨ss₀, hss₀, rfl⟩, hown⟩
  cases hss₀.symm.trans hss
  refine ⟨⟨_, rfl, rfl⟩, fun j sn hj => ?_⟩
  -- the renderer has waited until the goroutine has sent its data node
  have htask : (ss₀.storageNodes.map (backupTask f' (dataNodeMap r.dnList)))[j]? =
      some (backupTask f' (dataNodeMap r.dnList) sn) := by
    rw [List.getElem?_map, hj, Option.map_some]
  obtain ⟨u, -, hpathj⟩ := path_program hpath htask
  have hmarked : (own j log).any marks = true := by
    refine pk.renderer.all_done _ hstop _ (List.mem_map.mpr ⟨j, ?_, rfl⟩)
    exact List.mem_range.mpr (List.getElem?_eq_some_iff.mp htask).1
  have hsent := sent_contents (backupTask_sent hpathj hmarked)
  obtain ⟨dn', hdn', hip', hmap⟩ := dataNodeMap_append_of_mem [] hsent
  -- a data node of this IP comes from this goroutine
  obtain ⟨i, l, hl, hrec⟩ := mem_contents.mp hdn'
  obtain ⟨p, v, hp, -, hpathi, hmem⟩ := path_thread hpath hl
  obtain ⟨sn', hi, rfl⟩ := mem_map_get hp
  obtain ⟨dn, hdn, hret⟩ := hown i sn' hi
  have hreports : Reports dn l :=
    (backupTask_reports hdn).cut (cut_of_path hpathi) (.main l) (List.mem_map_of_mem hmem)
  have hsame : Same dn dn' := by
    cases l with
    | issue a => cases hrec
    | reply a res =>
      cases a <;> first | cases hrec; exact hreports | cases hrec
  have hip : sn'.ip = sn.ip := by
    rw [← hip', hsame.1, (dataNodeMap_mem hdn).2]
  obtain rfl := ip_index hnd hi hj hip
  cases hi.symm.trans hj
  refine ⟨dn', by simpa using hmap, ?_⟩
  rwa [hsame.2]

theorem writeByJSON_stored {f : Flags} {name : String} {r : LsBackup} {tr : List Ev}
    (h : Run (sem pk) (writeByJSON f name r) tr none) {s t : Store} (hp : store.Path s tr t) :
    t name = some (.record r) := by
  obtain ⟨-, rfl⟩ := writeByJSON_inv h
  obtain ⟨-, -, u₁, -, u₂, -, u₃, rfl, rfl⟩ := hp
  exact Function.update_self _ _ _

/-- What becomes of a record: its status is checked, and it is stored and read again
while nobody else writes its file. -/
inductive Later (pk : Packages) (r : LsBackup) : LsBackup → Prop
  | refl : Later pk r r
  | checked {f : Flags} {tr : List Ev} {r' : LsBackup} {x : LsBackup × BackupStatus} :
      Later pk r r' → Run (sem pk) (checkBackupStatus f r') tr x → Later pk r x.1
  | reloaded {f f' : Flags} {name : String} {tr tr' : List Ev} {s t u : Store} {r' b : LsBackup}
      {list : List LsBackup} :
      Later pk r r' → Run (sem pk) (writeByJSON f name r') tr none → store.Path s tr t →
      u name = t name → Run (sem pk) (readAll f') tr' (.ok list) → Reads u tr' → b ∈ list →
      b.info.map (·.fileName) = some name → Later pk r b

theorem reloaded_same {f f' : Flags} {name : String} {tr tr' : List Ev} {s t u : Store}
    {r b : LsBackup} {list : List LsBackup} (hw : Run (sem pk) (writeByJSON f name r) tr none)
    (hs : store.Path s tr t) (hu : u name = t name)
    (hread : Run (sem pk) (readAll f') tr' (.ok list)) (hr : Reads u tr') (hb : b ∈ list)
    (hname : b.info.map (·.fileName) = some name) :
    b.dnList = r.dnList ∧ b.ssBackup = r.ssBackup := by
  obtain ⟨entries, rfl, -, rfl⟩ := StorageSpec.readAll_run.mp hread
  obtain ⟨entry, hentry, hrec⟩ := List.mem_filterMap.mp hb
  rw [recordOf_fileName hrec, Option.some.injEq] at hname
  obtain ⟨-, -, r', info, hfile, -, rfl⟩ := recordOf_eq_some.mp hrec
  have hstored := hr entries (by simp [did, whole]) entry hentry r' hfile
  rw [hname, hu, writeByJSON_stored hw hs, Option.some.injEq, File.record.injEq] at hstored
  rw [hstored]
  exact ⟨rfl, rfl⟩

theorem later_keeps {f : Flags} {tr : List Ev} {nodes : List StorageNode}
    (hnd : (nodes.map (·.ip)).Nodup) {r r' : LsBackup} (hr : Keeps f tr nodes r)
    (h : Later pk r r') : Keeps f tr nodes r' := by
  induction h with
  | refl => exact hr
  | checked _ hrun ih => exact checkBackupStatus_keeps hnd ih hrun
  | reloaded _ hw hs hu hread hreads hb hname ih =>
    obtain ⟨hdn, hss⟩ := reloaded_same hw hs hu hread hreads hb hname
    exact ⟨hss ▸ ih.nodes_eq, hdn ▸ ih.own⟩

/-- The requests about backups are made by goroutines, and those of goroutine `k`
satisfy `W k`. -/
def Sends (W : ℕ → String × String → Prop) : Ev → Prop
  | .main (.issue (.act a)) => request a = none
  | .sub (k, l) => Requests (W k) l
  | _ => True

section Uses

variable {W : ℕ → String × String → Prop}

theorem sends_main {a : Act} (h : request a = none) : Allows (Sends W) a :=
  ⟨h, fun _ => trivial⟩

theorem path_requests {α : Type} {G : Log → ℕ × Label Act ActR → Prop} {ws : List (Go α)} {log : Log}
    {us : List (Thread Act ActR α)} (hp : Path G (start ws) log us)
    (hws : ∀ k p, ws[k]? = some p → Emits alone (onMain (Requests (W k))) p (fun _ => True)) :
    ∀ x ∈ log, Sends W (.sub x) := by
  rintro ⟨k, l⟩ hl
  obtain ⟨p, u, hk, -, hpath, hown⟩ := path_thread hp hl
  exact (hws k p hk).cut (cut_of_path hpath) (.main l) (List.mem_map_of_mem hown)

variable {f : Flags} {r : LsBackup} {ss : SsBackup}

theorem checkBackupStatus_sends (hss : r.ssBackup = some ss)
    (hW : ∀ k sn, ss.storageNodes[k]? = some sn →
      ∃ dn, dataNodeMap r.dnList sn.ip = some dn ∧ W k (agentAddr f sn, dn.backupID)) :
    Emits (sem pk) (Sends W) (checkBackupStatus f r) (fun _ => True) := by
  refine emits_bind (deref_emits (sends_main rfl) r.ssBackup) (fun ss' hss' => ?_)
  cases hss.symm.trans hss'
  have htasks : ∀ k p, (ss.storageNodes.map (backupTask f (dataNodeMap r.dnList)))[k]? = some p →
      Emits alone (onMain (Requests (W k))) p (fun _ => True) := by
    intro k p hp
    obtain ⟨sn, hk, rfl⟩ := mem_map_get hp
    obtain ⟨dn, hdn, hq⟩ := hW k sn hk
    exact backupTask_requests hq hdn
  dsimp only
  split
  · trivial
  · refine ⟨trivial, ?_, ?_⟩
    · rintro is ⟨us, hp⟩
      exact path_requests hp htasks
    · rintro dnResult is ⟨us, hp, -⟩
      refine ⟨trivial, path_requests hp htasks, ?_⟩
      change Emits (sem pk) (Sends W) (deref r.info >>= _) _
      refine emits_bind (deref_emits (sends_main rfl) r.info) (fun info _ => ?_)
      exact emits_act (sends_main rfl) (fun _ => trivial)

theorem found_tasks (task : StorageNode → DataNode → Go Unit) {nodes : List StorageNode}
    {dns : String → Option DataNode}
    (hW : ∀ k sn, nodes[k]? = some sn →
      ∃ dn, dns sn.ip = some dn ∧ W k (agentAddr f sn, dn.backupID))
    (htask : ∀ {V : String × String → Prop} {sn dn}, V (agentAddr f sn, dn.backupID) →
      Emits alone (onMain (Requests V)) (task sn dn) (fun _ => True))
    (k : ℕ) (p : Go Unit)
    (hp : (nodes.filterMap (fun sn => (dns sn.ip).map (task sn)))[k]? = some p) :
    Emits alone (onMain (Requests (W k))) p (fun _ => True) := by
  have hfound : ∀ sn ∈ nodes, (dns sn.ip).map (task sn) ≠ none := by
    intro sn hsn
    obtain ⟨i, hi⟩ := List.getElem?_of_mem hsn
    obtain ⟨dn, hdn, -⟩ := hW i sn hi
    simp [hdn]
  rw [filterMap_get hfound, Option.bind_eq_some_iff] at hp
  obtain ⟨sn, hk, hsn⟩ := hp
  obtain ⟨dn, hdn, hq⟩ := hW k sn hk
  rw [hdn, Option.map_some, Option.some.injEq] at hsn
  rw [← hsn]
  exact htask hq

theorem _execDelete_sends (hss : r.ssBackup = some ss)
    (hW : ∀ k sn, ss.storageNodes[k]? = some sn →
      ∃ dn, dataNodeMap r.dnList sn.ip = some dn ∧ W k (agentAddr f sn, dn.backupID)) :
    Emits (sem pk) (Sends W) (_execDelete f r) (fun _ => True) := by
  refine emits_bind (deref_emits (sends_main rfl) r.ssBackup) (fun ss' hss' => ?_)
  cases hss.symm.trans hss'
  have htasks := found_tasks (deleteTask f) hW deleteTask_requests
  dsimp only
  split
  · trivial
  · refine ⟨trivial, ?_, ?_⟩
    · rintro is ⟨us, hp⟩
      exact path_requests hp htasks
    · rintro dnResult is ⟨us, hp, -⟩
      refine ⟨trivial, path_requests hp htasks, ?_⟩
      change Emits (sem pk) (Sends W) (if _ then _ else _) _
      split <;> trivial

theorem deleteBackupFiles_normal_sends (filename : String) (hss : r.ssBackup = some ss)
    (hW : ∀ k sn, ss.storageNodes[k]? = some sn →
      ∃ dn, dataNodeMap r.dnList sn.ip = some dn ∧ W k (agentAddr f sn, dn.backupID)) :
    Emits (sem pk) (Sends W) (deleteBackupFiles f filename r .normal) (fun _ => True) := by
  refine emits_bind (deref_emits (sends_main rfl) r.ssBackup) (fun ss' hss' => ?_)
  cases hss.symm.trans hss'
  have htasks := found_tasks (doDelete f) hW doDelete_requests
  dsimp only
  split
  · trivial
  · refine ⟨trivial, ?_, ?_⟩
    · rintro is ⟨us, hp⟩
      exact path_requests hp htasks
    · rintro dnResult is ⟨us, hp, -⟩
      exact ⟨trivial, path_requests hp htasks, emits_act (sends_main rfl) (fun _ => trivial)⟩

theorem deleteBackupFiles_quiet_sends (filename : String) (hss : r.ssBackup = some ss)
    (hW : ∀ k sn, ss.storageNodes[k]? = some sn →
      ∃ dn, dataNodeMap r.dnList sn.ip = some dn ∧ W (k + 1) (agentAddr f sn, dn.backupID)) :
    Emits (sem pk) (Sends W) (deleteBackupFiles f filename r .quiet) (fun _ => True) := by
  refine emits_bind (deref_emits (sends_main rfl) r.ssBackup) (fun ss' hss' => ?_)
  cases hss.symm.trans hss'
  -- the goroutine that removes the file comes first
  have htasks : ∀ k p, (removeRecord filename :: deleteTasks f (dataNodeMap r.dnList)
      ss.storageNodes)[k]? = some p → Emits alone (onMain (Requests (W k))) p (fun _ => True) := by
    intro k p hp
    cases k with
    | zero =>
      rw [List.getElem?_cons_zero, Option.some.injEq] at hp
      rw [← hp]
      exact removeRecord_requests filename
    | succ k =>
      rw [List.getElem?_cons_succ] at hp
      exact found_tasks (W := fun k => W (k + 1)) (doDelete f) hW doDelete_requests k p hp
  dsimp only
  split
  · trivial
  · refine ⟨trivial, ?_, ?_⟩
    · rintro is ⟨us, hp⟩
      exact path_requests hp htasks
    · rintro _ is ⟨us, hp, -⟩
      exact ⟨trivial, path_requests hp htasks, trivial⟩

theorem execRestore_sends (hss : r.ssBackup = some ss)
    (hW : ∀ k sn, ss.storageNodes[k]? = some sn →
      ∃ dn, dataNodeMap r.dnList sn.ip = some dn ∧ W k (agentAddr f sn, dn.backupID)) :
    Emits (sem pk) (Sends W) (execRestore f r) (fun _ => True) := by
  refine emits_bind (deref_emits (sends_main rfl) r.ssBackup) (fun ss' hss' => ?_)
  cases hss.symm.trans hss'
  have htasks : ∀ k p, (restoreTasks f (dataNodeMap r.dnList) ss.storageNodes).1[k]? = some p →
      Emits alone (onMain (Requests (W k))) p (fun _ => True) := by
    intro k p hp
    obtain ⟨sn, dn, hk, hdn, rfl⟩ := restoreTasks_at hp
    obtain ⟨dn', hdn', hq⟩ := hW k sn hk
    cases hdn.symm.trans hdn'
    exact restoreTask_requests hq
  dsimp only
  split
  · exact emits_bind (deref_emits (sends_main rfl) r.info) (fun _ _ => trivial)
  · split
    · next tasks hts =>
      rw [hts] at htasks
      refine ⟨trivial, ?_, fun _ _ hr => hr.elim⟩
      rintro is ⟨us, hp⟩
      exact path_requests hp htasks
    · next tasks hts =>
      rw [hts] at htasks
      refine ⟨trivial, ?_, ?_⟩
      · rintro is ⟨us, hp⟩
        exact path_requests hp htasks
      · rintro dnResult is ⟨us, hp, -⟩
        refine ⟨trivial, path_requests hp htasks, ?_⟩
        change Emits (sem pk) (Sends W) (if _ then _ else _) _
        split <;> trivial

end Uses

/-- The functions that make requests about the backups of a record, and the number
of the goroutine that works for the first node. -/
inductive Uses (pk : Packages) (f : Flags) (r : LsBackup) (evs : List Ev) : ℕ → Prop
  | checkBackupStatus : Cut (sem pk) (checkBackupStatus f r) evs → Uses pk f r evs 0
  | deleteNormal (filename : String) :
      Cut (sem pk) (deleteBackupFiles f filename r .normal) evs → Uses pk f r evs 0
  | deleteQuiet (filename : String) :
      Cut (sem pk) (deleteBackupFiles f filename r .quiet) evs → Uses pk f r evs 1
  | _execDelete : Cut (sem pk) (_execDelete f r) evs → Uses pk f r evs 0
  | execRestore : Cut (sem pk) (execRestore f r) evs → Uses pk f r evs 0

/-- Goroutine `k` asks the agent of its node about the backup that this agent has
made for the node. -/
def OwnBackup (f f' : Flags) (tr : List Ev) (nodes : List StorageNode) (first k : ℕ)
    (q : String × String) : Prop :=
  ∃ j sn id, k = first + j ∧ nodes[j]? = some sn ∧ Returned f sn tr j id ∧
    q = (agentAddr f' sn, id)

/-- Every agent returns one backup ID, and all later requests about the backup of a
node carry the ID that its agent returned. -/
theorem requests_carry_own_id {pk : Packages} {f f' : Flags} {r asked later : LsBackup}
    {ss : SsBackup} {tr evs : List Ev} {first : ℕ} (hss : r.ssBackup = some ss)
    (hnd : (ss.storageNodes.map (·.ip)).Nodup)
    (h : Run (sem pk) (execBackup f r) tr (asked, none)) (hlater : Later pk asked later)
    (huse : Uses pk f' later evs first) :
    (∀ j sn, ss.storageNodes[j]? = some sn → ∃! id, Returned f sn tr j id) ∧
      ∀ e ∈ evs, Sends (OwnBackup f f' tr ss.storageNodes first) e := by
  refine ⟨fun j sn hj => returned_unique hss h hj, ?_⟩
  obtain ⟨⟨ss', hss', hnodes⟩, hown⟩ := later_keeps hnd (execBackup_keeps hss hnd h) hlater
  have hW : ∀ k sn, ss'.storageNodes[k]? = some sn → ∃ dn, dataNodeMap later.dnList sn.ip = some dn ∧
      OwnBackup f f' tr ss.storageNodes first (k + first) (agentAddr f' sn, dn.backupID) := by
    intro k sn hk
    rw [hnodes] at hk
    obtain ⟨dn, hdn, hret⟩ := hown k sn hk
    exact ⟨dn, hdn, k, sn, dn.backupID, Nat.add_comm k first, hk, hret, rfl⟩
  cases huse with
  | checkBackupStatus hcut => exact (checkBackupStatus_sends hss' hW).cut hcut
  | deleteNormal filename hcut => exact (deleteBackupFiles_normal_sends filename hss' hW).cut hcut
  | deleteQuiet filename hcut => exact (deleteBackupFiles_quiet_sends filename hss' hW).cut hcut
  | _execDelete hcut => exact (_execDelete_sends hss' hW).cut hcut
  | execRestore hcut => exact (execRestore_sends hss' hW).cut hcut

def asking : List Ev :=
  whole (.goWait 2 [_execBackup .sample nodeA, _execBackup .sample nodeB])
    ([reported nodeA (.ok "B1"), reported nodeB (.ok "B2")], none)
    (fanOut .sample nodeA nodeB (.ok "B1") (.ok "B2")) ++ []

theorem asking_run :
    Run (sem .documented) (execBackup .sample (waiting .sample sampleCluster [nodeA, nodeB])) asking
      (running, none) :=
  Run.call (fanOut_returns .sample nodeA nodeB (.ok "B1") (.ok "B2")) (.ret _)

theorem running_reloaded : Later .documented running runningRead := by
  obtain ⟨t, ht, hname⟩ := RestoreRecord.written_path (fun _ => none) recordName running
  have hread : Run (sem .documented) (readAll .sample) (did .readDir (.ok [listed]) ++ [])
      (.ok [runningRead]) := run_act RestoreRuns.readEntries_run
  refine .reloaded .refl (writeByJSON_run .sample recordName_json running) ht rfl hread ?_
    (List.mem_singleton.mpr rfl) rfl
  intro entries hm entry hentry r hfile
  have hlisted : entries = [listed] := by simpa [did, whole] using hm
  rw [hlisted, List.mem_singleton] at hentry
  subst hentry
  cases hfile
  exact hname

def restoring : List Ev :=
  whole (.goRender .restoreResult 2 restoredTasks)
    [restoreResult nodeA none, restoreResult nodeB none] restoredLog ++ []

theorem restoring_carries_own_id :
    (∀ j sn, [nodeA, nodeB][j]? = some sn → ∃! id, Returned .sample sn asking j id) ∧
      ∀ e ∈ restoring, Sends (OwnBackup .sample .sample asking [nodeA, nodeB] 0) e := by
  have hexec : Run (sem .documented) (execRestore .sample runningRead) restoring none :=
    Run.call restored_returns (.ret _)
  exact requests_carry_own_id rfl nodes_nodup asking_run running_reloaded (.execRestore hexec.cut)

end ShardingOnCloud.Pitr.BackupIds
