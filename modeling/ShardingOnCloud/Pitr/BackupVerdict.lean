import ShardingOnCloud.Pitr.BackupIds
import ShardingOnCloud.Pitr.BackupTask
import ShardingOnCloud.Pitr.LeftGoroutines

namespace ShardingOnCloud.Pitr.BackupVerdict

open ShardingOnCloud.Lib.Program ShardingOnCloud.Lib.Assertions ShardingOnCloud.Lib.Pool
open ShardingOnCloud.Lib.Termination ShardingOnCloud.Pitr.Model ShardingOnCloud.Pitr.Calls
open ShardingOnCloud.Pitr.Backup ShardingOnCloud.Pitr.BackupSpec ShardingOnCloud.Pitr.Progress
open ShardingOnCloud.Pitr.Rendering ShardingOnCloud.Pitr.BackupTask
open ShardingOnCloud.Pitr.LeftGoroutines
open ShardingOnCloud.Pitr.BackupIds (ip_index mem_map_get asked_thread execBackup_inv asking_run)
open ShardingOnCloud.Pitr.BackupRuns (nodeA nodeB nodes_nodup sampleCluster waiting)
open ShardingOnCloud.Pitr.RestoreRuns (running)

section Goroutine

variable {f : Flags} {sn : StorageNode} {dn₀ : DataNode} {T : Contract .dataNode}
  {Q : List (Label Act ActR) → Unit → Prop} {N : ℕ}

/-- The loop of `UpdateProgress` with a backup task. After `N` outcomes it is no longer idle. -/
theorem updateLoop_fulfils (hvalue : ∀ ls dn, Reported dn₀ ls dn → T.value ls dn)
    (hbefore : ∀ ls a, T.answers ls → looks a = true → T.before ls a)
    (hidle : ∀ ls t, Polling dn₀ t ls → T.answers ls → N ≤ (seen ls).length →
      Fulfils T Q ls (updateLoop (checkProgress f sn) 0 t))
    (hlast : ∀ ls a, (a = .markAsDone ∨ a = .markAsErrored) → T.answers ls →
      (sends .dataNode ls).length = 1 → Fulfils T Q ls (.call a (fun _ => sendDone)))
    {n : ℕ} {t : ℕ × DataNode} {ls : List (Label Act ActR)} (hp : Polling dn₀ t ls)
    (hls : T.answers ls) (hn : N ≤ (seen ls).length + n) :
    Fulfils T Q ls (updateLoop (checkProgress f sn) n t) := by
  induction n generalizing t ls with
  | zero => exact hidle ls t hp hls hn
  | succ n ih =>
    rw [updateLoop_succ]
    refine fulfils_bind (checkBackupProgress_fulfils hvalue hbefore f sn hp (le_refl _) hls) hls
      (fun ls' x hx hls' => ?_)
    obtain ⟨t', finished, err⟩ := x
    obtain ⟨hreported, hone⟩ | ⟨hquiet, hp', hlt⟩ := hx
    · cases err with
      | some err => exact hlast ls' _ (Or.inr rfl) hls' hone
      | none =>
        obtain rfl := hreported.resolve_right (fun h => h rfl)
        exact hlast ls' _ (Or.inl rfl) hls' hone
    · obtain ⟨rfl, rfl⟩ := Prod.mk.injEq .. ▸ hquiet
      exact ih hp' hls' (by omega)

theorem polling_ticker (n : ℕ) : Polling dn₀ (defaultShowDetailRetryTimes, dn₀)
    [.issue .newTicker, .reply .newTicker n] :=
  (polling_start dn₀).act (a := .newTicker) (r := n) rfl rfl (fun _ => rfl)

theorem task_fulfils : Fulfils (reporting dn₀) (fun _ _ => True) []
    (updateProgress (checkProgress f sn) (defaultShowDetailRetryTimes, dn₀)) := by
  refine ⟨reporting_before _ nofun, nofun, fun n _ => ?_⟩
  refine updateLoop_fulfils (N := 0) (fun _ _ h => h) (fun ls a _ => reporting_looks ls a) ?_ ?_
    (polling_ticker n) trivial (Nat.zero_le _)
  · intro ls t _ _ _
    exact ⟨reporting_before _ nofun, nofun, nofun⟩
  · rintro ls a ha - hone
    have hsend : ∀ r : ActR a, received .dataNode (.reply a r) = none := by
      obtain rfl | rfl := ha <;> exact fun _ => rfl
    refine ⟨reporting_before _ (by obtain rfl | rfl := ha <;> nofun), fun r v hv => ?_, fun r _ => ?_⟩
    · rw [hsend r] at hv
      cases hv
    · refine ⟨fun _ => ?_, nofun, nofun⟩
      rw [sends_act, hsend r, Option.toList_none, List.append_nil]
      exact hone

/-- A goroutine of `checkBackupStatus` whose tracker is marked has sent one data node. -/
theorem task_marked {ls : List (Label Act ActR)} {u : Thread Act ActR Unit}
    (h : Thread.Path (.run (updateProgress (checkProgress f sn) (defaultShowDetailRetryTimes, dn₀)))
      ls u) (hu : Stranded u) : ∃ dn, sends .dataNode ls = [dn] ∧ Reported dn₀ ls dn := by
  have hstart : StillFulfils (reporting dn₀) (fun _ _ => True) []
      (.run (updateProgress (checkProgress f sn) (defaultShowDetailRetryTimes, dn₀))) := task_fulfils
  obtain ⟨hstill, -, hvalues⟩ := path_fulfils (T := reporting dn₀) reported_append
    (fun _ _ _ => trivial) hstart once_nil h trivial
  have hone : (sends .dataNode ls).length = 1 := by
    obtain rfl | ⟨k, rfl⟩ := hu
    · exact hstill.1 rfl
    · obtain ⟨ls', hls', hbefore, -⟩ := hstill
      rw [List.nil_append] at hls'
      rw [hls', sends_snoc_issue]
      exact hbefore rfl
  obtain ⟨dn, hdn⟩ := List.length_eq_one_iff.mp hone
  exact ⟨dn, hdn, hvalues dn (by simp [hdn])⟩

end Goroutine

/-- The outcomes are those of the stream, and the ticker fires until they have come to an end. -/
def Answers (o : Stream' Outcome) (ls : List (Label Act ActR)) : Prop :=
  Sees o ls ∧ ∀ n, .reply .newTicker n ∈ ls → verdict 3 (o.take n) ≠ none

section Answers

variable {o : Stream' Outcome} {ls : List (Label Act ActR)}

theorem answers_nil (o : Stream' Outcome) : Answers o [] :=
  ⟨sees_nil o, fun _ hn => absurd hn List.not_mem_nil⟩

theorem answers_ticker {n : ℕ} :
    Answers o [.issue .newTicker, .reply .newTicker n] ↔ verdict 3 (o.take n) ≠ none := by
  constructor
  · exact fun h => h.2 n (by simp)
  · intro h
    refine ⟨rfl, fun m hm => ?_⟩
    simp only [List.mem_cons, List.not_mem_nil, or_false] at hm
    obtain hm | hm := hm
    · cases hm
    · cases hm
      exact h

theorem answers_other {a : Act} {r : ActR a} (ha : a ≠ .newTicker) (h : Answers o ls)
    (hsees : Sees o (ls ++ [Label.issue a, .reply a r])) :
    Answers o (ls ++ [Label.issue a, .reply a r]) := by
  refine ⟨hsees, fun n hn => ?_⟩
  simp only [List.mem_append, List.mem_cons, List.not_mem_nil, or_false] at hn
  obtain hn | hn | hn := hn
  · exact h.2 n hn
  · cases hn
  · cases hn
    exact absurd rfl ha

theorem answers_limits (o : Stream' Outcome) : Limits (Answers o) where
  cut h := ⟨sees_append _ h.1, fun n hn => h.2 n (List.mem_append_left _ hn)⟩
  issue h := by
    refine ⟨sees_issue h.1, fun n hn => h.2 n ?_⟩
    obtain hn | hn := List.mem_append.mp hn
    · exact hn
    · cases List.mem_singleton.mp hn
  answer {ls a r} hfree h := by
    have hout : outcome (.reply a r) = none := by
      cases a <;> first | rfl | cases hfree
    refine answers_other ?_ h (sees_silent hout h.1)
    rintro rfl
    cases hfree

theorem answers_looks {a : Act} (ha : looks a = true) (h : Answers o ls) :
    (live .dataNode (Answers o)).before ls a := by
  obtain ⟨r, hr⟩ := sees_looks ha h.1
  refine ⟨?_, Or.inr ⟨r, answers_other ?_ h hr⟩⟩ <;> rintro rfl <;> cases ha

theorem task_marks (f : Flags) (sn : StorageNode) (dn₀ : DataNode) (hends : Ends o) :
    Marks .dataNode (Answers o) []
      (updateProgress (checkProgress f sn) (defaultShowDetailRetryTimes, dn₀)) := by
  obtain ⟨N, hN⟩ := ends_iff.mp hends
  refine ⟨⟨nofun, Or.inr ⟨N, answers_ticker.mpr hN⟩⟩, nofun, fun n hn => ?_⟩
  refine updateLoop_fulfils (N := n) (fun _ _ _ => trivial) (fun _ _ h ha => answers_looks ha h) ?_ ?_
    (polling_ticker n) hn (Nat.le_add_left n _)
  · intro ls t hp hls hle
    exact absurd (hp.not_ended hls.1 (answers_ticker.mp hn)) (Nat.not_lt.mpr hle)
  · rintro ls a (rfl | rfl) hls -
    · exact marks_mark (answers_limits o) (a := .markAsDone) rfl () hls (fun _ => rfl) (fun _ => rfl)
    · exact marks_mark (answers_limits o) (a := .markAsErrored) rfl () hls (fun _ => rfl)
        (fun _ => rfl)

end Answers

section Nodes

variable {pk : Packages} {f : Flags} {nodes : List StorageNode} {cap : ℕ} {log : Log}

/-- Where the addresses differ, the map has for each node the data node that its goroutine
has sent. -/
theorem asked_node {us : List (Thread Act ActR (Option Err))} (hnd : (nodes.map (·.ip)).Nodup)
    (hpath : Path (Room .dataNode cap) (start (nodes.map (_execBackup f))) log us)
    (hgroup : pk.group.Returns (us.map Thread.result) none) {j : ℕ} {sn : StorageNode}
    (hj : nodes[j]? = some sn) :
    ∃ dn, sends .dataNode (own j log) = [dn] ∧ dn.ip = sn.ip ∧
      dataNodeMap (contents .dataNode log) sn.ip = some dn := by
  have hsent : ∀ i sn, nodes[i]? = some sn → ∃ dn, sends .dataNode (own i log) = [dn] ∧
      dn.ip = sn.ip := by
    intro i sn hi
    obtain ⟨x, id, t, dn, hip, -, heq⟩ := asked_thread hpath hgroup hi
    refine ⟨dn, ?_, hip⟩
    rw [heq]
    rfl
  obtain ⟨dn, hdn, hip⟩ := hsent j sn hj
  have hmem : dn ∈ contents .dataNode log := by
    refine mem_contents_own (i := j) ?_
    rw [hdn]
    exact List.mem_singleton.mpr rfl
  obtain ⟨dn', hdn', hip', hmap⟩ := dataNodeMap_append_of_mem [] ⟨dn, hmem, hip⟩
  -- the data node in the map comes from a goroutine with the same address
  obtain ⟨i, l, hl, hrec⟩ := mem_contents.mp hdn'
  obtain ⟨p, u, hp, -⟩ := path_thread hpath hl
  obtain ⟨sn', hi, -⟩ := mem_map_get hp
  obtain ⟨dn'', hdn'', hip''⟩ := hsent i sn' hi
  have hown : dn' ∈ sends .dataNode (own i log) :=
    List.mem_filterMap.mpr ⟨l, mem_own.mpr hl, hrec⟩
  rw [hdn'', List.mem_singleton] at hown
  subst hown
  obtain rfl := ip_index hnd hi hj (hip''.symm.trans hip')
  rw [hdn, List.singleton_inj] at hdn''
  subst hdn''
  exact ⟨dn, hdn, hip, by simpa using hmap⟩

theorem backupTask_found {dns : String → Option DataNode} {sn : StorageNode} {dn : DataNode}
    (h : dns sn.ip = some dn) :
    backupTask f dns sn = updateProgress (checkProgress f sn) (defaultShowDetailRetryTimes, dn) := by
  rw [backupTask, h]
  rfl

theorem checked_node {us : List (Thread Act ActR Unit)} {dns : String → Option DataNode}
    (hpath : Path (Room .dataNode cap) (start (nodes.map (backupTask f dns))) log us)
    (hstop : pk.renderer.Stopped (trackers (nodes.map (backupTask f dns)).length log)) {j : ℕ}
    {sn : StorageNode} {dn₀ : DataNode} (hj : nodes[j]? = some sn) (hdn : dns sn.ip = some dn₀) :
    ∃ dn, sends .dataNode (own j log) = [dn] ∧ Reported dn₀ (own j log) dn := by
  have htask : (nodes.map (backupTask f dns))[j]? = some (backupTask f dns sn) := by
    rw [List.getElem?_map, hj, Option.map_some]
  obtain ⟨u, hu, hown⟩ := path_program hpath htask
  rw [backupTask_found hdn] at hown
  refine task_marked hown (rendered_stranded (fun p hp => ?_) hpath hstop u (List.mem_of_getElem? hu))
  obtain ⟨sn', -, rfl⟩ := List.mem_map.mp hp
  exact backupTask_isUpdater f dns sn'

/-- What the goroutines of `execBackup` and `checkBackupStatus` have sent is the same for each
node, up to the state of the backup. -/
theorem contents_keys {us₀ : List (Thread Act ActR (Option Err))} {us : List (Thread Act ActR Unit)}
    {ps : List (Go (Option Err))} {qs : List (Go Unit)} {cap₀ : ℕ} {log₀ : Log}
    (hpath₀ : Path (Room .dataNode cap₀) (start ps) log₀ us₀)
    (hpath : Path (Room .dataNode cap) (start qs) log us) (hlen : qs.length = ps.length)
    (hkeys : ∀ j < ps.length,
      (sends .dataNode (own j log)).map key = (sends .dataNode (own j log₀)).map key) :
    ((contents .dataNode log).map key).Perm ((contents .dataNode log₀).map key) := by
  have hnew := (contents_perm hpath).map key
  have hold := (contents_perm hpath₀).map key
  rw [List.map_flatMap, hlen] at hnew
  rw [List.map_flatMap] at hold
  have hsame : (List.range ps.length).flatMap (fun j => (sends .dataNode (own j log)).map key) =
      (List.range ps.length).flatMap (fun j => (sends .dataNode (own j log₀)).map key) :=
    List.flatMap_congr (fun j hj => hkeys j (List.mem_range.mp hj))
  rw [hsame] at hnew
  exact hnew.trans hold.symm

end Nodes

/-- Whatever the goroutine does from here on, it sends no data node. -/
def NoSend (u : Thread Act ActR Unit) : Prop :=
  ∀ ls v, Thread.Path u ls v → ∀ dn,
    .issue (.sendDataNode dn) ∉ ls ∧ .reply (.sendDataNode dn) () ∉ ls

theorem stranded_noSend {u : Thread Act ActR Unit} (h : Stranded u) : NoSend u := by
  intro ls v hpath dn
  obtain rfl | ⟨k, rfl⟩ := h
  · obtain ⟨rfl, -⟩ | ⟨rfl, -⟩ | ⟨r, -⟩ := Thread.path_run_call.mp hpath
    · simp
    · simp
    · cases r
  · cases ls with
    | nil => simp
    | cons l ls =>
      obtain ⟨w, hw, -⟩ := hpath
      cases hw with
      | reply _ _ r => cases r

/-- What `checkBackupStatus` makes of the record. -/
structure Aggregated (nodes : List StorageNode) (asked : LsBackup) (tr : List Ev)
    (x : LsBackup × BackupStatus) : Prop where
  completed : x.2 = ssBackupStatusCompleted ↔
    ∀ dn ∈ x.1.dnList, dn.status = ssBackupStatusCompleted
  failed : x.2 ≠ ssBackupStatusCompleted → x.2 = ssBackupStatusFailed
  perm : (x.1.dnList.map key).Perm (asked.dnList.map key)
  /-- the status of a node is what comes of the answers of its agent -/
  final : ∀ j sn, nodes[j]? = some sn → ∃ dn ∈ x.1.dnList, dn.ip = sn.ip ∧
    verdict defaultShowDetailRetryTimes (seen (own j (subs tr))) = some dn.status
  /-- when the channel is closed, nobody sends on it -/
  closed : ∀ us, Behind tr us → ∀ u ∈ us, NoSend u

section Aggregated

variable {pk : Packages} {f f' : Flags} {r asked : LsBackup} {ss : SsBackup} {tr tr' : List Ev}

theorem finalStatus_cases (dnResult : List DataNode) :
    (finalStatus dnResult = ssBackupStatusCompleted ↔
      ∀ dn ∈ dnResult, dn.status = ssBackupStatusCompleted) ∧
      (finalStatus dnResult ≠ ssBackupStatusCompleted →
        finalStatus dnResult = ssBackupStatusFailed) := by
  rw [finalStatus]
  split
  · next hall =>
    refine ⟨iff_of_true rfl ?_, fun h => absurd rfl h⟩
    simpa using hall
  · next hall =>
    refine ⟨iff_of_false (by decide) ?_, fun _ => rfl⟩
    simpa using hall

theorem checkBackupStatus_aggregated (hnew : r.dnList = []) (hss : r.ssBackup = some ss)
    (hne : ss.storageNodes ≠ []) (hnd : (ss.storageNodes.map (·.ip)).Nodup)
    (hasked : Run (sem pk) (execBackup f r) tr (asked, none)) {x : LsBackup × BackupStatus}
    (h : Run (sem pk) (checkBackupStatus f' asked) tr' x) :
    Aggregated ss.storageNodes asked tr' x := by
  obtain ⟨ss', dns, log₀, hss', ⟨us₀, hpath₀, hgroup, rfl⟩, -, rfl⟩ := execBackup_inv hasked
  cases hss.symm.trans hss'
  rw [hnew, List.nil_append] at h ⊢
  have hnodes : ({ ss with status := ssBackupStatusRunning } : SsBackup).storageNodes ≠ [] := hne
  obtain ⟨info, dnResult, log, endTime, ⟨us, hpath, hstop, rfl⟩, rfl, rfl⟩ :=
    checkBackupStatus_inv rfl hnodes h
  have hnode : ∀ j sn, ss.storageNodes[j]? = some sn → ∃ dn₀ dn,
      sends .dataNode (own j log₀) = [dn₀] ∧ dn₀.ip = sn.ip ∧
      sends .dataNode (own j log) = [dn] ∧ Reported dn₀ (own j log) dn := by
    intro j sn hj
    obtain ⟨dn₀, hsent₀, hip, hmap⟩ := asked_node hnd hpath₀ hgroup hj
    obtain ⟨dn, hsent, hreported⟩ := checked_node hpath hstop hj hmap
    exact ⟨dn₀, dn, hsent₀, hip, hsent, hreported⟩
  have hsubs := subs_whole (.goRender .dataNode (contents .dataNode log₀).length
    (ss.storageNodes.map (backupTask f' (dataNodeMap (contents .dataNode log₀)))))
    (contents .dataNode log) log (single_did .now endTime)
  refine ⟨(finalStatus_cases _).1, (finalStatus_cases _).2, ?_, fun j sn hj => ?_, ?_⟩
  · refine contents_keys hpath₀ hpath (by simp) (fun j hj => ?_)
    rw [List.length_map] at hj
    obtain ⟨dn₀, dn, hsent₀, -, hsent, hkey, -⟩ := hnode j _ (List.getElem?_eq_getElem hj)
    rw [hsent₀, hsent, List.map_singleton, List.map_singleton, hkey]
  · obtain ⟨dn₀, dn, -, hip, hsent, hkey, hverdict⟩ := hnode j sn hj
    refine ⟨dn, ?_, (congrArg Prod.fst hkey).trans hip, ?_⟩
    · refine mem_contents_own (i := j) ?_
      rw [hsent]
      exact List.mem_singleton.mpr rfl
    · rw [hsubs]
      exact hverdict
  · intro vs hvs u hu
    have hpath' := (behind_iff (single_did .now endTime) vs).mp hvs
    obtain rfl := path_unique hpath hpath'
    refine stranded_noSend (rendered_stranded (fun p hp => ?_) hpath hstop u hu)
    obtain ⟨sn, -, rfl⟩ := List.mem_map.mp hp
    exact backupTask_isUpdater f' _ sn

/-- The calls in runs in which the agent of each node answers as its stream says. -/
def polling (pk : Packages) (o : ℕ → Stream' Outcome) : Sem Call Reply (ℕ × Label Act ActR) :=
  within (sem pk) (fun log => ∀ i, Answers (o i) (own i log))

theorem polling_now (o : ℕ → Stream' Outcome) : Answered (polling pk o) (.act .now) :=
  answered_at_once (fun _ h => h.1) ⟨"", rfl, fun i => answers_nil (o i)⟩

theorem checkBackupStatus_terminates (hfresh : Fresh r) (hss : r.ssBackup = some ss)
    (hne : ss.storageNodes ≠ []) (hnd : (ss.storageNodes.map (·.ip)).Nodup)
    (hasked : Run (sem pk) (execBackup f r) tr (asked, none))
    (hstops : ∀ ts : List Bool, (∀ b ∈ ts, b = true) → pk.renderer.Stopped ts)
    {o : ℕ → Stream' Outcome} (hends : ∀ j < ss.storageNodes.length, Ends (o j)) :
    Terminates (polling pk o) (checkBackupStatus f' asked) := by
  obtain ⟨hinfo, hnew, -⟩ := hfresh
  obtain ⟨info, hinfo⟩ := Option.ne_none_iff_exists'.mp hinfo
  obtain ⟨ss', dns, log₀, hss', ⟨us₀, hpath₀, hgroup, rfl⟩, -, rfl⟩ := execBackup_inv hasked
  cases hss.symm.trans hss'
  rw [hnew, hinfo, List.nil_append]
  -- the channel has room for one data node of each goroutine
  have hcap : ss.storageNodes.length ≤ (contents .dataNode log₀).length := by
    rw [(contents_perm hpath₀).length_eq, List.length_flatMap, List.length_map]
    have hone : (List.range ss.storageNodes.length).map
        (fun j => (sends .dataNode (own j log₀)).length) =
        (List.range ss.storageNodes.length).map (fun _ => 1) := by
      refine List.map_congr_left (fun j hj => ?_)
      obtain ⟨dn, hdn, -⟩ := asked_node hnd hpath₀ hgroup
        (List.getElem?_eq_getElem (List.mem_range.mp hj))
      rw [hdn]
      rfl
    rw [hone]
    simp
  have hmarks : ∀ j p, (ss.storageNodes.map
      (backupTask f' (dataNodeMap (contents .dataNode log₀))))[j]? = some p →
      Marks .dataNode (Answers (o j)) [] p := by
    intro j p hp
    obtain ⟨sn, hj, rfl⟩ := mem_map_get hp
    obtain ⟨dn, -, -, hmap⟩ := asked_node hnd hpath₀ hgroup hj
    rw [backupTask_found hmap]
    exact task_marks f' sn dn (hends j (List.getElem?_eq_some_iff.mp hj).1)
  change Terminates (polling pk o) (if ss.storageNodes = [] then _ else _)
  rw [if_neg hne]
  refine ⟨?_, fun dnResult log _ => ⟨polling_now o, fun _ _ _ => trivial⟩⟩
  refine answered_of_marks (fun i => answers_limits (o i)) (fun i => answers_nil (o i)) hmarks
    (by rwa [List.length_map]) (fun log => Iff.rfl) (fun log us hpath hlog hall => ?_)
  exact ⟨_, ⟨us, hpath, hstops _ hall, rfl⟩, hlog⟩

/-- `checkBackupStatus` of a record that `execBackup` has just filled, over nodes on different
hosts. In whatever order the results arrive, it is the status of all nodes together, and where
every node comes to an end state it returns. -/
theorem backup_verdict_aggregates (hfresh : Fresh r) (hss : r.ssBackup = some ss)
    (hne : ss.storageNodes ≠ []) (hnd : (ss.storageNodes.map (·.ip)).Nodup)
    (hasked : Run (sem pk) (execBackup f r) tr (asked, none)) (f' : Flags) :
    (∀ tr' x, Run (sem pk) (checkBackupStatus f' asked) tr' x →
      Aggregated ss.storageNodes asked tr' x) ∧
    ((∀ ts : List Bool, (∀ b ∈ ts, b = true) → pk.renderer.Stopped ts) →
      ∀ o : ℕ → Stream' Outcome, (∀ j < ss.storageNodes.length, Ends (o j)) →
        Terminates (polling pk o) (checkBackupStatus f' asked)) :=
  ⟨fun _ _ h => checkBackupStatus_aggregated hfresh.2.1 hss hne hnd hasked h,
    fun hstops _ hends => checkBackupStatus_terminates hfresh hss hne hnd hasked hstops hends⟩

def completedAtOnce : Stream' Outcome :=
  Stream'.const (.ok ⟨"B1", "/home/omm/data", "FULL", defaultInstance, "", "", ssBackupStatusCompleted⟩)

theorem running_aggregates : ∃ tr x,
    Run (sem .documented) (checkBackupStatus .sample running) tr x ∧
      Aggregated [nodeA, nodeB] running tr x := by
  have hfresh : Fresh (waiting .sample sampleCluster [nodeA, nodeB]) :=
    ⟨nofun, rfl, _, rfl, rfl⟩
  obtain ⟨hall, hterminates⟩ :=
    backup_verdict_aggregates hfresh rfl nofun nodes_nodup asking_run .sample
  have hends : Ends completedAtOnce := Or.inl ⟨0, Or.inl rfl⟩
  obtain ⟨tr, x, hrun⟩ :=
    (hterminates (fun _ h => h) (fun _ => completedAtOnce) (fun _ _ => hends)).exists_run
  have hrun := run_of_within hrun
  exact ⟨tr, x, hrun, hall tr x hrun⟩

end Aggregated

end ShardingOnCloud.Pitr.BackupVerdict
