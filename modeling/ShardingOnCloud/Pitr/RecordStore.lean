import ShardingOnCloud.Pitr.BackupSpec

namespace ShardingOnCloud.Pitr.RecordStore

open ShardingOnCloud.Lib.Program ShardingOnCloud.Lib.Assertions ShardingOnCloud.Lib.Pool
open ShardingOnCloud.Pitr.Model ShardingOnCloud.Pitr.Calls ShardingOnCloud.Pitr.LocalStorage
open ShardingOnCloud.Pitr.Backup ShardingOnCloud.Pitr.BackupSpec

/-- A file of the backup directory. One that was truncated or not fully written
cannot be decoded. -/
inductive File
  | garbled
  | record (r : LsBackup)

abbrev Store := String → Option File

/-- A file takes the place of another. Once it has moved, nothing is left to do. -/
def renamed (s : Store) (name newName : String) : Store :=
  match s name with
  | none => s
  | some x => Function.update (Function.update s newName (some x)) name none

/-- How the directory changes. What was asked for may have happened as soon as the
call is issued, and has happened when it comes back without an error. -/
def store : World Store Ev where
  step s
    | .main (.issue (.act (.osCreate name))), t =>
      t = s ∨ t = Function.update s name (some .garbled)
    | .main (.reply (.act (.osCreate name)) none), t => t = Function.update s name (some .garbled)
    | .main (.issue (.act (.fileWrite name r))), t =>
      t = s ∨ t = Function.update s name (some .garbled) ∨
        t = Function.update s name (some (.record r))
    | .main (.reply (.act (.fileWrite name r)) none), t =>
      t = Function.update s name (some (.record r))
    | .main (.issue (.act (.osRemove name))), t | .sub (_, .issue (.osRemove name)), t =>
      t = s ∨ t = Function.update s name none
    | .main (.reply (.act (.osRemove name)) none), t | .sub (_, .reply (.osRemove name) none), t =>
      t = Function.update s name none
    | .main (.issue (.act (.osRename name newName))), t => t = s ∨ t = renamed s name newName
    | .main (.reply (.act (.osRename name newName)) none), t => t = renamed s name newName
    | _, t => t = s

theorem store_step (s : Store) (e : Ev) : ∃ t, store.step s e t := by
  by_contra h
  rw [not_exists] at h
  have hs := h s
  simp only [store] at hs
  split at hs
  · exact hs (Or.inl rfl)
  · exact h _ rfl
  · exact hs (Or.inl rfl)
  · exact h _ rfl
  · exact hs (Or.inl rfl)
  · exact hs (Or.inl rfl)
  · exact h _ rfl
  · exact h _ rfl
  · exact hs (Or.inl rfl)
  · exact h _ rfl
  · exact hs rfl

theorem store_path (s : Store) (evs : List Ev) : ∃ t, store.Path s evs t := by
  induction evs generalizing s with
  | nil => exact ⟨s, rfl⟩
  | cons e evs ih =>
    obtain ⟨u, hu⟩ := store_step s e
    obtain ⟨t, ht⟩ := ih u
    exact ⟨t, u, hu, ht⟩

/-- The contents of the directory after runs of `backup`, each of which may have
stopped at any moment. -/
inductive Reached (pk : Packages) : Store → Prop
  | empty : Reached pk (fun _ => none)
  | backup {s t : Store} {f : Flags} {filename : String} {evs : List Ev} :
      Reached pk s → Cut (sem pk) (backup f filename) evs → store.Path s evs t → Reached pk t

def Accepted (r : LsBackup) : Prop :=
  ∃ ss, r.ssBackup = some ss ∧
    (ss.status = ssBackupStatusRunning ∨ ss.status = ssBackupStatusCompleted) ∧
    ∀ sn ∈ ss.storageNodes, ∃ dn ∈ r.dnList, dn.ip = sn.ip

/-- The records that `backup` writes. -/
def Written (r : LsBackup) : Prop := r.dnList = [] ∨ Accepted r

def Sound (s : Store) : Prop := ∀ name r, s name = some (.record r) → Written r

/-- An event that writes no record, or one as it should be. -/
def Writes : Ev → Prop
  | .main (.issue (.act (.fileWrite _ r))) | .main (.reply (.act (.fileWrite _ r)) _) => Written r
  | _ => True

theorem sound_update {s : Store} (h : Sound s) (name : String) {x : Option File}
    (hx : ∀ r, x = some (.record r) → Written r) : Sound (Function.update s name x) := by
  intro name' r hr
  by_cases hname : name' = name
  · subst hname
    rw [Function.update_self] at hr
    exact hx r hr
  · rw [Function.update_of_ne hname] at hr
    exact h name' r hr

theorem sound_renamed {s : Store} (h : Sound s) (name newName : String) :
    Sound (renamed s name newName) := by
  unfold renamed
  split
  · exact h
  · next x hx =>
    refine sound_update (sound_update h newName (fun r hr => ?_)) name nofun
    cases hr
    exact h name r hx

theorem sound_step {s t : Store} {e : Ev} (h : Sound s) (he : Writes e) (ht : store.step s e t) :
    Sound t := by
  have hgarbled : ∀ name, Sound (Function.update s name (some .garbled)) :=
    fun name => sound_update h name nofun
  have hremoved : ∀ name, Sound (Function.update s name none) :=
    fun name => sound_update h name nofun
  have hrecord : ∀ name r, Written r → Sound (Function.update s name (some (.record r))) := by
    intro name r hr
    refine sound_update h name (fun r' heq => ?_)
    cases heq
    exact hr
  simp only [store] at ht
  split at ht
  · rcases ht with rfl | rfl
    · exact h
    · exact hgarbled _
  · rw [ht]
    exact hgarbled _
  · rcases ht with rfl | rfl | rfl
    · exact h
    · exact hgarbled _
    · exact hrecord _ _ he
  · rw [ht]
    exact hrecord _ _ he
  · rcases ht with rfl | rfl
    · exact h
    · exact hremoved _
  · rcases ht with rfl | rfl
    · exact h
    · exact hremoved _
  · rw [ht]
    exact hremoved _
  · rw [ht]
    exact hremoved _
  · rcases ht with rfl | rfl
    · exact h
    · exact sound_renamed h _ _
  · rw [ht]
    exact sound_renamed h _ _
  · rwa [ht]

def Sent (ip : String) (tr : List (Event Act ActR Empty)) : Prop :=
  ∃ dn : DataNode, dn.ip = ip ∧ .main (.reply (.sendDataNode dn) ()) ∈ tr

theorem Sent.mono {ip : String} {tr tr' : List (Event Act ActR Empty)} (h : Sent ip tr)
    (hsub : ∀ e ∈ tr, e ∈ tr') : Sent ip tr' := by
  obtain ⟨dn, hip, hm⟩ := h
  exact ⟨dn, hip, hsub _ hm⟩

theorem sent_of_call {α : Type} {dn : DataNode} {k : Unit → Go α}
    {tr : List (Event Act ActR Empty)} {x : α} (h : Run alone (.call (.sendDataNode dn) k) tr x) :
    Sent dn.ip tr := by
  obtain ⟨_, is, tr', -, -, rfl⟩ := run_call.mp h
  exact ⟨dn, rfl, by simp [whole]⟩

theorem execBackup_sent {f : Flags} {node : StorageNode} {tr : List (Event Act ActR Empty)}
    {res : Option Err} (h : Run alone (_execBackup f node) tr res) : Sent node.ip tr := by
  obtain ⟨answer, is, tr₁, -, h₁, rfl⟩ := run_call.mp h
  obtain ⟨startTime, is, tr₂, -, h₂, rfl⟩ := run_call.mp h₁
  cases answer with
  | error err => exact (sent_of_call h₂).mono (fun e he => by simp [he])
  | ok backupID => exact (sent_of_call h₂).mono (fun e he => by simp [he])

theorem noteDetail_run {retries : ℕ} {dn : DataNode} {backup : BackupInfo}
    {tr : List (Event Act ActR Empty)} {t : ℕ × DataNode} {finished : Bool} {err : Option Err}
    (h : Run alone (noteDetail retries dn backup) tr (t, finished, err)) :
    t.2.ip = dn.ip ∧ (finished = true ∨ err ≠ none → Sent dn.ip tr) := by
  obtain ⟨endTime, is, tr₁, -, h₁, rfl⟩ := run_call.mp h
  change Run alone (if _ then _ else _) _ _ at h₁
  split at h₁
  · have hsent := sent_of_call h₁
    obtain ⟨_, is, tr₂, -, h₂, rfl⟩ := run_call.mp h₁
    cases (run_ret.mp h₂).2
    exact ⟨rfl, fun _ => hsent.mono (fun e he => List.mem_append_right _ he)⟩
  · obtain ⟨rfl, hres⟩ := run_ret.mp h₁
    cases hres
    exact ⟨rfl, by simp⟩

theorem checkBackupProgress_run {f : Flags} {sn : StorageNode} {retries : ℕ} {dn : DataNode}
    {tr : List (Event Act ActR Empty)} {t : ℕ × DataNode} {finished : Bool} {err : Option Err}
    (h : Run alone (checkBackupProgress f sn retries dn) tr (t, finished, err)) :
    t.2.ip = dn.ip ∧ (finished = true ∨ err ≠ none → Sent dn.ip tr) := by
  induction retries generalizing tr with
  | zero =>
    rw [checkBackupProgress] at h
    obtain ⟨answer, is, tr₁, -, h₁, rfl⟩ := run_call.mp h
    cases answer with
    | error e =>
      have hsent := sent_of_call h₁
      obtain ⟨_, is, tr₂, -, h₂, rfl⟩ := run_call.mp h₁
      cases (run_ret.mp h₂).2
      exact ⟨rfl, fun _ => hsent.mono (fun e he => List.mem_append_right _ he)⟩
    | ok backup =>
      obtain ⟨hip, hsent⟩ := noteDetail_run h₁
      exact ⟨hip, fun hlast => (hsent hlast).mono (fun e he => by simp [he])⟩
  | succ retries ih =>
    rw [checkBackupProgress] at h
    obtain ⟨answer, is, tr₁, -, h₁, rfl⟩ := run_call.mp h
    cases answer with
    | error e =>
      obtain ⟨_, is, tr₂, -, h₂, rfl⟩ := run_call.mp h₁
      obtain ⟨hip, hsent⟩ := ih h₂
      exact ⟨hip, fun hlast => (hsent hlast).mono (fun e he => by simp [he])⟩
    | ok backup =>
      obtain ⟨hip, hsent⟩ := noteDetail_run h₁
      exact ⟨hip, fun hlast => (hsent hlast).mono (fun e he => by simp [he])⟩

theorem not_marked {α : Type} {p : Go α} {Q : α → Prop}
    (hp : Emits alone (onMain (fun l => marks l = false)) p Q) {tr : List (Event Act ActR Empty)}
    (h : Cut alone p tr) {l : Label Act ActR} (hm : marks l = true) : .main l ∉ tr := by
  intro hl
  have hfalse : marks l = false := hp.cut h _ hl
  rw [hfalse] at hm
  cases hm

theorem backupLoop_sent {f : Flags} {sn : StorageNode} {n retries : ℕ} {dn : DataNode}
    {tr : List (Event Act ActR Empty)}
    (h : Cut alone (updateLoop (fun t : ℕ × DataNode => checkBackupProgress f sn t.1 t.2) n
      (retries, dn)) tr)
    {l : Label Act ActR} (hl : .main l ∈ tr) (hm : marks l = true) : Sent dn.ip tr := by
  -- a look itself marks nothing
  have hlook : ∀ (retries : ℕ) (dn : DataNode), Emits alone (onMain (fun l => marks l = false))
      (checkBackupProgress f sn retries dn) (fun x => Same dn x.1.2) := fun retries dn =>
    checkBackupProgress_emits (L := fun l => marks l = false) ⟨rfl, fun _ => rfl⟩ ⟨rfl, fun _ => rfl⟩
      (fun _ _ => ⟨rfl, fun _ => rfl⟩) f sn (fun _ _ => ⟨rfl, fun _ => rfl⟩) ⟨rfl, rfl⟩ retries
  induction n generalizing retries dn tr with
  | zero =>
    have hemits : Emits alone (onMain (fun l => marks l = false))
        (updateLoop (fun t : ℕ × DataNode => checkBackupProgress f sn t.1 t.2) 0 (retries, dn))
        (fun _ => True) := emits_goCall ⟨rfl, fun e => nomatch e⟩ (fun e => nomatch e)
    exact absurd hl (not_marked hemits h hm)
  | succ n ih =>
    have hemits := hlook retries dn
    obtain hcut | ⟨tr₁, ⟨t, finished, err⟩, tr₂, hrun, hrest, rfl⟩ := cut_bind h
    · exact absurd hl (not_marked hemits hcut hm)
    obtain ⟨hip, hsent⟩ := checkBackupProgress_run hrun
    have hl₂ := (List.mem_append.mp hl).resolve_left (not_marked hemits hrun.cut hm)
    by_cases hlast : finished = true ∨ err ≠ none
    · exact (hsent hlast).mono (fun e he => by simp [he])
    · push Not at hlast
      obtain ⟨hfin, rfl⟩ := hlast
      have hfin' : finished = false := by simpa using hfin
      subst hfin'
      have hloop := ih hrest hl₂
      rw [hip] at hloop
      exact hloop.mono (fun e he => by simp [he])

theorem sent_contents {ip : String} {i : ℕ} {log : Log}
    (h : Sent ip ((own i log).map .main)) : ∃ dn ∈ contents .dataNode log, dn.ip = ip := by
  obtain ⟨dn, hip, hm⟩ := h
  obtain ⟨l, hl, heq⟩ := List.mem_map.mp hm
  cases heq
  exact ⟨dn, mem_contents.mpr ⟨i, _, mem_own.mp hl, rfl⟩, hip⟩

variable {pk : Packages}

/-- Every goroutine of `execBackup` has returned, so every node is in the list. -/
theorem asked_accepted {f : Flags} {r r' : LsBackup} (h : Asked pk f r r') : Accepted r' := by
  obtain ⟨ss, dns, log, hss, ⟨us, hpath, hgroup, rfl⟩, rfl⟩ := h
  refine ⟨_, rfl, Or.inl rfl, ?_⟩
  intro sn hsn
  obtain ⟨i, hi⟩ := List.getElem?_of_mem hsn
  have hprogram : (ss.storageNodes.map (_execBackup f))[i]? = some (_execBackup f sn) := by
    rw [List.getElem?_map, hi, Option.map_some]
  obtain ⟨u, hu, hown⟩ := path_program hpath hprogram
  have hdone := pk.group.all_returned _ _ hgroup u.result
    (List.mem_map_of_mem (List.mem_of_getElem? hu))
  obtain ⟨a, ha⟩ := Option.ne_none_iff_exists'.mp hdone
  rw [Thread.result_eq_some.mp ha] at hown
  obtain ⟨dn, hdn, hip⟩ := sent_contents (execBackup_sent (run_of_path hown))
  exact ⟨dn, List.mem_append_right _ hdn, hip⟩

theorem backupTask_sent {f : Flags} {dnList : List DataNode} {sn : StorageNode}
    {ls : List (Label Act ActR)} {u : Thread Act ActR Unit}
    (h : Thread.Path (.run (backupTask f (dataNodeMap dnList) sn)) ls u)
    (hm : ls.any marks = true) : Sent sn.ip (ls.map .main) := by
  obtain ⟨l, hl, hmark⟩ := List.any_eq_true.mp hm
  have hl' : Event.main l ∈ ls.map (Event.main : _ → Event Act ActR Empty) :=
    List.mem_map_of_mem hl
  have hticker : Emits alone (onMain (fun l => marks l = false)) (goAct .newTicker)
      (fun _ => True) := emits_goCall ⟨rfl, fun _ => rfl⟩ (fun _ => trivial)
  have hcut := cut_of_path h
  rw [backupTask] at hcut
  cases hdn : dataNodeMap dnList sn.ip with
  | none =>
    rw [hdn] at hcut
    refine absurd hl' (not_marked (Q := fun _ => True) ?_ hcut hmark)
    refine emits_bind hticker (fun ticks _ => ?_)
    cases ticks with
    | zero => exact emits_goCall ⟨rfl, fun e => Empty.elim e⟩ (fun e => Empty.elim e)
    | succ n => exact emits_goCall ⟨rfl, fun e => Empty.elim e⟩ (fun e => Empty.elim e)
  | some dn =>
    rw [hdn] at hcut
    obtain hfirst | ⟨tr₁, ticks, tr₂, hrun, hloop, heq⟩ := cut_bind hcut
    · exact absurd hl' (not_marked hticker hfirst hmark)
    · rw [heq] at hl' ⊢
      have hl₂ := (List.mem_append.mp hl').resolve_left (not_marked hticker hrun.cut hmark)
      have hsent := backupLoop_sent hloop hl₂ hmark
      rw [(dataNodeMap_mem hdn).2] at hsent
      exact hsent.mono (fun e he => by simp [he])

/-- The renderer has waited for every goroutine of `checkBackupStatus`, so the list of
results is complete too. -/
theorem statusChecked_accepted {f : Flags} {r : LsBackup} {x : LsBackup × BackupStatus}
    (h : StatusChecked pk f r x) (hr : Accepted r)
    (hx : ¬(x.2 ≠ ssBackupStatusCompleted ∧ x.2 ≠ ssBackupStatusCanceled)) : Accepted x.1 := by
  obtain ⟨ss, -, -, rfl⟩ | ⟨ss, info, dnResult, log, -, ⟨us, hpath, hstop, rfl⟩, rfl⟩ := h
  · exact hr
  · have hstatus : finalStatus (contents .dataNode log) = ssBackupStatusCompleted := by
      by_contra hne
      have hfailed : finalStatus (contents .dataNode log) = ssBackupStatusFailed := by
        unfold finalStatus at hne ⊢
        split <;> simp_all
      have hcanceled : ssBackupStatusFailed ≠ ssBackupStatusCanceled := by decide
      exact hx ⟨hne, fun h => hcanceled (hfailed.symm.trans h)⟩
    refine ⟨_, rfl, Or.inr hstatus, ?_⟩
    intro sn hsn
    obtain ⟨i, hi⟩ := List.getElem?_of_mem hsn
    have htask : (ss.storageNodes.map (backupTask f (dataNodeMap r.dnList)))[i]? =
        some (backupTask f (dataNodeMap r.dnList) sn) := by
      rw [List.getElem?_map, hi, Option.map_some]
    obtain ⟨u, -, hown⟩ := path_program hpath htask
    have hmarked : (own i log).any marks = true := by
      refine pk.renderer.all_done _ hstop _ (List.mem_map.mpr ⟨i, ?_, rfl⟩)
      exact List.mem_range.mpr (List.getElem?_eq_some_iff.mp htask).1
    exact sent_contents (backupTask_sent hown hmarked)

theorem allows_writes {a : Act} (ha : ∀ name r, a ≠ .fileWrite name r) : Allows Writes a := by
  cases a with
  | fileWrite name r => exact absurd rfl (ha name r)
  | _ => exact ⟨trivial, fun _ => trivial⟩

theorem plain_writes (a : Act) (ha : plain a = true) : Allows Writes a := by
  refine allows_writes ?_
  rintro name r rfl
  cases ha

theorem allows_written {name : String} {r : LsBackup} (hr : Written r) :
    Allows Writes (.fileWrite name r) := ⟨hr, fun _ => hr⟩

theorem writeByJSON_writes (f : Flags) (name : String) {r : LsBackup} (hr : Written r) :
    Emits (sem pk) Writes (writeByJSON f name r) (fun _ => True) :=
  writeByJSON_emits f name r (allows_writes nofun) (allows_written hr)

theorem unlock_writes : Emits (sem pk) Writes unlock (fun _ => True) :=
  emits_act (allows_writes nofun) (fun _ => trivial)

theorem backupTail_writes (f : Flags) (filename : String) {r : LsBackup} (hr : Accepted r) :
    Emits (sem pk) Writes (backupTail f filename r) (fun _ => True) := by
  refine emits_bind (writeByJSON_writes f filename (Or.inr hr)) (fun err _ => ?_)
  cases err with
  | some e => trivial
  | none =>
    refine emits_bind (checkBackupStatus_emits (L := fun _ => True) f r (plain_writes _ rfl)
      (plain_writes _ rfl) (fun _ _ => ⟨trivial, fun _ => trivial⟩) (fun _ _ _ => trivial)
      (fun _ _ => ⟨trivial, fun _ => trivial⟩)) (fun x hx => ?_)
    dsimp only
    split
    · trivial
    · next hstatus =>
      have hfinal := statusChecked_accepted hx hr hstatus
      refine emits_bind (writeByJSON_writes f filename (Or.inr hfinal)) (fun err _ => ?_)
      cases err <;> trivial

theorem backupCut_writes (f : Flags) (filename : String) (r : LsBackup) :
    Emits (sem pk) Writes (backupCut f filename r) (fun _ => True) := by
  refine emits_bind (execBackup_emits (L := fun _ => True) f r (plain_writes _ rfl)
    (fun _ _ => ⟨trivial, fun _ => trivial⟩) (fun _ _ _ => trivial)
    (fun _ _ => ⟨trivial, fun _ => trivial⟩)) ?_
  rintro ⟨r', _ | e⟩ hasked
  · refine emits_bind unlock_writes (fun err _ => ?_)
    cases err with
    | some e => trivial
    | none => exact backupTail_writes f filename (asked_accepted (hasked rfl))
  · trivial

theorem backupSteps_writes (f : Flags) (filename : String) :
    Emits (sem pk) Writes (backupSteps f filename) (fun _ => True) := by
  refine emits_act (allows_writes nofun) (fun err => ?_)
  cases err with
  | some e => trivial
  | none =>
    refine emits_bind (exportData_emits f filename plain_writes
      (fun _ _ hr => allows_written (Or.inl hr.2.1))) ?_
    rintro ⟨name, err | r⟩ -
    · trivial
    · refine emits_bind (checkAgentServerStatus_emits f (plain_writes _ rfl)
        (fun _ _ => plain_writes _ rfl) r) (fun available _ => ?_)
      cases available with
      | false => trivial
      | true =>
        refine emits_bind (checkDiskSpace_emits f (plain_writes _ rfl)
          (fun _ _ => plain_writes _ rfl) r) ?_
        rintro _ rfl
        refine emits_act (plain_writes _ rfl) (fun err => ?_)
        cases err with
        | some e => trivial
        | none => exact backupCut_writes f name r

theorem deferred_writes (f : Flags) (v : Vars) :
    Emits (sem pk) Writes (deferred f v) (fun _ => True) := by
  unfold deferred
  cases v.err with
  | none => trivial
  | some e =>
    refine emits_bind unlock_writes (fun _ _ => ?_)
    cases v.lsBackup with
    | none => trivial
    | some r =>
      exact deleteBackupFiles_emits (L := fun _ => True) f v.filename r (plain_writes _ rfl)
        (fun _ _ _ => ⟨trivial, fun _ => trivial⟩) (fun _ _ _ => trivial)
        (fun _ _ => ⟨trivial, fun _ => trivial⟩)

theorem backup_writes (f : Flags) (filename : String) :
    Emits (sem pk) Writes (backup f filename) (fun _ => True) := by
  refine emits_call (plain_writes _ rfl) (fun err => ?_)
  cases err with
  | some err => trivial
  | none =>
    refine emits_call (plain_writes _ rfl) (fun err => ?_)
    cases err with
    | some err => trivial
    | none =>
      change Emits (sem pk) Writes (backupSteps f filename >>= _) _
      refine emits_bind (backupSteps_writes f filename) (fun x _ => ?_)
      exact emits_bind (deferred_writes f x.1) (fun _ _ => trivial)

theorem sound_path {s t : Store} {evs : List Ev} (h : Sound s) (hw : ∀ e ∈ evs, Writes e)
    (hp : store.Path s evs t) : Sound t := by
  induction evs generalizing s with
  | nil =>
    cases hp
    exact h
  | cons e evs ih =>
    obtain ⟨u, hu, hp⟩ := hp
    exact ih (sound_step h (hw e (by simp)) hu) (fun e he => hw e (by simp [he])) hp

/-- Whatever runs of `backup` came before and wherever they stopped, a record of the
directory has no data nodes yet, or those of all agents, which have accepted. -/
theorem reached_sound {s : Store} (h : Reached pk s) : Sound s := by
  induction h with
  | empty =>
    intro name r hr
    cases hr
  | backup _ hcut hp ih => exact sound_path ih ((backup_writes _ _).cut hcut) hp

end ShardingOnCloud.Pitr.RecordStore
