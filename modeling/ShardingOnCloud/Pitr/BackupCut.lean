import ShardingOnCloud.Pitr.BackupRuns

namespace ShardingOnCloud.Pitr.BackupCut

open ShardingOnCloud.Lib.Program ShardingOnCloud.Lib.Assertions ShardingOnCloud.Lib.Pool
open ShardingOnCloud.Pitr.Model ShardingOnCloud.Pitr.Calls ShardingOnCloud.Pitr.LocalStorage
open ShardingOnCloud.Pitr.Backup ShardingOnCloud.Pitr.BackupSpec ShardingOnCloud.Pitr.ClusterLock
open ShardingOnCloud.Pitr.BackupRuns

/-- A goroutine starts a `Backup` call to its agent, or the call returns. -/
def callsBackup : Ev → Bool
  | .sub (_, .issue (.backup _ _)) | .sub (_, .reply (.backup _ _) _) => true
  | _ => false

/-- The events before `execBackup`. -/
def Before (e : Ev) : Prop := e ≠ unlockIssued ∧ callsBackup e = false

/-- The events after `execBackup`. -/
def After (e : Ev) : Prop := e ≠ lockTaken ∧ callsBackup e = false

def Answered (evs : List Ev) : Prop :=
  ∀ i addr x, .sub (i, .issue (.backup addr x)) ∈ evs →
    ∃ r, .sub (i, .reply (.backup addr x) r) ∈ evs

/-- The three parts of a run, of which the middle one is that of `execBackup`. -/
structure Parts (before fanOut after evs : List Ev) : Prop where
  eq : evs = before ++ fanOut ++ after
  before : ∀ e ∈ before, Before e
  unlocks : unlockIssued ∉ fanOut
  locks : lockTaken ∉ fanOut
  answered : Answered fanOut
  after : ∀ e ∈ after, After e

/-- Whenever an `Unlock` has been issued, `execBackup` is over. -/
def CutFirst (evs : List Ev) : Prop := unlockIssued ∉ evs ∨ ∃ a b c, Parts a b c evs

def recorder : World (List Ev) Ev := World.watch (fun s e => s ++ [e])

theorem recorder_path {s t evs : List Ev} : recorder.Path s evs t ↔ t = s ++ evs := by
  rw [recorder, World.path_watch]
  have hfold : evs.foldl (fun s e => s ++ [e]) s = s ++ evs := by
    induction evs generalizing s with
    | nil => simp
    | cons e evs ih => simp [ih]
  rw [hfold]

variable {pk : Packages} {α : Type}

/-- A part of the run before `execBackup`. -/
theorem wp_before {p : Cli α} {A : α → Prop} {Q : List Ev → α → Prop} {s : List Ev}
    (h : Emits (sem pk) Before p A) (hs : ∀ e ∈ s, Before e)
    (hQ : ∀ t a, (∀ e ∈ t, Before e) → A a → Q t a) :
    wp (sem pk) recorder CutFirst p Q s := by
  refine wp_mono (wp_keeps (K := fun t => ∀ e ∈ t, Before e) h ?_ ?_ hs) ?_
  · rintro u e _ hu he rfl x hx
    rcases List.mem_append.mp hx with hx | hx
    · exact hu x hx
    · rwa [List.mem_singleton.mp hx]
  · intro t ht
    exact Or.inl (fun hm => (ht _ hm).1 rfl)
  · rintro t a ⟨ht, ha⟩
    exact hQ t a ht ha

/-- A part of the run after `execBackup`. -/
theorem wp_after {p : Cli α} {A : α → Prop} {Q : List Ev → α → Prop} {a b c s : List Ev}
    (h : Emits (sem pk) After p A) (hs : Parts a b c s)
    (hQ : ∀ t x, (∃ d, Parts a b d t) → A x → Q t x) :
    wp (sem pk) recorder CutFirst p Q s := by
  refine wp_mono (wp_keeps (K := fun t => ∃ d, Parts a b d t) h ?_ ?_ ⟨c, hs⟩) ?_
  · rintro u e _ ⟨d, hd⟩ he rfl
    refine ⟨d ++ [e], ⟨by rw [hd.eq]; simp, hd.before, hd.unlocks, hd.locks, hd.answered, ?_⟩⟩
    intro x hx
    rcases List.mem_append.mp hx with hx | hx
    · exact hd.after x hx
    · rwa [List.mem_singleton.mp hx]
  · rintro t ⟨d, hd⟩
    exact Or.inr ⟨a, b, d, hd⟩
  · rintro t x ⟨ht, hx⟩
    exact hQ t x ht hx

/-- When `Wait` comes back, every call of the fan-out has returned. -/
theorem goWait_answered {cap : ℕ} {ws : List (Go (Option Err))} {r : List DataNode × Option Err}
    {is : Log} (h : (sem pk).returns (.goWait cap ws) r is) :
    Answered (whole (Call.goWait cap ws) r is) := by
  obtain ⟨us, hpath, hret, -⟩ := h
  have hdone : ∀ u ∈ us, u.result ≠ none :=
    fun u hu => pk.group.all_returned _ _ hret _ (List.mem_map_of_mem hu)
  intro i addr x hi
  obtain h | ⟨y, hy, h⟩ | h := mem_whole.mp hi
  · cases h
  · cases h
    obtain ⟨r, hr⟩ := path_answered hpath hdone hy
    exact ⟨r, mem_whole.mpr (Or.inr (Or.inl ⟨_, hr, rfl⟩))⟩
  · cases h

theorem goWait_parts {cap : ℕ} {ws : List (Go (Option Err))} {r : List DataNode × Option Err}
    {is : Log} (h : (sem pk).returns (.goWait cap ws) r is) {s : List Ev}
    (hs : ∀ e ∈ s, Before e) :
    Parts s (whole (Call.goWait cap ws) r is) [] (s ++ whole (Call.goWait cap ws) r is) where
  eq := (List.append_nil _).symm
  before := hs
  unlocks := by simp [unlockIssued, whole]
  locks := by simp [lockTaken, whole]
  answered := goWait_answered h
  after := by simp

theorem execBackup_wp {f : Flags} {lsBackup : LsBackup} {s : List Ev}
    (hs : ∀ e ∈ s, Before e) :
    wp (sem pk) recorder CutFirst (execBackup f lsBackup) (fun t _ => ∃ a b, Parts a b [] t) s := by
  refine (wp_bind _ _ _ _).mpr
    (wp_before (deref_emits ⟨⟨nofun, rfl⟩, fun r => nomatch r⟩ _) hs (fun s ss hs _ => ?_))
  have hno : unlockIssued ∉ s := fun hm => (hs _ hm).1 rfl
  refine ⟨Or.inl hno, ?_, ?_⟩
  · rintro is t - ht
    obtain rfl := recorder_path.mp ht
    refine Or.inl (fun hm => ?_)
    rcases List.mem_append.mp hm with hm | hm
    · exact hno hm
    · simp [unlockIssued, broken] at hm
  · rintro ⟨dns, err⟩ is t hret ht
    obtain rfl := recorder_path.mp ht
    have hparts := goWait_parts hret hs
    cases err with
    | some e => exact ⟨_, _, hparts⟩
    | none => exact ⟨_, _, hparts⟩

theorem allows_before {a : Act} (ha : a ≠ .exec .unlock) : Allows Before a := by
  refine ⟨⟨?_, rfl⟩, fun r => ⟨nofun, rfl⟩⟩
  intro h
  cases h
  exact ha rfl

theorem allows_after {a : Act} (ha : a ≠ .exec .lockForBackup) : Allows After a := by
  refine ⟨⟨nofun, rfl⟩, fun r => ⟨?_, rfl⟩⟩
  intro h
  cases h
  exact ha rfl

theorem plain_before (a : Act) (ha : plain a = true) : Allows Before a := by
  refine allows_before ?_
  rintro rfl
  cases ha

/-- What goroutines other than those of `execBackup` do. -/
def OtherCall (l : Label Act ActR) : Prop := ∀ i, callsBackup (.sub (i, l)) = false

theorem checking_other (a : Act) (ha : checking a = true) : AllowsGo OtherCall a := by
  cases a <;> first | exact ⟨fun _ => rfl, fun _ _ => rfl⟩ | cases ha

theorem deleting_other (a : Act) (ha : deleting a = true) : AllowsGo OtherCall a := by
  cases a <;> first | exact ⟨fun _ => rfl, fun _ _ => rfl⟩ | cases ha

theorem writeByJSON_after (f : Flags) (name : String) (contents : LsBackup) :
    Emits (sem pk) After (writeByJSON f name contents) (fun _ => True) :=
  writeByJSON_emits f name contents (allows_after nofun) (allows_after nofun)

theorem unlock_after : Emits (sem pk) After unlock (fun _ => True) :=
  emits_act (allows_after nofun) (fun _ => trivial)

theorem backupTail_after (f : Flags) (filename : String) (lsBackup : LsBackup) :
    Emits (sem pk) After (backupTail f filename lsBackup) (fun _ => True) := by
  refine emits_bind (writeByJSON_after f filename lsBackup) ?_
  rintro (_ | e) -
  · refine emits_bind (checkBackupStatus_emits (L := OtherCall) f lsBackup (allows_after nofun)
      (allows_after nofun) (fun _ _ => ⟨⟨nofun, rfl⟩, fun _ => ⟨nofun, rfl⟩⟩)
      (fun i l hl => ⟨nofun, hl i⟩) checking_other) ?_
    rintro ⟨l, st⟩ -
    dsimp only
    split
    · trivial
    · refine emits_bind (writeByJSON_after f filename l) ?_
      rintro (_ | e) - <;> trivial
  · trivial

theorem deferred_after (f : Flags) (v : Vars) :
    Emits (sem pk) After (deferred f v) (fun _ => True) := by
  unfold deferred
  cases v.err with
  | none => trivial
  | some e =>
    refine emits_bind unlock_after (fun _ _ => ?_)
    cases v.lsBackup with
    | none => trivial
    | some lsBackup =>
      exact deleteBackupFiles_emits (L := OtherCall) f v.filename lsBackup (allows_after nofun)
        (fun _ _ _ => ⟨⟨nofun, rfl⟩, fun _ => ⟨nofun, rfl⟩⟩) (fun i l hl => ⟨nofun, hl i⟩)
        deleting_other

/-- A run that ends without `execBackup` has its middle part empty. -/
theorem parts_of_before {s : List Ev} (hs : ∀ e ∈ s, Before e) : Parts s [] [] s where
  eq := by simp
  before := hs
  unlocks := by simp
  locks := by simp
  answered := by simp [Answered]
  after := by simp

theorem backupCut_parts {f : Flags} {filename : String} {lsBackup : LsBackup} {s : List Ev}
    (hs : ∀ e ∈ s, Before e) :
    wp (sem pk) recorder CutFirst (backupCut f filename lsBackup)
      (fun t _ => ∃ a b c, Parts a b c t) s := by
  refine (wp_bind _ _ _ _).mpr (wp_mono (execBackup_wp hs) ?_)
  rintro t ⟨l, _ | e⟩ ⟨a, b, hp⟩
  · refine wp_after (A := fun _ => True) ?_ hp (fun _ _ ⟨d, hd⟩ _ => ⟨a, b, d, hd⟩)
    refine emits_bind unlock_after ?_
    rintro (_ | e) -
    · exact backupTail_after f filename l
    · trivial
  · exact ⟨a, b, [], hp⟩

theorem backupChecks_parts {f : Flags} {filename : String} {lsBackup : LsBackup} {s : List Ev}
    (hs : ∀ e ∈ s, Before e) :
    wp (sem pk) recorder CutFirst (backupChecks f filename lsBackup)
      (fun t _ => ∃ a b c, Parts a b c t) s := by
  refine (wp_bind _ _ _ _).mpr
    (wp_before (checkAgentServerStatus_emits f (plain_before _ rfl) (fun _ _ => plain_before _ rfl)
      lsBackup) hs ?_)
  rintro s (_ | _) hs -
  · exact ⟨_, _, _, parts_of_before hs⟩
  · refine (wp_bind _ _ _ _).mpr (wp_before (checkDiskSpace_emits f (plain_before _ rfl)
      (fun _ _ => plain_before _ rfl) lsBackup) hs ?_)
    rintro s _ hs rfl
    have hask : Emits (sem pk) Before (act (.getUserApprove backupPromptFmt)) (fun _ => True) :=
      emits_call (plain_before _ rfl) (fun _ => trivial)
    refine (wp_bind _ _ _ _).mpr (wp_before hask hs ?_)
    rintro s (_ | e) hs -
    · exact backupCut_parts hs
    · exact ⟨_, _, _, parts_of_before hs⟩

theorem backupSteps_parts (f : Flags) (filename : String) {s : List Ev}
    (hs : ∀ e ∈ s, Before e) :
    wp (sem pk) recorder CutFirst (backupSteps f filename)
      (fun t _ => ∃ a b c, Parts a b c t) s := by
  have hlock : Emits (sem pk) Before lockForBackup (fun _ => True) :=
    emits_act (allows_before nofun) (fun _ => trivial)
  refine (wp_bind _ _ _ _).mpr (wp_before hlock hs ?_)
  rintro s (_ | e) hs -
  · refine (wp_bind _ _ _ _).mpr (wp_before (exportData_emits f filename plain_before
      (fun _ _ _ => allows_before nofun)) hs ?_)
    rintro s ⟨name, _ | l⟩ hs -
    · exact ⟨_, _, _, parts_of_before hs⟩
    · exact backupChecks_parts hs
  · exact ⟨_, _, _, parts_of_before hs⟩

theorem backup_parts (f : Flags) (filename : String) :
    wp (sem pk) recorder CutFirst (backup f filename) (fun t _ => ∃ a b c, Parts a b c t) [] := by
  have hproxy : Emits (sem pk) Before (newShardingSphereProxy f) (fun _ => True) :=
    emits_call (plain_before _ rfl) (fun _ => trivial)
  have hls : Emits (sem pk) Before (newLocalStorage f) (fun _ => True) :=
    emits_call (plain_before _ rfl) (fun _ => trivial)
  refine (wp_bind _ _ _ _).mpr (wp_before hproxy (by simp) ?_)
  rintro s (_ | e) hs -
  · refine (wp_bind _ _ _ _).mpr (wp_before hls hs ?_)
    rintro s (_ | e) hs -
    · refine (wp_bind _ _ _ _).mpr (wp_mono (backupSteps_parts f filename hs) ?_)
      rintro t ⟨v, res⟩ ⟨a, b, c, hp⟩
      refine (wp_bind _ _ _ _).mpr (wp_after (deferred_after f v) hp ?_)
      exact fun t _ ⟨d, hd⟩ _ => ⟨a, b, d, hd⟩
    · exact ⟨_, _, _, parts_of_before hs⟩
  · exact ⟨_, _, _, parts_of_before hs⟩

theorem mem_before_split {E : Type} {as bs xs ys : List E} {e : E}
    (h : as ++ bs = xs ++ e :: ys) (he : e ∉ bs) : ∀ x ∈ xs, x ∈ as := by
  obtain ⟨c, -, rfl⟩ | ⟨c, rfl, -⟩ := List.append_eq_append_iff.mp h
  · exact absurd (by simp) he
  · intro x hx
    simp [hx]

theorem not_callsBackup_before {evs : List Ev} (h : ∀ e ∈ evs, Before e) {e : Ev}
    (he : callsBackup e = true) : e ∉ evs := by
  intro hm
  rw [(h e hm).2] at he
  cases he

theorem not_callsBackup_after {evs : List Ev} (h : ∀ e ∈ evs, After e) {e : Ev}
    (he : callsBackup e = true) : e ∉ evs := by
  intro hm
  rw [(h e hm).2] at he
  cases he

/-- At every moment of a run of `backup`, between the success of `LockForBackup`
and an `Unlock` every `Backup` call of the run has returned. -/
theorem backup_calls_return_under_lock {pk : Packages} {f : Flags} {filename : String}
    {evs : List Ev} (h : Cut (sem pk) (backup f filename) evs) {pre mid post : List Ev}
    (hu : evs = pre ++ lockTaken :: mid ++ unlockIssued :: post) {i : ℕ} {addr : String}
    {x : BackupIn} (hi : .sub (i, .issue (.backup addr x)) ∈ evs) :
    ∃ r, .sub (i, .reply (.backup addr x) r) ∈ mid := by
  have hcut := wp_cut (backup_parts f filename) (fun t _ ht => Or.inr ht) h
    (recorder_path.mpr (List.nil_append _).symm)
  obtain hno | ⟨a, b, c, hp⟩ := hcut
  · exact absurd (by simp [hu]) hno
  · have hunlock : unlockIssued ∉ a ++ b := by
      intro hm
      rcases List.mem_append.mp hm with hm | hm
      · exact (hp.before _ hm).1 rfl
      · exact hp.unlocks hm
    have hlock : lockTaken ∉ b ++ c := by
      intro hm
      rcases List.mem_append.mp hm with hm | hm
      · exact hp.locks hm
      · exact (hp.after _ hm).1 rfl
    -- the call was issued in the middle part, and answered there
    have hib : .sub (i, .issue (.backup addr x)) ∈ b := by
      rw [hp.eq, List.mem_append, List.mem_append] at hi
      rcases hi with (hi | hi) | hi
      · exact absurd hi (not_callsBackup_before hp.before rfl)
      · exact hi
      · exact absurd hi (not_callsBackup_after hp.after rfl)
    obtain ⟨r, hr⟩ := hp.answered i addr x hib
    refine ⟨r, ?_⟩
    have heq := hp.eq.symm.trans hu
    obtain ⟨d, hd, -⟩ := split_after heq hunlock
    have hpast : .sub (i, .reply (.backup addr x) r) ∈ pre ++ lockTaken :: mid := by
      rw [hd]
      simp [hr]
    rcases List.mem_append.mp hpast with hpre | hmid
    · rw [List.append_assoc, List.append_assoc] at heq
      exact absurd (mem_before_split heq hlock _ hpre) (not_callsBackup_before hp.before rfl)
    · simpa [lockTaken] using hmid

theorem refused_calls_return_under_lock :
    ∃ r, .sub (0, .reply (request .sample nodeA) r) ∈
      exported .sample sampleCluster [nodeA, nodeB] ++
        approved .sample [nodeA, nodeB] oneRefuses := by
  have hu : approving .sample sampleCluster [nodeA, nodeB] (oneRefuses ++ refusedCleanup) =
      (connecting .sample none []).dropLast ++ lockTaken ::
        (exported .sample sampleCluster [nodeA, nodeB] ++
          approved .sample [nodeA, nodeB] oneRefuses) ++ unlockIssued :: refusedCleanup.tail := rfl
  exact backup_calls_return_under_lock (refused_run "").cut hu
    (by simp [approving, connecting, approved, oneRefuses, whole, fanOut, asked])

end ShardingOnCloud.Pitr.BackupCut
