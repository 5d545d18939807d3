import ShardingOnCloud.Pitr.BackupSpec

namespace ShardingOnCloud.Pitr.LockProtocol

open ShardingOnCloud.Lib.Program ShardingOnCloud.Lib.Assertions ShardingOnCloud.Lib.Pool
open ShardingOnCloud.Pitr.Model ShardingOnCloud.Pitr.Calls ShardingOnCloud.Pitr.LocalStorage
open ShardingOnCloud.Pitr.Backup ShardingOnCloud.Pitr.BackupSpec

/-- What matters to the cluster lock in a run of `backup`. -/
inductive Tok
  | lock (r : Option Err)
  | waited (r : Option Err)
  | asks
  | unlock (r : Option Err)
  | failed

/-- The outcomes after which `backup` gives up: a record that could not be
written, and a node whose backup did not complete. -/
def tok : Ev → Option Tok
  | .main (.reply (.act (.exec .lockForBackup)) r) => some (.lock r)
  | .main (.issue (.act (.exec .unlock))) => some .asks
  | .main (.reply (.act (.exec .unlock)) r) => some (.unlock r)
  | .main (.reply (.goWait _ _) r) => some (.waited r.2)
  | .main (.reply (.act (.osCreate _)) (some _)) => some .failed
  | .main (.reply (.act (.fileWrite _ _)) (some _)) => some .failed
  | .main (.reply (.goRender .dataNode _ _) dns) =>
    if dns.all (fun dn => decide (dn.status = ssBackupStatusCompleted)) then none else some .failed
  | _ => none

def skeleton (evs : List Ev) : List Tok := evs.filterMap tok

/-- The skeletons of the finished runs of `backup`. -/
inductive Protocol : List Tok → Prop
  | unconnected : Protocol []
  | refused (e : Err) (r : Option Err) : Protocol [Tok.lock (some e), Tok.asks, Tok.unlock r]
  | early (fs : List Tok) (hfs : ∀ t ∈ fs, t = .failed) (r : Option Err) :
      Protocol (Tok.lock none :: fs ++ [Tok.asks, Tok.unlock r])
  | notAll (fs : List Tok) (hfs : ∀ t ∈ fs, t = .failed) (e : Err) (r : Option Err) :
      Protocol (Tok.lock none :: fs ++ [Tok.waited (some e), Tok.asks, Tok.unlock r])
  | stuck (fs : List Tok) (hfs : ∀ t ∈ fs, t = .failed) (e : Err) (r : Option Err) :
      Protocol (Tok.lock none :: fs ++
        [Tok.waited none, Tok.asks, Tok.unlock (some e), Tok.asks, Tok.unlock r])
  | done (fs : List Tok) (hfs : ∀ t ∈ fs, t = .failed) :
      Protocol (Tok.lock none :: fs ++ [Tok.waited none, Tok.asks, Tok.unlock none])
  | late (fs : List Tok) (hfs : ∀ t ∈ fs, t = .failed) (r : Option Err) :
      Protocol (Tok.lock none :: fs ++
        [Tok.waited none, Tok.asks, Tok.unlock none, Tok.failed, Tok.asks, Tok.unlock r])

def Begun (s : List Tok) : Prop := ∃ t, Protocol (s ++ t)

def watcher : World (List Tok) Ev := World.watch (fun s e => s ++ (tok e).toList)

theorem skeleton_append (as bs : List Ev) : skeleton (as ++ bs) = skeleton as ++ skeleton bs :=
  List.filterMap_append

theorem watcher_path {s t : List Tok} {evs : List Ev} :
    watcher.Path s evs t ↔ t = s ++ skeleton evs := by
  rw [watcher, World.path_watch]
  have hfold : evs.foldl (fun s e => s ++ (tok e).toList) s = s ++ skeleton evs := by
    induction evs generalizing s with
    | nil => simp [skeleton]
    | cons e evs ih =>
      rw [List.foldl_cons, ih, List.append_assoc]
      cases h : tok e <;> simp [skeleton, h]
  rw [hfold]

theorem watcher_step {s t : List Tok} {e : Ev} :
    watcher.step s e t ↔ t = s ++ (tok e).toList := Iff.rfl

variable {pk : Packages} {J : List Tok → Prop} {α : Type}

theorem skeleton_singleton (e : Ev) : skeleton [e] = (tok e).toList := by
  cases h : tok e <;> simp [skeleton, h]

theorem skeleton_sub (is : Log) : skeleton (is.map .sub) = [] := by
  rw [skeleton, List.filterMap_eq_nil_iff]
  intro e he
  obtain ⟨x, -, rfl⟩ := List.mem_map.mp he
  rfl

theorem skeleton_broken (c : Call) (is : Log) :
    skeleton (broken c is) = (tok (.main (.issue c))).toList := by
  rw [broken, ← List.singleton_append, skeleton_append, skeleton_singleton, skeleton_sub,
    List.append_nil]

theorem skeleton_whole (c : Call) (r : Reply c) (is : Log) :
    skeleton (whole c r is) =
      (tok (.main (.issue c))).toList ++ (tok (.main (.reply c r))).toList := by
  change skeleton (broken c is ++ [Event.main (.reply c r)]) = _
  rw [skeleton_append, skeleton_broken, skeleton_singleton]

theorem wp_act {a : Act} {k : ActR a → Cli α} {Q : List Tok → α → Prop} {s : List Tok}
    (hs : J s) (hi : J (s ++ (tok (.main (.issue (.act a)))).toList))
    (hk : ∀ r, wp (sem pk) watcher J (k r) Q
      (s ++ ((tok (.main (.issue (.act a)))).toList ++ (tok (.main (.reply (.act a) r))).toList))) :
    wp (sem pk) watcher J (act a >>= k) Q s := by
  refine ⟨hs, ?_, ?_⟩
  · rintro is t rfl ht
    obtain rfl := watcher_path.mp ht
    rw [skeleton_broken]
    exact hi
  · rintro r is t rfl ht
    obtain rfl := watcher_path.mp ht
    rw [skeleton_whole]
    exact hk r

theorem wp_inert {p : Cli α} {A : α → Prop} {Q : List Tok → α → Prop} {s : List Tok}
    (h : Emits (sem pk) (fun e => tok e = none) p A) (hs : J s) (hQ : ∀ a, A a → Q s a) :
    wp (sem pk) watcher J p Q s := by
  refine wp_mono (wp_keeps (K := fun t => t = s) h ?_ ?_ rfl) ?_
  · rintro _ e t rfl he ht
    rw [watcher_step, he] at ht
    simpa using ht
  · rintro t rfl
    exact hs
  · rintro t a ⟨rfl, ha⟩
    exact hQ a ha

theorem wp_failing {p : Cli α} {A : α → Prop} {Q : List Tok → α → Prop} {s : List Tok}
    (h : Emits (sem pk) (fun e => tok e = none ∨ tok e = some .failed) p A)
    (hs : ∀ fs : List Tok, (∀ t ∈ fs, t = .failed) → J (s ++ fs))
    (hQ : ∀ a fs, (∀ t ∈ fs, t = .failed) → A a → Q (s ++ fs) a) :
    wp (sem pk) watcher J p Q s := by
  refine wp_mono (wp_keeps (K := fun t => ∃ fs, (∀ t ∈ fs, t = .failed) ∧ t = s ++ fs) h
    ?_ ?_ ⟨[], by simp, by simp⟩) ?_
  · rintro _ e t ⟨fs, hfs, rfl⟩ he ht
    rw [watcher_step] at ht
    rcases he with he | he
    · exact ⟨fs, hfs, by simpa [he] using ht⟩
    · refine ⟨fs ++ [Tok.failed], ?_, by simpa [he] using ht⟩
      intro t ht
      rcases List.mem_append.mp ht with ht | ht
      · exact hfs t ht
      · exact List.mem_singleton.mp ht
  · rintro t ⟨fs, hfs, rfl⟩
    exact hs fs hfs
  · rintro t a ⟨⟨fs, hfs, rfl⟩, ha⟩
    exact hQ a fs hfs ha

theorem allows_panic : Allows (fun e => tok e = none) .panic := ⟨rfl, fun r => nomatch r⟩

theorem writeByJSON_wp {f : Flags} {name : String} {contents : LsBackup}
    {Q : List Tok → Option Err → Prop} {s : List Tok} (hname : hasSuffix name ".json" = true)
    (hs : J s) (hok : Q s none) (herr : ∀ e, Q (s ++ [Tok.failed]) (some e)) :
    wp (sem pk) watcher J (writeByJSON f name contents) Q s := by
  rw [writeByJSON, if_pos hname]
  refine wp_act hs (by simpa [tok] using hs) (fun r => ?_)
  cases r with
  | some err => simpa [tok, wp] using herr _
  | none =>
    refine wp_act (by simpa [tok] using hs) (by simpa [tok] using hs) (fun r => ?_)
    rcases r with _ | ⟨err, data⟩
    · simpa [tok, wp] using hok
    · simpa [tok, wp] using herr _

/-- The verdict of `checkBackupStatus` is a failure exactly when the skeleton says so. -/
theorem checkBackupStatus_wp {f : Flags} {lsBackup : LsBackup}
    {Q : List Tok → LsBackup × BackupStatus → Prop} {s : List Tok}
    (hs : J s) (hf : J (s ++ [Tok.failed]))
    (hok : ∀ l st, st = ssBackupStatusCompleted ∨ st = ssBackupStatusCanceled → Q s (l, st))
    (herr : ∀ l, Q (s ++ [Tok.failed]) (l, ssBackupStatusFailed)) :
    wp (sem pk) watcher J (checkBackupStatus f lsBackup) Q s := by
  refine (wp_bind _ _ _ _).mpr (wp_inert (deref_emits allows_panic _) hs ?_)
  intro ss hss
  split
  · exact hok _ _ (Or.inr rfl)
  · refine ⟨hs, ?_, ?_⟩
    · rintro is t - ht
      obtain rfl := watcher_path.mp ht
      rw [skeleton_broken]
      simpa [tok] using hs
    · rintro dns is t - ht
      obtain rfl := watcher_path.mp ht
      -- the rest only reads the clock and the record
      have htail : ∀ st, Emits (sem pk) (fun e => tok e = none)
          (deref lsBackup.info >>= fun info => act .now >>= fun endTime => Proc.ret
            ((⟨some { info with endTime := endTime }, dns,
              some { ss with status := st }⟩ : LsBackup), st)) (fun x => x.2 = st) := by
        intro st
        refine emits_bind (deref_emits allows_panic _) (fun info _ => ?_)
        exact emits_act ⟨rfl, fun _ => rfl⟩ (fun _ => rfl)
      rw [skeleton_whole]
      by_cases hall : dns.all (fun dn => decide (dn.status = ssBackupStatusCompleted)) = true
      · simp only [tok, hall, if_true, Option.toList_none, List.append_nil]
        refine wp_inert (htail _) hs ?_
        rintro ⟨l, st⟩ rfl
        exact hok _ _ (Or.inl (if_pos hall))
      · simp only [tok, if_neg hall, Option.toList_none, Option.toList_some, List.nil_append]
        refine wp_inert (htail _) hf ?_
        rintro ⟨l, st⟩ rfl
        rw [if_neg hall]
        exact herr _

/-- What the skeleton must be when the deferred function is reached. -/
def Ends (s : List Tok) (v : Vars) : Prop :=
  (v.err = none → Protocol s) ∧ ∀ e, v.err = some e → ∀ r, Protocol (s ++ [Tok.asks, Tok.unlock r])

theorem deleteBackupFiles_inert (f : Flags) (filename : String) (lsBackup : LsBackup) :
    Emits (sem pk) (fun e => tok e = none) (deleteBackupFiles f filename lsBackup .quiet)
      (fun _ => True) :=
  deleteBackupFiles_emits (L := fun _ => True) f filename lsBackup allows_panic
    (fun _ _ _ => ⟨rfl, fun _ => rfl⟩) (fun _ _ _ => rfl) (fun _ _ => ⟨trivial, fun _ => trivial⟩)

theorem deferred_wp {f : Flags} {v : Vars} {s : List Tok} (h : Ends s v) :
    wp (sem pk) watcher Begun (deferred f v) (fun t _ => Protocol t) s := by
  unfold deferred
  cases herr : v.err with
  | none => exact h.1 herr
  | some e =>
    have hp := h.2 e herr
    refine wp_act ⟨_, hp none⟩ ⟨[Tok.unlock none], by simpa [tok] using hp none⟩ (fun r => ?_)
    simp only [tok, Option.toList_some, List.singleton_append]
    have hb : Begun (s ++ [Tok.asks, Tok.unlock r]) := ⟨[], by simpa using hp r⟩
    refine wp_inert (A := fun _ => True) ?_ hb (fun _ _ => hp r)
    cases v.lsBackup with
    | none => trivial
    | some lsBackup => exact deleteBackupFiles_inert f v.filename lsBackup

variable {fs : List Tok}

def unlocked (fs : List Tok) : List Tok :=
  Tok.lock none :: fs ++ [Tok.waited none, Tok.asks, Tok.unlock none]

theorem unlocked_failed_begun (hfs : ∀ t ∈ fs, t = .failed) : Begun (unlocked fs ++ [Tok.failed]) :=
  ⟨[Tok.asks, Tok.unlock none], by simpa [unlocked] using Protocol.late fs hfs none⟩

theorem unlocked_failed_ends (hfs : ∀ t ∈ fs, t = .failed) {v : Vars} {e : Err}
    (hv : v.err = some e) : Ends (unlocked fs ++ [Tok.failed]) v := by
  refine ⟨fun h => ?_, fun _ _ r => ?_⟩
  · rw [hv] at h
    cases h
  · simpa [unlocked] using Protocol.late fs hfs r

theorem backupTail_wp {f : Flags} {filename : String} {lsBackup : LsBackup}
    (hname : hasSuffix filename ".json" = true) (hfs : ∀ t ∈ fs, t = .failed) :
    wp (sem pk) watcher Begun (backupTail f filename lsBackup) (fun t x => Ends t x.1)
      (unlocked fs) := by
  have hs : Begun (unlocked fs) := ⟨[], by simpa [unlocked] using Protocol.done fs hfs⟩
  have hf := unlocked_failed_begun hfs
  refine (wp_bind _ _ _ _).mpr (writeByJSON_wp hname hs ?_
    (fun e => unlocked_failed_ends hfs rfl))
  refine (wp_bind _ _ _ _).mpr (checkBackupStatus_wp hs hf ?_ ?_)
  · intro l st hst
    have hne : ¬(st ≠ ssBackupStatusCompleted ∧ st ≠ ssBackupStatusCanceled) := by tauto
    dsimp only
    rw [if_neg hne]
    refine (wp_bind _ _ _ _).mpr (writeByJSON_wp hname hs ?_
      (fun e => unlocked_failed_ends hfs rfl))
    refine ⟨fun _ => by simpa [unlocked] using Protocol.done fs hfs, fun e he => ?_⟩
    cases he
  · intro l
    exact unlocked_failed_ends hfs rfl

def held (fs : List Tok) : List Tok := Tok.lock none :: fs

theorem held_begun (hfs : ∀ t ∈ fs, t = .failed) : Begun (held fs) :=
  ⟨[Tok.asks, Tok.unlock none], by simpa [held] using Protocol.early fs hfs none⟩

theorem held_ends (hfs : ∀ t ∈ fs, t = .failed) {v : Vars} {e : Err} (hv : v.err = some e) :
    Ends (held fs) v := by
  refine ⟨fun h => ?_, fun _ _ r => ?_⟩
  · rw [hv] at h
    cases h
  · simpa [held] using Protocol.early fs hfs r

theorem backupCut_wp {f : Flags} {filename : String} {lsBackup : LsBackup}
    (hname : hasSuffix filename ".json" = true) (hfs : ∀ t ∈ fs, t = .failed) :
    wp (sem pk) watcher Begun (backupCut f filename lsBackup) (fun t x => Ends t x.1)
      (held fs) := by
  have hs := held_begun hfs
  refine (wp_bind _ _ _ _).mpr ((wp_bind _ _ _ _).mpr (wp_inert (deref_emits allows_panic _) hs ?_))
  intro ss hss
  refine ⟨hs, ?_, ?_⟩
  · rintro is t - ht
    obtain rfl := watcher_path.mp ht
    rw [skeleton_broken]
    simpa [tok] using hs
  · rintro ⟨dns, err⟩ is t - ht
    obtain rfl := watcher_path.mp ht
    rw [skeleton_whole]
    simp only [tok, Option.toList_none, Option.toList_some, List.nil_append]
    cases err with
    | some e =>
      refine ⟨fun h => ?_, fun _ _ r => by simpa [held] using Protocol.notAll fs hfs e r⟩
      cases h
    | none =>
      have hdone := Protocol.done fs hfs
      refine (wp_bind _ _ _ _).mpr (wp_act
        ⟨[Tok.asks, Tok.unlock none], by simpa [held] using hdone⟩
        ⟨[Tok.unlock none], by simpa [held, tok] using hdone⟩ (fun r => ?_))
      cases r with
      | some e =>
        refine ⟨fun h => ?_, fun _ _ r => ?_⟩
        · cases h
        · simpa [held, tok] using Protocol.stuck fs hfs e r
      | none =>
        have heq : held fs ++ [Tok.waited none] ++
            ((tok (.main (.issue (.act (.exec .unlock))))).toList ++
            (tok (.main (.reply (.act (.exec .unlock)) none))).toList) = unlocked fs := by
          simp [held, unlocked, tok]
        rw [heq]
        exact backupTail_wp hname hfs

theorem allows_plain (a : Act) (ha : plain a = true) :
    Allows (fun e => tok e = none ∨ tok e = some .failed) a := by
  refine ⟨?_, fun r => ?_⟩
  · cases a with
    | exec s => cases ha
    | _ => exact Or.inl rfl
  · cases a with
    | exec s => cases ha
    | fileWrite name contents => cases ha
    | osCreate name =>
      cases r with
      | some err => exact Or.inr rfl
      | none => exact Or.inl rfl
    | _ => exact Or.inl rfl

theorem allows_fileWrite (name : String) (contents : LsBackup) :
    Allows (fun e => tok e = none ∨ tok e = some .failed) (.fileWrite name contents) := by
  refine ⟨Or.inl rfl, fun r => ?_⟩
  cases r with
  | some err => exact Or.inr rfl
  | none => exact Or.inl rfl

theorem append_failed {gs : List Tok} (hfs : ∀ t ∈ fs, t = .failed) (hgs : ∀ t ∈ gs, t = .failed) :
    ∀ t ∈ fs ++ gs, t = .failed := by
  intro t ht
  rcases List.mem_append.mp ht with ht | ht
  · exact hfs t ht
  · exact hgs t ht

theorem wp_held {p : Cli α} {A : α → Prop} {Q : List Tok → α → Prop}
    (h : Emits (sem pk) (fun e => tok e = none ∨ tok e = some .failed) p A)
    (hfs : ∀ t ∈ fs, t = .failed)
    (hQ : ∀ a gs, (∀ t ∈ gs, t = .failed) → A a → Q (held gs) a) :
    wp (sem pk) watcher Begun p Q (held fs) := by
  refine wp_failing h (fun gs hgs => ?_) (fun a gs hgs ha => ?_)
  · exact held_begun (append_failed hfs hgs)
  · exact hQ a (fs ++ gs) (append_failed hfs hgs) ha

theorem backupChecks_wp {f : Flags} {filename : String} {lsBackup : LsBackup}
    (hname : hasSuffix filename ".json" = true) (hfs : ∀ t ∈ fs, t = .failed) :
    wp (sem pk) watcher Begun (backupChecks f filename lsBackup) (fun t x => Ends t x.1)
      (held fs) := by
  refine (wp_bind _ _ _ _).mpr
    (wp_held (checkAgentServerStatus_emits f (allows_plain _ rfl) (fun _ _ => allows_plain _ rfl)
      lsBackup) hfs ?_)
  rintro (_ | _) gs hgs -
  · exact held_ends hgs rfl
  · refine (wp_bind _ _ _ _).mpr (wp_held (checkDiskSpace_emits f (allows_plain _ rfl)
      (fun _ _ => allows_plain _ rfl) lsBackup) hgs ?_)
    rintro _ gs hgs rfl
    have hask : Emits (sem pk) (fun e => tok e = none ∨ tok e = some .failed)
        (act (.getUserApprove backupPromptFmt)) (fun _ => True) :=
      emits_call (allows_plain _ rfl) (fun _ => trivial)
    refine (wp_bind _ _ _ _).mpr (wp_held hask hgs ?_)
    rintro (_ | e) gs hgs -
    · exact backupCut_wp hname hgs
    · exact held_ends hgs rfl

theorem backupSteps_wp (f : Flags) (filename : String) :
    wp (sem pk) watcher Begun (backupSteps f filename) (fun t x => Ends t x.1) [] := by
  refine (wp_bind _ _ _ _).mpr (wp_act ⟨[], Protocol.unconnected⟩ ⟨[], Protocol.unconnected⟩
    (fun r => ?_))
  cases r with
  | some e =>
    refine ⟨fun h => ?_, fun _ _ r => Protocol.refused e r⟩
    cases h
  | none =>
    have hnil : ∀ t ∈ ([] : List Tok), t = .failed := by simp
    change wp (sem pk) watcher Begun (exportData f filename >>= _) _ (held [])
    refine (wp_bind _ _ _ _).mpr (wp_held (exportData_emits f filename allows_plain
      (fun _ _ _ => allows_fileWrite _ _)) hnil ?_)
    rintro ⟨name, res⟩ gs hgs hres
    cases res with
    | error e => exact held_ends hgs rfl
    | ok lsBackup => exact backupChecks_wp (hres lsBackup rfl).2 hgs

theorem backup_wp (f : Flags) (filename : String) :
    wp (sem pk) watcher Begun (backup f filename) (fun t _ => Protocol t) [] := by
  have hs : Begun [] := ⟨[], Protocol.unconnected⟩
  refine wp_act hs hs (fun r => ?_)
  cases r with
  | some err => exact Protocol.unconnected
  | none =>
    refine wp_act hs hs (fun r => ?_)
    cases r with
    | some err => exact Protocol.unconnected
    | none =>
      refine (wp_bind _ _ _ _).mpr (wp_mono (backupSteps_wp f filename) ?_)
      rintro t ⟨v, res⟩ ht
      exact (wp_bind _ _ _ _).mpr (wp_mono (deferred_wp ht) (fun _ _ h => h))

/-- A finished run of `backup` follows the protocol, -/
theorem backup_protocol {f : Flags} {filename : String} {evs : List Ev} {res : Option Err}
    (h : Run (sem pk) (backup f filename) evs res) : Protocol (skeleton evs) :=
  wp_run (backup_wp f filename) h (watcher_path.mpr (List.nil_append _).symm)

theorem backup_begun {f : Flags} {filename : String} {evs : List Ev}
    (h : Cut (sem pk) (backup f filename) evs) : Begun (skeleton evs) :=
  wp_cut (backup_wp f filename) (fun t _ ht => ⟨[], by simpa using ht⟩) h
    (watcher_path.mpr (List.nil_append _).symm)

end ShardingOnCloud.Pitr.LockProtocol
