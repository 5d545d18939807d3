import ShardingOnCloud.Pitr.LockProtocol

namespace ShardingOnCloud.Pitr.ClusterLock

open ShardingOnCloud.Lib.Program ShardingOnCloud.Lib.Assertions ShardingOnCloud.Lib.Pool
open ShardingOnCloud.Pitr.Model ShardingOnCloud.Pitr.Calls ShardingOnCloud.Pitr.LocalStorage
open ShardingOnCloud.Pitr.Backup ShardingOnCloud.Pitr.BackupSpec ShardingOnCloud.Pitr.LockProtocol

/-- `LockForBackup` comes back without an error. -/
def lockTaken : Ev := .main (.reply (.act (.exec .lockForBackup)) none)

/-- `Unlock` is issued. -/
def unlockIssued : Ev := .main (.issue (.act (.exec .unlock)))

/-- The answer to an `Unlock`. -/
def unlockAnswer : Ev → Option (Option Err)
  | .main (.reply (.act (.exec .unlock)) r) => some r
  | _ => none

def unlockAnswers (evs : List Ev) : List (Option Err) := evs.filterMap unlockAnswer

def issuesUnlock : Ev → Bool
  | .main (.issue (.act (.exec .unlock))) => true
  | _ => false

/-- How often `Unlock` is issued. -/
def unlockCalls (evs : List Ev) : ℕ := evs.countP issuesUnlock

/-- How a statement leaves the cluster: one that fails has no effect. -/
def clusterStep (locked : Bool) : Ev → Bool
  | .main (.reply (.act (.exec .lockForBackup)) none) => true
  | .main (.reply (.act (.exec .unlock)) none) => false
  | _ => locked

def clusterAfter (locked : Bool) (evs : List Ev) : Bool := evs.foldl clusterStep locked

/-- `execBackup` has come back without an error, so that Step 6 is next. -/
def CutTaken (evs : List Ev) : Prop :=
  ∃ cap ws dns, .main (.reply (.goWait cap ws) (dns, none)) ∈ evs

def tokAnswer : Tok → Option (Option Err)
  | .unlock r => some r
  | _ => none

def tokAsks : Tok → Bool
  | .asks => true
  | _ => false

def tokStep (locked : Bool) : Tok → Bool
  | .lock none => true
  | .unlock none => false
  | _ => locked

/-- The `Unlock` calls and the state of the cluster only depend on the skeleton. -/
theorem event_tok (e : Ev) : unlockAnswer e = (tok e).bind tokAnswer ∧
    issuesUnlock e = (tok e).any tokAsks ∧
    ∀ locked, clusterStep locked e = (tok e).toList.foldl tokStep locked := by
  cases e with
  | sub x => exact ⟨rfl, rfl, fun _ => rfl⟩
  | main l =>
    cases l with
    | issue c =>
      cases c with
      | act a =>
        cases a with
        | exec s => cases s <;> exact ⟨rfl, rfl, fun _ => rfl⟩
        | _ => exact ⟨rfl, rfl, fun _ => rfl⟩
      | _ => exact ⟨rfl, rfl, fun _ => rfl⟩
    | reply c r =>
      cases c with
      | act a =>
        cases a with
        | exec s => cases s <;> cases r <;> exact ⟨rfl, rfl, fun _ => rfl⟩
        | osCreate name => cases r <;> exact ⟨rfl, rfl, fun _ => rfl⟩
        | fileWrite name contents => cases r <;> exact ⟨rfl, rfl, fun _ => rfl⟩
        | _ => exact ⟨rfl, rfl, fun _ => rfl⟩
      | goRender κ cap ws =>
        cases κ with
        | dataNode =>
          simp only [tok]
          split <;> exact ⟨rfl, rfl, fun _ => rfl⟩
        | _ => exact ⟨rfl, rfl, fun _ => rfl⟩
      | _ => exact ⟨rfl, rfl, fun _ => rfl⟩

theorem unlockAnswers_skeleton (evs : List Ev) :
    unlockAnswers evs = (skeleton evs).filterMap tokAnswer := by
  rw [unlockAnswers, skeleton, List.filterMap_filterMap]
  congr 1
  funext e
  exact (event_tok e).1

theorem clusterAfter_skeleton (locked : Bool) (evs : List Ev) :
    clusterAfter locked evs = (skeleton evs).foldl tokStep locked := by
  induction evs generalizing locked with
  | nil => rfl
  | cons e evs ih =>
    rw [← List.singleton_append, skeleton_append, skeleton_singleton, List.foldl_append,
      ← (event_tok e).2.2]
    exact ih _

theorem cutTaken_skeleton {evs : List Ev} (h : CutTaken evs) : .waited none ∈ skeleton evs := by
  obtain ⟨cap, ws, dns, h⟩ := h
  exact List.mem_filterMap.mpr ⟨_, h, rfl⟩

theorem tok_asks {e : Ev} (h : tok e = some .asks) : e = unlockIssued := by
  unfold tok at h
  split at h <;> first | rfl | cases h | skip
  split at h <;> cases h

theorem tok_lock {e : Ev} {r : Option Err} (h : tok e = some (.lock r)) :
    e = .main (.reply (.act (.exec .lockForBackup)) r) := by
  unfold tok at h
  split at h <;> first | (cases h; done) | (cases h; rfl) | skip
  split at h <;> cases h

theorem skeleton_locked (pre post : List Ev) :
    skeleton (pre ++ lockTaken :: post) = skeleton pre ++ .lock none :: skeleton post := by
  rw [skeleton_append]
  rfl

theorem lock_not_mem_tail {s : List Tok} (h : Protocol s) (r : Option Err) : .lock r ∉ s.tail := by
  cases h with
  | unconnected => simp
  | refused e r => simp
  | early fs hfs _ | notAll fs hfs e _ | stuck fs hfs e _ | done fs hfs | late fs hfs _ =>
    have hnot : Tok.lock r ∉ fs := fun hl => by cases hfs _ hl
    simp [hnot]

theorem lock_first {P X : List Tok} {r : Option Err} (h : Protocol (P ++ .lock r :: X)) :
    P = [] := by
  cases P with
  | nil => rfl
  | cons x P => exact absurd (by simp) (lock_not_mem_tail h r)

theorem filterMap_failed {fs : List Tok} (hfs : ∀ t ∈ fs, t = .failed) (ys : List Tok) :
    (fs ++ ys).filterMap tokAnswer = ys.filterMap tokAnswer := by
  have hnil : fs.filterMap tokAnswer = [] := by
    rw [List.filterMap_eq_nil_iff]
    intro t ht
    rw [hfs t ht]
    rfl
  rw [List.filterMap_append, hnil, List.nil_append]

/-- What `Unlock` answered after the lock was taken, over all ways in which
`backup` can return. -/
theorem answers_after_lock {X : List Tok} (h : Protocol (.lock none :: X)) :
    (∃ r, X.filterMap tokAnswer = [r] ∧ .waited none ∉ X) ∨
      X.filterMap tokAnswer = [none] ∨ (∃ r, X.filterMap tokAnswer = [none, r]) ∨
      ∃ e r, X.filterMap tokAnswer = [some e, r] := by
  cases h with
  | early fs hfs r =>
    have hnot : Tok.waited none ∉ fs := fun hl => by cases hfs _ hl
    exact Or.inl ⟨r, filterMap_failed hfs _, by simp [hnot]⟩
  | notAll fs hfs e r =>
    have hnot : Tok.waited none ∉ fs := fun hl => by cases hfs _ hl
    exact Or.inl ⟨r, filterMap_failed hfs _, by simp [hnot]⟩
  | stuck fs hfs e r => exact Or.inr (Or.inr (Or.inr ⟨e, r, filterMap_failed hfs _⟩))
  | done fs hfs => exact Or.inr (Or.inl (filterMap_failed hfs _))
  | late fs hfs r => exact Or.inr (Or.inr (Or.inl ⟨r, filterMap_failed hfs _⟩))

theorem countP_failed {fs : List Tok} (hfs : ∀ t ∈ fs, t = .failed) (ys : List Tok) :
    (fs ++ ys).countP tokAsks = ys.countP tokAsks := by
  have hzero : fs.countP tokAsks = 0 := by
    rw [List.countP_eq_zero]
    intro t ht
    rw [hfs t ht]
    decide
  rw [List.countP_append, hzero, Nat.zero_add]

/-- In a finished run every `Unlock` that was issued was answered. -/
theorem asks_answered {s : List Tok} (h : Protocol s) :
    s.countP tokAsks = (s.filterMap tokAnswer).length := by
  cases h with
  | unconnected => rfl
  | refused e r => rfl
  | early fs hfs r | notAll fs hfs e r | stuck fs hfs e r | done fs hfs | late fs hfs r =>
    change (fs ++ _).countP tokAsks = ((fs ++ _).filterMap tokAnswer).length
    rw [countP_failed hfs, filterMap_failed hfs]
    rfl

theorem unlockCalls_skeleton (evs : List Ev) : unlockCalls evs = (skeleton evs).countP tokAsks := by
  induction evs with
  | nil => rfl
  | cons e evs ih =>
    rw [← List.singleton_append, skeleton_append, skeleton_singleton, List.countP_append, ← ih,
      unlockCalls, List.countP_append]
    congr 1
    rw [List.countP_singleton, (event_tok e).2.1]
    cases h : tok e with
    | none => rfl
    | some t => simp [List.countP_singleton]

/-- After an `Unlock` that succeeded as the last one the cluster is not locked. -/
theorem released_of_last {X : List Tok} (hX : ∀ r, .lock r ∉ X) (locked : Bool)
    (hlast : (X.filterMap tokAnswer).getLast? = some none) : X.foldl tokStep locked = false := by
  induction X using List.reverseRecOn with
  | nil => cases hlast
  | append_singleton X x ih =>
    have hX' : ∀ r, .lock r ∉ X := fun r hr => hX r (by simp [hr])
    rw [List.foldl_append]
    cases x with
    | lock r => exact absurd (by simp) (hX r)
    | unlock r =>
      have hr : r = none := by simpa [tokAnswer] using hlast
      rw [hr]
      rfl
    | waited r | asks | failed =>
      exact ih hX' (by simpa [tokAnswer] using hlast)

/-- If `LockForBackup` succeeded, `backup` issues an `Unlock` before it returns,
and a second one if that of Step 6 fails, so the cluster is left locked only if
the last `Unlock` failed. -/
theorem backup_unlocks_what_it_locked {pk : Packages} {f : Flags} {filename : String}
    {evs : List Ev} {res : Option Err} (h : Run (sem pk) (backup f filename) evs res)
    (pre post : List Ev) (hl : evs = pre ++ lockTaken :: post) (locked : Bool) :
    0 < unlockCalls post ∧
      (CutTaken post → ∀ e, (unlockAnswers post).head? = some (some e) → 2 ≤ unlockCalls post) ∧
      (clusterAfter locked evs = true → ∃ e, (unlockAnswers post).getLast? = some (some e)) := by
  have hp := backup_protocol h
  rw [hl, skeleton_locked] at hp
  have hpre := lock_first hp
  rw [hpre, List.nil_append] at hp
  have hcount : unlockCalls post = (unlockAnswers post).length := by
    rw [unlockCalls_skeleton, unlockAnswers_skeleton]
    have hasks := asks_answered hp
    exact hasks
  have hans := answers_after_lock hp
  rw [← unlockAnswers_skeleton] at hans
  have hne : unlockAnswers post ≠ [] := by
    rcases hans with ⟨r, hr, -⟩ | hr | ⟨r, hr⟩ | ⟨e, r, hr⟩ <;> simp [hr]
  refine ⟨?_, ?_, ?_⟩
  · rw [hcount]
    exact List.length_pos_iff.mpr hne
  · intro hcut e he
    rw [hcount]
    rcases hans with ⟨r, -, hw⟩ | hr | ⟨r, hr⟩ | ⟨e, r, hr⟩
    · exact absurd (cutTaken_skeleton hcut) hw
    · simp [hr] at he
    · simp [hr]
    · simp [hr]
  · intro hlocked
    rw [hl, clusterAfter_skeleton, skeleton_locked, hpre, List.nil_append,
      List.foldl_cons] at hlocked
    obtain ⟨r, hr⟩ := Option.isSome_iff_exists.mp (List.getLast?_isSome.mpr hne)
    cases r with
    | some e => exact ⟨e, hr⟩
    | none =>
      have hX : ∀ r, Tok.lock r ∉ skeleton post := lock_not_mem_tail hp
      rw [unlockAnswers_skeleton] at hr
      rw [released_of_last hX _ hr] at hlocked
      cases hlocked

/-- The events up to the answer of `LockForBackup`, before those of `rest`. -/
def connecting (f : Flags) (lock : Option Err) (rest : List Ev) : List Ev :=
  did (.newShardingSphereProxy f.username f.password defaultDBName f.host f.port) none ++
    (did (.newLocalStorage (defaultRootDir f)) none ++ (did (.exec .lockForBackup) lock ++ rest))

/-- After the lock, when the metadata cannot be exported. -/
def failedExport : List Ev :=
  did .exportMetaData (.error "down") ++ (did (.exec .unlock) none ++ [])

theorem backup_unlocks_after_failed_export :
    0 < unlockCalls failedExport ∧ ∀ locked,
      clusterAfter locked (connecting .sample none failedExport) = true →
        ∃ e, (unlockAnswers failedExport).getLast? = some (some e) := by
  have hrun : Run (sem .documented) (backup .sample "") (connecting .sample none failedExport)
      (some "export backup data failed. err: export meta data failed. err: down") :=
    run_act (run_act (run_act (run_act (run_act (.ret _)))))
  have h := fun locked => backup_unlocks_what_it_locked hrun
    (connecting .sample none [] |>.dropLast) failedExport rfl locked
  exact ⟨(h true).1, fun locked => (h locked).2.2⟩

end ShardingOnCloud.Pitr.ClusterLock
