import ShardingOnCloud.Pitr.ClusterLock

namespace ShardingOnCloud.Pitr.LockExclusion

open ShardingOnCloud.Lib.Program ShardingOnCloud.Lib.Pool ShardingOnCloud.Pitr.Model
open ShardingOnCloud.Pitr.Calls ShardingOnCloud.Pitr.Backup ShardingOnCloud.Pitr.LockProtocol
open ShardingOnCloud.Pitr.ClusterLock

/-- A cluster that several runs share: `LOCK CLUSTER` fails when it is locked, and
`UNLOCK CLUSTER` releases it whoever took the lock. -/
def cluster : World Bool (Bool × Ev) :=
  ⟨fun locked x locked' => (x.2 = lockTaken → locked = false) ∧ locked' = clusterStep locked x.2⟩

/-- Two runs of `backup` against the same proxy, interleaved in some order and
looked at after some time. -/
structure TwoBackups (pk : Packages) (f : Bool → Flags) (filename : Bool → String)
    (before : Bool) (tr : List (Bool × Ev)) (after : Bool) : Prop where
  each : ∀ i, Cut (sem pk) (backup (f i) (filename i)) (own i tr)
  shared : cluster.Path before tr after

/-- The run has taken the lock and has not issued an `Unlock` since. -/
def Holds (evs : List Ev) : Prop := ∃ a b, evs = a ++ lockTaken :: b ∧ unlockIssued ∉ b

/-- While one run holds the lock, no `Unlock` of the other takes effect and the
cluster stays locked. -/
def Exclusive (before : Bool) (tr : List (Bool × Ev)) : Prop :=
  (∀ pre i post, tr = pre ++ (i, .main (.reply (.act (.exec .unlock)) none)) :: post →
      ¬Holds (own (!i) pre)) ∧
    ∀ pre post now i, tr = pre ++ post → cluster.Path before pre now → Holds (own i pre) →
      now = true

/-- How a run stands to the lock. It is `astray` once its own `LockForBackup` has
failed, or once a step has failed after its `Unlock` had succeeded: the deferred
function then unlocks a cluster that the run does not hold. -/
inductive View
  | idle
  | holding
  | unlocking
  | released
  | astray
  deriving DecidableEq

def View.step : View → Tok → View
  | .idle, .lock none => .holding
  | .idle, .lock (some _) => .astray
  | .holding, .asks => .unlocking
  | .unlocking, .unlock none => .released
  | .released, .failed => .astray
  | v, _ => v

def view (evs : List Ev) : View := (skeleton evs).foldl View.step .idle

/-- Where in the protocol a run takes the lock, asks to release it and releases it. -/
def View.Allows : View → Tok → Prop
  | .astray, _ => True
  | v, .lock none => v = .idle
  | v, .asks => v = .holding ∨ v = .unlocking
  | v, .unlock none => v = .unlocking
  | _, _ => True

def Proper : View → List Tok → Prop
  | _, [] => True
  | v, x :: xs => v.Allows x ∧ Proper (v.step x) xs

theorem proper_append (v : View) (xs ys : List Tok) :
    Proper v (xs ++ ys) ↔ Proper v xs ∧ Proper (xs.foldl View.step v) ys := by
  induction xs generalizing v with
  | nil => simp [Proper]
  | cons x xs ih => simp only [List.cons_append, Proper, ih, List.foldl_cons, and_assoc]

theorem proper_failed {fs : List Tok} (hfs : ∀ t ∈ fs, t = .failed) :
    Proper .holding fs ∧ fs.foldl View.step .holding = .holding := by
  induction fs with
  | nil => exact ⟨trivial, rfl⟩
  | cons x fs ih =>
    obtain rfl := hfs x (by simp)
    obtain ⟨h₁, h₂⟩ := ih (fun t ht => hfs t (by simp [ht]))
    exact ⟨⟨trivial, h₁⟩, h₂⟩

theorem proper_held {fs X : List Tok} (hfs : ∀ t ∈ fs, t = .failed) (hX : Proper .holding X) :
    Proper .idle (.lock none :: fs ++ X) := by
  obtain ⟨h₁, h₂⟩ := proper_failed hfs
  refine ⟨rfl, (proper_append _ _ _).mpr ⟨h₁, ?_⟩⟩
  change Proper (fs.foldl View.step .holding) X
  rw [h₂]
  exact hX

theorem protocol_proper {s : List Tok} (h : Protocol s) : Proper .idle s := by
  cases h with
  | unconnected => trivial
  | refused e r => exact ⟨trivial, trivial, trivial, trivial⟩
  | early fs hfs r => exact proper_held hfs (by cases r <;> simp [Proper, View.Allows, View.step])
  | notAll fs hfs e r =>
    exact proper_held hfs (by cases r <;> simp [Proper, View.Allows, View.step])
  | stuck fs hfs e r => exact proper_held hfs (by cases r <;> simp [Proper, View.Allows, View.step])
  | done fs hfs => exact proper_held hfs (by simp [Proper, View.Allows, View.step])
  | late fs hfs r => exact proper_held hfs (by simp [Proper, View.Allows, View.step])

theorem backup_proper {pk : Packages} {f : Flags} {filename : String} {evs : List Ev}
    (h : Cut (sem pk) (backup f filename) evs) : Proper .idle (skeleton evs) := by
  obtain ⟨t, ht⟩ := backup_begun h
  exact ((proper_append _ _ _).mp (protocol_proper ht)).1

theorem view_append (as bs : List Ev) :
    view (as ++ bs) = (skeleton bs).foldl View.step (view as) := by
  rw [view, skeleton_append, List.foldl_append, view]

theorem astray_stays (xs : List Tok) : xs.foldl View.step .astray = .astray := by
  induction xs with
  | nil => rfl
  | cons x xs ih => exact ih

theorem view_prefix {as bs : List Ev} (h : view (as ++ bs) ≠ .astray) : view as ≠ .astray := by
  intro ha
  rw [view_append, ha, astray_stays] at h
  exact h rfl

theorem view_of_holds {evs : List Ev} (hp : Proper .idle (skeleton evs)) (hv : view evs ≠ .astray)
    (h : Holds evs) : view evs = .holding := by
  obtain ⟨a, b, rfl, hb⟩ := h
  have hstay : ∀ xs : List Tok, .asks ∉ xs → xs.foldl View.step .holding = .holding := by
    intro xs hxs
    induction xs with
    | nil => rfl
    | cons x xs ih =>
      have hx : View.step .holding x = .holding := by
        cases x with
        | asks => exact absurd (by simp) hxs
        | _ => rfl
      rw [List.foldl_cons, hx]
      exact ih (fun hm => hxs (by simp [hm]))
  have hasks : Tok.asks ∉ skeleton b := by
    intro hm
    obtain ⟨e, he, ht⟩ := List.mem_filterMap.mp hm
    rw [tok_asks ht] at he
    exact hb he
  rw [skeleton_locked, proper_append] at hp
  have hidle : view a = .idle := by
    have hva := view_prefix hv
    have hallow := hp.2.1
    change (view a).Allows (.lock none) at hallow
    cases hw : view a with
    | astray => exact absurd hw hva
    | idle => rfl
    | holding | unlocking | released => rw [hw] at hallow; cases hallow
  rw [view, skeleton_locked, List.foldl_append, List.foldl_cons]
  change (skeleton b).foldl View.step ((view a).step (.lock none)) = .holding
  rw [hidle]
  exact hstay _ hasks

def View.Owner (v : View) : Prop := v = .holding ∨ v = .unlocking

/-- Whoever has the lock and did not give it back owns the locked cluster alone. -/
def Owned (locked : Bool) (v : Bool → View) : Prop :=
  (∀ i, (v i).Owner → locked = true) ∧ ∀ i, (v i).Owner → ¬(v (!i)).Owner

theorem owner_step {v : View} {t : Tok} (h : (v.step t).Owner) : v.Owner ∨ t = .lock none := by
  unfold View.step at h
  split at h <;> simp_all [View.Owner]

theorem allows_unlock {v : View} (h : v.Allows (.unlock none)) (hv : v ≠ .astray) :
    v = .unlocking := by
  cases v <;> simp_all [View.Allows]

theorem owned_step {locked : Bool} {v : Bool → View} (h : Owned locked v) (j : Bool) (t : Tok)
    (hallow : (v j).Allows t) (hv : v j ≠ .astray) (hfree : t = .lock none → locked = false) :
    Owned (tokStep locked t) (Function.update v j ((v j).step t)) := by
  obtain ⟨hlocked, halone⟩ := h
  have hother : ∀ i, i ≠ j → i = !j := fun i hi => by cases i <;> cases j <;> simp_all
  by_cases hl : t = .lock none
  · -- nobody owns a free cluster
    subst hl
    have hnone : ∀ i, ¬(v i).Owner := by
      intro i hi
      have h₁ := hlocked i hi
      rw [hfree rfl] at h₁
      cases h₁
    refine ⟨fun _ _ => rfl, fun i hi => ?_⟩
    by_cases hij : i = j
    · subst hij
      rw [Function.update_of_ne (by simp)]
      exact hnone _
    · rw [Function.update_of_ne hij] at hi
      exact absurd hi (hnone i)
  · by_cases hu : t = .unlock none
    · -- the run that releases the lock owned it, so the other one does not
      subst hu
      have hj := allows_unlock hallow hv
      have hnone : ∀ i, ¬(Function.update v j ((v j).step (.unlock none)) i).Owner := by
        intro i
        by_cases hij : i = j
        · subst hij
          rw [Function.update_self, hj]
          simp [View.step, View.Owner]
        · rw [Function.update_of_ne hij, hother i hij]
          exact halone j (Or.inr hj)
      exact ⟨fun i hi => absurd hi (hnone i), fun i hi => absurd hi (hnone i)⟩
    · have hback : ∀ i, (Function.update v j ((v j).step t) i).Owner → (v i).Owner := by
        intro i hi
        by_cases hij : i = j
        · subst hij
          rw [Function.update_self] at hi
          exact (owner_step hi).resolve_right hl
        · rwa [Function.update_of_ne hij] at hi
      have hsame : tokStep locked t = locked := by
        rcases t with (_ | e) | r | _ | (_ | e) | _
        · exact absurd rfl hl
        · rfl
        · rfl
        · rfl
        · exact absurd rfl hu
        · rfl
        · rfl
      rw [hsame]
      exact ⟨fun i hi => hlocked i (hback i hi), fun i hi ho => halone i (hback i hi) (hback _ ho)⟩

/-- In a run of two parties that follow the protocol and do not go astray, each
moment finds the lock with at most one of them. -/
theorem owned_path {before after : Bool} {tr : List (Bool × Ev)}
    (hp : ∀ i, Proper .idle (skeleton (own i tr))) (hv : ∀ i, view (own i tr) ≠ .astray)
    (h : cluster.Path before tr after) : Owned after (fun i => view (own i tr)) := by
  induction tr using List.reverseRecOn generalizing after with
  | nil =>
    have hidle : ∀ i, ¬(view (own i ([] : List (Bool × Ev)))).Owner := by
      intro i
      simp [own, view, skeleton, View.Owner]
    exact ⟨fun i hi => absurd hi (hidle i), fun i hi => absurd hi (hidle i)⟩
  | append_singleton tr x ih =>
    obtain ⟨j, e⟩ := x
    obtain ⟨mid, hmid, hlast⟩ := World.path_append.mp h
    obtain ⟨u, ⟨hfree, hu⟩, rfl⟩ := hlast
    simp only [own_append] at hp hv
    have hp' : ∀ i, Proper .idle (skeleton (own i tr)) := by
      intro i
      have hpi := hp i
      rw [skeleton_append, proper_append] at hpi
      exact hpi.1
    have hv' : ∀ i, view (own i tr) ≠ .astray := fun i => view_prefix (hv i)
    have hmidOwned := ih hp' hv' hmid
    have hview : (fun i => view (own i (tr ++ [(j, e)]))) =
        Function.update (fun i => view (own i tr)) j
          ((tok e).toList.foldl View.step (view (own j tr))) := by
      funext i
      rw [own_append, view_append]
      by_cases hij : i = j
      · subst hij
        rw [Function.update_self, own_cons_self]
        simp [own, skeleton_singleton]
      · rw [Function.update_of_ne hij, own_cons_ne (Ne.symm hij)]
        rfl
    rw [hview, hu, (event_tok e).2.2]
    cases ht : tok e with
    | none => simpa using hmidOwned
    | some t =>
      have hpj := hp j
      rw [own_cons_self, skeleton_append, proper_append] at hpj
      have hallow : (view (own j tr)).Allows t := by
        have hsk : skeleton (e :: own j []) = [t] := by
          simp [own, skeleton_singleton, ht]
        rw [hsk] at hpj
        exact hpj.2.1
      refine owned_step hmidOwned j t hallow (hv' j) (fun hl => ?_)
      subst hl
      exact hfree (tok_lock ht)

/-- The lock is exclusive over every interleaving of two runs that do not go
astray. -/
theorem backups_exclude_each_other {pk : Packages} {f : Bool → Flags} {filename : Bool → String}
    {before after : Bool} {tr : List (Bool × Ev)} (h : TwoBackups pk f filename before tr after)
    (hv : ∀ i, view (own i tr) ≠ .astray) : Exclusive before tr := by
  have hp : ∀ i, Proper .idle (skeleton (own i tr)) := fun i => backup_proper (h.each i)
  -- what holds of the whole run holds of each part of it that has passed
  have hpast : ∀ pre post, tr = pre ++ post →
      (∀ i, Proper .idle (skeleton (own i pre))) ∧ ∀ i, view (own i pre) ≠ .astray := by
    rintro pre post rfl
    refine ⟨fun i => ?_, fun i => ?_⟩
    · have hpi := hp i
      rw [own_append, skeleton_append, proper_append] at hpi
      exact hpi.1
    · have hvi := hv i
      rw [own_append] at hvi
      exact view_prefix hvi
  constructor
  · rintro pre i post rfl hholds
    obtain ⟨hpp, hvp⟩ := hpast pre _ rfl
    obtain ⟨mid, hmid, -⟩ := World.path_append.mp h.shared
    have howned := owned_path hpp hvp hmid
    have hpi := hp i
    rw [own_append, own_cons_self, skeleton_append, proper_append] at hpi
    have hunlocking := allows_unlock hpi.2.1 (hvp i)
    exact howned.2 i (Or.inr hunlocking) (Or.inl (view_of_holds (hpp _) (hvp _) hholds))
  · rintro pre post now i rfl hpath hholds
    obtain ⟨hpp, hvp⟩ := hpast pre _ rfl
    exact (owned_path hpp hvp hpath).1 i (Or.inl (view_of_holds (hpp i) (hvp i) hholds))

/-- The first run locks, fails and unlocks, and then the second one locks. -/
def oneAfterTheOther : List (Bool × Ev) :=
  (connecting .sample none failedExport).map (Prod.mk false) ++
    (connecting .sample none []).map (Prod.mk true)

theorem oneAfterTheOther_exclusive : Exclusive false oneAfterTheOther := by
  have hrun : TwoBackups .documented (fun _ => .sample) (fun _ => "") false oneAfterTheOther true :=
    { each := fun i => by
        cases i with
        | false => exact cut_act (cut_act (cut_act (cut_act (cut_act (.here _)))))
        | true => exact cut_act (cut_act (cut_act (.here _)))
      shared := by
        simp [oneAfterTheOther, connecting, failedExport, did, whole, World.Path, cluster,
          lockTaken, clusterStep] }
  refine backups_exclude_each_other hrun (fun i => ?_)
  cases i with
  | false =>
    intro h
    cases (show View.released = .astray from h)
  | true =>
    intro h
    cases (show View.holding = .astray from h)

/-- The first run holds the lock; the second one fails to lock, and its deferred
function unlocks the cluster. -/
def strayUnlock : List (Bool × Ev) :=
  (connecting .sample none []).map (Prod.mk false) ++
    (connecting .sample (some "the cluster is locked") (did (.exec .unlock) none)).map
      (Prod.mk true)

theorem strayUnlock_run : TwoBackups .documented (fun _ => .sample) (fun _ => "") false strayUnlock
    false where
  each i := by
    cases i with
    | false => exact cut_act (cut_act (cut_act (.here _)))
    | true => exact cut_act (cut_act (cut_act (cut_act (.here _))))
  shared := by
    simp [strayUnlock, connecting, did, whole, World.Path, cluster, lockTaken, clusterStep]

theorem not_all_backups_exclusive :
    ¬∀ (pk : Packages) (f : Bool → Flags) (filename : Bool → String) (before after : Bool)
      (tr : List (Bool × Ev)), TwoBackups pk f filename before tr after → Exclusive before tr := by
  intro h
  have hex := h _ _ _ _ _ _ strayUnlock_run
  have hholds : Holds (own false strayUnlock.dropLast) :=
    ⟨(connecting .sample none []).dropLast, [], rfl, by simp⟩
  exact hex.1 strayUnlock.dropLast true [] rfl hholds

end ShardingOnCloud.Pitr.LockExclusion
