import ShardingOnCloud.Operator.StorageUnits

namespace ShardingOnCloud.Operator.FinalizeRetry

open ShardingOnCloud.Lib.Program ShardingOnCloud.Lib.Pool ShardingOnCloud.Lib.Footprint
open ShardingOnCloud.Lib.Strconv ShardingOnCloud.Operator.Rds
open ShardingOnCloud.Operator.StorageNodeTypes ShardingOnCloud.Operator.Calls
open ShardingOnCloud.Operator.StorageNodeController ShardingOnCloud.Operator.StorageNodeSpec
open ShardingOnCloud.Operator.StorageNodeRuns ShardingOnCloud.Operator.Provisioning
open ShardingOnCloud.Operator.StorageNodeWrites ShardingOnCloud.Operator.Finalizer
open ShardingOnCloud.Operator.StorageUnits

section Proxy

/-- The statement that a proxy rejects for a unit that is not registered. -/
inductive Rejects
  | showRulesUsed
  | unRegister
  deriving DecidableEq

def current (p : Proxies) (dsName : String) : StorageUnit := ⟨p.computeNode, p.database, dsName⟩

def Rejecting (k : Rejects) (p : Proxies) : Ev → Prop
  | .main (.reply (.dbQuery (.showRulesUsed dsName)) (.ok _)) =>
    k = .showRulesUsed → current p dsName ∈ p.units
  | .main (.reply (.dbExec (.unRegisterStorageUnit dsName)) none) =>
    k = .unRegister → current p dsName ∈ p.units
  | _ => True

def proxy (k : Rejects) : World Proxies Ev := ⟨fun p e q => q = p.note e ∧ Rejecting k p e⟩

theorem path_after {W : World Proxies Ev} (hW : ∀ {p e q}, W.step p e q → q = p.note e)
    {p q : Proxies} {tr : List Ev} (h : W.Path p tr q) : q = p.after tr := by
  induction tr generalizing p with
  | nil => exact h.symm
  | cons e tr ih =>
    obtain ⟨u, hu, htr⟩ := h
    cases hW hu
    exact ih htr

theorem proxy_at {k : Rejects} {p q : Proxies} (as : List Ev) {bs : List Ev} {e : Ev}
    (h : (proxy k).Path p (as ++ e :: bs) q) : Rejecting k (p.after as) e := by
  obtain ⟨u, has, v, ⟨-, hv⟩, -⟩ := World.path_append.mp h
  rw [← path_after (W := proxy k) (fun h => h.1) has]
  exact hv

theorem unregister_registered {k : Rejects} {n m : StorageNode} {p q : Proxies} {tr tr' : List Ev}
    (h : Run alone (unregisterStorageUnit n) tr (.ok m)) (hreg : n.status.registered = true)
    (hp : (proxy k).Path p (tr ++ tr') q) : unitOf n ∈ p.units := by
  obtain ⟨tr₁, tr₂, err, h₁, h₂, rfl⟩ := unregisterStorageUnit_parts h hreg
  obtain ⟨rows, tr₃, rfl, hpassive⟩ := unRegisterStorageUnit_run h₂
  have hconnected := getShardingsphereServer_after h₁ p
  cases k with
  | showRulesUsed =>
    have hshow := proxy_at (tr₁ ++
        (whole (Op.dbExec (.useDatabase (n.annotations.get annotationKeyLogicDatabaseName))) none [] ++
          [Event.main (.issue (Op.dbQuery (.showRulesUsed (getDSName n))))]))
      (e := .main (.reply (.dbQuery (.showRulesUsed (getDSName n))) (.ok rows)))
      (by simpa [whole] using hp) rfl
    simp only [after_append, hconnected] at hshow
    exact hshow
  | unRegister =>
    have hshow := proxy_at (tr₁ ++
        (whole (Op.dbExec (.useDatabase (n.annotations.get annotationKeyLogicDatabaseName))) none [] ++
          (whole (Op.dbQuery (.showRulesUsed (getDSName n))) (Except.ok rows) [] ++ (tr₃ ++
            [Event.main (.issue (Op.dbExec (.unRegisterStorageUnit (getDSName n))))]))))
      (e := .main (.reply (.dbExec (.unRegisterStorageUnit (getDSName n))) none))
      (by simpa [whole] using hp) rfl
    simp only [after_append, hconnected, after_passive hpassive] at hshow
    exact hshow

/-- What the calls of a deregistration are answered with when nothing goes wrong, apart
from the statements that the proxy rejects. -/
def Correct (p : Proxies) : Ev → Prop
  | .main (.reply (.getComputeNode _ _) r) => ∃ cn user users, r = .ok cn ∧
      cn.serverConfig.users = user :: users ∧ before '@' user.user ≠ "" ∧ user.password ≠ "" ∧
      (protocolType cn.serverConfig.props = "mysql" ∨
        protocolType cn.serverConfig.props = "postgres")
  | .main (.reply (.getService _ _) r) => ∃ svc port ports, r = .ok svc ∧
      svc.spec.ports = port :: ports ∧ uint port.port ≠ 0
  | .main (.reply (.sqlOpen _ _) r) => r = none
  | .main (.reply .dbPing r) => r = none
  | .main (.reply (.dbQuery (.showRulesUsed dsName)) r) => current p dsName ∈ p.units →
      ∃ rules : List Rule, r = .ok ⟨rules.map .ok, none⟩
  | .main (.reply (.dbExec (.unRegisterStorageUnit dsName)) r) => current p dsName ∈ p.units →
      r = none
  | .main (.reply (.dbExec _) r) => r = none
  | _ => True

def correct : World Proxies Ev := ⟨fun p e q => q = p.note e ∧ Correct p e⟩

theorem correct_op {c : Op} {r : OpR c} {p q : Proxies} {tr : List Ev}
    (h : correct.Path p (whole c r [] ++ tr) q) :
    Correct p (.main (.reply c r)) ∧ correct.Path (p.note (.main (.reply c r))) tr q := by
  obtain ⟨u, ⟨hu, -⟩, v, ⟨hv, hc⟩, htr⟩ := h
  have hissue : u = p := hu
  subst hissue
  subst hv
  exact ⟨hc, htr⟩

theorem newServer_correct {driver host : String} {port : ℕ} {user password : String}
    {p q : Proxies} {tr tr' : List Ev} {r : Option Err}
    (h : Run alone (Server.newServer driver host port user password) tr r)
    (hp : correct.Path p (tr ++ tr') q) (hd : driver = "mysql" ∨ driver = "postgres")
    (hh : host ≠ "") (hport : port ≠ 0) (hu : user ≠ "") (hpass : password ≠ "") : r = none := by
  unfold Server.newServer at h
  rw [if_neg (by rintro ⟨h₁, h₂⟩; exact hd.elim h₁ h₂), if_neg (by simp [hh, hport, hu, hpass])] at h
  obtain ⟨tr₁, err, tr₂, h₁, h₂, rfl⟩ := run_bind.mp h
  rw [run_op h₁, List.append_assoc] at hp
  obtain ⟨hopen, hp₂⟩ := correct_op hp
  cases hopen
  obtain ⟨tr₃, err, tr₄, h₃, h₄, rfl⟩ := run_bind.mp h₂
  rw [run_op h₃, List.append_assoc] at hp₂
  obtain ⟨hping, -⟩ := correct_op hp₂
  cases hping
  exact (run_ret.mp h₄).2

theorem getShardingsphereServer_correct {n : StorageNode} {p q : Proxies} {tr tr' : List Ev}
    {r : Option Err} (h : Run alone (getShardingsphereServer n) tr r)
    (hp : correct.Path p (tr ++ tr') q) : r = none := by
  obtain ⟨tr₁, cn, tr₂, h₁, h₂, rfl⟩ := run_bind.mp h
  rw [run_op h₁, List.append_assoc] at hp
  obtain ⟨⟨cn', user, users, hcn, husers, hu, hpass, hdriver⟩, hp₂⟩ := correct_op hp
  cases hcn
  simp only [husers] at h₂
  obtain ⟨tr₃, svc, tr₄, h₃, h₄, rfl⟩ := run_bind.mp h₂
  rw [run_op h₃, List.append_assoc] at hp₂
  obtain ⟨⟨svc', port, ports, hsvc, hports, hport⟩, hp₄⟩ := correct_op hp₂
  cases hsvc
  simp only [hports] at h₄
  obtain ⟨tr₅, err, tr₆, h₅, h₆, rfl⟩ := run_bind.mp h₄
  rw [List.append_assoc] at hp₄
  have hhost : svc'.objectMeta.name ++ "." ++ svc'.objectMeta.nameSpace ≠ "" := by
    intro hempty
    simp at hempty
  cases newServer_correct h₅ hp₄ hdriver hhost hport hu hpass
  exact (run_ret.mp h₆).2

theorem scanRules_ok (rules : List Rule) : Server.scanRules (rules.map .ok) = .ok rules := by
  induction rules with
  | nil => rfl
  | cons rule rules ih =>
    rw [List.map_cons, Server.scanRules, ih]
    rfl

theorem dropRules_correct {rules : List Rule} {p q : Proxies} {tr tr' : List Ev} {r : Option Err}
    (h : Run alone (Server.dropRules rules) tr r) (hp : correct.Path p (tr ++ tr') q) :
    r = none := by
  induction rules generalizing p tr with
  | nil => exact (run_ret.mp h).2
  | cons rule rules ih =>
    obtain ⟨tr₁, err, tr₂, h₁, h₂, rfl⟩ := run_bind.mp h
    obtain ⟨tr₃, err', tr₄, h₃, h₄, rfl⟩ := run_bind.mp h₁
    rw [run_op h₃, List.append_assoc, List.append_assoc] at hp
    obtain ⟨hdrop, hp₂⟩ := correct_op hp
    cases hdrop
    obtain ⟨rfl, rfl⟩ := run_ret.mp h₄
    exact ih h₂ hp₂

theorem unRegisterStorageUnit_correct {logicDBName dsName : String} {p q : Proxies}
    {tr tr' : List Ev} {r : Option Err}
    (h : Run alone (Server.unRegisterStorageUnit logicDBName dsName) tr r)
    (hp : correct.Path p (tr ++ tr') q) (hu : ⟨p.computeNode, logicDBName, dsName⟩ ∈ p.units) :
    r = none := by
  obtain ⟨tr₀, err, tr₁, h₀, h₁, rfl⟩ := run_bind.mp h
  rw [run_op h₀, List.append_assoc] at hp
  obtain ⟨huse, hp₁⟩ := correct_op hp
  cases huse
  obtain ⟨tr₂, rules, tr₃, h₂, h₃, rfl⟩ := run_bind.mp h₁
  obtain ⟨tr₄, rows, tr₅, h₄, h₅, rfl⟩ := run_bind.mp h₂
  rw [run_op h₄, List.append_assoc, List.append_assoc] at hp₁
  obtain ⟨hshow, hp₂⟩ := correct_op hp₁
  obtain ⟨rules', hrows⟩ := hshow hu
  cases hrows
  simp only [scanRules_ok] at h₅
  obtain ⟨rfl, rfl⟩ := run_ret.mp h₅
  obtain ⟨tr₆, err, tr₇, h₆, h₇, rfl⟩ := run_bind.mp h₃
  rw [List.nil_append, List.append_assoc] at hp₂
  cases dropRules_correct h₆ hp₂
  obtain ⟨tr₈, err, tr₉, h₈, h₉, rfl⟩ := run_bind.mp h₇
  obtain ⟨u, hu₆, hp₈⟩ := World.path_append.mp hp₂
  rw [run_op h₈, List.append_assoc] at hp₈
  obtain ⟨hdone, -⟩ := correct_op hp₈
  have hstate := path_after (W := correct) (fun h => h.1) hu₆
  rw [after_passive ((dropRules_only rules').events h₆.cut)] at hstate
  subst hstate
  cases hdone hu
  exact (run_ret.mp h₉).2

theorem unregister_correct {n : StorageNode} {p q : Proxies} {tr tr' : List Ev}
    {r : Except Err StorageNode} (h : Run alone (unregisterStorageUnit n) tr r)
    (hp : correct.Path p (tr ++ tr') q)
    (hu : validateComputeNodeAnnotations n = none ∧ unitOf n ∈ p.units) : ∃ m, r = .ok m := by
  unfold unregisterStorageUnit at h
  split at h
  · exact ⟨n, (run_ret.mp h).2⟩
  rw [hu.1] at h
  obtain ⟨tr₁, err, tr₂, h₁, h₂, rfl⟩ := run_bind.mp h
  rw [List.append_assoc] at hp
  cases getShardingsphereServer_correct h₁ hp
  obtain ⟨u, hconnect, hp₂⟩ := World.path_append.mp hp
  have hstate := path_after (W := correct) (fun h => h.1) hconnect
  rw [getShardingsphereServer_after h₁] at hstate
  subst hstate
  obtain ⟨tr₃, err, tr₄, h₃, h₄, rfl⟩ := run_bind.mp h₂
  rw [List.append_assoc] at hp₂
  cases unRegisterStorageUnit_correct h₃ hp₂ hu.2
  obtain ⟨tr₅, err, tr₆, h₅, h₆, rfl⟩ := run_bind.mp h₄
  exact ⟨_, (run_ret.mp h₆).2⟩

end Proxy

section Pass

structure Finalizing (n : StorageNode) (sp : StorageProvider) : Prop where
  deletionTimestamp : n.deletionTimestamp = true
  finalizer : finalizerName ∈ n.finalizers
  isAws : sp.provisioner.isAws = true

/-- In a pass of `finalize`, the call of `unregisterStorageUnit` came back with `r`. -/
def Unregisters (n : StorageNode) (tr : List Ev) (r : Except Err StorageNode) : Prop :=
  n.status.phase ≠ .deleteComplete ∧
    ∃ tr₁ tr₂, tr = tr₁ ++ tr₂ ∧ Run alone (unregisterStorageUnit (ending n)) tr₁ r

theorem Unregisters.unique {n : StorageNode} {tr : List Ev} {r r' : Except Err StorageNode}
    (h : Unregisters n tr r) (h' : Unregisters n tr r') : r = r' := by
  obtain ⟨-, tr₁, tr₂, rfl, hrun⟩ := h
  obtain ⟨-, tr₃, tr₄, heq, hrun'⟩ := h'
  exact hrun.unique hrun' heq

theorem finalize_unregisters {n : StorageNode} {sp : StorageProvider} {tr : List Ev} {r : Res}
    (hn : Finalizing n sp) (h : Run alone (finalize n sp) tr r)
    (hphase : n.status.phase ≠ .deleteComplete) : ∃ r', Unregisters n tr r' := by
  unfold finalize at h
  rw [if_neg hphase] at h
  dsimp only at h
  rw [if_neg (isAws_ne hn.isAws)] at h
  obtain ⟨tr₁, r', tr₂, hrun, -, rfl⟩ := run_bind.mp h
  exact ⟨r', hphase, tr₁, tr₂, rfl, hrun⟩

/-- A pass that is over fails to unregister the unit, unless there is no need to or the
unit is there. -/
theorem fails_iff {k : Rejects} {n : StorageNode} {sp : StorageProvider} {tr : List Ev} {r : Res}
    {p q q' : Proxies} (hn : Finalizing n sp) (h : Run alone (finalize n sp) tr r)
    (hp : (proxy k).Path p tr q) (hc : correct.Path p tr q') :
    (¬∃ err, Unregisters n tr (.error err)) ↔
      n.status.phase = .deleteComplete ∨ n.status.registered = false ∨
        (validateComputeNodeAnnotations n = none ∧ unitOf n ∈ p.units) := by
  constructor
  · intro hno
    by_contra hx
    simp only [not_or] at hx
    obtain ⟨hphase, hreg, hunit⟩ := hx
    have hreg' : n.status.registered = true := by simpa using hreg
    obtain ⟨r', hr'⟩ := finalize_unregisters hn h hphase
    cases r' with
    | error err => exact hno ⟨err, hr'⟩
    | ok m =>
      obtain ⟨-, tr₁, tr₂, rfl, hrun⟩ := hr'
      exact hunit ⟨(unregisterStorageUnit_run hrun).2 hreg', unregister_registered (n := ending n) hrun hreg' hp⟩
  · rintro hcase ⟨err, hphase, tr₁, tr₂, rfl, hrun⟩
    obtain hx | hreg | hunit := hcase
    · exact hphase hx
    · unfold unregisterStorageUnit at hrun
      have hreg' : (ending n).status.registered = false := hreg
      rw [hreg'] at hrun
      cases (run_ret.mp hrun).2
    · obtain ⟨m, hm⟩ := unregister_correct hrun hc hunit
      cases hm

end Pass

section Chain

/-- What goes on after a pass: further passes of `finalize`, and edits by others. -/
inductive Later (k : Rejects) (E : StorageNode → StorageNode → Prop)
    (x : Option StorageNode × Proxies) : Option StorageNode × Proxies → Prop
  | refl : Later k E x x
  | pass {n : StorageNode} {sp : StorageProvider} {tr : List Ev} {t : Option StorageNode}
      {p q : Proxies} : Later k E x (some n, p) → Finalizing n sp → Cut alone (finalize n sp) tr →
      api.Path (some n) tr t → (proxy k).Path p tr q → Later k E x (t, q)
  | edit {old new : StorageNode} {p : Proxies} : Later k E x (some old, p) → E old new →
      Later k E x (settle new, p)

variable {k : Rejects} {E : StorageNode → StorageNode → Prop} {x y : Option StorageNode × Proxies}

theorem later_some {n : StorageNode} (h : Later k E x y) (hy : y.1 = some n) :
    ∃ m, x.1 = some m := by
  induction h generalizing n with
  | refl => exact ⟨n, hy⟩
  | pass _ _ _ _ _ ih => exact ih rfl
  | edit _ _ ih => exact ih rfl

theorem later_unregistered (hE : ∀ old new, E old new → Edited old new) (h : Later k E x y)
    (hx : ∀ m, x.1 = some m → m.status.registered = false) :
    ∀ m, y.1 = some m → m.status.registered = false := by
  induction h with
  | refl => exact hx
  | @pass n sp tr t p q _ hn hcut hapi _ ih =>
    have hreg := ih n rfl
    obtain ⟨-, hupd⟩ | ⟨-, hpg, -⟩ | ⟨-, -, hdb⟩ := finalize_cases hcut
    · refine api_path_keeps (P := (· = .update (removeFinalizer n finalizerName)))
        (K := fun m => m.status.registered = false) (fun _ _ hold _ => hold)
        (fun _ _ _ hs => by cases hs) hupd hapi ?_
      rintro m ⟨⟩
      exact hreg
    · exact absurd hpg (isAws_ne hn.isAws)
    · refine api_path_keeps (K := fun m => m.status.registered = false) (fun _ _ _ hu => hu.elim)
        ?_ ((finalizeDatabase_stores _ sp).events hdb) hapi ?_
      · rintro old new - ⟨c, is, hnew⟩
        change new.status.registered = false
        rw [hnew]
        rfl
      · rintro m ⟨⟩
        exact hreg
  | edit _ he ih =>
    intro m hm
    rw [settle_eq_some hm, (hE _ _ he).status_eq]
    exact ih _ rfl

/-- The node after a pass whose bookkeeping was lost: it asks for a unit to be
unregistered that is not there. -/
structure Stuck (u : StorageUnit) (y : Option StorageNode × Proxies) : Prop where
  node : ∀ m, y.1 = some m →
    m.status.phase ≠ .deleteComplete ∧ m.status.registered = true ∧ unitOf m = u
  unit : u ∉ y.2.units

theorem stuck_pass {u : StorageUnit} {n : StorageNode} {sp : StorageProvider} {tr : List Ev}
    {t : Option StorageNode} {p q : Proxies} (hs : Stuck u (some n, p)) (hn : Finalizing n sp)
    (hcut : Cut alone (finalize n sp) tr) (hapi : api.Path (some n) tr t)
    (hp : (proxy k).Path p tr q) : Stuck u (t, q) := by
  obtain ⟨hphase, hreg, hunit⟩ := hs.node n rfl
  obtain ⟨hx, -⟩ | ⟨-, hpg, -⟩ | ⟨-, -, hdb⟩ := finalize_cases hcut
  · exact absurd hx hphase
  · exact absurd hpg (isAws_ne hn.isAws)
  have hquiet : ∀ e ∈ tr, kind (about e) ≠ .write := by
    intro e he hk
    obtain ⟨tr₁, r, tr₂, hrun, hcut', rfl, he₂⟩ :=
      cut_past hdb (unregisterStorageUnit_only _) he (by simp [Of, hk])
    cases r with
    | error err =>
      cases hcut'
      cases he₂
    | ok m =>
      refine hs.unit ?_
      rw [← hunit]
      exact unregister_registered (n := ending n) hrun hreg hp
  have hnone := registers_not_of (finalize_only n sp) hcut (by decide)
  cases api_quiet_path hapi hquiet
  cases path_after (W := proxy k) (fun h => h.1) hp
  exact ⟨hs.node, fun hu => hs.unit (after_subset hnone hu)⟩

theorem later_stuck {u : StorageUnit} (hE : ∀ old new, E old new → Edited old new)
    (hkeep : ∀ old new, E old new → unitOf new = unitOf old) (h : Later k E x y)
    (hx : Stuck u x) : Stuck u y := by
  induction h with
  | refl => exact hx
  | pass _ hn hcut hapi hp ih => exact stuck_pass ih hn hcut hapi hp
  | edit _ he ih =>
    refine ⟨fun m hm => ?_, ih.unit⟩
    rw [settle_eq_some hm, (hE _ _ he).status_eq, hkeep _ _ he]
    exact ih.node _ rfl

theorem finalize_stored {n m : StorageNode} {sp : StorageProvider} {tr : List Ev}
    (hn : Finalizing n sp) (hphase : n.status.phase ≠ .deleteComplete)
    (hcut : Cut alone (finalize n sp) tr) (hapi : api.Path (some n) tr (some m)) :
    (m.status = n.status ∨ m.status.registered = false) ∧ unitOf m = unitOf n := by
  obtain ⟨hx, -⟩ | ⟨-, hpg, -⟩ | ⟨-, -, hdb⟩ := finalize_cases hcut
  · exact absurd hx hphase
  · exact absurd hpg (isAws_ne hn.isAws)
  refine api_keeps (K := fun m => (m.status = n.status ∨ m.status.registered = false) ∧
    unitOf m = unitOf n) (fun _ _ _ hu => hu.elim) ?_ (finalizeDatabase_stores _ sp) hdb hapi
    ⟨Or.inl rfl, rfl⟩
  rintro old new ⟨-, hold⟩ ⟨c, is, hnew⟩
  refine ⟨Or.inr ?_, hold⟩
  change new.status.registered = false
  rw [hnew]
  rfl

end Chain

/-- After a pass that has unregistered the unit and then failed, a later pass gets past the
deregistration when it finds nothing to unregister, or a unit that is there. As long as the
annotations name the same unit, this is so just when the status of the failed pass was
stored although the API server answered with an error. -/
theorem retry_unregisters_iff {k : Rejects} {E : StorageNode → StorageNode → Prop}
    {n n' m : StorageNode} {sp sp' : StorageProvider} {tr tr' : List Ev} {res : Result} {err : Err}
    {t : Option StorageNode} {p q p' q' q'' : Proxies} {r : Res}
    (hE : ∀ old new, E old new → Edited old new) (hn : Finalizing n sp)
    (hreg : n.status.registered = true) (hrun : Run alone (finalize n sp) tr (res, some err))
    (hdone : Unregisters n tr (.ok m)) (hapi : api.Path (some n) tr t)
    (hproxy : (proxy k).Path p tr q) (hlater : Later k E (t, q) (some n', p'))
    (hn' : Finalizing n' sp') (hrun' : Run alone (finalize n' sp') tr' r)
    (hproxy' : (proxy k).Path p' tr' q') (hcorrect : correct.Path p' tr' q'') :
    ((¬∃ err, Unregisters n' tr' (.error err)) ↔
      n'.status.phase = .deleteComplete ∨ n'.status.registered = false ∨
        (validateComputeNodeAnnotations n' = none ∧ unitOf n' ∈ p'.units)) ∧
    ((∀ old new, E old new → unitOf new = unitOf old) →
      ((¬∃ err, Unregisters n' tr' (.error err)) ↔
        ∃ m, t = some m ∧ m.status.registered = false)) := by
  have hfails := fails_iff hn' hrun' hproxy' hcorrect
  refine ⟨hfails, fun hkeep => ?_⟩
  obtain ⟨m₁, hm₁⟩ := later_some hlater rfl
  change t = some m₁ at hm₁
  subst hm₁
  rw [hfails]
  obtain ⟨hphase, tr₁, tr₂, rfl, hunreg⟩ := hdone
  obtain ⟨hkept, hunit⟩ := finalize_stored hn hphase hrun.cut hapi
  constructor
  · intro hcase
    refine ⟨m₁, rfl, ?_⟩
    by_contra hx
    have hstatus := hkept.resolve_right hx
    have hstuck : Stuck (unitOf n) (some m₁, q) := by
      refine ⟨?_, ?_⟩
      · rintro m₂ ⟨⟩
        exact ⟨hstatus ▸ hphase, hstatus ▸ hreg, hunit⟩
      · have hnone := registers_not_of (finalize_only n sp) hrun.cut (by decide)
        rw [path_after (W := proxy k) (fun h => h.1) hproxy, after_append]
        intro hu
        have hu' := after_subset (fun e he => hnone e (List.mem_append_right _ he)) hu
        rw [unregisterStorageUnit_after hunreg hreg] at hu'
        simp [unitOf, ending, getDSName] at hu'
    obtain ⟨hphase', hreg', hunit'⟩ := (later_stuck hE hkeep hlater hstuck).node n' rfl
    obtain hc | hc | hc := hcase
    · exact hphase' hc
    · simp [hreg'] at hc
    · rw [hunit'] at hc
      exact (later_stuck hE hkeep hlater hstuck).unit hc.2
  · rintro ⟨m₂, hm₂, hreg₂⟩
    cases hm₂
    refine Or.inr (Or.inl (later_unregistered hE hlater ?_ n' rfl))
    rintro m ⟨⟩
    exact hreg₂

section Samples

/-- A proxy that rejects both statements, next to the other answers. -/
def Cloud.rejecting (w : Cloud) (p : Proxies) : (c : Op) → Option (OpR c)
  | .dbQuery (.showRulesUsed dsName) =>
    some (if current p dsName ∈ p.units then .ok ⟨[], none⟩ else .error "no such storage unit")
  | .dbExec (.unRegisterStorageUnit dsName) =>
    some (if current p dsName ∈ p.units then none else some "no such storage unit")
  | c => w.answer c

def serveAll (w : Cloud) (x : Option StorageNode × Proxies) (c : Op) :
    Option (OpR c × (Option StorageNode × Proxies)) :=
  (serve (Cloud.rejecting w x.2) x.1 c).map
    (fun a => (a.1, (a.2, x.2.note (.main (.reply c a.1)))))

def OnSampleProxy (w : Cloud) : Prop :=
  w.computeNode = sampleComputeNode ∧ w.service = sampleService

theorem rejecting_correct {w : Cloud} {p : Proxies} {c : Op} {r : OpR c} (hw : OnSampleProxy w)
    (h : Cloud.rejecting w p c = some r) :
    Rejecting .showRulesUsed p (.main (.reply c r)) ∧ Correct p (.main (.reply c r)) := by
  cases c with
  | getComputeNode name nameSpace =>
    cases h
    rw [hw.1]
    exact ⟨trivial, _, _, _, rfl, rfl, by decide, by decide, Or.inl (by decide +kernel)⟩
  | getService name nameSpace =>
    cases h
    rw [hw.2]
    exact ⟨trivial, _, _, _, rfl, rfl, by decide⟩
  | sqlOpen driver dataSourceName =>
    cases h
    exact ⟨trivial, rfl⟩
  | dbPing =>
    cases h
    exact ⟨trivial, rfl⟩
  | dbExec s =>
    cases s with
    | unRegisterStorageUnit dsName =>
      by_cases hu : current p dsName ∈ p.units
      · have hr : r = none := by simpa [Cloud.rejecting, hu] using h.symm
        subst hr
        exact ⟨fun hk => absurd hk (by decide), fun _ => rfl⟩
      · have hr : r = some "no such storage unit" := by simpa [Cloud.rejecting, hu] using h.symm
        subst hr
        exact ⟨trivial, fun hx => absurd hx hu⟩
    | _ =>
      cases h
      exact ⟨trivial, rfl⟩
  | dbQuery s =>
    cases s with
    | showRulesUsed dsName =>
      by_cases hu : current p dsName ∈ p.units
      · have hr : r = .ok ⟨[], none⟩ := by simpa [Cloud.rejecting, hu] using h.symm
        subst hr
        exact ⟨fun _ => hu, fun _ => ⟨[], rfl⟩⟩
      · have hr : r = .error "no such storage unit" := by simpa [Cloud.rejecting, hu] using h.symm
        subst hr
        exact ⟨trivial, fun hx => absurd hx hu⟩
    | _ => exact ⟨trivial, trivial⟩
  | _ => exact ⟨trivial, trivial⟩

def both : World (Option StorageNode × Proxies) Ev :=
  ⟨fun x e y => api.step x.1 e y.1 ∧ (proxy .showRulesUsed).step x.2 e y.2 ∧
    correct.step x.2 e y.2⟩

theorem serveAll_step {w : Cloud} {x y : Option StorageNode × Proxies} {c : Op} {r : OpR c}
    (hw : OnSampleProxy w) (h : serveAll w x c = some (r, y)) : both.step x (.main (.reply c r)) y := by
  obtain ⟨⟨r', t⟩, hserve, hr⟩ := Option.map_eq_some_iff.mp h
  cases hr
  have hanswer : Rejecting .showRulesUsed x.2 (.main (.reply c r')) ∧
      Correct x.2 (.main (.reply c r')) := by
    cases c with
    | getNode => exact ⟨trivial, trivial⟩
    | update m => exact ⟨trivial, trivial⟩
    | statusUpdate m => exact ⟨trivial, trivial⟩
    | dbExec s =>
      exact rejecting_correct hw (serve_others hserve (by simp) (by cases s <;> simp [kind]))
    | panic p => exact Empty.elim r'
    | _ => exact rejecting_correct hw (serve_others hserve (by simp) (by simp [kind]))
  exact ⟨serve_step hserve, ⟨rfl, hanswer.1⟩, ⟨rfl, hanswer.2⟩⟩

theorem serveAll_path {α : Type} {w : Cloud} (hw : OnSampleProxy w)
    (x : Option StorageNode × Proxies) (p : Rec α) :
    both.Path x (drive (serveAll w) x p).1 (drive (serveAll w) x p).2 :=
  drive_path (W := both) (fun _ _ => ⟨rfl, ⟨rfl, trivial⟩, ⟨rfl, trivial⟩⟩) (serveAll_step hw) x p

def failingCloud : Cloud := { availableCloud with deletion := some "InvalidDBInstanceState" }

def finalizes (w : Cloud) (n : StorageNode) (p : Proxies) :
    List Ev × (Option StorageNode × Proxies) :=
  drive (serveAll w) (some n, p) (finalize n sampleProvider)

def result (w : Cloud) (n : StorageNode) (p : Proxies) : Option Res :=
  outcome (serveAll w) (some n, p) (finalize n sampleProvider)

def registeredDeleting (n : StorageNode) : Bool :=
  n.deletionTimestamp && (finalizerName ∈ n.finalizers) && n.status.registered &&
    n.status.phase ≠ .deleteComplete

/-- The first pass fails in deleting the instance, and the second one is without fault. -/
def loses (p : Proxies) (n : StorageNode) : Bool :=
  let x := (finalizes failingCloud n p).2
  registeredDeleting n && (validateComputeNodeAnnotations n).isNone && (unitOf n ∈ p.units) &&
    (result failingCloud n p).any (·.2.isSome) &&
    x.1.any (fun n' => registeredDeleting n' && (unitOf n' ∉ x.2.units) &&
      (result availableCloud n' x.2).isSome)

theorem finalizes_paths {w : Cloud} (hw : OnSampleProxy w) (n : StorageNode) (p : Proxies) :
    api.Path (some n) (finalizes w n p).1 (finalizes w n p).2.1 ∧
    (proxy .showRulesUsed).Path p (finalizes w n p).1 (finalizes w n p).2.2 ∧
    correct.Path p (finalizes w n p).1 (finalizes w n p).2.2 := by
  have hpath := serveAll_path hw (some n, p) (finalize n sampleProvider)
  exact ⟨World.path_map (W := both) (f := Prod.fst) (fun h => h.1) hpath,
    World.path_map (W := both) (f := Prod.snd) (fun h => h.2.1) hpath,
    World.path_map (W := both) (f := Prod.snd) (fun h => h.2.2) hpath⟩

theorem registeredDeleting_finalizing {n : StorageNode} (h : registeredDeleting n = true) :
    Finalizing n sampleProvider ∧ n.status.registered = true ∧
      n.status.phase ≠ .deleteComplete := by
  simp only [registeredDeleting, Bool.and_eq_true, decide_eq_true_eq] at h
  exact ⟨⟨h.1.1.1, h.1.1.2, rfl⟩, h.1.2, h.2⟩

/-- A node from its creation on, whose second pass of `finalize` is stuck. -/
theorem lost_bookkeeping : ∃ trs n tr res err m t p q n' tr' r q',
    Runs sampleAws trs (some n) ∧ Finalizing n sampleProvider ∧ n.status.registered = true ∧
    Run alone (finalize n sampleProvider) tr (res, some err) ∧ Unregisters n tr (.ok m) ∧
    api.Path (some n) tr t ∧ (proxy .showRulesUsed).Path p tr q ∧ t = some n' ∧
    Finalizing n' sampleProvider ∧ Run alone (finalize n' sampleProvider) tr' r ∧
    (proxy .showRulesUsed).Path q tr' q' ∧ correct.Path q tr' q' ∧
    ∃ err, Unregisters n' tr' (.error err) := by
  have hcreated : Runs sampleAws [] (some sampleNode) := .created sampleNode_created
  have hruns := runs_delete (runs_passes hcreated [availableCloud, availableCloud])
  have hloses : (delete (passes sampleAws (some sampleNode) [availableCloud, availableCloud]).2).any
      (loses (Proxies.after {}
        (passes sampleAws (some sampleNode) [availableCloud, availableCloud]).1.flatten)) = true := by
    decide +kernel
  generalize Proxies.after {} _ = p at hloses
  generalize delete _ = s at hruns hloses
  cases s with
  | none => cases hloses
  | some n =>
    simp only [Option.any_some, loses, Bool.and_eq_true, Option.any_eq_true, decide_eq_true_eq,
      Option.isNone_iff_eq_none, Option.isSome_iff_exists] at hloses
    obtain ⟨⟨⟨⟨hn, hvalid⟩, hunit⟩, ⟨⟨res, errs⟩, hres, err, herr⟩⟩, n', hn', ⟨hrisk, hunit'⟩, r, hr⟩ :=
      hloses
    obtain ⟨hfin, hreg, hphase⟩ := registeredDeleting_finalizing hn
    obtain ⟨hfin', hreg', hphase'⟩ := registeredDeleting_finalizing hrisk
    cases herr
    obtain ⟨hapi, hproxy, hcorrect⟩ := finalizes_paths (w := failingCloud) ⟨rfl, rfl⟩ n p
    obtain ⟨-, hproxy', hcorrect'⟩ :=
      finalizes_paths (w := availableCloud) ⟨rfl, rfl⟩ n' (finalizes failingCloud n p).2.2
    have hrun := drive_run hres
    have hrun' := drive_run hr
    obtain ⟨r₁, hr₁⟩ := finalize_unregisters hfin hrun hphase
    obtain ⟨r₂, hr₂⟩ := finalize_unregisters hfin' hrun' hphase'
    have hok := (fails_iff hfin hrun hproxy hcorrect).mpr (Or.inr (Or.inr ⟨hvalid, hunit⟩))
    have hfails := (fails_iff hfin' hrun' hproxy' hcorrect').not.mpr (by
      simp [hphase', hreg', hunit'])
    cases r₁ with
    | error e => exact absurd ⟨e, hr₁⟩ hok
    | ok m =>
      exact ⟨_, n, _, res, err, m, _, p, _, n', _, r, _, hruns, hfin, hreg, hrun, hr₁, hapi, hproxy,
        hn', hfin', hrun', hproxy', hcorrect', not_not.mp hfails⟩

theorem lost_bookkeeping_iff : ∃ (n n' : StorageNode) (t : Option StorageNode) (tr' : List Ev)
    (p' : Proxies), Finalizing n sampleProvider ∧ n.status.registered = true ∧ t = some n' ∧
    ((¬∃ err, Unregisters n' tr' (.error err)) ↔
      n'.status.phase = .deleteComplete ∨ n'.status.registered = false ∨
        (validateComputeNodeAnnotations n' = none ∧ unitOf n' ∈ p'.units)) ∧
    ((¬∃ err, Unregisters n' tr' (.error err)) ↔
      ∃ m, t = some m ∧ m.status.registered = false) := by
  obtain ⟨trs, n, tr, res, err, m, t, p, q, n', tr', r, q', -, hn, hreg, hrun, hdone, hapi, hproxy,
    rfl, hn', hrun', hproxy', hcorrect, -⟩ := lost_bookkeeping
  have hiff := retry_unregisters_iff (E := fun _ _ => False) (fun _ _ h => h.elim) hn hreg hrun hdone
    hapi hproxy .refl hn' hrun' hproxy' hcorrect
  exact ⟨n, n', _, tr', q, hn, hreg, rfl, hiff.1, hiff.2 (fun _ _ h => h.elim)⟩

/-- A deletion that fails after the deregistration is never finished. -/
theorem not_all_retried :
    ¬∀ (aws : AwsConfig) (trs : List (List Ev)) (k : Rejects) (n n' m : StorageNode)
      (sp sp' : StorageProvider) (tr tr' : List Ev) (res : Result) (err : Err)
      (t : Option StorageNode) (p q p' q' q'' : Proxies) (r : Res), Runs aws trs (some n) →
      Finalizing n sp → n.status.registered = true →
      Run alone (finalize n sp) tr (res, some err) → Unregisters n tr (.ok m) →
      api.Path (some n) tr t → (proxy k).Path p tr q →
      Later k Edited (t, q) (some n', p') → Finalizing n' sp' →
      Run alone (finalize n' sp') tr' r → (proxy k).Path p' tr' q' → correct.Path p' tr' q'' →
      ¬∃ err, Unregisters n' tr' (.error err) := by
  intro h
  obtain ⟨trs, n, tr, res, err, m, t, p, q, n', tr', r, q', hruns, hn, hreg, hrun, hdone, hapi,
    hproxy, rfl, hn', hrun', hproxy', hcorrect, hfails⟩ := lost_bookkeeping
  exact h _ _ _ _ _ _ _ _ _ _ _ _ _ _ _ _ _ _ _ hruns hn hreg hrun hdone hapi hproxy .refl hn'
    hrun' hproxy' hcorrect hfails

end Samples

end ShardingOnCloud.Operator.FinalizeRetry
