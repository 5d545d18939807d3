import ShardingOnCloud.Pitr.Delete
import ShardingOnCloud.Pitr.RestoreMetadata
import ShardingOnCloud.Pitr.StorageSpec

namespace ShardingOnCloud.Pitr.DeleteSpec

open ShardingOnCloud.Lib.Program ShardingOnCloud.Lib.Assertions ShardingOnCloud.Lib.Pool
open ShardingOnCloud.Pitr.Model ShardingOnCloud.Pitr.Calls ShardingOnCloud.Pitr.LocalStorage
open ShardingOnCloud.Pitr.Backup ShardingOnCloud.Pitr.BackupSpec ShardingOnCloud.Pitr.Restore
open ShardingOnCloud.Pitr.RestoreSpec ShardingOnCloud.Pitr.RestoreMetadata
open ShardingOnCloud.Pitr.StorageSpec ShardingOnCloud.Pitr.Delete

variable {pk : Packages} {P : Ev → Prop} {L : Label Act ActR → Prop}

theorem findDeleted_emits (f : Flags) (hP : ∀ a, looking a = true → Allows P a) :
    Emits (sem pk) P (findDeleted f) (fun _ => True) := by
  refine emits_call (hP _ rfl) (fun r => ?_)
  cases r with
  | some err => trivial
  | none => exact validate_emits f hP

theorem findDeleted_aside (f : Flags) : Emits (sem pk) Aside (findDeleted f) (fun _ => True) :=
  findDeleted_emits f looking_aside

theorem findDeleted_listed {f : Flags} {tr : List Ev} {bak : LsBackup}
    (h : Run (sem pk) (findDeleted f) tr (.ok bak)) :
    Listed tr bak ∧ ((f.csn ≠ "" ∧ bak.info.map (·.csn) = some f.csn) ∨
      bak.info.map (·.id) = some f.recordID) := by
  obtain ⟨r, tr₁, h₁, rfl⟩ := run_act_inv h
  cases r with
  | some err => cases (run_ret.mp h₁).2
  | none =>
    obtain ⟨hl, hb⟩ := validate_listed h₁
    exact ⟨hl.mono (fun e he => by simp [he]), hb⟩

theorem hideByName_emits {name : String} (h : Allows P (.osRename name (hided name))) :
    Emits (sem pk) P (hideByName name) (fun _ => True) := by
  refine emits_act h (fun err => ?_)
  cases err <;> trivial

theorem deleteByHidedName_emits {name : String} (h : Allows P (.osRemove (hided name))) :
    Emits (sem pk) P (deleteByHidedName name) (fun _ => True) := by
  refine emits_call h (fun err => ?_)
  cases err <;> trivial

/-- The acts of the goroutines of `_execDelete`. -/
def removing : Act → Bool
  | .newTicker | .deleteBackup _ _ | .sendDeleteResult _ | .markAsDone | .markAsErrored | .sendDone
  | .selectForever => true
  | _ => false

theorem removing_of_looping {a : Act} (ha : looping a = true) : removing a = true := by
  cases a <;> first | rfl | cases ha

theorem deleteTask_emits (f : Flags) (sn : StorageNode) (dn : DataNode)
    (hL : ∀ a, removing a = true → AllowsGo L a) :
    Emits alone (onMain L) (deleteTask f sn dn) (fun _ => True) := by
  refine updateProgress_emits (I := fun _ => True) (fun a ha => hL a (removing_of_looping ha))
    (fun _ _ => ?_) trivial
  refine emits_goAct (hL _ rfl) (fun err => ?_)
  cases err with
  | some err => exact emits_goAct (hL _ rfl) (fun _ => trivial)
  | none => exact emits_goAct (hL _ rfl) (fun _ => trivial)

theorem execDeleteTasks_emits (f : Flags) (dns : String → Option DataNode) (sns : List StorageNode)
    (hL : ∀ a, removing a = true → AllowsGo L a) :
    ∀ p ∈ execDeleteTasks f dns sns, Emits alone (onMain L) p (fun _ => True) := by
  intro p hp
  obtain ⟨sn, -, hsn⟩ := List.mem_filterMap.mp hp
  obtain ⟨dn, -, rfl⟩ := Option.map_eq_some_iff.mp hsn
  exact deleteTask_emits f sn dn hL

section Deletion

variable (hrender : ∀ cap ws, P (.main (.issue (.goRender .deleteResult cap ws))) ∧
    ∀ r, P (.main (.reply (.goRender .deleteResult cap ws) r)))
  (hsub : ∀ i l, L l → P (.sub (i, l))) (hL : ∀ a, removing a = true → AllowsGo L a)

include hrender hsub hL in
theorem _execDelete_emits (hpanic : Allows P .panic) (f : Flags) (bak : LsBackup) :
    Emits (sem pk) P (_execDelete f bak) (fun _ => True) := by
  refine emits_bind (deref_emits hpanic bak.ssBackup) (fun ss _ => ?_)
  have htasks := execDeleteTasks_emits f (dataNodeMap bak.dnList) ss.storageNodes hL
  dsimp only
  split
  · trivial
  · refine ⟨(hrender _ _).1, ?_, ?_⟩
    · rintro is ⟨us, hp⟩ x hx
      exact hsub _ _ (path_emits hp htasks x hx)
    · rintro r is ⟨us, hp, -⟩
      refine ⟨(hrender _ _).2 r, fun x hx => hsub _ _ (path_emits hp htasks x hx), ?_⟩
      change Emits (sem pk) P (if _ then _ else _) _
      split <;> trivial

include hrender hsub hL in
theorem deleteRecord_emits (hP : ∀ a, looking a = true → Allows P a)
    (hhide : ∀ name, Allows P (.osRename name (hided name)))
    (hremove : ∀ name, Allows P (.osRemove (hided name))) (f : Flags) :
    Emits (sem pk) P (deleteRecord f) (fun _ => True) := by
  refine emits_bind (findDeleted_emits f hP) (fun r _ => ?_)
  cases r with
  | error err => trivial
  | ok bak =>
    refine emits_bind (checkAgentServerStatus_emits f (hP _ rfl) (fun _ _ => hP _ rfl) bak)
      (fun available _ => ?_)
    cases available with
    | false => trivial
    | true =>
      refine emits_bind (deref_emits (hP _ rfl) bak.info) (fun info _ => ?_)
      refine emits_act (hP _ rfl) (fun err => ?_)
      cases err with
      | some err => trivial
      | none =>
        refine emits_bind (hideByName_emits (hhide _)) (fun err _ => ?_)
        cases err with
        | some err => trivial
        | none =>
          refine emits_bind (_execDelete_emits hrender hsub hL (hP _ rfl) f bak) (fun err _ => ?_)
          cases err with
          | some err => trivial
          | none =>
            refine emits_bind (deleteByHidedName_emits (hremove _)) (fun err _ => ?_)
            cases err <;> trivial

end Deletion

theorem cut_bind_past {α β : Type} {p : Cli α} {k : α → Cli β} {Q : α → Prop} {evs : List Ev}
    {x : ℕ × Label Act ActR} (hp : Emits (sem pk) Aside p Q) (h : Cut (sem pk) (p >>= k) evs)
    (hx : .sub x ∈ evs) : ∃ tr a evs', Run (sem pk) p tr a ∧ (∀ e ∈ tr, Aside e) ∧
      Cut (sem pk) (k a) evs' ∧ .sub x ∈ evs' ∧ evs = tr ++ evs' := by
  obtain hcut | ⟨tr, a, evs', hrun, hcut, rfl⟩ := cut_bind h
  · exact (hp.cut hcut _ hx).elim
  · have haside := hp.cut hrun.cut
    exact ⟨tr, a, evs', hrun, haside, hcut, (List.mem_append.mp hx).resolve_left (haside _), rfl⟩

theorem cut_ret_past {α : Type} {a : α} {evs : List Ev} {x : ℕ × Label Act ActR}
    (h : Cut (sem pk) (.ret a) evs) : .sub x ∉ evs := by
  cases h with
  | here => exact List.not_mem_nil

theorem act_aside {a : Act} (ha : a ≠ .exportMetaData) :
    Emits (sem pk) Aside (act a) (fun _ => True) :=
  emits_call (allows_aside ha) (fun _ => trivial)

theorem deleteRecord_hides {f : Flags} {evs : List Ev} {x : ℕ × Label Act ActR}
    (h : Cut (sem pk) (deleteRecord f) evs) (hx : .sub x ∈ evs) :
    ∃ bak info tr₁ tr₂ tr₃, Run (sem pk) (findDeleted f) tr₁ (.ok bak) ∧ bak.info = some info ∧
      Run (sem pk) (checkAgentServerStatus f bak) tr₂ true ∧
      Cut (sem pk) (deleteRest f bak info.fileName) tr₃ ∧
      evs = tr₁ ++ (tr₂ ++ (did (.getUserApprove (deletePrompt info)) none ++
        (did (.osRename info.fileName (hided info.fileName)) none ++ tr₃))) := by
  obtain ⟨tr₁, r, evs₁, hfind, -, h₁, hx₁, rfl⟩ := cut_bind_past (findDeleted_aside f) h hx
  cases r with
  | error err => exact absurd hx₁ (cut_ret_past h₁)
  | ok bak =>
    obtain ⟨tr₂, available, evs₂, hstatus, -, h₂, hx₂, rfl⟩ := cut_bind_past
      (checkAgentServerStatus_emits f (looking_aside _ rfl) (fun _ _ => looking_aside _ rfl) bak)
      h₁ hx₁
    cases available with
    | false => exact absurd hx₂ (cut_ret_past h₂)
    | true =>
      obtain ⟨tr₃, info, evs₃, hderef, -, h₃, hx₃, rfl⟩ := cut_bind_past
        (deref_emits (looking_aside _ rfl) bak.info) h₂ hx₂
      obtain ⟨rfl, hinfo⟩ := run_deref hderef
      obtain ⟨tr₄, err, evs₄, happrove, -, h₄, hx₄, rfl⟩ := cut_bind_past
        (act_aside (a := .getUserApprove _) nofun) h₃ hx₃
      obtain ⟨_, _, hret, rfl⟩ := run_act_inv happrove
      obtain ⟨rfl, rfl⟩ := run_ret.mp hret
      cases err with
      | some err => exact absurd hx₄ (cut_ret_past h₄)
      | none =>
        obtain ⟨tr₅, err, evs₅, hhide, -, h₅, hx₅, rfl⟩ := cut_bind_past
          (hideByName_emits (allows_aside nofun)) h₄ hx₄
        cases err with
        | some err => exact absurd hx₅ (cut_ret_past h₅)
        | none =>
          rw [hideByName_inv hhide]
          exact ⟨bak, info, tr₁, tr₂, evs₅, hfind, hinfo, hstatus, h₅, by simp⟩

/-- The result that a goroutine sends for the answer of its agent. -/
def deleteResult (sn : StorageNode) (err : Option Err) : DeleteBackupResult where
  ip := sn.ip
  port := sn.port
  status := match err with
    | some _ => ssBackupStatusFailed
    | none => ssBackupStatusCompleted
  msg := err.getD ""

def NoAnswer : Label Act ActR → Prop
  | .reply (.deleteBackup _ _) _ => False
  | _ => True

theorem deleteTask_finished {f : Flags} {sn : StorageNode} {dn : DataNode}
    {ls : List (Label Act ActR)} {u : Thread Act ActR Unit}
    (h : Thread.Path (.run (deleteTask f sn dn)) ls u) (hm : ls.any marks = true) :
    ∃ err, .reply (.sendDeleteResult (deleteResult sn err)) () ∈ ls ∧
      ∀ addr x r, .reply (.deleteBackup addr x) r ∈ ls → r = err := by
  obtain ⟨n, ls₁, rfl, h₁, hm₁⟩ := marked_call (fun _ => rfl) h hm
  cases n with
  | zero =>
    obtain ⟨r, -⟩ := marked_call (fun _ => rfl) h₁ hm₁
    cases r
  | succ n =>
    obtain ⟨err, ls₂, rfl, h₂, hm₂⟩ := marked_call (fun _ => rfl) h₁ hm₁
    have hrest : ∃ ls₃, ls₂ = .issue (.sendDeleteResult (deleteResult sn err)) ::
        .reply (.sendDeleteResult (deleteResult sn err)) () :: ls₃ ∧ ∀ l ∈ ls₃, NoAnswer l := by
      cases err with
      | some err =>
        obtain ⟨_, ls₃, rfl, h₃, -⟩ := marked_call (fun _ => rfl) h₂ hm₂
        exact ⟨ls₃, rfl, mark_only (c := .markAsErrored) ⟨trivial, fun _ => trivial⟩
          ⟨trivial, fun _ => trivial⟩ (fun _ => rfl) h₃⟩
      | none =>
        obtain ⟨_, ls₃, rfl, h₃, -⟩ := marked_call (fun _ => rfl) h₂ hm₂
        exact ⟨ls₃, rfl, mark_only (c := .markAsDone) ⟨trivial, fun _ => trivial⟩
          ⟨trivial, fun _ => trivial⟩ (fun _ => rfl) h₃⟩
    obtain ⟨ls₃, rfl, hls₃⟩ := hrest
    refine ⟨err, by simp, fun addr x r hr => ?_⟩
    have hnone : .reply (.deleteBackup addr x) r ∉ ls₃ := fun hl => hls₃ _ hl
    simp only [List.mem_cons, hnone, or_false] at hr
    rcases hr with hr | hr | hr | hr | hr | hr
    · cases hr
    · cases hr
    · cases hr
    · cases hr
      rfl
    · cases hr
    · cases hr

/-- A deletion that fails on a node makes `_execDelete` fail. -/
theorem _execDelete_failed {f : Flags} {bak : LsBackup} {tr : List Ev} {res : Option Err}
    (h : Run (sem pk) (_execDelete f bak) tr res) {i : ℕ} {addr : String} {x : DeleteBackupIn}
    {e : Err} (hx : .sub (i, .reply (.deleteBackup addr x) (some e)) ∈ tr) : ∃ err, res = some err := by
  obtain ⟨tr₁, ss, tr₂, hderef, h₁, rfl⟩ := run_bind.mp h
  obtain ⟨rfl, -⟩ := run_deref hderef
  change Run (sem pk) (if _ then _ else _) _ _ at h₁
  split at h₁
  · obtain ⟨rfl, -⟩ := run_ret.mp h₁
    cases hx
  · obtain ⟨_, log, tr₃, ⟨us, hp, hstop, rfl⟩, h₂, rfl⟩ := run_call.mp h₁
    have hnil : tr₃ = [] := by
      change Run (sem pk) (if _ then _ else _) _ _ at h₂
      split at h₂
      · exact (run_ret.mp h₂).1
      · exact (run_ret.mp h₂).1
    subst hnil
    have hlog : (i, .reply (.deleteBackup addr x) (some e)) ∈ log := by simpa [whole] using hx
    obtain ⟨p, u, hi, -, hpath, hown⟩ := path_thread hp hlog
    obtain ⟨sn, -, hsn⟩ := List.mem_filterMap.mp (List.mem_of_getElem? hi)
    obtain ⟨dn, -, rfl⟩ := Option.map_eq_some_iff.mp hsn
    have hmarked : (own i log).any marks = true := by
      refine pk.renderer.all_done _ hstop _ (List.mem_map.mpr ⟨i, ?_, rfl⟩)
      exact List.mem_range.mpr (List.getElem?_eq_some_iff.mp hi).1
    obtain ⟨err, hsent, honly⟩ := deleteTask_finished hpath hmarked
    obtain rfl := honly _ _ _ hown
    have hmem : deleteResult sn (some e) ∈ contents .deleteResult log :=
      mem_contents.mpr ⟨i, _, mem_own.mp hsent, rfl⟩
    have hall : ¬(contents .deleteResult log).all
        (fun r => decide (r.status = ssBackupStatusCompleted)) = true := by
      intro h
      have hne : ssBackupStatusFailed ≠ ssBackupStatusCompleted := by decide
      exact hne (of_decide_eq_true (List.all_eq_true.mp h _ hmem))
    change Run (sem pk) (if _ then _ else _) _ _ at h₂
    rw [if_neg hall] at h₂
    exact ⟨_, (run_ret.mp h₂).2⟩

/-- A run in which the deletion fails on a node ends with an error of `_execDelete`. -/
theorem deleteRecord_failed {f : Flags} {tr : List Ev} {res : Option Err}
    (h : Run (sem pk) (deleteRecord f) tr res) {i : ℕ} {addr : String} {x : DeleteBackupIn}
    {e : Err} (hx : .sub (i, .reply (.deleteBackup addr x) (some e)) ∈ tr) :
    ∃ bak info tr₁ tr₂ tr₃ err, Run (sem pk) (findDeleted f) tr₁ (.ok bak) ∧
      bak.info = some info ∧ Run (sem pk) (checkAgentServerStatus f bak) tr₂ true ∧
      Run (sem pk) (_execDelete f bak) tr₃ (some err) ∧
      res = some ("exec delete failed. err: " ++ err) ∧
      tr = tr₁ ++ (tr₂ ++ (did (.getUserApprove (deletePrompt info)) none ++
        (did (.osRename info.fileName (hided info.fileName)) none ++ tr₃))) := by
  obtain ⟨bak, info, tr₁, tr₂, tr₃, hfind, hinfo, hstatus, -, rfl⟩ := deleteRecord_hides h.cut hx
  have h₁ : Run (sem pk) _ _ res := hfind.rest h
  have h₂ : Run (sem pk) _ _ res := hstatus.rest h₁
  change Run (sem pk) (deref bak.info >>= _) _ _ at h₂
  rw [hinfo] at h₂
  obtain ⟨_, _, h₃, heq⟩ := run_act_inv h₂
  obtain ⟨rfl, -, rfl⟩ := whole_inj heq
  obtain ⟨_, _, h₄, heq⟩ := run_act_inv h₃
  obtain ⟨rfl, -, rfl⟩ := whole_inj heq
  -- the answer is one to `_execDelete`
  have hx₁ := (List.mem_append.mp hx).resolve_left ((findDeleted_aside f).cut hfind.cut _)
  have hx₂ := (List.mem_append.mp hx₁).resolve_left ((checkAgentServerStatus_emits f
    (looking_aside _ rfl) (fun _ _ => looking_aside _ rfl) bak).cut hstatus.cut _)
  have hx₃ : .sub (i, .reply (.deleteBackup addr x) (some e)) ∈ tr₃ := by
    simpa [did, whole] using hx₂
  change Run (sem pk) (deleteRest f bak info.fileName) _ _ at h₄
  obtain ⟨tr₄, r, tr₅, hexec, h₅, rfl⟩ := run_bind.mp h₄
  cases r with
  | some err =>
    obtain ⟨rfl, rfl⟩ := run_ret.mp h₅
    exact ⟨bak, info, tr₁, tr₂, tr₄, err, hfind, hinfo, hstatus, hexec, rfl, by simp⟩
  | none =>
    have haside : Emits (sem pk) Aside (deleteByHidedName info.fileName) (fun _ => True) := by
      refine deleteByHidedName_emits (allows_aside ?_)
      rintro ⟨⟩
    have htail : ∀ e ∈ tr₅, Aside e := by
      refine (emits_bind (Q := fun _ => True) haside (fun err _ => ?_)).cut h₅.cut
      cases err <;> trivial
    have hx₄ := (List.mem_append.mp hx₃).resolve_right (htail _)
    obtain ⟨err, herr⟩ := _execDelete_failed hexec hx₄
    cases herr

end ShardingOnCloud.Pitr.DeleteSpec
