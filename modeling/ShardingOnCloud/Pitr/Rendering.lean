import ShardingOnCloud.Lib.Termination
import ShardingOnCloud.Pitr.Backup

namespace ShardingOnCloud.Pitr.Rendering

open ShardingOnCloud.Lib.Program ShardingOnCloud.Lib.Pool ShardingOnCloud.Lib.Schedules
open ShardingOnCloud.Lib.Termination ShardingOnCloud.Pitr.Model ShardingOnCloud.Pitr.Calls

/-- What a goroutine has sent on channel `κ`. -/
def sends (κ : Chan) (ls : List (Label Act ActR)) : List κ.Elem := ls.filterMap (received κ)

theorem sends_append (κ : Chan) (as bs : List (Label Act ActR)) :
    sends κ (as ++ bs) = sends κ as ++ sends κ bs := List.filterMap_append

theorem received_issue (κ : Chan) (a : Act) : received κ (.issue a) = none := by
  cases κ <;> rfl

theorem sends_issue (κ : Chan) (a : Act) : sends κ [.issue a] = [] :=
  List.filterMap_cons_none (received_issue κ a)

theorem sends_snoc_issue (κ : Chan) (ls : List (Label Act ActR)) (a : Act) :
    sends κ (ls ++ [Label.issue a]) = sends κ ls := by
  rw [sends_append, sends_issue, List.append_nil]

theorem mem_contents_own {κ : Chan} {log : Log} {i : ℕ} {v : κ.Elem}
    (h : v ∈ sends κ (own i log)) : v ∈ contents κ log := by
  obtain ⟨l, hl, hrec⟩ := List.mem_filterMap.mp h
  exact mem_contents.mpr ⟨i, l, mem_own.mp hl, hrec⟩

theorem contents_perm {κ : Chan} {cap : ℕ} {α : Type} {ws : List (Go α)} {log : Log}
    {us : List (Thread Act ActR α)} (h : Path (Room κ cap) (start ws) log us) :
    (contents κ log).Perm ((List.range ws.length).flatMap (fun i => sends κ (own i log))) := by
  refine filterMap_perm_own (received κ) (fun x hx => ?_)
  have hlt := path_index h (i := x.1) (l := x.2) hx
  rwa [start, List.length_map] at hlt

/-- What is asked of a goroutine that reports on `κ`: what holds of a value that it sends, which
answers it is given, and what holds before it acts. The labels are those of what it has done. -/
structure Contract (κ : Chan) where
  value : List (Label Act ActR) → κ.Elem → Prop
  answers : List (Label Act ActR) → Prop
  before : List (Label Act ActR) → Act → Prop

/-- The goroutine keeps to the contract, sends at most one value, and returns with `Q`. -/
def Fulfils {κ : Chan} {α : Type} (T : Contract κ) (Q : List (Label Act ActR) → α → Prop) :
    List (Label Act ActR) → Go α → Prop
  | ls, .ret x => Q ls x
  | ls, .call a k => T.before ls a ∧
      (∀ r v, received κ (.reply a r) = some v → sends κ ls = [] ∧ T.value ls v) ∧
      ∀ r, T.answers (ls ++ [.issue a, .reply a r]) →
        Fulfils T Q (ls ++ [.issue a, .reply a r]) (k r)

def StillFulfils {κ : Chan} {α : Type} (T : Contract κ) (Q : List (Label Act ActR) → α → Prop)
    (ls : List (Label Act ActR)) : Thread Act ActR α → Prop
  | .run p => Fulfils T Q ls p
  | .wait a k => ∃ ls', ls = ls' ++ [.issue a] ∧ Fulfils T Q ls' (.call a k)

def Once {κ : Chan} (T : Contract κ) (ls : List (Label Act ActR)) : Prop :=
  (sends κ ls).length ≤ 1 ∧ ∀ v ∈ sends κ ls, T.value ls v

section Goroutine

variable {κ : Chan} {T : Contract κ} {α β : Type} {Q : List (Label Act ActR) → α → Prop}
  {ls : List (Label Act ActR)} {t u : Thread Act ActR α}

theorem fulfils_bind {Q' : List (Label Act ActR) → β → Prop} {p : Go α} {f : α → Go β}
    (h : Fulfils T Q ls p) (hls : T.answers ls)
    (hf : ∀ ls x, Q ls x → T.answers ls → Fulfils T Q' ls (f x)) : Fulfils T Q' ls (p >>= f) := by
  induction p generalizing ls with
  | ret x => exact hf ls x h hls
  | call a k ih =>
    obtain ⟨hbefore, hvalue, hk⟩ := h
    exact ⟨hbefore, hvalue, fun r hr => ih r (hk r hr) hr⟩

theorem once_nil : Once T [] := ⟨Nat.zero_le 1, fun _ hv => absurd hv List.not_mem_nil⟩

theorem sends_act (ls : List (Label Act ActR)) (a : Act) (r : ActR a) :
    sends κ (ls ++ [Label.issue a, .reply a r]) =
      sends κ ls ++ (received κ (.reply a r)).toList := by
  have hsplit : ls ++ [Label.issue a, .reply a r] =
      ls ++ [Label.issue a] ++ [Label.reply a r] := by simp
  rw [hsplit, sends_append, sends_snoc_issue]
  cases hr : received κ (.reply a r) with
  | none => exact congrArg (sends κ ls ++ ·) (List.filterMap_cons_none hr)
  | some v => exact congrArg (sends κ ls ++ ·) (List.filterMap_cons_some hr)

theorem step_fulfils {l : Label Act ActR} (hvalue : ∀ ls ls' v, T.value ls v → T.value (ls ++ ls') v)
    (h : StillFulfils T Q ls t) (honce : Once T ls) (hstep : t.Step l u)
    (hl : T.answers (ls ++ [l])) : StillFulfils T Q (ls ++ [l]) u ∧ Once T (ls ++ [l]) := by
  have hold : ∀ v ∈ sends κ ls, T.value (ls ++ [l]) v := fun v hv => hvalue _ _ v (honce.2 v hv)
  cases hstep with
  | issue a k =>
    refine ⟨⟨ls, rfl, h⟩, ?_⟩
    rw [Once, sends_snoc_issue]
    exact ⟨honce.1, hold⟩
  | reply a k r =>
    obtain ⟨ls, rfl, -, hsend, hk⟩ := h
    have hjoin : ls ++ [Label.issue a] ++ [Label.reply a r] =
        ls ++ [Label.issue a, .reply a r] := by simp
    rw [hjoin, sends_snoc_issue] at hold
    rw [hjoin] at hl ⊢
    rw [Once, sends_snoc_issue] at honce
    refine ⟨hk r hl, ?_⟩
    rw [Once, sends_act]
    cases hr : received κ (.reply a r) with
    | none =>
      rw [Option.toList_none, List.append_nil]
      exact ⟨honce.1, hold⟩
    | some v =>
      obtain ⟨hnil, hv⟩ := hsend r v hr
      rw [hnil, List.nil_append, Option.toList_some]
      refine ⟨le_refl 1, fun w hw => ?_⟩
      rw [List.mem_singleton.mp hw]
      exact hvalue _ _ _ hv

theorem path_fulfils {ls₀ : List (Label Act ActR)}
    (hvalue : ∀ ls ls' v, T.value ls v → T.value (ls ++ ls') v)
    (hcut : ∀ ls ls', T.answers (ls ++ ls') → T.answers ls) (h : StillFulfils T Q ls₀ t)
    (honce : Once T ls₀) (hpath : Thread.Path t ls u) (hls : T.answers (ls₀ ++ ls)) :
    StillFulfils T Q (ls₀ ++ ls) u ∧ Once T (ls₀ ++ ls) := by
  induction ls generalizing t ls₀ with
  | nil =>
    cases hpath
    rw [List.append_nil]
    exact ⟨h, honce⟩
  | cons l ls ih =>
    obtain ⟨v, hv, hu⟩ := hpath
    have hsplit : ls₀ ++ l :: ls = ls₀ ++ [l] ++ ls := by simp
    rw [hsplit] at hls ⊢
    obtain ⟨hstill, hone⟩ := step_fulfils hvalue h honce hv (hcut _ _ hls)
    exact ih hstill hone hu hls

end Goroutine

/-- The contract of a goroutine that goes on until its tracker is marked. -/
def live (κ : Chan) (E : List (Label Act ActR) → Prop) : Contract κ where
  value _ _ := True
  answers := E
  before ls a := a ≠ .panic ∧ (ls.any marks = true ∨ ∃ r, E (ls ++ [.issue a, .reply a r]))

/-- The goroutine comes to mark its tracker whatever it is answered within `E`, and it sends at
most one value on `κ`. -/
def Marks (κ : Chan) (E : List (Label Act ActR) → Prop) (ls : List (Label Act ActR)) (p : Go Unit) :
    Prop :=
  Fulfils (live κ E) (fun ls _ => ls.any marks = true) ls p

/-- The acts other than making a ticker and asking for the state of a backup. -/
def free : Act → Bool
  | .newTicker | .showDetail _ _ => false
  | _ => true

/-- What is asked of the answers is only about those to acts that are not free. -/
structure Limits (E : List (Label Act ActR) → Prop) : Prop where
  cut : ∀ {ls ls'}, E (ls ++ ls') → E ls
  issue : ∀ {ls a}, E ls → E (ls ++ [.issue a])
  answer : ∀ {ls a r}, free a = true → E ls → E (ls ++ [.issue a, .reply a r])

section Marking

variable {κ : Chan} {E : List (Label Act ActR) → Prop} {p : Go Unit}
  {ls : List (Label Act ActR)} {u : Thread Act ActR Unit}

theorem path_panic {t : Thread Act ActR Unit} (h : Thread.Path t ls u) (hp : .issue .panic ∈ ls) :
    ∃ k, u = .wait .panic k := by
  obtain ⟨ls₁, ls₂, rfl⟩ := List.append_of_mem hp
  obtain ⟨v, -, w, hstep, hrest⟩ := World.path_append.mp h
  cases hstep with
  | issue _ k =>
    cases ls₂ with
    | nil =>
      cases hrest
      exact ⟨k, rfl⟩
    | cons l ls₂ =>
      obtain ⟨x, hx, -⟩ := hrest
      cases hx with
      | reply _ _ r => cases r

theorem marks_path (hE : Limits E) (hp : Marks κ E [] p) (h : Thread.Path (.run p) ls u)
    (hls : E ls) : StillFulfils (live κ E) (fun ls _ => ls.any marks = true) ls u ∧
      .issue .panic ∉ ls ∧ (sends κ ls).length ≤ 1 := by
  have hstill : StillFulfils (live κ E) (fun ls _ => ls.any marks = true) [] (.run p) := hp
  obtain ⟨hu, hone, -⟩ := path_fulfils (fun _ _ _ h => h) (fun _ _ => hE.cut) hstill once_nil h hls
  refine ⟨hu, fun hpanic => ?_, hone⟩
  obtain ⟨k, rfl⟩ := path_panic h hpanic
  obtain ⟨ls', -, ⟨hne, -⟩, -⟩ := hu
  exact hne rfl

theorem marks_call (hE : Limits E) {a : Act} {k : ActR a → Go Unit} (hfree : free a = true)
    (r : ActR a) (hls : E ls) (hsend : ∀ r, (received κ (.reply a r)).isSome → sends κ ls = [])
    (hk : ∀ r, E (ls ++ [Label.issue a, .reply a r]) →
      Marks κ E (ls ++ [Label.issue a, .reply a r]) (k r)) :
    Marks κ E ls (.call a k) := by
  refine ⟨⟨?_, Or.inr ⟨r, hE.answer hfree hls⟩⟩, fun r v hv => ⟨hsend r ?_, trivial⟩, hk⟩
  · rintro rfl
    cases r
  · rw [hv]
    rfl

theorem marks_mark (hE : Limits E) {a : Act} (hfree : free a = true) (r : ActR a) (hls : E ls)
    (hsend : ∀ r, received κ (.reply a r) = none) (ha : ∀ r, marks (.reply a r) = true) :
    Marks κ E ls (.call a (fun _ => Backup.sendDone)) := by
  refine marks_call hE hfree r hls (fun r hr => ?_) (fun r _ => ?_)
  · rw [hsend r] at hr
    cases hr
  · refine ⟨⟨nofun, Or.inl ?_⟩, nofun, nofun⟩
    rw [List.any_append, List.any_cons, List.any_cons, ha r]
    simp

end Marking

section Pool

variable {κ : Chan} {E : ℕ → List (Label Act ActR) → Prop} {cap : ℕ} {ws : List (Go Unit)}
  {log : Log} {us : List (Thread Act ActR Unit)}

theorem own_snoc_self (i : ℕ) (l : Label Act ActR) (log : Log) :
    own i (log ++ [(i, l)]) = own i log ++ [l] := by
  rw [own_append, own_cons_self]
  rfl

theorem own_snoc_ne {i j : ℕ} (h : j ≠ i) (l : Label Act ActR) (log : Log) :
    own i (log ++ [(j, l)]) = own i log := by
  rw [own_append, own_cons_ne h]
  exact List.append_nil _

/-- An event of goroutine `i` keeps what is asked of the answers to the others. -/
theorem limits_snoc (hlog : ∀ i, E i (own i log)) {i : ℕ} {l : Label Act ActR}
    (hi : E i (own i log ++ [l])) : ∀ j, E j (own j (log ++ [(i, l)])) := by
  intro j
  by_cases hij : i = j
  · subst hij
    rwa [own_snoc_self]
  · rw [own_snoc_ne hij]
    exact hlog j

variable (hE : ∀ i, Limits (E i)) (hws : ∀ i p, ws[i]? = some p → Marks κ (E i) [] p)
  (hpath : Path (Room κ cap) (start ws) log us) (hlog : ∀ i, E i (own i log))

include hE hws hpath hlog in
theorem pool_thread {i : ℕ} (hi : i < ws.length) :
    ∃ u, us[i]? = some u ∧
      StillFulfils (live κ (E i)) (fun ls _ => ls.any marks = true) (own i log) u ∧
      .issue .panic ∉ own i log ∧ (sends κ (own i log)).length ≤ 1 := by
  have hget := List.getElem?_eq_getElem hi
  obtain ⟨u, hu, hown⟩ := path_program hpath hget
  exact ⟨u, hu, marks_path (hE i) (hws i _ hget) hown (hlog i)⟩

include hE hws hpath hlog in
theorem pool_panic (j : ℕ) : (j, .issue .panic) ∉ log := by
  intro hj
  have hlt := path_index hpath hj
  rw [start, List.length_map] at hlt
  obtain ⟨-, -, -, hpanic, -⟩ := pool_thread hE hws hpath hlog hlt
  exact hpanic (mem_own.mpr hj)

include hE hws hpath hlog in
theorem pool_room (hcap : ws.length ≤ cap) {i : ℕ} (hi : i < ws.length)
    (hnone : sends κ (own i log) = []) : (contents κ log).length < cap := by
  refine lt_of_lt_of_le ?_ hcap
  rw [(contents_perm hpath).length_eq, List.length_flatMap]
  have hle : ∀ j ∈ List.range ws.length, (sends κ (own j log)).length ≤ if j = i then 0 else 1 := by
    intro j hj
    split
    · next hji =>
      rw [hji, hnone]
      exact le_refl 0
    · obtain ⟨-, -, -, -, hone⟩ := pool_thread hE hws hpath hlog (List.mem_range.mp hj)
      exact hone
  calc ((List.range ws.length).map (fun j => (sends κ (own j log)).length)).sum
      ≤ ((List.range ws.length).map (fun j => if j = i then 0 else 1)).sum := List.sum_le_sum hle
    _ < ((List.range ws.length).map (fun _ => 1)).sum := by
        refine List.sum_lt_sum _ _ (fun j _ => ?_) ⟨i, List.mem_range.mpr hi, ?_⟩
        · split
          · exact Nat.zero_le 1
          · exact le_refl 1
        · simp
    _ = ws.length := by simp

include hE hws hpath hlog in
theorem stuck_marked (hcap : ws.length ≤ cap)
    (hstuck : ∀ x us', Path (Room κ cap) (start ws) (log ++ [x]) us' →
      ¬∀ i, E i (own i (log ++ [x]))) : ∀ b ∈ trackers ws.length log, b = true := by
  intro b hb
  obtain ⟨i, hi, rfl⟩ := List.mem_map.mp hb
  rw [List.mem_range] at hi
  by_contra hmarked
  obtain ⟨u, hu, hstill, -, -⟩ := pool_thread hE hws hpath hlog hi
  have hpanic := pool_panic hE hws hpath hlog
  cases u with
  | run p =>
    cases p with
    | ret a => exact hmarked hstill
    | call a k =>
      have hroom : Room κ cap log (i, .issue a) := by
        refine ⟨fun hsome => ?_, hpanic⟩
        rw [received_issue] at hsome
        cases hsome
      exact hstuck _ _ (hpath.snoc hu (.issue a k) hroom)
        (limits_snoc hlog ((hE i).issue (hlog i)))
  | wait a k =>
    obtain ⟨ls, hls, hp⟩ := hstill
    have hnot : ls.any marks ≠ true := by
      intro hany
      rw [hls, List.any_append, hany] at hmarked
      exact hmarked rfl
    obtain ⟨⟨-, hnext⟩, hsend, -⟩ := hp
    obtain ⟨r, hr⟩ := hnext.resolve_left hnot
    have hroom : Room κ cap log (i, .reply a r) := by
      refine ⟨fun hsome => pool_room hE hws hpath hlog hcap hi ?_, hpanic⟩
      obtain ⟨v, hv⟩ := Option.isSome_iff_exists.mp hsome
      rw [hls, sends_snoc_issue]
      exact (hsend r v hv).1
    have hnext : E i (own i log ++ [Label.reply a r]) := by
      rw [hls, List.append_assoc]
      exact hr
    exact hstuck _ _ (hpath.snoc hu (.reply a k r) hroom) (limits_snoc hlog hnext)

end Pool

/-- A call that waits for such goroutines comes back, if it does when all trackers are marked. -/
theorem answered_of_marks {M : Sem Call Reply (ℕ × Label Act ActR)} {κ : Chan} {cap : ℕ}
    {ws : List (Go Unit)} {E : ℕ → List (Label Act ActR) → Prop} (hE : ∀ i, Limits (E i))
    (hnil : ∀ i, E i []) (hws : ∀ i p, ws[i]? = some p → Marks κ (E i) [] p)
    (hcap : ws.length ≤ cap)
    (hduring : ∀ log, M.during (.goRender κ cap ws) log ↔
      (∃ us, Path (Room κ cap) (start ws) log us) ∧ ∀ i, E i (own i log))
    (hreturns : ∀ log us, Path (Room κ cap) (start ws) log us → (∀ i, E i (own i log)) →
      (∀ b ∈ trackers ws.length log, b = true) → ∃ r, M.returns (.goRender κ cap ws) r log) :
    Answered M (.goRender κ cap ws) := by
  refine answered_pool (fun log hd => ((hduring log).mp hd).1)
    ((hduring []).mpr ⟨⟨_, .nil⟩, hnil⟩) (fun log us hd hpath hstuck => ?_)
  have hlog := ((hduring log).mp hd).2
  refine hreturns log us hpath hlog (stuck_marked hE hws hpath hlog hcap (fun x us' hp hall => ?_))
  exact hstuck x ((hduring _).mpr ⟨⟨us', hp⟩, hall⟩)

end ShardingOnCloud.Pitr.Rendering
