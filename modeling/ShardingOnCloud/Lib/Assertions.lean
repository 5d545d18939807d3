import ShardingOnCloud.Lib.Program

namespace ShardingOnCloud.Lib.Assertions

open ShardingOnCloud.Lib.Program

variable {C : Type} {R : C → Type} {I S α β : Type}

/-- The weakest precondition of a program run in `W`: the invariant `J` holds at
every moment of the run, and the postcondition when the program is done. -/
def wp (M : Sem C R I) (W : World S (Event C R I)) (J : S → Prop) :
    Proc C R α → (S → α → Prop) → S → Prop
  | .ret a, Q, s => Q s a
  | .call c k, Q, s => J s ∧ (∀ is t, M.during c is → W.Path s (broken c is) t → J t) ∧
      ∀ r is t, M.returns c r is → W.Path s (whole c r is) t → wp M W J (k r) Q t

variable {M : Sem C R I} {W : World S (Event C R I)} {J : S → Prop}

theorem wp_call (c : C) (k : R c → Proc C R α) (Q : S → α → Prop) (s : S) :
    wp M W J (.call c k) Q s ↔ J s ∧ (∀ is t, M.during c is → W.Path s (broken c is) t → J t) ∧
      ∀ r is t, M.returns c r is → W.Path s (whole c r is) t → wp M W J (k r) Q t := Iff.rfl

theorem wp_bind (p : Proc C R α) (f : α → Proc C R β) (Q : S → β → Prop) (s : S) :
    wp M W J (p >>= f) Q s ↔ wp M W J p (fun t a => wp M W J (f a) Q t) s := by
  induction p generalizing s with
  | ret a => exact Iff.rfl
  | call c k ih =>
    rw [Proc.call_bind, wp_call, wp_call]
    simp only [ih]

theorem wp_mono {p : Proc C R α} {Q Q' : S → α → Prop} {s : S}
    (h : wp M W J p Q s) (hQ : ∀ t a, Q t a → Q' t a) : wp M W J p Q' s := by
  induction p generalizing s with
  | ret a => exact hQ s a h
  | call c k ih =>
    obtain ⟨hs, hd, hr⟩ := h
    exact ⟨hs, hd, fun r is t h₁ h₂ => ih r (hr r is t h₁ h₂)⟩

theorem wp_run {p : Proc C R α} {Q : S → α → Prop} {s t : S}
    {tr : List (Event C R I)} {a : α}
    (h : wp M W J p Q s) (hr : Run M p tr a) (ht : W.Path s tr t) : Q t a := by
  induction hr generalizing s with
  | ret a =>
    cases ht
    exact h
  | call hc _ ih =>
    obtain ⟨u, hu, hv⟩ := World.path_append.mp ht
    exact ih (h.2.2 _ _ u hc hu) hv

theorem wp_cut {p : Proc C R α} {Q : S → α → Prop} {s t : S} {tr : List (Event C R I)}
    (h : wp M W J p Q s) (hQ : ∀ u a, Q u a → J u) (hc : Cut M p tr) (ht : W.Path s tr t) :
    J t := by
  induction hc generalizing s with
  | here p =>
    cases ht
    cases p with
    | ret a => exact hQ _ a h
    | call c k => exact h.1
  | inside hd => exact h.2.1 _ t hd ht
  | call hr _ ih =>
    obtain ⟨u, hu, hv⟩ := World.path_append.mp ht
    exact ih (h.2.2 _ _ u hr hu) hv

/-- A program whose events all satisfy `P` and whose result satisfies `Q`. -/
def Emits (M : Sem C R I) (P : Event C R I → Prop) : Proc C R α → (α → Prop) → Prop
  | .ret a, Q => Q a
  | .call c k, Q => P (.main (.issue c)) ∧ (∀ is, M.during c is → ∀ x ∈ is, P (.sub x)) ∧
      ∀ r is, M.returns c r is →
        P (.main (.reply c r)) ∧ (∀ x ∈ is, P (.sub x)) ∧ Emits M P (k r) Q

variable {P : Event C R I → Prop}

theorem emits_bind {p : Proc C R α} {f : α → Proc C R β} {Q' : α → Prop} {Q : β → Prop}
    (hp : Emits M P p Q') (hf : ∀ a, Q' a → Emits M P (f a) Q) : Emits M P (p >>= f) Q := by
  induction p with
  | ret a => exact hf a hp
  | call c k ih =>
    obtain ⟨hi, hd, hr⟩ := hp
    refine ⟨hi, hd, fun r is h => ?_⟩
    obtain ⟨h₁, h₂, h₃⟩ := hr r is h
    exact ⟨h₁, h₂, ih r h₃⟩

theorem Emits.mono {p : Proc C R α} {P' : Event C R I → Prop} {Q Q' : α → Prop}
    (h : Emits M P p Q) (hP : ∀ e, P e → P' e) (hQ : ∀ a, Q a → Q' a) : Emits M P' p Q' := by
  induction p with
  | ret a => exact hQ a h
  | call c k ih =>
    obtain ⟨hi, hd, hr⟩ := h
    refine ⟨hP _ hi, fun is h x hx => hP _ (hd is h x hx), fun r is h => ?_⟩
    obtain ⟨h₁, h₂, h₃⟩ := hr r is h
    exact ⟨hP _ h₁, fun x hx => hP _ (h₂ x hx), ih r h₃⟩

theorem mem_whole {c : C} {r : R c} {is : List I} {e : Event C R I} :
    e ∈ whole c r is ↔ e = .main (.issue c) ∨ (∃ x ∈ is, .sub x = e) ∨ e = .main (.reply c r) := by
  simp [whole]

theorem mem_broken {c : C} {is : List I} {e : Event C R I} :
    e ∈ broken c is ↔ e = .main (.issue c) ∨ ∃ x ∈ is, .sub x = e := by
  simp [broken]

theorem Emits.cut {p : Proc C R α} {Q : α → Prop} {tr : List (Event C R I)}
    (h : Emits M P p Q) (hc : Cut M p tr) : ∀ e ∈ tr, P e := by
  induction hc with
  | here p => simp
  | inside hd =>
    intro e he
    obtain ⟨hi, hd', -⟩ := h
    obtain rfl | ⟨x, hx, rfl⟩ := mem_broken.mp he
    · exact hi
    · exact hd' _ hd x hx
  | call hr _ ih =>
    intro e he
    obtain ⟨hi, -, hr'⟩ := h
    obtain ⟨h₁, h₂, h₃⟩ := hr' _ _ hr
    rcases List.mem_append.mp he with he | he
    · obtain rfl | ⟨x, hx, rfl⟩ | rfl := mem_whole.mp he
      · exact hi
      · exact h₂ x hx
      · exact h₁
    · exact ih h₃ e he

theorem Emits.run {p : Proc C R α} {Q : α → Prop} {tr : List (Event C R I)} {a : α}
    (h : Emits M P p Q) (hr : Run M p tr a) : Q a := by
  induction hr with
  | ret a => exact h
  | call hr _ ih => exact ih (h.2.2 _ _ hr).2.2

theorem wp_keeps {p : Proc C R α} {Q : α → Prop} {K : S → Prop} {s : S}
    (h : Emits M P p Q) (hK : ∀ s e t, K s → P e → W.step s e t → K t)
    (hJ : ∀ s, K s → J s) (hs : K s) : wp M W J p (fun t a => K t ∧ Q a) s := by
  have hpath : ∀ {es : List (Event C R I)} {s t : S}, (∀ e ∈ es, P e) →
      W.Path s es t → K s → K t :=
    fun hes ht => World.path_keeps ht (fun e he s t hst hs => hK s e t hs (hes e he) hst)
  induction p generalizing s with
  | ret a => exact ⟨hs, h⟩
  | call c k ih =>
    obtain ⟨hi, hd, hr⟩ := h
    refine ⟨hJ s hs, fun is t hdu ht => hJ t (hpath ?_ ht hs), fun r is t hre ht => ?_⟩
    · intro e he
      obtain rfl | ⟨x, hx, rfl⟩ := mem_broken.mp he
      · exact hi
      · exact hd is hdu x hx
    · obtain ⟨h₁, h₂, h₃⟩ := hr r is hre
      refine ih r h₃ (hpath ?_ ht hs)
      intro e he
      obtain rfl | ⟨x, hx, rfl⟩ | rfl := mem_whole.mp he
      · exact hi
      · exact h₂ x hx
      · exact h₁

end ShardingOnCloud.Lib.Assertions
