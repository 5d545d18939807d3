import Mathlib.Computability.Language

namespace ShardingOnCloud.Lib.Patterns

/-- Regular expressions over classes of letters. -/
inductive Pattern (α : Type)
  | zero
  | eps
  | cls (p : α → Bool)
  | seq (r s : Pattern α)
  | alt (r s : Pattern α)
  | star (r : Pattern α)

namespace Pattern

variable {α : Type}

def lang : Pattern α → Language α
  | zero => 0
  | eps => 1
  | cls p => {w | ∃ c, p c = true ∧ w = [c]}
  | seq r s => r.lang * s.lang
  | alt r s => r.lang + s.lang
  | star r => KStar.kstar r.lang

def nullable : Pattern α → Bool
  | zero => false
  | eps => true
  | cls _ => false
  | seq r s => r.nullable && s.nullable
  | alt r s => r.nullable || s.nullable
  | star _ => true

def deriv (c : α) : Pattern α → Pattern α
  | zero => zero
  | eps => zero
  | cls p => if p c then eps else zero
  | seq r s => if r.nullable then alt (seq (r.deriv c) s) (s.deriv c) else seq (r.deriv c) s
  | alt r s => alt (r.deriv c) (s.deriv c)
  | star r => seq (r.deriv c) (star r)

def accepts : Pattern α → List α → Bool
  | r, [] => r.nullable
  | r, c :: w => (r.deriv c).accepts w

def opt (r : Pattern α) : Pattern α := alt eps r

def plus (r : Pattern α) : Pattern α := seq r (star r)

/-- One letter of each class, in turn. -/
def word : List (α → Bool) → Pattern α
  | [] => eps
  | p :: ps => seq (cls p) (word ps)

section Membership

variable {r s : Pattern α} {w : List α}

@[simp] theorem mem_zero : w ∈ (zero : Pattern α).lang ↔ False := Iff.rfl

@[simp] theorem mem_eps : w ∈ (eps : Pattern α).lang ↔ w = [] := Iff.rfl

@[simp] theorem mem_cls {p : α → Bool} : w ∈ (cls p).lang ↔ ∃ c, p c = true ∧ w = [c] := Iff.rfl

theorem mem_seq : w ∈ (seq r s).lang ↔ ∃ u ∈ r.lang, ∃ v ∈ s.lang, u ++ v = w := Language.mem_mul

@[simp] theorem mem_alt : w ∈ (alt r s).lang ↔ w ∈ r.lang ∨ w ∈ s.lang := Iff.rfl

@[simp] theorem mem_opt : w ∈ (opt r).lang ↔ w = [] ∨ w ∈ r.lang := Iff.rfl

theorem mem_star : w ∈ (star r).lang ↔
    ∃ L : List (List α), w = L.flatten ∧ ∀ u ∈ L, u ∈ r.lang ∧ u ≠ [] :=
  Language.mem_kstar_iff_exists_nonempty

theorem nil_mem_star : [] ∈ (star r).lang := Language.nil_mem_kstar _

theorem append_mem_star {u v : List α} (hu : u ∈ r.lang) (hv : v ∈ (star r).lang) :
    u ++ v ∈ (star r).lang := by
  obtain ⟨L, rfl, hL⟩ := Language.mem_kstar.mp hv
  refine Language.mem_kstar.mpr ⟨u :: L, rfl, ?_⟩
  intro x hx
  obtain rfl | hx := List.mem_cons.mp hx
  · exact hu
  · exact hL x hx

/-- A word of a starred language is empty or has a first, non-empty part. -/
theorem star_cases (h : w ∈ (star r).lang) :
    w = [] ∨ ∃ u ∈ r.lang, u ≠ [] ∧ ∃ v ∈ (star r).lang, w = u ++ v := by
  obtain ⟨L, rfl, hL⟩ := mem_star.mp h
  cases L with
  | nil => exact Or.inl rfl
  | cons u L =>
    have hrest : ∀ x ∈ L, x ∈ r.lang ∧ x ≠ [] := fun x hx => hL x (List.mem_cons_of_mem u hx)
    have hu := hL u List.mem_cons_self
    exact Or.inr ⟨u, hu.1, hu.2, L.flatten, mem_star.mpr ⟨L, rfl, hrest⟩, rfl⟩

theorem star_append {u v : List α} (hu : u ∈ (star r).lang) (hv : v ∈ (star r).lang) :
    u ++ v ∈ (star r).lang := by
  obtain ⟨L, rfl, hL⟩ := Language.mem_kstar.mp hu
  obtain ⟨M, rfl, hM⟩ := Language.mem_kstar.mp hv
  refine Language.mem_kstar.mpr ⟨L ++ M, List.flatten_append.symm, ?_⟩
  intro x hx
  obtain hx | hx := List.mem_append.mp hx
  · exact hL x hx
  · exact hM x hx

theorem mem_star_cls {p : α → Bool} : w ∈ (star (cls p)).lang ↔ ∀ c ∈ w, p c = true := by
  constructor
  · intro h c hc
    obtain ⟨L, rfl, hL⟩ := mem_star.mp h
    obtain ⟨u, hu, hcu⟩ := List.mem_flatten.mp hc
    obtain ⟨d, hd, rfl⟩ := (hL u hu).1
    rw [List.mem_singleton.mp hcu]
    exact hd
  · intro h
    induction w with
    | nil => exact nil_mem_star
    | cons c w ih =>
      have hc : [c] ∈ (cls p).lang := ⟨c, h c List.mem_cons_self, rfl⟩
      exact append_mem_star hc (ih (fun d hd => h d (List.mem_cons_of_mem c hd)))

theorem mem_plus_cls {p : α → Bool} :
    w ∈ (plus (cls p)).lang ↔ w ≠ [] ∧ ∀ c ∈ w, p c = true := by
  constructor
  · intro h
    obtain ⟨u, ⟨c, hc, rfl⟩, v, hv, rfl⟩ := mem_seq.mp h
    refine ⟨List.cons_ne_nil c v, ?_⟩
    intro d hd
    obtain rfl | hd := List.mem_cons.mp hd
    · exact hc
    · exact mem_star_cls.mp hv d hd
  · rintro ⟨hne, h⟩
    cases w with
    | nil => exact absurd rfl hne
    | cons c w =>
      have hc : [c] ∈ (cls p).lang := ⟨c, h c List.mem_cons_self, rfl⟩
      have hw : w ∈ (star (cls p)).lang :=
        mem_star_cls.mpr (fun d hd => h d (List.mem_cons_of_mem c hd))
      exact mem_seq.mpr ⟨[c], hc, w, hw, rfl⟩

theorem mem_word {β : Type} [DecidableEq β] {f : α → β} {s : List β} :
    w ∈ (word (s.map (fun c d => decide (f d = c)))).lang ↔ w.map f = s := by
  induction s generalizing w with
  | nil =>
    rw [List.map_nil, word, mem_eps, List.map_eq_nil_iff]
  | cons c s ih =>
    rw [List.map_cons, word, mem_seq]
    constructor
    · rintro ⟨u, ⟨d, hd, rfl⟩, v, hv, rfl⟩
      rw [List.singleton_append, List.map_cons, ih.mp hv, of_decide_eq_true hd]
    · intro h
      obtain ⟨d, v, rfl, hd, hv⟩ := List.map_eq_cons_iff.mp h
      exact ⟨[d], ⟨d, decide_eq_true hd, rfl⟩, v, ih.mpr hv, rfl⟩

end Membership

section Correctness

theorem nullable_iff (r : Pattern α) : r.nullable = true ↔ [] ∈ r.lang := by
  induction r with
  | zero => simp [nullable]
  | eps => simp [nullable]
  | cls p => simp [nullable]
  | seq r s hr hs =>
    rw [nullable, Bool.and_eq_true, hr, hs, mem_seq]
    constructor
    · rintro ⟨h₁, h₂⟩
      exact ⟨[], h₁, [], h₂, rfl⟩
    · rintro ⟨u, hu, v, hv, h⟩
      obtain ⟨rfl, rfl⟩ := List.append_eq_nil_iff.mp h
      exact ⟨hu, hv⟩
  | alt r s hr hs => rw [nullable, Bool.or_eq_true, hr, hs, mem_alt]
  | star r _ => exact iff_of_true rfl nil_mem_star

theorem mem_seq_cons {r s : Pattern α} {c : α} {w : List α} :
    c :: w ∈ (seq r s).lang ↔
      (∃ u v, c :: u ∈ r.lang ∧ v ∈ s.lang ∧ u ++ v = w) ∨ ([] ∈ r.lang ∧ c :: w ∈ s.lang) := by
  rw [mem_seq]
  constructor
  · rintro ⟨u, hu, v, hv, h⟩
    cases u with
    | nil =>
      obtain rfl : v = c :: w := h
      exact Or.inr ⟨hu, hv⟩
    | cons d u =>
      obtain ⟨rfl, rfl⟩ := List.cons.inj h
      exact Or.inl ⟨u, v, hu, hv, rfl⟩
  · rintro (⟨u, v, hu, hv, rfl⟩ | ⟨hr, hs⟩)
    · exact ⟨c :: u, hu, v, hv, rfl⟩
    · exact ⟨[], hr, c :: w, hs, rfl⟩

theorem mem_deriv (c : α) (r : Pattern α) (w : List α) : w ∈ (r.deriv c).lang ↔ c :: w ∈ r.lang := by
  induction r generalizing w with
  | zero => exact Iff.rfl
  | eps => simp [deriv]
  | cls p =>
    by_cases hp : p c = true
    · rw [deriv, if_pos hp, mem_eps]
      constructor
      · rintro rfl
        exact ⟨c, hp, rfl⟩
      · rintro ⟨d, -, h⟩
        exact (List.cons.inj h).2
    · rw [deriv, if_neg hp]
      refine iff_of_false id ?_
      rintro ⟨d, hd, h⟩
      exact hp ((List.cons.inj h).1 ▸ hd)
  | seq r s hr hs =>
    have hfirst : w ∈ (seq (r.deriv c) s).lang ↔
        ∃ u v, c :: u ∈ r.lang ∧ v ∈ s.lang ∧ u ++ v = w := by
      rw [mem_seq]
      constructor
      · rintro ⟨u, hu, v, hv, h⟩
        exact ⟨u, v, (hr u).mp hu, hv, h⟩
      · rintro ⟨u, v, hu, hv, h⟩
        exact ⟨u, (hr u).mpr hu, v, hv, h⟩
    by_cases hn : r.nullable = true
    · rw [deriv, if_pos hn, mem_alt, hfirst, hs, mem_seq_cons,
        and_iff_right ((nullable_iff r).mp hn)]
    · rw [deriv, if_neg hn, hfirst, mem_seq_cons]
      have hnil : [] ∉ r.lang := fun h => hn ((nullable_iff r).mpr h)
      simp [hnil]
  | alt r s hr hs => rw [deriv, mem_alt, mem_alt, hr, hs]
  | star r hr =>
    rw [deriv, mem_seq]
    constructor
    · rintro ⟨u, hu, v, hv, rfl⟩
      exact append_mem_star ((hr u).mp hu) hv
    · intro h
      obtain h | ⟨u, hu, hne, v, hv, h⟩ := star_cases h
      · cases h
      · cases u with
        | nil => exact absurd rfl hne
        | cons d u =>
          obtain ⟨rfl, rfl⟩ := List.cons.inj h
          exact ⟨u, (hr u).mpr hu, v, hv, rfl⟩

theorem accepts_iff (r : Pattern α) (w : List α) : r.accepts w = true ↔ w ∈ r.lang := by
  induction w generalizing r with
  | nil => exact nullable_iff r
  | cons c w ih => rw [accepts, ih, mem_deriv]

end Correctness

section Shape

variable {p : α → Prop} {r : Pattern α} {c : α} {w : List α}

/-- Every class lies within `p`. -/
def Over (p : α → Prop) : Pattern α → Prop
  | zero => True
  | eps => True
  | cls q => ∀ c, q c = true → p c
  | seq r s => r.Over p ∧ s.Over p
  | alt r s => r.Over p ∧ s.Over p
  | star r => r.Over p

theorem mem_over (hr : r.Over p) (h : w ∈ r.lang) : ∀ c ∈ w, p c := by
  induction r generalizing w with
  | zero => exact absurd h id
  | eps =>
    rw [mem_eps.mp h]
    exact List.forall_mem_nil p
  | cls q =>
    obtain ⟨c, hc, rfl⟩ := h
    exact List.forall_mem_singleton.mpr (hr c hc)
  | seq r s ihr ihs =>
    obtain ⟨u, hu, v, hv, rfl⟩ := mem_seq.mp h
    exact List.forall_mem_append.mpr ⟨ihr hr.1 hu, ihs hr.2 hv⟩
  | alt r s ihr ihs =>
    obtain h | h := h
    · exact ihr hr.1 h
    · exact ihs hr.2 h
  | star r ih =>
    obtain ⟨L, rfl, hL⟩ := mem_star.mp h
    intro c hc
    obtain ⟨u, hu, hcu⟩ := List.mem_flatten.mp hc
    exact ih hr (hL u hu).1 c hcu

/-- Every class that can be met first lies within `p`. -/
def Begins (p : α → Prop) : Pattern α → Prop
  | zero => True
  | eps => True
  | cls q => ∀ c, q c = true → p c
  | seq r s => r.Begins p ∧ (r.nullable = true → s.Begins p)
  | alt r s => r.Begins p ∧ s.Begins p
  | star r => r.Begins p

theorem mem_begins (hr : r.Begins p) (h : c :: w ∈ r.lang) : p c := by
  induction r generalizing w with
  | zero => exact absurd h id
  | eps => cases mem_eps.mp h
  | cls q =>
    obtain ⟨d, hd, he⟩ := h
    rw [(List.cons.inj he).1]
    exact hr d hd
  | seq r s ihr ihs =>
    obtain ⟨u, v, hu, -, -⟩ | ⟨hnil, hs⟩ := mem_seq_cons.mp h
    · exact ihr hr.1 hu
    · exact ihs (hr.2 ((nullable_iff r).mpr hnil)) hs
  | alt r s ihr ihs =>
    obtain h | h := h
    · exact ihr hr.1 h
    · exact ihs hr.2 h
  | star r ih =>
    obtain h | ⟨u, hu, hne, v, -, he⟩ := star_cases h
    · cases h
    · cases u with
      | nil => exact absurd rfl hne
      | cons d u =>
        obtain ⟨rfl, -⟩ := List.cons.inj he
        exact ih hr hu

end Shape

end Pattern

end ShardingOnCloud.Lib.Patterns
