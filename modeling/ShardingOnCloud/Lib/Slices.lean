import Mathlib.Data.List.Basic
import Mathlib.Tactic.Common

namespace ShardingOnCloud.Lib.Slices

/-- The arrays behind slices, each of which belongs to one slice. -/
structure Memory (α : Type) where
  arrays : List (List α)

/-- A pointer to an element. It stays with the array that it was taken from. -/
structure Ptr where
  array : ℕ
  index : ℕ
  deriving DecidableEq, Repr

namespace Memory

variable {α : Type}

def size (m : Memory α) : ℕ := m.arrays.length

def elements (m : Memory α) (a : ℕ) : List α := m.arrays.getD a []

def load (m : Memory α) (p : Ptr) : Option α := (m.elements p.array)[p.index]?

def update (m : Memory α) (p : Ptr) (f : α → α) : Memory α :=
  ⟨m.arrays.modify p.array (fun xs => xs.modify p.index f)⟩

def alloc (m : Memory α) (xs : List α) : ℕ × Memory α := (m.size, ⟨m.arrays ++ [xs]⟩)

/-- Appending to a slice. Without room for more the elements are copied to a new array, which the
pointers into the old one do not follow. -/
def append (m : Memory α) (room : Bool) (a : ℕ) (xs : List α) : ℕ × Memory α :=
  if room then (a, ⟨m.arrays.modify a (· ++ xs)⟩) else m.alloc (m.elements a ++ xs)

section Elements

variable (m : Memory α) {a b : ℕ} {xs : List α}

theorem elements_modify_ne (arrays : List (List α)) (f : List α → List α) (h : b ≠ a) :
    (Memory.mk (arrays.modify a f)).elements b = (Memory.mk arrays).elements b := by
  simp [elements, List.getD_eq_getElem?_getD, Ne.symm h]

@[simp] theorem size_update (p : Ptr) (f : α → α) : (m.update p f).size = m.size := by
  simp [update, size]

theorem elements_update_self (p : Ptr) (f : α → α) :
    (m.update p f).elements p.array = (m.elements p.array).modify p.index f := by
  unfold elements update
  rw [List.getD_eq_getElem?_getD, List.getD_eq_getElem?_getD, List.getElem?_modify_eq]
  cases m.arrays[p.array]? with
  | none => simp
  | some xs => rfl

theorem elements_update_ne {p : Ptr} (f : α → α) (h : a ≠ p.array) :
    (m.update p f).elements a = m.elements a := elements_modify_ne m.arrays _ h

theorem elements_alloc_self (xs : List α) :
    (m.alloc xs).2.elements (m.alloc xs).1 = xs := by
  simp [elements, alloc, size]

theorem elements_alloc_lt (xs : List α) (h : a < m.size) :
    (m.alloc xs).2.elements a = m.elements a := by
  unfold elements alloc
  rw [List.getD_eq_getElem?_getD, List.getD_eq_getElem?_getD, List.getElem?_append_left h]

theorem size_alloc (xs : List α) : (m.alloc xs).2.size = m.size + 1 := by
  simp [alloc, size]

theorem size_append (room : Bool) (a : ℕ) (xs : List α) :
    m.size ≤ (m.append room a xs).2.size := by
  unfold append
  split
  · simp [size]
  · rw [size_alloc]
    omega

/-- The slice is in an array, and holds what it held and what is added. -/
theorem elements_append_self (room : Bool) (xs : List α) (h : a < m.size) :
    (m.append room a xs).1 < (m.append room a xs).2.size ∧
      (m.append room a xs).2.elements (m.append room a xs).1 = m.elements a ++ xs := by
  unfold append
  split
  · refine ⟨by simpa [size] using h, ?_⟩
    unfold elements
    rw [List.getD_eq_getElem?_getD, List.getD_eq_getElem?_getD, List.getElem?_modify_eq,
      List.getElem?_eq_getElem h]
    rfl
  · exact ⟨by rw [size_alloc]; exact Nat.lt_succ_self _, elements_alloc_self m _⟩

theorem elements_append_ne (room : Bool) (xs : List α) (hb : b < m.size) (h : b ≠ a) :
    b ≠ (m.append room a xs).1 ∧ (m.append room a xs).2.elements b = m.elements b := by
  unfold append
  split
  · exact ⟨h, elements_modify_ne m.arrays _ h⟩
  · exact ⟨Nat.ne_of_lt hb, elements_alloc_lt m _ hb⟩

end Elements

end Memory

end ShardingOnCloud.Lib.Slices
