import Mathlib.Data.List.Basic
import Mathlib.Tactic.Common

namespace ShardingOnCloud.Lib.LinearMemory

variable {α : Type}

section Writing

/-- One cell is written, if the memory has it. -/
def put (m : List α) (i : ℕ) (a : α) : Option (List α) :=
  if i < m.length then some (m.set i a) else none

def putAll (m : List α) (i : ℕ) : List α → Option (List α)
  | [] => some m
  | a :: as => do
    let m ← put m i a
    putAll m (i + 1) as

def write (m : List α) (i : ℕ) (as : List α) : List α := m.take i ++ as ++ m.drop (i + as.length)

variable {m : List α} {i : ℕ}

theorem length_write {as : List α} (h : i + as.length ≤ m.length) :
    (write m i as).length = m.length := by
  simp only [write, List.length_append, List.length_take, List.length_drop]
  omega

theorem drop_write {as : List α} (h : i ≤ m.length) :
    (write m i as).drop i = as ++ m.drop (i + as.length) := by
  rw [write, List.append_assoc]
  exact List.drop_left' (List.length_take_of_le h)

theorem write_set {a : α} {as : List α} (h : i < m.length) :
    write (m.set i a) (i + 1) as = write m i (a :: as) := by
  have hset : m.set i a = (m.take i ++ [a]) ++ m.drop (i + 1) := by
    rw [List.set_eq_take_append_cons_drop, if_pos h, List.append_assoc]
    rfl
  have hlength : (m.take i ++ [a]).length = i + 1 := by
    rw [List.length_append, List.length_take_of_le (Nat.le_of_lt h)]
    rfl
  have hafter : i + (a :: as).length = i + 1 + as.length := by
    rw [List.length_cons]
    omega
  rw [write, hset, List.take_left' hlength, ← List.drop_drop, List.drop_left' hlength,
    List.drop_drop, write, hafter]
  simp

theorem putAll_eq_write {as : List α} (h : i + as.length ≤ m.length) :
    putAll m i as = some (write m i as) := by
  induction as generalizing m i with
  | nil => simp [putAll, write]
  | cons a as ih =>
    rw [List.length_cons] at h
    have hi : i < m.length := by omega
    have hrest : i + 1 + as.length ≤ (m.set i a).length := by
      rw [List.length_set]
      omega
    rw [putAll, put, if_pos hi]
    change putAll (m.set i a) (i + 1) as = _
    rw [ih hrest, write_set hi]

theorem putAll_append (m : List α) (i : ℕ) (as bs : List α) :
    putAll m i (as ++ bs) = (putAll m i as).bind (fun m => putAll m (i + as.length) bs) := by
  induction as generalizing m i with
  | nil => rfl
  | cons a as ih =>
    rw [List.cons_append, putAll, putAll]
    cases put m i a with
    | none => rfl
    | some m' =>
      change putAll m' (i + 1) (as ++ bs) = _
      rw [ih, List.length_cons, Nat.add_assoc, Nat.add_comm 1]
      rfl

theorem write_write {as bs : List α} (h : i + as.length ≤ m.length) :
    write (write m i as) (i + as.length) bs = write m i (as ++ bs) := by
  have hlength : (m.take i ++ as).length = i + as.length := by
    rw [List.length_append, List.length_take_of_le (by omega)]
  rw [write, write, List.take_left' hlength, ← List.drop_drop, List.drop_left' hlength,
    List.drop_drop, write, List.length_append, Nat.add_assoc, List.append_assoc (m.take i)]

end Writing

section Reading

variable [DecidableEq α] {z : α}

/-- What stands before the first `z`, if there is one before the end of the memory. -/
def before (z : α) : List α → Option (List α)
  | [] => none
  | a :: as => if a = z then some [] else (before z as).map (a :: ·)

theorem before_append {as : List α} (bs : List α) (h : z ∈ as) :
    before z (as ++ bs) = some (as.takeWhile (· ≠ z)) := by
  induction as with
  | nil => cases h
  | cons a as ih =>
    rw [List.cons_append, before, List.takeWhile_cons]
    by_cases ha : a = z
    · simp [ha]
    · have has : z ∈ as := (List.mem_cons.mp h).resolve_left (fun h => ha h.symm)
      simp [ha, ih has]

theorem before_append_of_not_mem {as : List α} (bs : List α) (h : z ∉ as) :
    before z (as ++ bs) = (before z bs).map (as ++ ·) := by
  induction as with
  | nil => simp
  | cons a as ih =>
    rw [List.mem_cons, not_or] at h
    rw [List.cons_append, before, if_neg (fun ha => h.1 ha.symm), ih h.2, Option.map_map]
    rfl

theorem before_replicate {k : ℕ} (h : 0 < k) (bs : List α) :
    before z (List.replicate k z ++ bs) = some [] := by
  obtain ⟨k, rfl⟩ := Nat.exists_eq_succ_of_ne_zero (Nat.ne_of_gt h)
  rw [List.replicate_succ, List.cons_append, before, if_pos rfl]

end Reading

end ShardingOnCloud.Lib.LinearMemory
