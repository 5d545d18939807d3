import Mathlib.Data.List.Infix
import Mathlib.Tactic.Common

namespace ShardingOnCloud.Lib.Paths

def split (path : String) : List String := (path.toList.splitOn '/').map String.ofList

def join (parts : List String) : String :=
  String.ofList (['/'].intercalate (parts.map String.toList))

/-- From a directory, given by the names on the way to it, one part further. -/
def walk (dir : List String) (part : String) : List String :=
  if part = "" ∨ part = "." then dir
  else if part = ".." then dir.dropLast
  else dir ++ [part]

/-- Only a path with a slash at its beginning does not start in the working directory. -/
def origin (cwd parts : List String) : List String :=
  if 1 < parts.length ∧ parts.head? = some "" then [] else cwd

/-- The normal form of a path. Links are not followed. -/
def resolve (cwd parts : List String) : List String := parts.foldl walk (origin cwd parts)

/-- The second path is the first one or lies inside it. -/
def Within (cwd outer inner : List String) : Prop := resolve cwd outer <+: resolve cwd inner

instance (cwd outer inner : List String) : Decidable (Within cwd outer inner) :=
  inferInstanceAs (Decidable (_ <+: _))

/-- The parts that do not name a file of the directory they are walked from. -/
def special : List String := ["", ".", ".."]

theorem split_ne_nil (path : String) : split path ≠ [] := by
  simp [split]

theorem walk_name {part : String} (h : part ∉ special) (dir : List String) :
    walk dir part = dir ++ [part] := by
  simp only [special, List.mem_cons, List.not_mem_nil, or_false, not_or] at h
  rw [walk, if_neg (not_or.mpr ⟨h.1, h.2.1⟩), if_neg h.2.2]

theorem walk_special {part : String} (h : part ∈ special) (dir : List String) :
    walk dir part <+: dir := by
  unfold walk
  split
  · exact List.prefix_rfl
  split
  · exact dir.dropLast_prefix
  · simp_all [special]

theorem origin_concat (cwd dir : List String) (a b : String) :
    origin cwd (dir ++ [a]) = origin cwd (dir ++ [b]) := by
  cases dir with
  | nil => simp [origin]
  | cons x dir => simp [origin]

theorem resolve_concat (cwd dir : List String) (part part' : String) :
    resolve cwd (dir ++ [part]) = walk (dir.foldl walk (origin cwd (dir ++ [part']))) part := by
  rw [resolve, List.foldl_append, origin_concat cwd dir part part']
  rfl

/-- Of two files of one directory the second is inside the first only when the first is no
other file of that directory. -/
theorem within_sibling_iff (cwd dir : List String) {a b : String} (hb : b ∉ special) :
    Within cwd (dir ++ [a]) (dir ++ [b]) ↔ a ∈ special ∨ a = b := by
  rw [Within, resolve_concat cwd dir a b, resolve_concat cwd dir b b, walk_name hb]
  by_cases ha : a ∈ special
  · simp only [ha, true_or, iff_true]
    exact (walk_special ha _).trans (List.prefix_append _ _)
  · simp [walk_name ha, ha]

end ShardingOnCloud.Lib.Paths
