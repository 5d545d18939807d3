import Mathlib.Data.List.DropRight
import ShardingOnCloud.Lib.RustText

namespace ShardingOnCloud.Lib.RustLines

open ShardingOnCloud.Lib.RustText

section Lines

/-- `String::from_utf8`. -/
def fromUtf8 (bytes : List UInt8) : Option (List Char) :=
  bytes.toByteArray.utf8Decode?.map Array.toList

/-- The bytes through the first line feed, and what comes after them. -/
def takeLine : List UInt8 → List UInt8 × List UInt8
  | [] => ([], [])
  | b :: bs => if b = 10 then ([b], bs) else (b :: (takeLine bs).1, (takeLine bs).2)

/-- `BufRead::read_line`: the text of a line and the number of its bytes. -/
def readLine (bytes : List UInt8) : Option (List Char × ℕ) :=
  (fromUtf8 (takeLine bytes).1).map (fun line => (line, (takeLine bytes).1.length))

theorem fromUtf8_toUtf8 (cs : List Char) : fromUtf8 (toUtf8 cs) = some cs := by
  have hbytes : (toUtf8 cs).toByteArray = cs.utf8Encode := rfl
  rw [fromUtf8, hbytes, List.utf8Decode?_utf8Encode]
  rfl

theorem takeLine_cut {l : List UInt8} (h : 10 ∉ l) (rest : List UInt8) :
    takeLine (l ++ 10 :: rest) = (l ++ [10], rest) := by
  induction l with
  | nil => rfl
  | cons b l ih =>
    have hb : b ≠ 10 := fun hb => h (hb ▸ List.mem_cons_self)
    have hl := ih (fun hl => h (List.mem_cons_of_mem b hl))
    rw [List.cons_append, takeLine, if_neg hb, hl]
    rfl

theorem takeLine_open {l : List UInt8} (h : 10 ∉ l) : takeLine l = (l, []) := by
  induction l with
  | nil => rfl
  | cons b l ih =>
    have hb : b ≠ 10 := fun hb => h (hb ▸ List.mem_cons_self)
    rw [takeLine, if_neg hb, ih (fun hl => h (List.mem_cons_of_mem b hl))]

theorem takeLine_append (bs : List UInt8) : (takeLine bs).1 ++ (takeLine bs).2 = bs := by
  induction bs with
  | nil => rfl
  | cons b bs ih =>
    by_cases hb : b = 10
    · rw [takeLine, if_pos hb]
      rfl
    · rw [takeLine, if_neg hb]
      exact congrArg (b :: ·) ih

theorem eq_lineFeed {c : Char} (h : 10 ∈ String.utf8EncodeChar c) : c = '\n' := by
  apply Char.toNat_inj.mp
  have hval : c.val.toNat = c.toNat := rfl
  have hten : (10 : UInt8).toNat = 10 := rfl
  unfold String.utf8EncodeChar at h
  simp only [hval] at h
  split at h
  · have hnat := congrArg UInt8.toNat (List.mem_singleton.mp h)
    rw [UInt8.toNat_ofNat', hten] at hnat
    change c.toNat = 10
    omega
  · exfalso
    split_ifs at h
    all_goals
      simp only [List.mem_cons, List.not_mem_nil, or_false, ← UInt8.toNat_inj,
        UInt8.toNat_ofNat', hten] at h
      omega

theorem lineFeed_not_mem {cs : List Char} (h : '\n' ∉ cs) : 10 ∉ toUtf8 cs := by
  intro hmem
  obtain ⟨c, hc, hbyte⟩ := List.mem_flatMap.mp hmem
  exact h (eq_lineFeed hbyte ▸ hc)

theorem toUtf8_append (cs ds : List Char) : toUtf8 (cs ++ ds) = toUtf8 cs ++ toUtf8 ds :=
  List.flatMap_append

theorem readLine_cut {cs : List Char} (h : '\n' ∉ cs) (rest : List UInt8) :
    readLine (toUtf8 (cs ++ ['\n']) ++ rest) =
      some (cs ++ ['\n'], (toUtf8 (cs ++ ['\n'])).length) := by
  have hline : takeLine (toUtf8 (cs ++ ['\n']) ++ rest) = (toUtf8 (cs ++ ['\n']), rest) := by
    have hfeed : toUtf8 ['\n'] = [10] := rfl
    rw [toUtf8_append, hfeed, List.append_assoc]
    exact takeLine_cut (lineFeed_not_mem h) rest
  rw [readLine, hline, fromUtf8_toUtf8]
  rfl

theorem readLine_open {cs : List Char} (h : '\n' ∉ cs) :
    readLine (toUtf8 cs) = some (cs, (toUtf8 cs).length) := by
  rw [readLine, takeLine_open (lineFeed_not_mem h), fromUtf8_toUtf8]
  rfl

end Lines

section Spaces

/-- `char::is_whitespace`. -/
def isWhitespace (c : Char) : Bool :=
  (9 ≤ c.toNat && c.toNat ≤ 13) || c.toNat == 0x20 || c.toNat == 0x85 || c.toNat == 0xA0 ||
    c.toNat == 0x1680 || (0x2000 ≤ c.toNat && c.toNat ≤ 0x200A) || c.toNat == 0x2028 ||
    c.toNat == 0x2029 || c.toNat == 0x202F || c.toNat == 0x205F || c.toNat == 0x3000

def trimStart (cs : List Char) : List Char := cs.dropWhile isWhitespace

def trimEnd (cs : List Char) : List Char := cs.rdropWhile isWhitespace

def trim (cs : List Char) : List Char := trimStart (trimEnd cs)

/-- The next word of `str::split_whitespace`, and what comes after it. -/
def nextWord (cs : List Char) : Option (List Char × List Char) :=
  match trimStart cs with
  | [] => none
  | c :: cs => some ((c :: cs).takeWhile (fun d => !isWhitespace d),
      (c :: cs).dropWhile (fun d => !isWhitespace d))

/-- No space at the ends. -/
structure Trimmed (cs : List Char) : Prop where
  first : ∀ c, cs.head? = some c → isWhitespace c = false
  last : ∀ c, cs.getLast? = some c → isWhitespace c = false

theorem not_whitespace_of_all {cs : List Char} (h : cs.all (fun c => !isWhitespace c) = true) :
    ∀ c ∈ cs, isWhitespace c = false := by
  intro c hc
  simpa using List.all_eq_true.mp h c hc

theorem trimmed_of_all {cs : List Char} (h : cs.all (fun c => !isWhitespace c) = true) :
    Trimmed cs where
  first c hc := not_whitespace_of_all h c (List.mem_of_head? hc)
  last c hc := not_whitespace_of_all h c (List.mem_of_getLast? hc)

theorem trimStart_of_trimmed {cs : List Char} (h : ∀ c, cs.head? = some c → isWhitespace c = false) :
    trimStart cs = cs := by
  cases cs with
  | nil => rfl
  | cons c cs =>
    rw [trimStart, List.dropWhile_cons, if_neg]
    rw [h c rfl]
    exact Bool.false_ne_true

theorem trimEnd_spaces {cs : List Char} (h : ∀ c, cs.getLast? = some c → isWhitespace c = false)
    {sp : List Char} (hsp : ∀ c ∈ sp, isWhitespace c = true) : trimEnd (cs ++ sp) = cs := by
  induction sp using List.reverseRecOn with
  | nil =>
    rw [List.append_nil, trimEnd, List.rdropWhile_eq_self_iff]
    intro hne
    rw [h _ (List.getLast?_eq_some_getLast hne)]
    exact Bool.false_ne_true
  | append_singleton sp c ih =>
    rw [← List.append_assoc, trimEnd, List.rdropWhile_concat_pos _ _ _ (hsp c (by simp))]
    exact ih (fun d hd => hsp d (List.mem_append_left _ hd))

theorem nextWord_word {w : List Char} (hne : w ≠ []) (hw : ∀ c ∈ w, isWhitespace c = false)
    {rest : List Char} (hrest : ∀ c, rest.head? = some c → isWhitespace c = true) :
    nextWord (w ++ rest) = some (w, rest) := by
  obtain ⟨c, w, rfl⟩ := List.exists_cons_of_ne_nil hne
  have hstart : trimStart (c :: w ++ rest) = c :: (w ++ rest) :=
    trimStart_of_trimmed (fun d hd => Option.some.inj hd ▸ hw c List.mem_cons_self)
  have hword : ∀ d ∈ c :: w, (!isWhitespace d) = true := fun d hd => by rw [hw d hd]; rfl
  have hstop : rest.takeWhile (fun d => !isWhitespace d) = [] ∧
      rest.dropWhile (fun d => !isWhitespace d) = rest := by
    cases rest with
    | nil => exact ⟨rfl, rfl⟩
    | cons d rest => simp [hrest d rfl]
  unfold nextWord
  rw [hstart]
  simp only [← List.cons_append]
  rw [List.takeWhile_append_of_pos hword, List.dropWhile_append_of_pos hword, hstop.1, hstop.2,
    List.append_nil]

theorem nextWord_space {c : Char} (hc : isWhitespace c = true) (cs : List Char) :
    nextWord (c :: cs) = nextWord cs := by
  unfold nextWord trimStart
  rw [List.dropWhile_cons, if_pos hc]

end Spaces

section Numbers

/-- `char::to_digit`. -/
def toDigit (radix : ℕ) (c : Char) : Option ℕ :=
  let d := if c.isDigit then c.toNat - 48
    else if 97 ≤ c.toNat ∧ c.toNat ≤ 122 then c.toNat - 87
    else if 65 ≤ c.toNat ∧ c.toNat ≤ 90 then c.toNat - 55 else radix
  if d < radix then some d else none

def readRadix (radix maxVal : ℕ) : List Char → ℕ → Option ℕ
  | [], n => some n
  | c :: cs, n =>
    match toDigit radix c with
    | none => none
    | some d => if maxVal < radix * n + d then none else readRadix radix maxVal cs (radix * n + d)

/-- `from_str_radix` of an unsigned type. -/
def fromStrRadix (radix maxVal : ℕ) (cs : List Char) : Option ℕ :=
  let ds := match cs with
    | '+' :: ds => ds
    | ds => ds
  if ds = [] then none else readRadix radix maxVal ds 0

variable {radix maxVal : ℕ}

theorem toDigit_digitChar : ∀ d < 16, ∀ radix ≤ 16, d < radix →
    toDigit radix (Nat.digitChar d) = some d := by
  decide

theorem readRadix_append (cs ds : List Char) (n : ℕ) :
    readRadix radix maxVal (cs ++ ds) n =
      (readRadix radix maxVal cs n).bind (readRadix radix maxVal ds) := by
  induction cs generalizing n with
  | nil => rfl
  | cons c cs ih =>
    rw [List.cons_append, readRadix, readRadix]
    cases toDigit radix c with
    | none => rfl
    | some d =>
      dsimp only
      split
      · rfl
      · exact ih _

theorem readRadix_toDigits (h2 : 2 ≤ radix) (h16 : radix ≤ 16) {n : ℕ} (hn : n ≤ maxVal) :
    readRadix radix maxVal (Nat.toDigits radix n) 0 = some n := by
  induction n using Nat.strongRecOn with
  | ind n ih =>
    by_cases hlt : n < radix
    · rw [Nat.toDigits_of_lt_base hlt, readRadix,
        toDigit_digitChar n (by omega) radix h16 hlt]
      dsimp only
      rw [if_neg (by omega), Nat.mul_zero, Nat.zero_add]
      rfl
    · have hdiv : n / radix < n := Nat.div_lt_self (by omega) (by omega)
      have hmod : n % radix < radix := Nat.mod_lt _ (by omega)
      rw [Nat.toDigits_of_base_le (by omega) (by omega), readRadix_append,
        ih (n / radix) hdiv (by omega)]
      change readRadix radix maxVal [_] (n / radix) = some n
      rw [readRadix, toDigit_digitChar _ (by omega) radix h16 hmod]
      dsimp only
      rw [Nat.div_add_mod, if_neg (by omega)]
      rfl

theorem digit_of_mem_toDigits (h2 : 2 ≤ radix) (h16 : radix ≤ 16) {n : ℕ} {c : Char}
    (hc : c ∈ Nat.toDigits radix n) : ∃ d < 16, c = Nat.digitChar d := by
  induction n using Nat.strongRecOn with
  | ind n ih =>
    by_cases hlt : n < radix
    · rw [Nat.toDigits_of_lt_base hlt] at hc
      exact ⟨n, by omega, List.mem_singleton.mp hc⟩
    · have hmod : n % radix < radix := Nat.mod_lt _ (by omega)
      rw [Nat.toDigits_of_base_le (by omega) (by omega)] at hc
      obtain hc | hc := List.mem_append.mp hc
      · exact ih (n / radix) (Nat.div_lt_self (by omega) (by omega)) hc
      · exact ⟨n % radix, by omega, List.mem_singleton.mp hc⟩

theorem fromStrRadix_of_digit {c : Char} (hc : c ≠ '+') (cs : List Char) :
    fromStrRadix radix maxVal (c :: cs) = readRadix radix maxVal (c :: cs) 0 := by
  simp [fromStrRadix, hc]

end Numbers

end ShardingOnCloud.Lib.RustLines
