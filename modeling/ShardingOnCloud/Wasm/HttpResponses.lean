import ShardingOnCloud.Wasm.HttpChunks

namespace ShardingOnCloud.Wasm.HttpResponses

open ShardingOnCloud.Lib.RustText ShardingOnCloud.Lib.RustLines
open ShardingOnCloud.Wasm.HttpChunks

section Model

inductive Version
  | v10
  | v11
  deriving DecidableEq

def Version.text : Version → List Char
  | .v10 => "HTTP/1.0".toList
  | .v11 => "HTTP/1.1".toList

def parseVersion (s : List Char) : Except ParseError Version :=
  if s = "HTTP/1.0".toList then .ok .v10
  else if s = "HTTP/1.1".toList then .ok .v11
  else .error .invalidVersion

inductive BodyLen
  | length (n : ℕ)
  | chunked
  deriving DecidableEq

/-- The entries of the map, in the order in which it goes over them. -/
abbrev Headers := List (List Char × List Char)

structure HttpResponse where
  version : Version := .v10
  statusCode : ℕ := 200
  statusText : List Char := "OK".toList
  headers : Headers := []
  bodyLen : BodyLen := .length 0
  deriving DecidableEq

def insertHeader (key value : List Char) : Headers → Headers
  | [] => [(key, value)]
  | (k, v) :: headers =>
    if k = key then (k, value) :: headers else (k, v) :: insertHeader key value headers

def crlf : List Char := ['\r', '\n']

def headerText (header : List Char × List Char) : List Char :=
  header.1 ++ ": ".toList ++ header.2 ++ crlf

def announced : BodyLen → Headers
  | .length 0 => []
  | .length (n + 1) => [("Content-Length".toList, Nat.toDigits 10 (n + 1))]
  | .chunked => [("Transfer-Encoding".toList, "chunked".toList)]

def HttpResponse.text (res : HttpResponse) : List Char :=
  res.version.text ++ ' ' :: Nat.toDigits 10 res.statusCode ++ ' ' :: res.statusText ++ crlf ++
    (res.headers ++ announced res.bodyLen).flatMap headerText ++ crlf

def processRespLine (s : List Char) : Except ParseError (Version × ℕ × List Char) :=
  match nextWord s with
  | none => .error .invalidStatusLine
  | some (version, s) =>
    match nextWord s with
    | none => .error .invalidStatusLine
    | some (status, s) =>
      match parseVersion version with
      | .error e => .error e
      | .ok version =>
        match fromStrRadix 10 65535 status with
        | none => .error .invalidStatusCode
        | some status => .ok (version, status, ((nextWord s).map Prod.fst).getD [])

/-- The parts before the first and between the first and the second colon. -/
def processHeaderLine (s : List Char) : List Char × List Char :=
  (s.takeWhile (· ≠ ':'), trimStart ((s.dropWhile (· ≠ ':')).tail.takeWhile (· ≠ ':')))

/-- No letter but those of the alphabet becomes one of the names that are compared. -/
def toLowercase (s : List Char) : List Char := s.map Char.toLower

def bodyLenOf (key value : List Char) (bodyLen : BodyLen) : Except ParseError BodyLen :=
  if toLowercase key = "content-length".toList then
    match fromStrRadix 10 usizeMax value with
    | none => .error .invalidHeaders
    | some len => .ok (.length len)
  else if toLowercase key = "transfer-encoding".toList ∧ value = "chunked".toList then .ok .chunked
  else .ok bodyLen

theorem length_takeLine_pos {bs : List UInt8} (h : (takeLine bs).1.length ≠ 0) :
    (bs.drop (takeLine bs).1.length).length < bs.length := by
  have hle : (takeLine bs).1.length ≤ bs.length := by
    have hlen := congrArg List.length (takeLine_append bs)
    rw [List.length_append] at hlen
    omega
  rw [List.length_drop]
  omega

/-- The state of the loop over the header lines: the headers, the body, and the bytes so far. -/
structure Heads where
  headers : Headers := []
  bodyLen : BodyLen := .length 0
  total : ℕ

def headerLoop (req : List UInt8) (s : Heads) : Except ParseError (Heads × List UInt8) :=
  match fromUtf8 (takeLine req).1 with
  | none => .error .otherParseError
  | some line =>
    if _h : (takeLine req).1.length = 0 then .error .pending
    else
      let rest := req.drop (takeLine req).1.length
      let total := s.total + (takeLine req).1.length
      if trimEnd line = [] then .ok ({ s with total := total }, rest)
      else if ':' ∈ trimEnd line then
        let header := processHeaderLine (trimEnd line)
        match bodyLenOf header.1 header.2 s.bodyLen with
        | .error e => .error e
        | .ok bodyLen =>
          headerLoop rest ⟨insertHeader header.1 header.2 s.headers, bodyLen, total⟩
      else .error .invalidHeaders
termination_by req.length
decreasing_by exact length_takeLine_pos _h

def BodyLen.isMissing : BodyLen → List UInt8 → Bool
  | .length n, rest => rest.length < n
  | .chunked, _ => false

def parse (req : List UInt8) : Except ParseError (HttpResponse × ℕ) :=
  match readLine req with
  | none => .error .otherParseError
  | some (line, n) =>
    if n = 0 then .error .pending
    else
      match processRespLine (trimEnd line) with
      | .error e => .error e
      | .ok (version, status, statusText) =>
        match headerLoop (req.drop n) { total := n } with
        | .error e => .error e
        | .ok (s, rest) =>
          if s.bodyLen.isMissing rest then .error .pending
          else .ok (⟨version, status, statusText, s.headers, s.bodyLen⟩, s.total)

/-- The result of `parseResponse`, where an error that is pending stands for none. -/
def jsParseResponse (b : Buffer) : Except ParseError HttpResponse × Buffer :=
  match parse b.asRef with
  | .ok (res, n) => (.ok res, { b with start := b.start + n })
  | .error e => (.error e, b)

end Model

section Lines

variable {key value rest : List Char}

theorem trimEnd_crlf {cs : List Char} (h : ∀ c, cs.getLast? = some c → isWhitespace c = false) :
    trimEnd (cs ++ crlf) = cs :=
  trimEnd_spaces h (List.all_eq_true.mp (by decide))

theorem takeLine_crlf {cs : List Char} (h : '\n' ∉ cs) (rest : List UInt8) :
    takeLine (toUtf8 (cs ++ crlf) ++ rest) = (toUtf8 (cs ++ crlf), rest) := by
  have hfeed : '\n' ∉ cs ++ ['\r'] := by
    intro hmem
    obtain hmem | hmem := List.mem_append.mp hmem
    · exact h hmem
    · exact absurd (List.mem_singleton.mp hmem) (by decide)
  have hline : cs ++ crlf = (cs ++ ['\r']) ++ ['\n'] := by
    rw [List.append_assoc]
    rfl
  have hbyte : toUtf8 ['\n'] = [10] := rfl
  rw [hline, toUtf8_append, hbyte, List.append_assoc]
  exact takeLine_cut (lineFeed_not_mem hfeed) rest

theorem length_crlf_pos (cs : List Char) : (toUtf8 (cs ++ crlf)).length ≠ 0 := by
  have htwo : (toUtf8 crlf).length = 2 := rfl
  rw [toUtf8_append, List.length_append]
  omega

structure Plain (header : List Char × List Char) : Prop where
  key_colon : ':' ∉ header.1
  key_feed : '\n' ∉ header.1
  value_colon : ':' ∉ header.2
  value_feed : '\n' ∉ header.2
  trimmed : Trimmed header.2

theorem takeWhile_colon {s t : List Char} (h : ':' ∉ s) :
    (s ++ ':' :: t).takeWhile (· ≠ ':') = s ∧ (s ++ ':' :: t).dropWhile (· ≠ ':') = ':' :: t := by
  have hall : ∀ c ∈ s, decide (c ≠ ':') = true := by
    intro c hc
    exact decide_eq_true (fun hcolon => h (hcolon ▸ hc))
  rw [List.takeWhile_append_of_pos hall, List.dropWhile_append_of_pos hall]
  simp

def headerLine (header : List Char × List Char) : List Char :=
  header.1 ++ ':' :: if header.2 = [] then [] else ' ' :: header.2

theorem trimEnd_header {header : List Char × List Char} (h : Plain header) :
    trimEnd (headerText header) = headerLine header := by
  obtain ⟨key, value⟩ := header
  unfold headerText headerLine
  by_cases hvalue : value = []
  · have hspaces : key ++ ": ".toList ++ value ++ crlf = (key ++ [':']) ++ [' ', '\r', '\n'] := by
      rw [hvalue]
      simp [crlf]
    dsimp only
    rw [hspaces, if_pos hvalue]
    exact trimEnd_spaces (by simp; decide) (List.all_eq_true.mp (by decide))
  · have hline : key ++ ": ".toList ++ value = key ++ ':' :: ' ' :: value := by simp
    dsimp only
    rw [if_neg hvalue, ← hline]
    refine trimEnd_crlf (fun c hc => h.trimmed.last c ?_)
    rw [List.getLast?_append_of_ne_nil _ hvalue] at hc
    exact hc

theorem processHeaderLine_header {header : List Char × List Char} (h : Plain header) :
    processHeaderLine (headerLine header) = header := by
  obtain ⟨key, value⟩ := header
  unfold processHeaderLine headerLine
  dsimp only
  obtain ⟨hkey, hrest⟩ := takeWhile_colon (t := if value = [] then [] else ' ' :: value) h.key_colon
  rw [hkey, hrest, List.tail_cons]
  by_cases hvalue : value = []
  · rw [if_pos hvalue, hvalue]
    rfl
  · have hall : ∀ c ∈ ' ' :: value, decide (c ≠ ':') = true := by
      intro c hc
      obtain rfl | hc := List.mem_cons.mp hc
      · decide
      · exact decide_eq_true (fun hcolon => h.value_colon (hcolon ▸ hc))
    have htrim : trimStart (' ' :: value) = value := trimStart_of_trimmed h.trimmed.first
    rw [if_neg hvalue, List.takeWhile_eq_self_iff.mpr hall, htrim]

end Lines

section RoundTrip

theorem insertHeader_fresh {key value : List Char} {headers : Headers}
    (h : key ∉ headers.map Prod.fst) : insertHeader key value headers = headers ++ [(key, value)] := by
  induction headers with
  | nil => rfl
  | cons header headers ih =>
    obtain ⟨k, v⟩ := header
    rw [List.map_cons, List.mem_cons, not_or] at h
    rw [insertHeader, if_neg (Ne.symm h.1), ih h.2]
    rfl

/-- A round of the loop, by the bytes of its line and those after it. -/
def headerRound (l rest : List UInt8) (s : Heads) : Except ParseError (Heads × List UInt8) :=
  match fromUtf8 l with
  | none => .error .otherParseError
  | some line =>
    if l.length = 0 then .error .pending
    else if trimEnd line = [] then .ok ({ s with total := s.total + l.length }, rest)
    else if ':' ∈ trimEnd line then
      match bodyLenOf (processHeaderLine (trimEnd line)).1 (processHeaderLine (trimEnd line)).2
          s.bodyLen with
      | .error e => .error e
      | .ok bodyLen =>
        headerLoop rest ⟨insertHeader (processHeaderLine (trimEnd line)).1
          (processHeaderLine (trimEnd line)).2 s.headers, bodyLen, s.total + l.length⟩
    else .error .invalidHeaders

theorem drop_takeLine (req : List UInt8) :
    req.drop (takeLine req).1.length = (takeLine req).2 := by
  have hreq := takeLine_append req
  nth_rewrite 2 [← hreq]
  rw [List.drop_left]

theorem headerLoop_eq (req : List UInt8) (s : Heads) :
    headerLoop req s = headerRound (takeLine req).1 (takeLine req).2 s := by
  rw [headerLoop.eq_def, headerRound, drop_takeLine]
  cases fromUtf8 (takeLine req).1 with
  | none => rfl
  | some line =>
    by_cases hzero : (takeLine req).1.length = 0
    · dsimp only
      rw [dif_pos hzero, if_pos hzero]
    · dsimp only
      rw [dif_neg hzero, if_neg hzero]

theorem headerLoop_line {req rest : List UInt8} {line : List Char}
    (h : takeLine req = (toUtf8 line, rest)) (hne : (toUtf8 line).length ≠ 0) (s : Heads) :
    headerLoop req s =
      if trimEnd line = [] then .ok ({ s with total := s.total + (toUtf8 line).length }, rest)
      else if ':' ∈ trimEnd line then
        match bodyLenOf (processHeaderLine (trimEnd line)).1 (processHeaderLine (trimEnd line)).2
            s.bodyLen with
        | .error e => .error e
        | .ok bodyLen =>
          headerLoop rest ⟨insertHeader (processHeaderLine (trimEnd line)).1
            (processHeaderLine (trimEnd line)).2 s.headers, bodyLen,
            s.total + (toUtf8 line).length⟩
      else .error .invalidHeaders := by
  rw [headerLoop_eq, h, headerRound, fromUtf8_toUtf8]
  dsimp only
  rw [if_neg hne]

theorem headerLoop_header {header : List Char × List Char} (h : Plain header) {s : Heads}
    {bodyLen : BodyLen} (hbody : bodyLenOf header.1 header.2 s.bodyLen = .ok bodyLen)
    (rest : List UInt8) :
    headerLoop (toUtf8 (headerText header) ++ rest) s =
      headerLoop rest ⟨insertHeader header.1 header.2 s.headers, bodyLen,
        s.total + (toUtf8 (headerText header)).length⟩ := by
  have hfeed : '\n' ∉ header.1 ++ ": ".toList ++ header.2 := by
    simp [h.key_feed, h.value_feed]
  have hne : headerLine header ≠ [] := by
    unfold headerLine
    simp
  have hcolon : ':' ∈ headerLine header := by
    unfold headerLine
    simp
  have hline : takeLine (toUtf8 (headerText header) ++ rest) =
      (toUtf8 (headerText header), rest) := takeLine_crlf hfeed rest
  rw [headerLoop_line hline (length_crlf_pos _), trimEnd_header h, if_neg hne, if_pos hcolon,
    processHeaderLine_header h, hbody]

theorem headerLoop_blank (rest : List UInt8) (s : Heads) :
    headerLoop (toUtf8 crlf ++ rest) s = .ok ({ s with total := s.total + 2 }, rest) := by
  have hblank : trimEnd crlf = [] := by decide
  have hline : takeLine (toUtf8 crlf ++ rest) = (toUtf8 crlf, rest) :=
    takeLine_crlf List.not_mem_nil rest
  rw [headerLoop_line hline (length_crlf_pos []), if_pos hblank]
  rfl

def Silent (header : List Char × List Char) : Prop :=
  toLowercase header.1 ≠ "content-length".toList ∧ toLowercase header.1 ≠ "transfer-encoding".toList

theorem headerLoop_headers {headers : Headers} {s : Heads}
    (hplain : ∀ header ∈ headers, Plain header) (hsilent : ∀ header ∈ headers, Silent header)
    (hkeys : ((s.headers ++ headers).map Prod.fst).Nodup) (rest : List UInt8) :
    headerLoop (toUtf8 (headers.flatMap headerText) ++ rest) s =
      headerLoop rest ⟨s.headers ++ headers, s.bodyLen,
        s.total + (toUtf8 (headers.flatMap headerText)).length⟩ := by
  induction headers generalizing s with
  | nil => rw [List.append_nil]; rfl
  | cons header headers ih =>
    obtain ⟨hlen, hchunked⟩ := hsilent header List.mem_cons_self
    have hbody : bodyLenOf header.1 header.2 s.bodyLen = .ok s.bodyLen := by
      rw [bodyLenOf, if_neg hlen, if_neg (fun h => hchunked h.1)]
    have hfresh : header.1 ∉ s.headers.map Prod.fst := by
      rw [List.map_append, List.map_cons] at hkeys
      exact fun hmem => (List.nodup_append.mp hkeys).2.2 _ hmem _ List.mem_cons_self rfl
    have hassoc : s.headers ++ [header] ++ headers = s.headers ++ header :: headers :=
      List.append_assoc _ _ _
    rw [List.flatMap_cons, toUtf8_append, List.append_assoc,
      headerLoop_header (hplain header List.mem_cons_self) hbody, insertHeader_fresh hfresh,
      ih (fun h hh => hplain h (List.mem_cons_of_mem header hh))
        (fun h hh => hsilent h (List.mem_cons_of_mem header hh)) (by rw [hassoc]; exact hkeys),
      hassoc, List.length_append, Nat.add_assoc]

structure Printable (res : HttpResponse) : Prop where
  status : res.statusCode ≤ 65535
  text : ∀ c ∈ res.statusText, isWhitespace c = false
  plain : ∀ header ∈ res.headers, Plain header
  silent : ∀ header ∈ res.headers, Silent header
  keys : (res.headers.map Prod.fst).Nodup
  body : ∀ n, res.bodyLen = .length n → n ≤ usizeMax

theorem decimal_facts {n : ℕ} {c : Char} (h : c ∈ Nat.toDigits 10 n) : isWhitespace c = false ∧
    c ≠ '+' ∧ c ≠ ':' ∧ c ≠ '\n' := by
  have hall : ∀ d < 16, isWhitespace (Nat.digitChar d) = false ∧ Nat.digitChar d ≠ '+' ∧
      Nat.digitChar d ≠ ':' ∧ Nat.digitChar d ≠ '\n' := by
    decide
  obtain ⟨d, hd, rfl⟩ := digit_of_mem_toDigits (by decide) (by decide) h
  exact hall d hd

theorem fromStrRadix_decimal {n maxVal : ℕ} (h : n ≤ maxVal) :
    fromStrRadix 10 maxVal (Nat.toDigits 10 n) = some n := by
  have hne : Nat.toDigits 10 n ≠ [] := by simp
  obtain ⟨c, cs, hcs⟩ := List.exists_cons_of_ne_nil hne
  have hc : c ≠ '+' := (decimal_facts (hcs ▸ List.mem_cons_self)).2.1
  rw [hcs, fromStrRadix_of_digit hc, ← hcs]
  exact readRadix_toDigits (by decide) (by decide) h

theorem parseVersion_text (v : Version) : parseVersion v.text = .ok v := by
  cases v <;> decide

def statusLine (res : HttpResponse) : List Char :=
  res.version.text ++ ' ' :: (Nat.toDigits 10 res.statusCode ++
    if res.statusText = [] then [] else ' ' :: res.statusText)

theorem trimEnd_status {res : HttpResponse} (h : Printable res) :
    trimEnd (res.version.text ++ ' ' :: Nat.toDigits 10 res.statusCode ++ ' ' :: res.statusText ++
      crlf) = statusLine res := by
  unfold statusLine
  by_cases htext : res.statusText = []
  · have hspaces : res.version.text ++ ' ' :: Nat.toDigits 10 res.statusCode ++
        ' ' :: res.statusText ++ crlf =
        (res.version.text ++ ' ' :: Nat.toDigits 10 res.statusCode) ++ [' ', '\r', '\n'] := by
      rw [htext]
      simp [crlf]
    have hne : ' ' :: Nat.toDigits 10 res.statusCode ≠ [] := by simp
    rw [hspaces, if_pos htext, List.append_nil]
    refine trimEnd_spaces (fun c hc => ?_) (List.all_eq_true.mp (by decide))
    rw [List.getLast?_append_of_ne_nil _ hne, List.getLast?_cons_of_ne_nil (by simp)] at hc
    exact (decimal_facts (List.mem_of_getLast? hc)).1
  · have hline : res.version.text ++ ' ' :: Nat.toDigits 10 res.statusCode ++ ' ' :: res.statusText =
        res.version.text ++ ' ' :: (Nat.toDigits 10 res.statusCode ++ ' ' :: res.statusText) := by
      simp
    have hne : ' ' :: res.statusText ≠ [] := by simp
    rw [if_neg htext, ← hline]
    refine trimEnd_crlf (fun c hc => ?_)
    rw [List.getLast?_append_of_ne_nil _ hne, List.getLast?_cons_of_ne_nil htext] at hc
    exact h.text c (List.mem_of_getLast? hc)

theorem processRespLine_status {res : HttpResponse} (h : Printable res) :
    processRespLine (statusLine res) = .ok (res.version, res.statusCode, res.statusText) := by
  have hversion : ∀ v : Version, v.text ≠ [] ∧ ∀ c ∈ v.text, isWhitespace c = false := by
    intro v
    have hne : v.text ≠ [] := by cases v <;> decide
    exact ⟨hne, not_whitespace_of_all (by cases v <;> decide)⟩
  have hspace : isWhitespace ' ' = true := by decide
  have hstart : ∀ cs : List Char, ∀ c, (' ' :: cs).head? = some c → isWhitespace c = true :=
    fun cs c hc => Option.some.inj hc ▸ hspace
  have htail : ∀ c, (if res.statusText = [] then [] else ' ' :: res.statusText).head? = some c →
      isWhitespace c = true := by
    intro c hc
    split at hc
    · cases hc
    · exact hstart _ c hc
  have hlast : ((nextWord (if res.statusText = [] then [] else ' ' :: res.statusText)).map
      Prod.fst).getD [] = res.statusText := by
    split
    · rename_i htext
      rw [htext]
      rfl
    · rename_i htext
      have hword : nextWord (res.statusText ++ []) = some (res.statusText, []) :=
        nextWord_word htext h.text (by simp)
      rw [List.append_nil] at hword
      rw [nextWord_space hspace, hword]
      rfl
  unfold processRespLine statusLine
  rw [nextWord_word (hversion _).1 (hversion _).2 (hstart _)]
  dsimp only
  rw [nextWord_space hspace, nextWord_word (by simp) (fun c hc => (decimal_facts hc).1) htail]
  dsimp only
  rw [parseVersion_text, fromStrRadix_decimal h.status, hlast]

theorem headerLoop_announced {bodyLen : BodyLen} (hfit : ∀ n, bodyLen = .length n → n ≤ usizeMax)
    {s : Heads} (hbody : s.bodyLen = .length 0) (hsilent : ∀ header ∈ s.headers, Silent header)
    (rest : List UInt8) :
    headerLoop (toUtf8 ((announced bodyLen).flatMap headerText) ++ rest) s =
      headerLoop rest ⟨s.headers ++ announced bodyLen, bodyLen,
        s.total + (toUtf8 ((announced bodyLen).flatMap headerText)).length⟩ := by
  have hfresh : ∀ name : List Char, ¬Silent (name, []) → name ∉ s.headers.map Prod.fst := by
    intro name hname hmem
    obtain ⟨header, hheader, rfl⟩ := List.mem_map.mp hmem
    exact hname (hsilent header hheader)
  cases bodyLen with
  | chunked =>
    have hplain : Plain ("Transfer-Encoding".toList, "chunked".toList) :=
      ⟨by decide, by decide, by decide, by decide, trimmed_of_all (by decide)⟩
    have hnew : bodyLenOf "Transfer-Encoding".toList "chunked".toList s.bodyLen = .ok .chunked := by
      rw [hbody]
      decide
    have hkey : "Transfer-Encoding".toList ∉ s.headers.map Prod.fst :=
      hfresh _ (fun h => h.2 (by decide))
    rw [announced, List.flatMap_singleton, headerLoop_header hplain hnew, insertHeader_fresh hkey]
  | length n =>
    cases n with
    | zero =>
      rw [announced, List.append_nil, ← hbody]
      rfl
    | succ n =>
      have hdigits : ∀ c ∈ Nat.toDigits 10 (n + 1), isWhitespace c = false :=
        fun c hc => (decimal_facts hc).1
      have hkeyText : ':' ∉ "Content-Length".toList ∧ '\n' ∉ "Content-Length".toList := by decide
      have hplain : Plain ("Content-Length".toList, Nat.toDigits 10 (n + 1)) :=
        ⟨hkeyText.1, hkeyText.2, fun hc => (decimal_facts hc).2.2.1 rfl,
          fun hc => (decimal_facts hc).2.2.2 rfl,
          ⟨fun c hc => hdigits c (List.mem_of_head? hc),
            fun c hc => hdigits c (List.mem_of_getLast? hc)⟩⟩
      have hname : toLowercase "Content-Length".toList = "content-length".toList := by decide
      have hnew : bodyLenOf "Content-Length".toList (Nat.toDigits 10 (n + 1)) s.bodyLen =
          .ok (.length (n + 1)) := by
        rw [bodyLenOf, if_pos hname, fromStrRadix_decimal (hfit _ rfl)]
      have hkey : "Content-Length".toList ∉ s.headers.map Prod.fst :=
        hfresh _ (fun h => h.1 hname)
      rw [announced, List.flatMap_singleton, headerLoop_header hplain hnew, insertHeader_fresh hkey]

theorem parse_printed {res : HttpResponse} (h : Printable res) (body : List UInt8)
    (hbody : ∀ n, res.bodyLen = .length n → n ≤ body.length) :
    parse (toUtf8 res.text ++ body) =
      .ok ({ res with headers := res.headers ++ announced res.bodyLen },
        (toUtf8 res.text).length) := by
  let first := res.version.text ++ ' ' :: Nat.toDigits 10 res.statusCode ++ ' ' :: res.statusText
  have htext : toUtf8 res.text = toUtf8 (first ++ crlf) ++ (toUtf8 (res.headers.flatMap headerText) ++
      (toUtf8 ((announced res.bodyLen).flatMap headerText) ++ toUtf8 crlf)) := by
    unfold HttpResponse.text
    rw [List.flatMap_append]
    simp only [toUtf8_append, List.append_assoc, first]
  have hfeed : '\n' ∉ first := by
    have hversion : ∀ v : Version, '\n' ∉ v.text := by
      intro v
      cases v <;> decide
    have hword : '\n' ∉ res.statusText := fun hmem => absurd (h.text _ hmem) (by decide)
    have hnumber : '\n' ∉ Nat.toDigits 10 res.statusCode := fun hmem =>
      (decimal_facts hmem).2.2.2 rfl
    simp [first, hversion, hword, hnumber]
  have hline : ∀ rest, readLine (toUtf8 (first ++ crlf) ++ rest) =
      some (first ++ crlf, (toUtf8 (first ++ crlf)).length) := by
    intro rest
    rw [readLine, takeLine_crlf hfeed, fromUtf8_toUtf8]
    rfl
  have hmissing : res.bodyLen.isMissing body = false := by
    cases hlen : res.bodyLen with
    | chunked => rfl
    | length n => exact decide_eq_false (Nat.not_lt.mpr (hbody n hlen))
  unfold parse
  rw [htext]
  simp only [List.append_assoc]
  rw [hline]
  dsimp only
  rw [if_neg (length_crlf_pos _), trimEnd_status h, processRespLine_status h]
  dsimp only
  rw [List.drop_left, headerLoop_headers (s := { total := (toUtf8 (first ++ crlf)).length }) h.plain
    h.silent h.keys, headerLoop_announced h.body rfl h.silent, headerLoop_blank]
  have htwo : (toUtf8 crlf).length = 2 := rfl
  simp [hmissing, htwo, Nat.add_assoc]

/-- What is printed is parsed again, up to the header that says how long the body is, and a
buffer is left with the body. -/
theorem jsParseResponse_text {res : HttpResponse} (h : Printable res) {b : Buffer}
    {body : List UInt8} (hbody : ∀ n, res.bodyLen = .length n → n ≤ body.length)
    (hb : b.asRef = toUtf8 res.text ++ body) :
    jsParseResponse b = (.ok { res with headers := res.headers ++ announced res.bodyLen },
        { b with start := b.start + (toUtf8 res.text).length }) ∧
      (jsParseResponse b).2.asRef = body := by
  have hparse : jsParseResponse b =
      (.ok { res with headers := res.headers ++ announced res.bodyLen },
        { b with start := b.start + (toUtf8 res.text).length }) := by
    rw [jsParseResponse, hb, parse_printed h body hbody]
  refine ⟨hparse, ?_⟩
  rw [hparse, asRef_eq]
  rw [asRef_eq] at hb
  change b.bytes.drop (b.start + _) = body
  rw [← List.drop_drop, hb, List.drop_left]

def notFound : HttpResponse where
  version := .v11
  statusCode := 404
  statusText := "Missing".toList
  headers := [("Server".toList, "wasm".toList)]
  bodyLen := .length 2

theorem printable_notFound : Printable notFound where
  status := by decide
  text := not_whitespace_of_all (by decide)
  plain := List.forall_mem_singleton.mpr
    ⟨by decide, by decide, by decide, by decide, trimmed_of_all (by decide)⟩
  silent := List.forall_mem_singleton.mpr ⟨by decide, by decide⟩
  keys := by decide
  body n hn := by
    cases hn
    decide

theorem jsParseResponse_text_notFound :
    jsParseResponse ⟨toUtf8 notFound.text ++ [1, 2, 3], 0⟩ =
        (.ok { notFound with headers := notFound.headers ++ announced notFound.bodyLen },
          ⟨toUtf8 notFound.text ++ [1, 2, 3], 0 + (toUtf8 notFound.text).length⟩) ∧
      (jsParseResponse ⟨toUtf8 notFound.text ++ [1, 2, 3], 0⟩).2.asRef = [1, 2, 3] :=
  jsParseResponse_text printable_notFound (fun n hn => by cases hn; decide)
    (asRef_eq ⟨toUtf8 notFound.text ++ [1, 2, 3], 0⟩)

end RoundTrip

section More

theorem takeLine_rest {bs : List UInt8} (h : 10 ∉ (takeLine bs).1) : (takeLine bs).2 = [] := by
  induction bs with
  | nil => rfl
  | cons b bs ih =>
    by_cases hb : b = 10
    · rw [takeLine, if_pos hb, hb] at h
      exact absurd List.mem_cons_self h
    · rw [takeLine, if_neg hb] at h ⊢
      exact ih (fun hmem => h (List.mem_cons_of_mem b hmem))

theorem takeLine_more {bs : List UInt8} (h : 10 ∈ (takeLine bs).1) (more : List UInt8) :
    takeLine (bs ++ more) = ((takeLine bs).1, (takeLine bs).2 ++ more) := by
  induction bs with
  | nil => cases h
  | cons b bs ih =>
    rw [List.cons_append, takeLine, takeLine]
    by_cases hb : b = 10
    · rw [if_pos hb, if_pos hb]
    · rw [takeLine, if_neg hb] at h
      have hmem : 10 ∈ (takeLine bs).1 := by
        obtain hten | hmem := List.mem_cons.mp h
        · exact absurd hten.symm hb
        · exact hmem
      rw [if_neg hb, if_neg hb, ih hmem]

theorem headerLoop_nil (s : Heads) : headerLoop [] s = .error .pending := by
  have hempty : fromUtf8 [] = some [] := fromUtf8_toUtf8 []
  rw [headerLoop_eq, takeLine, headerRound, hempty]
  rfl

/-- The header lines of a result are there, and more bytes after them change nothing if the last
one is there as a whole. -/
theorem headerLoop_more {req : List UInt8} {s s' : Heads} {rest : List UInt8}
    (h : headerLoop req s = .ok (s', rest)) :
    ∃ head, head ≠ [] ∧ req = head ++ rest ∧ s'.total = s.total + head.length ∧
      (head.getLast? = some 10 → ∀ more, headerLoop (req ++ more) s = .ok (s', rest ++ more)) := by
  induction hn : req.length using Nat.strongRecOn generalizing req s with
  | ind n ih =>
    rw [headerLoop_eq, headerRound] at h
    cases hline : fromUtf8 (takeLine req).1 with
    | none => rw [hline] at h; cases h
    | some line =>
      rw [hline] at h
      dsimp only at h
      by_cases hzero : (takeLine req).1.length = 0
      · rw [if_pos hzero] at h
        cases h
      · rw [if_neg hzero] at h
        have hne : (takeLine req).1 ≠ [] := fun hnil => hzero (by rw [hnil]; rfl)
        by_cases hblank : trimEnd line = []
        · rw [if_pos hblank] at h
          cases h
          refine ⟨(takeLine req).1, hne, (takeLine_append req).symm, rfl, fun hlast more => ?_⟩
          rw [headerLoop_eq, takeLine_more (List.mem_of_getLast? hlast), headerRound, hline]
          dsimp only
          rw [if_neg hzero, if_pos hblank]
        · rw [if_neg hblank] at h
          by_cases hcolon : ':' ∈ trimEnd line
          · rw [if_pos hcolon] at h
            cases hbody : bodyLenOf (processHeaderLine (trimEnd line)).1
                (processHeaderLine (trimEnd line)).2 s.bodyLen with
            | error e => rw [hbody] at h; cases h
            | ok bodyLen =>
              rw [hbody] at h
              dsimp only at h
              have hfeed : 10 ∈ (takeLine req).1 := by
                by_contra hopen
                rw [takeLine_rest hopen, headerLoop_nil] at h
                cases h
              have hshort : (takeLine req).2.length < n := by
                have hlen := congrArg List.length (takeLine_append req)
                rw [List.length_append] at hlen
                omega
              obtain ⟨head, hhead, hreq, htotal, hmore⟩ := ih _ hshort h rfl
              refine ⟨(takeLine req).1 ++ head, by simp [hhead], ?_, ?_, fun hlast more => ?_⟩
              · rw [List.append_assoc, ← hreq, takeLine_append]
              · rw [htotal, List.length_append, Nat.add_assoc]
              · rw [List.getLast?_append_of_ne_nil _ hhead] at hlast
                rw [headerLoop_eq, takeLine_more hfeed, headerRound, hline]
                dsimp only
                rw [if_neg hzero, if_neg hblank, if_pos hcolon, hbody]
                exact hmore hlast more
          · rw [if_neg hcolon] at h
            cases h

structure Parts (req : List UInt8) (res : HttpResponse) (line : List Char) (rest : List UInt8)
    (n : ℕ) : Prop where
  text : fromUtf8 (takeLine req).1 = some line
  nonempty : (takeLine req).1.length ≠ 0
  status : processRespLine (trimEnd line) = .ok (res.version, res.statusCode, res.statusText)
  heads : headerLoop (takeLine req).2 { total := (takeLine req).1.length } =
    .ok (⟨res.headers, res.bodyLen, n⟩, rest)
  body : res.bodyLen.isMissing rest = false

theorem parse_of_parts {req : List UInt8} {res : HttpResponse} {line : List Char}
    {rest : List UInt8} {n : ℕ} (h : Parts req res line rest n) : parse req = .ok (res, n) := by
  rw [parse, readLine, h.text]
  simp only [Option.map_some, drop_takeLine]
  rw [if_neg h.nonempty, h.status]
  dsimp only
  rw [h.heads]
  dsimp only
  rw [h.body]
  rfl

theorem parts_of_parse {req : List UInt8} {res : HttpResponse} {n : ℕ}
    (h : parse req = .ok (res, n)) : ∃ line rest, Parts req res line rest n := by
  rw [parse, readLine] at h
  cases hline : fromUtf8 (takeLine req).1 with
  | none => rw [hline] at h; cases h
  | some line =>
    rw [hline] at h
    simp only [Option.map_some, drop_takeLine] at h
    by_cases hzero : (takeLine req).1.length = 0
    · rw [if_pos hzero] at h
      cases h
    · rw [if_neg hzero] at h
      cases hstatus : processRespLine (trimEnd line) with
      | error e => rw [hstatus] at h; cases h
      | ok status =>
        rw [hstatus] at h
        dsimp only at h
        cases hheads : headerLoop (takeLine req).2 { total := (takeLine req).1.length } with
        | error e => rw [hheads] at h; cases h
        | ok heads =>
          rw [hheads] at h
          dsimp only at h
          by_cases hmissing : heads.1.bodyLen.isMissing heads.2 = true
          · rw [if_pos hmissing] at h
            cases h
          · rw [if_neg hmissing] at h
            cases h
            exact ⟨line, heads.2, hline, hzero, hstatus, hheads, Bool.eq_false_iff.mpr hmissing⟩

theorem isMissing_append {bodyLen : BodyLen} {rest : List UInt8}
    (h : bodyLen.isMissing rest = false) (more : List UInt8) :
    bodyLen.isMissing (rest ++ more) = false := by
  cases bodyLen with
  | chunked => rfl
  | length m =>
    simp only [BodyLen.isMissing, List.length_append, decide_eq_false_iff_not] at h ⊢
    omega

/-- A response stays what it is when more bytes come, once the lines of its head are there as a
whole. -/
theorem parse_more {req : List UInt8} {res : HttpResponse} {n : ℕ} (h : parse req = .ok (res, n))
    (hlast : (req.take n).getLast? = some 10) (more : List UInt8) :
    parse (req ++ more) = .ok (res, n) := by
  obtain ⟨line, rest, hparts⟩ := parts_of_parse h
  have hfeed : 10 ∈ (takeLine req).1 := by
    by_contra hopen
    have hheads := hparts.heads
    rw [takeLine_rest hopen, headerLoop_nil] at hheads
    cases hheads
  obtain ⟨head, hhead, hreq, htotal, hmore⟩ := headerLoop_more hparts.heads
  have htake : req.take n = (takeLine req).1 ++ head := by
    have hsplit : (takeLine req).1 ++ head ++ rest = req := by
      rw [List.append_assoc, ← hreq, takeLine_append]
    calc req.take n = ((takeLine req).1 ++ head ++ rest).take n := by rw [hsplit]
      _ = (takeLine req).1 ++ head := List.take_left' (List.length_append.trans htotal.symm)
  rw [htake, List.getLast?_append_of_ne_nil _ hhead] at hlast
  have hline := takeLine_more hfeed more
  have hparts' : Parts (req ++ more) res line (rest ++ more) n :=
    ⟨by rw [hline]; exact hparts.text, by rw [hline]; exact hparts.nonempty, hparts.status,
      by rw [hline]; exact hmore hlast more, isMissing_append hparts.body more⟩
  exact parse_of_parts hparts'

theorem parse_more_notFound :
    parse (toUtf8 notFound.text ++ [1, 2, 3] ++ [4]) =
      .ok ({ notFound with headers := notFound.headers ++ announced notFound.bodyLen },
        (toUtf8 notFound.text).length) := by
  refine parse_more (parse_printed printable_notFound [1, 2, 3] (fun n hn => by cases hn; decide))
    ?_ [4]
  rw [List.take_left]
  decide

end More

end ShardingOnCloud.Wasm.HttpResponses
