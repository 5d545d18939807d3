import ShardingOnCloud.Lib.RustLines

namespace ShardingOnCloud.Wasm.HttpChunks

open ShardingOnCloud.Lib.RustText ShardingOnCloud.Lib.RustLines

section Model

inductive ParseError
  | otherParseError
  | invalidMethod
  | invalidUrl
  | invalidVersion
  | invalidRequestLine
  | invalidStatusCode
  | invalidStatusLine
  | invalidHeaders
  | invalidChunk
  | pending
  deriving DecidableEq

/-- The largest `usize` of the target. -/
def usizeMax : ℕ := 2 ^ 32 - 1

def getRange (buf : List UInt8) (a b : ℕ) : Option (List UInt8) :=
  if a ≤ b ∧ b ≤ buf.length then some ((buf.take b).drop a) else none

def parseChunk (buf : List UInt8) : Except ParseError (List UInt8 × ℕ) :=
  match readLine buf with
  | none => .error .invalidChunk
  | some (header, n) =>
    if n = 0 then .error .pending
    else
      match fromStrRadix 16 usizeMax (trim header) with
      | none => .error .invalidChunk
      | some len =>
        match getRange buf n ((n + len) % 2 ^ 32) with
        | none => .error .pending
        | some rBuf =>
          match readLine (buf.drop (n + len)) with
          | none => .error .invalidChunk
          | some (_, endN) => if endN = 0 then .error .pending else .ok (rBuf, n + len + endN)

/-- What `write` of a chunked response sends for data. -/
def chunkBytes (data : List UInt8) : List UInt8 :=
  toUtf8 (Nat.toDigits 16 data.length ++ ['\r', '\n']) ++ data ++ toUtf8 ['\r', '\n']

/-- The calls of a chunked response. -/
inductive Send
  | write (data : List UInt8)
  | finish (data : Option (List UInt8))

/-- What has been sent, and whether the socket is still there. Without it the calls throw. -/
def send : List UInt8 × Bool → Send → List UInt8 × Bool
  | (sent, false), _ => (sent, false)
  | (sent, true), .write data => (sent ++ chunkBytes data, true)
  | (sent, true), .finish none => (sent ++ toUtf8 "0\r\n\r\n".toList, false)
  | (sent, true), .finish (some data) =>
    (sent ++ chunkBytes data ++ toUtf8 "0\r\n\r\n".toList, false)

structure Buffer where
  bytes : List UInt8 := []
  start : ℕ := 0

def Buffer.asRef (b : Buffer) : List UInt8 :=
  if b.start < b.bytes.length then b.bytes.drop b.start else []

/-- What the methods of a buffer return. -/
inductive Parsed
  | undefined
  | null
  | data (bs : List UInt8)
  | error (e : ParseError)
  deriving DecidableEq

inductive Receive
  | append (bs : List UInt8)
  | parseChunk

def parsedOf (data : List UInt8) : Parsed := if data = [] then .null else .data data

def Buffer.jsAppend (b : Buffer) (bs : List UInt8) : Buffer := { b with bytes := b.bytes ++ bs }

def Buffer.jsParseChunk (b : Buffer) : Parsed × Buffer :=
  match HttpChunks.parseChunk b.asRef with
  | .ok (data, n) => (parsedOf data, { b with start := b.start + n })
  | .error .pending => (.undefined, b)
  | .error e => (.error e, b)

def receive (b : Buffer) : List Receive → List Parsed
  | [] => []
  | .append bs :: ops => receive (b.jsAppend bs) ops
  | .parseChunk :: ops => b.jsParseChunk.1 :: receive b.jsParseChunk.2 ops

end Model

section Sizes

theorem digit_facts : ∀ d < 16, isWhitespace (Nat.digitChar d) = false ∧ Nat.digitChar d ≠ '+' ∧
    Nat.digitChar d ≠ '\n' ∧ Nat.digitChar d ≠ '\r' ∧ (Nat.digitChar d).toNat < 128 := by
  decide

theorem size_facts {n : ℕ} {c : Char} (h : c ∈ Nat.toDigits 16 n) : isWhitespace c = false ∧
    c ≠ '+' ∧ c ≠ '\n' ∧ c ≠ '\r' ∧ c.toNat < 128 := by
  obtain ⟨d, hd, rfl⟩ := digit_of_mem_toDigits (by decide) (by decide) h
  exact digit_facts d hd

theorem fromStrRadix_size {n : ℕ} (hn : n ≤ usizeMax) {p q : List Char}
    (h : Nat.toDigits 16 n = p ++ q) (hp : p ≠ []) :
    ∃ v, fromStrRadix 16 usizeMax p = some v ∧ (q = [] → v = n) := by
  obtain ⟨c, p, rfl⟩ := List.exists_cons_of_ne_nil hp
  have hc : c ≠ '+' := (size_facts (h ▸ List.mem_append_left q List.mem_cons_self)).2.1
  have hall : readRadix 16 usizeMax (Nat.toDigits 16 n) 0 = some n :=
    readRadix_toDigits (by decide) (by decide) hn
  rw [h, readRadix_append] at hall
  obtain ⟨v, hv, hrest⟩ := Option.bind_eq_some_iff.mp hall
  refine ⟨v, by rw [fromStrRadix_of_digit hc, hv], ?_⟩
  rintro rfl
  exact Option.some.inj hrest

theorem trim_size {n : ℕ} {p q sp : List Char} (h : Nat.toDigits 16 n = p ++ q)
    (hsp : ∀ c ∈ sp, isWhitespace c = true) : trim (p ++ sp) = p := by
  have hmem : ∀ c ∈ p, isWhitespace c = false := fun c hc =>
    (size_facts (h ▸ List.mem_append_left q hc)).1
  rw [trim, trimEnd_spaces (fun c hc => hmem c (List.mem_of_getLast? hc)) hsp]
  exact trimStart_of_trimmed (fun c hc => hmem c (List.mem_of_head? hc))

theorem readLine_nil : readLine [] = some ([], 0) := readLine_open List.not_mem_nil

end Sizes

section Chunks

def sizeLine (n : ℕ) : List UInt8 := toUtf8 (Nat.toDigits 16 n ++ ['\r', '\n'])

variable {data rest : List UInt8}

theorem chunkBytes_eq (data : List UInt8) :
    chunkBytes data = sizeLine data.length ++ (data ++ [13, 10]) :=
  List.append_assoc _ _ _

theorem length_chunkBytes (data : List UInt8) :
    (chunkBytes data).length = (sizeLine data.length).length + data.length + 2 := by
  rw [chunkBytes_eq, List.length_append, List.length_append, Nat.add_assoc]
  rfl

theorem readLine_sizeLine (n : ℕ) (t : List UInt8) : readLine (sizeLine n ++ t) =
    some (Nat.toDigits 16 n ++ ['\r', '\n'], (sizeLine n).length) := by
  have hfeed : '\n' ∉ Nat.toDigits 16 n ++ ['\r'] := by
    intro hmem
    obtain hmem | hmem := List.mem_append.mp hmem
    · exact (size_facts hmem).2.2.1 rfl
    · exact absurd (List.mem_singleton.mp hmem) (by decide)
  have hline := readLine_cut hfeed t
  rw [List.append_assoc] at hline
  exact hline

theorem sizeLine_pos (n : ℕ) : 0 < (sizeLine n).length := by
  rw [sizeLine, toUtf8_append, List.length_append]
  have htwo : (toUtf8 ['\r', '\n']).length = 2 := rfl
  omega

theorem parseChunk_sized {n : ℕ} (hn : (sizeLine n).length + n < 2 ^ 32) (t : List UInt8) :
    parseChunk (sizeLine n ++ t) =
      if t.length < n then .error .pending
      else
        match readLine (t.drop n) with
        | none => .error .invalidChunk
        | some (_, endN) => if endN = 0 then .error .pending
          else .ok (t.take n, (sizeLine n).length + n + endN) := by
  obtain ⟨v, hv, hvn⟩ := fromStrRadix_size (n := n) (show n ≤ usizeMax by unfold usizeMax; omega)
    (List.append_nil _).symm (by simp)
  have htrim : trim (Nat.toDigits 16 n ++ ['\r', '\n']) = Nat.toDigits 16 n :=
    trim_size (List.append_nil _).symm (List.all_eq_true.mp (by decide))
  have hpos := sizeLine_pos n
  unfold parseChunk
  rw [readLine_sizeLine]
  dsimp only
  rw [if_neg (by omega), htrim, hv, hvn rfl]
  dsimp only
  rw [Nat.mod_eq_of_lt hn]
  by_cases hlen : t.length < n
  · have hrange : getRange (sizeLine n ++ t) (sizeLine n).length ((sizeLine n).length + n) = none :=
      if_neg (by rw [List.length_append]; omega)
    rw [hrange, if_pos hlen]
  · have hrange : getRange (sizeLine n ++ t) (sizeLine n).length ((sizeLine n).length + n) =
        some (t.take n) := by
      rw [getRange, if_pos (by rw [List.length_append]; omega), List.take_length_add_append,
        List.drop_left]
    rw [hrange, if_neg hlen]
    dsimp only
    rw [List.drop_length_add_append]

theorem parseChunk_whole (h : (chunkBytes data).length < 2 ^ 32) (rest : List UInt8) :
    parseChunk (chunkBytes data ++ rest) = .ok (data, (chunkBytes data).length) := by
  have hfeed : '\n' ∉ ['\r'] := by decide
  have hend : readLine ([13, 10] ++ rest) = some (['\r', '\n'], 2) := readLine_cut hfeed rest
  rw [length_chunkBytes] at h ⊢
  rw [chunkBytes_eq, List.append_assoc, List.append_assoc, parseChunk_sized (by omega),
    if_neg (by rw [List.length_append]; omega), List.drop_left, List.take_left, hend]
  rfl

theorem parseChunk_size {n : ℕ} (hn : n ≤ usizeMax) {p q sp : List Char}
    (h : Nat.toDigits 16 n = p ++ q) (hp : p ≠ []) (hsp : ∀ c ∈ sp, c = '\r') :
    parseChunk (toUtf8 (p ++ sp)) = .error .pending := by
  have hfeed : '\n' ∉ p ++ sp := by
    intro hmem
    obtain hmem | hmem := List.mem_append.mp hmem
    · exact (size_facts (h ▸ List.mem_append_left q hmem)).2.2.1 rfl
    · exact absurd (hsp _ hmem) (by decide)
  have hspace : ∀ c ∈ sp, isWhitespace c = true := by
    intro c hc
    rw [hsp c hc]
    rfl
  obtain ⟨v, hv, -⟩ := fromStrRadix_size hn h hp
  unfold parseChunk
  rw [readLine_open hfeed]
  dsimp only
  rw [trim_size h hspace, hv]
  dsimp only
  split
  · rfl
  · cases getRange (toUtf8 (p ++ sp)) (toUtf8 (p ++ sp)).length
        (((toUtf8 (p ++ sp)).length + v) % 2 ^ 32) with
    | none => rfl
    | some rBuf =>
      dsimp only
      rw [List.drop_of_length_le (Nat.le_add_right _ v), readLine_nil]
      rfl

theorem sizeLine_eq (n : ℕ) : sizeLine n = ascii (Nat.toDigits 16 n ++ ['\r', '\n']) := by
  have hend : ∀ c ∈ ['\r', '\n'], c.toNat < 128 := by simp
  apply toUtf8_ascii
  intro c hc
  obtain hc | hc := List.mem_append.mp hc
  · exact (size_facts hc).2.2.2.2
  · exact hend c hc

theorem length_sizeLine (n : ℕ) : (sizeLine n).length = (Nat.toDigits 16 n).length + 2 := by
  rw [sizeLine_eq, ascii, List.length_map, List.length_append]
  rfl

theorem take_sizeLine {n k : ℕ} (hk : k < (sizeLine n).length) :
    ∃ p q sp, Nat.toDigits 16 n = p ++ q ∧ (∀ c ∈ sp, c = '\r') ∧ (0 < k → p ≠ []) ∧
      (sizeLine n).take k = toUtf8 (p ++ sp) := by
  have hne : Nat.toDigits 16 n ≠ [] := by simp
  have hdigits : ∀ c ∈ Nat.toDigits 16 n, c.toNat < 128 := fun c hc => (size_facts hc).2.2.2.2
  rw [length_sizeLine] at hk
  by_cases hle : k ≤ (Nat.toDigits 16 n).length
  · refine ⟨(Nat.toDigits 16 n).take k, (Nat.toDigits 16 n).drop k, [],
      (List.take_append_drop k _).symm, by simp, ?_, ?_⟩
    · intro hpos htake
      have hlen := congrArg List.length htake
      rw [List.length_take, List.length_nil] at hlen
      have hdlen := List.length_pos_iff.mpr hne
      omega
    · rw [sizeLine_eq, List.append_nil, toUtf8_ascii (fun c hc => hdigits c (List.mem_of_mem_take hc)),
        ascii, ascii, ← List.map_take, List.take_append_of_le_length hle]
  · have hk' : k = (Nat.toDigits 16 n).length + 1 := by omega
    refine ⟨Nat.toDigits 16 n, [], ['\r'], (List.append_nil _).symm, by simp, fun _ => hne, ?_⟩
    have hcr : ∀ c ∈ Nat.toDigits 16 n ++ ['\r'], c.toNat < 128 := by
      intro c hc
      obtain hc | hc := List.mem_append.mp hc
      · exact hdigits c hc
      · rw [List.mem_singleton.mp hc]
        decide
    rw [sizeLine_eq, toUtf8_ascii hcr, ascii, ascii, ← List.map_take, hk',
      List.take_length_add_append]
    rfl

/-- Before its last byte a chunk is waited for, but not for the line feed after its end. -/
theorem parseChunk_part (h : (chunkBytes data).length < 2 ^ 32) {k : ℕ}
    (hk : k < (chunkBytes data).length) :
    parseChunk ((chunkBytes data).take k) =
      if k + 1 = (chunkBytes data).length then .ok (data, k) else .error .pending := by
  have hfit : data.length ≤ usizeMax := by
    rw [length_chunkBytes] at h
    unfold usizeMax
    omega
  rw [length_chunkBytes] at h hk ⊢
  by_cases hsize : k < (sizeLine data.length).length
  · rw [if_neg (by omega), chunkBytes_eq, List.take_append_of_le_length (by omega)]
    obtain ⟨p, q, sp, hdigits, hsp, hp, htake⟩ := take_sizeLine hsize
    by_cases hzero : k = 0
    · rw [hzero, List.take_zero, parseChunk, readLine_nil]
      rfl
    · rw [htake]
      exact parseChunk_size hfit hdigits (hp (by omega)) hsp
  · obtain ⟨j, rfl⟩ := Nat.exists_eq_add_of_le (Nat.not_lt.mp hsize)
    rw [chunkBytes_eq, List.take_length_add_append, parseChunk_sized (by omega)]
    by_cases hdata : j < data.length
    · rw [if_pos (by rw [List.length_take]; omega), if_neg (by omega)]
    · obtain ⟨i, rfl⟩ := Nat.exists_eq_add_of_le (Nat.not_lt.mp hdata)
      rw [if_neg (by rw [List.length_take, List.length_append]; omega),
        List.take_length_add_append, List.drop_left, List.take_left]
      obtain rfl | rfl : i = 0 ∨ i = 1 := by omega
      · rw [List.take_zero, readLine_nil, if_neg (by omega)]
        rfl
      · have hfeed : '\n' ∉ ['\r'] := by decide
        have hcr : readLine (List.take 1 [13, 10]) = some (['\r'], 1) := readLine_open hfeed
        rw [hcr, if_pos (by omega)]
        rfl

end Chunks

section Streams

def stream (chunks : List (List UInt8)) : List UInt8 := (chunks.map chunkBytes).flatten

def received : List Receive → List UInt8
  | [] => []
  | .append bs :: ops => bs ++ received ops
  | .parseChunk :: ops => received ops

/-- A receiver that knows where the chunks end, by the number of bytes it has of them. -/
def ideal : List (List UInt8) → ℕ → List Receive → List Parsed
  | _, _, [] => []
  | chunks, n, .append bs :: ops => ideal chunks (n + bs.length) ops
  | [], n, .parseChunk :: ops => .undefined :: ideal [] n ops
  | c :: chunks, n, .parseChunk :: ops =>
    if (chunkBytes c).length ≤ n then parsedOf c :: ideal chunks (n - (chunkBytes c).length) ops
    else .undefined :: ideal (c :: chunks) n ops

/-- The bytes before a call that parses never end just before the last byte of a chunk. -/
def CleanCuts (chunks : List (List UInt8)) (n : ℕ) (ops : List Receive) : Prop :=
  ∀ before after, ops = before ++ .parseChunk :: after → ∀ first c rest,
    chunks = first ++ c :: rest → n + (received before).length + 1 ≠ (stream (first ++ [c])).length

theorem stream_cons (c : List UInt8) (chunks : List (List UInt8)) :
    stream (c :: chunks) = chunkBytes c ++ stream chunks := rfl

variable {chunks : List (List UInt8)} {n : ℕ} {ops : List Receive}

theorem CleanCuts.append {bs : List UInt8} (h : CleanCuts chunks n (.append bs :: ops)) :
    CleanCuts chunks (n + bs.length) ops := by
  intro before after hops first c rest hchunks
  have hcut := h (.append bs :: before) after (by rw [hops]; rfl) first c rest hchunks
  rw [received, List.length_append] at hcut
  omega

theorem CleanCuts.parse (h : CleanCuts chunks n (.parseChunk :: ops)) : CleanCuts chunks n ops := by
  intro before after hops first c rest hchunks
  exact h (.parseChunk :: before) after (by rw [hops]; rfl) first c rest hchunks

theorem CleanCuts.chunk {c : List UInt8} (h : CleanCuts (c :: chunks) n ops)
    (hn : (chunkBytes c).length ≤ n) : CleanCuts chunks (n - (chunkBytes c).length) ops := by
  intro before after hops first c' rest hchunks
  have hcut := h before after hops (c :: first) c' rest (by rw [hchunks]; rfl)
  rw [List.cons_append, stream_cons, List.length_append] at hcut
  omega

theorem CleanCuts.now {c : List UInt8} (h : CleanCuts (c :: chunks) n (.parseChunk :: ops)) :
    n + 1 ≠ (chunkBytes c).length := by
  have hcut := h [] ops rfl [] c chunks rfl
  have hone : stream ([] ++ [c]) = chunkBytes c := List.append_nil _
  rw [hone] at hcut
  exact hcut

theorem asRef_eq (b : Buffer) : b.asRef = b.bytes.drop b.start := by
  unfold Buffer.asRef
  split
  · rfl
  · rename_i h
    rw [List.drop_of_length_le (Nat.not_lt.mp h)]

theorem jsParseChunk_whole {b : Buffer} {c u : List UInt8} (hc : (chunkBytes c).length < 2 ^ 32)
    (hu : b.bytes.drop b.start = chunkBytes c ++ u) :
    b.jsParseChunk = (parsedOf c, { b with start := b.start + (chunkBytes c).length }) := by
  rw [Buffer.jsParseChunk, asRef_eq, hu, parseChunk_whole hc]

theorem jsParseChunk_part {b : Buffer} {c : List UInt8} (hc : (chunkBytes c).length < 2 ^ 32)
    (hlt : (b.bytes.drop b.start).length < (chunkBytes c).length)
    (hcut : (b.bytes.drop b.start).length + 1 ≠ (chunkBytes c).length)
    (hu : b.bytes.drop b.start = (chunkBytes c).take (b.bytes.drop b.start).length) :
    b.jsParseChunk = (.undefined, b) := by
  have hpart := parseChunk_part hc hlt
  rw [if_neg hcut, ← hu] at hpart
  rw [Buffer.jsParseChunk, asRef_eq, hpart]

theorem receive_eq {b : Buffer} (later : List UInt8) (hmem : (stream chunks).length < 2 ^ 32)
    (hstart : b.start ≤ b.bytes.length) (hrest : b.bytes.drop b.start ++ received ops ++ later =
      stream chunks) (hcuts : CleanCuts chunks (b.bytes.drop b.start).length ops) :
    receive b ops = ideal chunks (b.bytes.drop b.start).length ops := by
  induction ops generalizing b chunks with
  | nil => cases chunks <;> rfl
  | cons op ops ih =>
    cases op with
    | append bs =>
      have hdrop : (b.jsAppend bs).bytes.drop (b.jsAppend bs).start =
          b.bytes.drop b.start ++ bs := List.drop_append_of_le_length hstart
      have hlen : (b.bytes.drop b.start ++ bs).length = (b.bytes.drop b.start).length + bs.length :=
        List.length_append
      have hmore := ih (b := b.jsAppend bs) hmem
        (Nat.le_trans hstart (by rw [Buffer.jsAppend, List.length_append]; omega))
        (by rw [hdrop, ← hrest, received]; simp only [List.append_assoc])
        (by rw [hdrop, hlen]; exact hcuts.append)
      rw [hdrop, hlen] at hmore
      rw [receive, hmore]
      cases chunks <;> rfl
    | parseChunk =>
      cases chunks with
      | nil =>
        have hnil : b.bytes.drop b.start = [] := by
          rw [List.append_assoc] at hrest
          exact (List.append_eq_nil_iff.mp hrest).1
        have hparse : b.jsParseChunk = (.undefined, b) := by
          rw [Buffer.jsParseChunk, asRef_eq, hnil, parseChunk, readLine_nil]
          rfl
        rw [receive, hparse, ideal, ih hmem hstart hrest hcuts.parse]
      | cons c chunks =>
        have hreceived : b.bytes.drop b.start <+: stream (c :: chunks) :=
          ⟨received ops ++ later, by rw [← hrest, ← List.append_assoc]; rfl⟩
        have hchunk : chunkBytes c <+: stream (c :: chunks) := List.prefix_append _ _
        have hc : (chunkBytes c).length < 2 ^ 32 :=
          Nat.lt_of_le_of_lt hchunk.length_le hmem
        by_cases hwhole : (chunkBytes c).length ≤ (b.bytes.drop b.start).length
        · obtain ⟨u, hu⟩ := List.prefix_of_prefix_length_le hchunk hreceived hwhole
          have hparse := jsParseChunk_whole hc hu.symm
          have hdrop : b.bytes.drop (b.start + (chunkBytes c).length) = u := by
            rw [← List.drop_drop, ← hu, List.drop_left]
          have hulen : u.length = (b.bytes.drop b.start).length - (chunkBytes c).length := by
            rw [← hu, List.length_append]
            omega
          have hmem' : (stream chunks).length < 2 ^ 32 := by
            rw [stream_cons, List.length_append] at hmem
            omega
          have hstart' : b.start + (chunkBytes c).length ≤ b.bytes.length := by
            rw [List.length_drop] at hwhole
            omega
          have hrest' : u ++ received ops ++ later = stream chunks := by
            rw [← hu, stream_cons, List.append_assoc, List.append_assoc] at hrest
            rw [List.append_assoc]
            exact List.append_cancel_left hrest
          have hmore := ih (b := { b with start := b.start + (chunkBytes c).length }) hmem' hstart'
            (by rw [hdrop]; exact hrest') (by rw [hdrop, hulen]; exact hcuts.parse.chunk hwhole)
          rw [receive, hparse, ideal, if_pos hwhole, hmore, hdrop, hulen]
        · have hu : b.bytes.drop b.start = (chunkBytes c).take (b.bytes.drop b.start).length :=
            List.prefix_iff_eq_take.mp
              (List.prefix_of_prefix_length_le hreceived hchunk (by omega))
          have hparse := jsParseChunk_part hc (by omega) hcuts.now hu
          rw [receive, hparse, ideal, if_neg hwhole, ih hmem hstart hrest hcuts.parse]

/-- The data of the calls, and the empty chunk of the last one. -/
def written : List Send → List (List UInt8)
  | [] => []
  | .write data :: calls => data :: written calls
  | .finish none :: _ => [[]]
  | .finish (some data) :: _ => [data, []]

theorem foldl_send_closed (calls : List Send) (sent : List UInt8) :
    (calls.foldl send (sent, false)).1 = sent := by
  induction calls with
  | nil => rfl
  | cons call calls ih => exact ih

theorem foldl_send (calls : List Send) (sent : List UInt8) :
    (calls.foldl send (sent, true)).1 = sent ++ stream (written calls) := by
  have hlast : stream [[]] = toUtf8 "0\r\n\r\n".toList := by decide
  induction calls generalizing sent with
  | nil => exact (List.append_nil _).symm
  | cons call calls ih =>
    cases call with
    | write data =>
      rw [List.foldl_cons, send, ih, written, stream_cons, List.append_assoc]
    | finish data =>
      cases data with
      | none =>
        rw [List.foldl_cons, send, foldl_send_closed, written, hlast]
      | some data =>
        rw [List.foldl_cons, send, foldl_send_closed, written, stream_cons, hlast,
          List.append_assoc]

/-- However the bytes of a chunked response arrive, a buffer that is not asked between the two
bytes that end a chunk gives the data of the calls, each once and as soon as it is there. -/
theorem receive_sent (calls : List Send) (later : List UInt8)
    (hmem : (calls.foldl send ([], true)).1.length < 2 ^ 32)
    (hsent : received ops ++ later = (calls.foldl send ([], true)).1)
    (hcuts : CleanCuts (written calls) 0 ops) :
    receive {} ops = ideal (written calls) 0 ops := by
  rw [foldl_send, List.nil_append] at hmem hsent
  exact receive_eq later hmem (Nat.le_refl 0) hsent hcuts

/-- The places where the chunks end, after `n` bytes. -/
def borders : ℕ → List (List UInt8) → List ℕ
  | _, [] => []
  | n, c :: chunks => (n + (chunkBytes c).length) :: borders (n + (chunkBytes c).length) chunks

theorem mem_borders {first rest : List (List UInt8)} {c : List UInt8} (n : ℕ) :
    n + (stream (first ++ [c])).length ∈ borders n (first ++ c :: rest) := by
  induction first generalizing n with
  | nil => simp [borders, stream]
  | cons d first ih =>
    rw [List.cons_append, List.cons_append, stream_cons, List.length_append, ← Nat.add_assoc]
    exact List.mem_cons_of_mem _ (ih _)

/-- Whether no call parses with just the last byte of a chunk missing. -/
def clean (chunks : List (List UInt8)) : ℕ → List Receive → Bool
  | _, [] => true
  | n, .append bs :: ops => clean chunks (n + bs.length) ops
  | n, .parseChunk :: ops => n + 1 ∉ borders 0 chunks && clean chunks n ops

theorem cleanCuts_of_clean (h : clean chunks n ops = true) : CleanCuts chunks n ops := by
  intro before
  induction before generalizing n ops with
  | nil =>
    rintro after rfl first c rest rfl hcut
    obtain ⟨hborder, -⟩ := Bool.and_eq_true_iff.mp h
    refine of_decide_eq_true hborder ?_
    change n + 0 + 1 = _ at hcut
    rw [show n + 1 = 0 + (stream (first ++ [c])).length by omega]
    exact mem_borders 0
  | cons op before ih =>
    rintro after rfl first c rest hchunks
    cases op with
    | append bs =>
      have hcut := ih (n := n + bs.length) h after rfl first c rest hchunks
      rw [received, List.length_append]
      omega
    | parseChunk => exact ih (Bool.and_eq_true_iff.mp h).2 after rfl first c rest hchunks

/-- Three chunks that arrive in four pieces: the first is cut in its data, the second in its
size and in its data. -/
def cutCalls : List Receive :=
  [.append [50, 13, 10, 72], .parseChunk, .append [105, 13, 10, 49], .parseChunk, .parseChunk,
   .append [49, 13, 10, 1, 2, 3], .parseChunk,
   .append ([4, 5, 6, 7, 8, 9, 10, 11, 12, 13, 14, 15, 16, 17, 13, 10] ++
     [49, 13, 10, 33, 13, 10] ++ [48, 13, 10, 13, 10]),
   .parseChunk, .parseChunk, .parseChunk, .parseChunk]

theorem receive_sent_cutCalls :
    receive {} cutCalls = [.undefined, .data [72, 105], .undefined, .undefined,
      .data [1, 2, 3, 4, 5, 6, 7, 8, 9, 10, 11, 12, 13, 14, 15, 16, 17], .data [33], .null,
      .undefined] :=
  receive_sent [.write [72, 105],
      .write [1, 2, 3, 4, 5, 6, 7, 8, 9, 10, 11, 12, 13, 14, 15, 16, 17], .finish (some [33])] []
    (by decide) (by decide) (cleanCuts_of_clean (by decide))

end Streams

end ShardingOnCloud.Wasm.HttpChunks
