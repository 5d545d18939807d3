import ShardingOnCloud.Distsql.Lexing
import ShardingOnCloud.Operator.StorageNodeController

namespace ShardingOnCloud.Operator.RegisterText

open ShardingOnCloud.Lib.Patterns ShardingOnCloud.Lib.Lexer
open ShardingOnCloud.Distsql.Tokens ShardingOnCloud.Distsql.Shapes ShardingOnCloud.Distsql.Lexing
open ShardingOnCloud.Operator.StorageNodeTypes ShardingOnCloud.Operator.Server
open ShardingOnCloud.Operator.StorageNodeController

section Literals

/-- What stands between the quotes of a string means this text: a doubled quote is a quote,
and `escape` says what a character after a backslash stands for. -/
def unescape (escape : Char → Char) (q : Char) : List Char → List Char
  | [] => []
  | [c] => [c]
  | c :: d :: cs =>
    if c = backSlash then escape d :: unescape escape q cs
    else if c = q ∧ d = q then q :: unescape escape q cs
    else c :: unescape escape q (d :: cs)

def contents (escape : Char → Char) : List Char → List Char
  | [] => []
  | q :: cs => unescape escape q cs.dropLast

def Denotes (g : Grammar) (escape : Char → Char) (w : List Char) (s : String) : Prop :=
  kindOf g w = some .string ∧ contents escape w = s.toList

def Plain (cs : List Char) : Prop := ∀ c ∈ cs, c ≠ doubleQuote ∧ c ≠ backSlash

variable {g : Grammar} {escape : Char → Char} {q : Char} {b cs rest : List Char}

theorem unescape_cons {c : Char} (hq : c ≠ q) (hb : c ≠ backSlash) :
    unescape escape q (c :: cs) = c :: unescape escape q cs := by
  cases cs with
  | nil => rfl
  | cons d cs => rw [unescape, if_neg hb, if_neg (fun h => hq h.1)]

theorem length_unescape_le (escape : Char → Char) (hq : q ≠ backSlash) (h : Body q b) :
    (unescape escape q b).length ≤ b.length := by
  refine body_induction (P := fun b => (unescape escape q b).length ≤ b.length) le_rfl ?_ ?_ ?_ h
  · intro c d _ ih
    rw [unescape, if_pos rfl]
    simp only [List.length_cons]
    omega
  · intro d _ ih
    rw [unescape, if_neg hq, if_pos ⟨rfl, rfl⟩]
    simp only [List.length_cons]
    omega
  · intro c d hc hb _ ih
    rw [unescape_cons hc hb]
    simpa using ih

theorem plain_of_length (hq : q ≠ backSlash) (h : Body q b)
    (hlen : (unescape escape q b).length = b.length) :
    (∀ c ∈ b, c ≠ q ∧ c ≠ backSlash) ∧ unescape escape q b = b := by
  refine body_induction (P := fun b => (unescape escape q b).length = b.length →
    (∀ c ∈ b, c ≠ q ∧ c ≠ backSlash) ∧ unescape escape q b = b) ?_ ?_ ?_ ?_ h hlen
  · intro _
    exact ⟨by simp, rfl⟩
  · intro c d hd _ hlen
    have hle := length_unescape_le escape hq hd
    rw [unescape, if_pos rfl] at hlen
    simp only [List.length_cons] at hlen
    omega
  · intro d hd _ hlen
    have hle := length_unescape_le escape hq hd
    rw [unescape, if_neg hq, if_pos ⟨rfl, rfl⟩] at hlen
    simp only [List.length_cons] at hlen
    omega
  · intro c d hc hb _ ih hlen
    rw [unescape_cons hc hb] at hlen ⊢
    obtain ⟨hall, he⟩ := ih (by simpa using hlen)
    exact ⟨List.forall_mem_cons.mpr ⟨⟨hc, hb⟩, hall⟩, by rw [he]⟩

theorem body_of_plain (h : Plain cs) : Body doubleQuote cs := by
  induction cs with
  | nil => exact body_nil
  | cons c cs ih =>
    obtain ⟨⟨hq, hb⟩, hcs⟩ := List.forall_mem_cons.mp h
    exact body_plain hq hb (ih hcs)

theorem unescape_of_plain (h : Plain cs) : unescape escape doubleQuote cs = cs := by
  induction cs with
  | nil => rfl
  | cons c cs ih =>
    obtain ⟨⟨hq, hb⟩, hcs⟩ := List.forall_mem_cons.mp h
    rw [unescape_cons hq hb, ih hcs]

def quote (cs : List Char) : List Char := doubleQuote :: (cs ++ [doubleQuote])

theorem quote_append : quote cs ++ rest = doubleQuote :: (cs ++ doubleQuote :: rest) := by
  simp [quote]

theorem denotes_quote {s : String} (h : Plain s.toList) :
    Denotes g escape (quote s.toList) s := by
  refine ⟨kindOf_quoted (Or.inl rfl) (body_of_plain h), ?_⟩
  rw [quote, contents, List.dropLast_concat, unescape_of_plain h]

theorem lex_quote (h : Plain cs) (hr : closes rest = true) :
    lex g (quote cs ++ rest) = quote cs :: lex g rest :=
  lex_string (kindOf_quoted (Or.inl rfl) (body_of_plain h)) hr

theorem length_of_denotes {w : List Char} {s : String} (h : Denotes g escape w s) :
    s.toList.length + 2 ≤ w.length := by
  obtain ⟨hk, hs⟩ := h
  obtain ⟨q, b, hq, hb, rfl⟩ := string_cases hk
  have hslash : q ≠ backSlash := by
    obtain rfl | rfl := hq <;> decide
  rw [contents, List.dropLast_concat] at hs
  have hle := length_unescape_le escape hslash hb
  rw [hs] at hle
  simpa using hle

/-- A literal that begins the text and is as short as it can be needs no escapes. -/
theorem plain_of_denotes {w : List Char} {ws : List (List Char)} {s : String}
    (hlex : lex g (quote s.toList ++ rest) = w :: ws) (h : Denotes g escape w s)
    (hlen : w.length = s.toList.length + 2) : Plain s.toList ∧ w = quote s.toList := by
  obtain ⟨hk, hs⟩ := h
  obtain ⟨q, b, hq, hb, rfl⟩ := string_cases hk
  obtain ⟨w', ws', hhead⟩ := lex_head (g := g) (c := doubleQuote) rfl
    (s.toList ++ doubleQuote :: rest)
  rw [quote_append, hhead] at hlex
  obtain rfl : doubleQuote = q := (List.cons.inj (List.cons.inj hlex).1).1
  rw [contents, List.dropLast_concat] at hs
  have hsame : (unescape escape doubleQuote b).length = b.length := by
    rw [hs]
    simpa using hlen.symm
  obtain ⟨hall, he⟩ := plain_of_length (by decide) hb hsame
  obtain rfl : b = s.toList := he.symm.trans hs
  exact ⟨hall, rfl⟩

end Literals

section Names

def isObjectNameChar (c : Char) : Bool := c.isLower || c.isDigit || c = '-' || c = '.'

def isUnitChar (c : Char) : Bool := c.isLower || c.isDigit || c = '_' || c = '.'

theorem getDSName_chars {node : StorageNode}
    (h : ∀ c ∈ node.name.toList, isObjectNameChar c = true) :
    ∀ c ∈ (getDSName node).toList, isUnitChar c = true := by
  have hds : ∀ c ∈ "ds_".toList, isUnitChar c = true := List.all_eq_true.mp (by decide)
  intro c hc
  rw [getDSName, String.toList_append] at hc
  obtain hc | hc := List.mem_append.mp hc
  · exact hds c hc
  · rw [String.toList_ofList] at hc
    obtain ⟨d, hd, rfl⟩ := List.mem_map.mp hc
    have hobject := h d hd
    by_cases hdash : d = '-'
    · rw [if_pos hdash]
      rfl
    · rw [if_neg hdash]
      have hcases : d.isLower = true ∨ d.isDigit = true ∨ d = '.' := by
        simpa [isObjectNameChar, hdash, or_assoc] using hobject
      obtain hlower | hdigit | rfl := hcases
      · simp [isUnitChar, hlower]
      · simp [isUnitChar, hdigit]
      · rfl

theorem not_joins_blank : ¬ Joins ' ' := by
  simp only [Joins]
  decide

theorem symbol_blank : ∀ s ∈ Symbol.all, ∀ t ∈ s.texts, ' ' ∉ t.toList := by
  decide

theorem over_bits : (Pattern.seq (anyCase "B") (.seq (char singleQuote)
    (.seq (.plus (.cls isBit)) (char singleQuote)))).Over (fun c => c ≠ ' ') := by
  have hquote : (char singleQuote).Over (fun c => c ≠ ' ') := by
    intro c hc
    rw [of_decide_eq_true hc]
    decide
  have hbit : ∀ c, isBit c = true → c ≠ ' ' := by
    rintro c hc rfl
    cases hc
  have hletter : (anyCase "B").Over (fun c => c ≠ ' ') := by
    refine ⟨?_, trivial⟩
    rintro c hc rfl
    exact absurd (of_decide_eq_true hc) (by decide)
  exact ⟨hletter, hquote, ⟨hbit, hbit⟩, hquote⟩

theorem blank_not_mem {g : Grammar} {k : Kind} (hk : k ∈ (vocabulary g).kinds) {c : Char}
    {w : List Char} (hc : isUnitChar c = true) (h : c :: w ∈ k.pattern.lang) : ' ' ∉ c :: w := by
  have hover : ∀ {r : Pattern Char}, r.Over Joins → c :: w ∈ r.lang → ' ' ∉ c :: w := by
    intro r hr hmem hblank
    exact not_joins_blank (Pattern.mem_over hr hmem ' ' hblank)
  cases k with
  | symbol s =>
    obtain ⟨t, ht, he⟩ := mem_symbol.mp h
    rw [he]
    exact symbol_blank s (mem_all s) t ht
  | ws =>
    have hb := (Pattern.mem_plus_cls.mp h).2 c List.mem_cons_self
    simp only [isBlank, Bool.or_eq_true, decide_eq_true_eq] at hb
    obtain ((rfl | rfl) | rfl) | rfl := hb <;> cases hc
  | keyword k => exact hover (over_keyword (keyword_mem.mp hk)) h
  | forGenerator =>
    obtain rfl : c = 'D' := Option.some.inj (congrArg List.head? (mem_literal.mp h))
    cases hc
  | identifier =>
    obtain h | h := h
    · intro hblank
      exact absurd ((mem_plainIdentifier.mp h).1 ' ' hblank) (by decide)
    · obtain ⟨b, -, -, he⟩ := mem_quotedIdentifier.mp h
      rw [(List.cons.inj he).1] at hc
      cases hc
  | string =>
    obtain hq | hq : c = doubleQuote ∨ c = singleQuote := first_of_mem hk h
    · rw [hq] at hc
      cases hc
    · rw [hq] at hc
      cases hc
  | int => exact hover over_digits h
  | hex => exact hover (r := .cls isHexDigit) (fun _ => joins_hexDigit) h
  | number => exact hover over_number h
  | hexDigit =>
    obtain h | ⟨x, he⟩ := hexDigit_cases h
    · exact fun hblank => not_joins_blank (h ' ' hblank)
    · rw [(List.cons.inj he).1] at hc
      cases hc
  | bitNum =>
    obtain hz | hb := h
    · have hzero : (literal "0b").Over Joins := over_literal (List.all_eq_true.mp (by decide))
      have hbit : (Pattern.plus (.cls isBit)).Over Joins :=
        ⟨fun _ => joins_bit, fun _ => joins_bit⟩
      exact hover (r := .seq _ _) ⟨hzero, hbit⟩ hz
    · exact fun hblank => Pattern.mem_over over_bits hb ' ' hblank rfl
  | bool => exact hover over_bool h

theorem lex_unit {g : Grammar} {ds rest : List Char} (hds : ∀ c ∈ ds, isUnitChar c = true) :
    lex g (ds ++ ' ' :: rest) = lex g ds ++ lex g rest := by
  have hcut : lex g (ds ++ ' ' :: rest) = lex g ds ++ lex g (' ' :: rest) := by
    rw [lex, lex, lex]
    refine tokens_append ?_
    intro s hs hsuffix u hu hpre
    refine classify_eq_none.mpr (fun k hk hmem => ?_)
    obtain ⟨c, s, rfl⟩ := List.exists_cons_of_ne_nil hs
    obtain ⟨d, u, rfl⟩ := List.exists_cons_of_ne_nil hu
    obtain ⟨r, hr⟩ := hpre
    obtain rfl : d = ' ' := (List.cons.inj hr).1
    have hc := hds c (hsuffix.subset List.mem_cons_self)
    exact blank_not_mem hk hc hmem (by simp)
  rw [hcut, lex_blank]

end Names

section Statement

variable (g : Grammar) (dsName : String) (dsPort : ℕ)

/-- The tokens up to the value of `HOST`. -/
def opening : List (List Char) :=
  ["REGISTER".toList, "STORAGE".toList, "UNIT".toList, "IF".toList, "NOT".toList,
    "EXISTS".toList] ++ (lex g dsName.toList ++ [['('], "HOST".toList, ['=']])

/-- The tokens from the value of `HOST` on, with these tokens for the four values. -/
def fields (host db user password : List Char) : List (List Char) :=
  [host, [','], "PORT".toList, ['='], (toString dsPort).toList, [','], "DB".toList, ['='], db,
    [','], "USER".toList, ['='], user, [','], "PASSWORD".toList, ['='], password, [')'], [';']]

/-- The statement has one string literal for each of the values, which stands for it. -/
def Registers (escape : Char → Char) (dsHost dsDBName dsUser dsPassword : String) : Prop :=
  ∃ host db user password,
    lex g (distSQL (.registerStorageUnit dsName dsHost dsPort dsDBName dsUser dsPassword)).toList =
      opening g dsName ++ fields dsPort host db user password ∧
    Denotes g escape host dsHost ∧ Denotes g escape db dsDBName ∧ Denotes g escape user dsUser ∧
    Denotes g escape password dsPassword

variable {g dsName dsPort} {rest : List Char}

def portText (dsPort : ℕ) (rest : List Char) : List Char :=
  ',' :: ("PORT".toList ++ '=' :: ((toString dsPort).toList ++ ',' :: ("DB".toList ++ '=' :: rest)))

def userText (rest : List Char) : List Char := ',' :: ("USER".toList ++ '=' :: rest)

def passwordText (rest : List Char) : List Char := ',' :: ("PASSWORD".toList ++ '=' :: rest)

/-- The text from the value of `HOST` on. -/
def fieldsText (dsPort : ℕ) (host db user password : List Char) : List Char :=
  quote host ++ portText dsPort (quote db ++ userText (quote user ++ passwordText
    (quote password ++ [')', ';'])))

theorem statement_format (ds host port db user password : String) :
    ("REGISTER STORAGE UNIT IF NOT EXISTS " ++ ds ++ " (HOST=\"" ++ host ++ "\",PORT=" ++
      port ++ ",DB=\"" ++ db ++ "\",USER=\"" ++ user ++ "\",PASSWORD=\"" ++
      password ++ "\");").toList =
    "REGISTER".toList ++ ' ' :: ("STORAGE".toList ++ ' ' :: ("UNIT".toList ++ ' ' ::
      ("IF".toList ++ ' ' :: ("NOT".toList ++ ' ' :: ("EXISTS".toList ++ ' ' :: (ds.toList ++
        ' ' :: '(' :: ("HOST".toList ++ '=' :: (quote host.toList ++ ',' :: ("PORT".toList ++
          '=' :: (port.toList ++ ',' :: ("DB".toList ++ '=' :: (quote db.toList ++
            userText (quote user.toList ++ passwordText (quote password.toList ++
              [')', ';'])))))))))))))) := by
  simp [quote, userText, passwordText, doubleQuote]

theorem lex_upper {w : List Char} (hw : w.all isNameChar = true)
    (hstart : w.any isNameStart = true) (hdo : w ≠ "DO".toList) (hr : stops rest = true) :
    lex g (w ++ rest) = w :: lex g rest := by
  obtain ⟨c, hc, hs⟩ := List.any_eq_true.mp hstart
  exact lex_word (List.all_eq_true.mp hw) ⟨c, hc, hs⟩ hdo hr

theorem lex_assign {w : List Char} (hw : w.all isNameChar = true)
    (hstart : w.any isNameStart = true) (hdo : w ≠ "DO".toList) (hr : rest.head? ≠ some '=') :
    lex g (w ++ '=' :: rest) = w :: ['='] :: lex g rest := by
  rw [lex_upper hw hstart hdo rfl, lex_eq hr]

theorem quote_head (cs : List Char) : (quote cs ++ rest).head? ≠ some '=' := by
  rw [quote_append]
  exact fun h => absurd (Option.some.inj h) (by decide)

theorem lex_opening {host db user password : String}
    (hds : ∀ c ∈ dsName.toList, isUnitChar c = true) :
    lex g (distSQL (.registerStorageUnit dsName host dsPort db user password)).toList =
      opening g dsName ++ lex g (fieldsText dsPort host.toList db.toList user.toList
        password.toList) := by
  have htext : (distSQL (.registerStorageUnit dsName host dsPort db user password)).toList = _ :=
    statement_format dsName host (toString dsPort) db user password
  rw [htext, lex_upper rfl rfl (by decide) rfl, lex_blank, lex_upper rfl rfl (by decide) rfl,
    lex_blank, lex_upper rfl rfl (by decide) rfl, lex_blank, lex_upper rfl rfl (by decide) rfl,
    lex_blank, lex_upper rfl rfl (by decide) rfl, lex_blank, lex_upper rfl rfl (by decide) rfl,
    lex_blank, lex_unit hds, lex_lp, lex_assign rfl rfl (by decide) (quote_head _)]
  simp [opening, fieldsText, portText]

theorem lex_digits (n : ℕ) (hr : stops rest = true) :
    lex g ((toString n).toList ++ rest) = (toString n).toList :: lex g rest := by
  have hlist : (toString n).toList = Nat.toDigits 10 n := Nat.toList_repr
  have hdigits : ∀ c ∈ Nat.toDigits 10 n, c.isDigit = true :=
    fun c hc => Nat.isDigit_of_mem_toDigits (by decide) (by decide) hc
  have hname : ∀ c ∈ Nat.toDigits 10 n, isNameChar c = true := by
    intro c hc
    rw [isNameChar, hdigits c hc, Bool.or_true]
  have hint : Kind.int ∈ (vocabulary g).kinds := by
    cases g <;> simp [vocabulary, literals]
  obtain ⟨k, hk, -, hmem⟩ := exists_kind hint
    (Pattern.mem_plus_cls.mpr ⟨Nat.toDigits_ne_nil (n := n), hdigits⟩)
  rw [hlist]
  refine lex_append hk ?_ (ends_name Nat.toDigits_ne_nil hname hr ?_)
  · rintro rfl
    obtain ⟨c, hc⟩ := List.exists_mem_of_ne_nil _ (Nat.toDigits_ne_nil (n := n) (b := 10))
    have hn := hname c hc
    rw [isNameChar_isBlank ((Pattern.mem_plus_cls.mp hmem).2 c hc)] at hn
    cases hn
  · intro he
    rw [he] at hdigits
    cases hdigits 'D' List.mem_cons_self

theorem lex_port (cs : List Char) : lex g (portText dsPort (quote cs ++ rest)) =
    [','] :: "PORT".toList :: ['='] :: (toString dsPort).toList :: [','] :: "DB".toList :: ['='] ::
      lex g (quote cs ++ rest) := by
  have hdigits : ((toString dsPort).toList ++ ',' :: ("DB".toList ++
      '=' :: (quote cs ++ rest))).head? ≠ some '=' := by
    have hlist : (toString dsPort).toList = Nat.toDigits 10 dsPort := Nat.toList_repr
    obtain ⟨c, ds, hc⟩ := List.exists_cons_of_ne_nil (Nat.toDigits_ne_nil (n := dsPort) (b := 10))
    have hd : c.isDigit = true :=
      Nat.isDigit_of_mem_toDigits (by decide) (by decide) (hc ▸ List.mem_cons_self)
    rw [hlist, hc]
    rintro ⟨⟩
    cases hd
  rw [portText, lex_comma, lex_assign rfl rfl (by decide) hdigits, lex_digits dsPort rfl, lex_comma,
    lex_assign rfl rfl (by decide) (quote_head cs)]

theorem lex_user (cs : List Char) : lex g (userText (quote cs ++ rest)) =
    [','] :: "USER".toList :: ['='] :: lex g (quote cs ++ rest) := by
  rw [userText, lex_comma, lex_assign rfl rfl (by decide) (quote_head cs)]

theorem lex_password (cs : List Char) : lex g (passwordText (quote cs ++ rest)) =
    [','] :: "PASSWORD".toList :: ['='] :: lex g (quote cs ++ rest) := by
  rw [passwordText, lex_comma, lex_assign rfl rfl (by decide) (quote_head cs)]

theorem lex_fields {host db user password : List Char} (hhost : Plain host) (hdb : Plain db)
    (huser : Plain user) (hpassword : Plain password) :
    lex g (fieldsText dsPort host db user password) =
      fields dsPort (quote host) (quote db) (quote user) (quote password) := by
  rw [fieldsText, lex_quote hhost rfl, lex_port, lex_quote hdb rfl, lex_user, lex_quote huser rfl,
    lex_password, lex_quote hpassword rfl, lex_rp, lex_semi, lex_nil]
  rfl

theorem lengths_of_fields {escape : Char → Char} {dsHost dsDBName dsUser dsPassword : String}
    {host db user password : List Char}
    (hlex : lex g (fieldsText dsPort dsHost.toList dsDBName.toList dsUser.toList
      dsPassword.toList) = fields dsPort host db user password)
    (hhost : Denotes g escape host dsHost) (hdb : Denotes g escape db dsDBName)
    (huser : Denotes g escape user dsUser) (hpassword : Denotes g escape password dsPassword) :
    host.length = dsHost.toList.length + 2 ∧ db.length = dsDBName.toList.length + 2 ∧
      user.length = dsUser.toList.length + 2 ∧
      password.length = dsPassword.toList.length + 2 := by
  have hsum := length_tokens (v := vocabulary g) (fieldsText dsPort dsHost.toList dsDBName.toList
    dsUser.toList dsPassword.toList)
  rw [← lex, hlex] at hsum
  simp only [fields, fieldsText, quote, portText, userText, passwordText, List.flatten_cons,
    List.flatten_nil, List.length_append, List.length_cons, List.length_nil] at hsum
  have h₁ := length_of_denotes hhost
  have h₂ := length_of_denotes hdb
  have h₃ := length_of_denotes huser
  have h₄ := length_of_denotes hpassword
  omega

theorem plain_of_fields {escape : Char → Char} {dsHost dsDBName dsUser dsPassword : String}
    {host db user password : List Char}
    (hlex : lex g (fieldsText dsPort dsHost.toList dsDBName.toList dsUser.toList
      dsPassword.toList) = fields dsPort host db user password)
    (hhost : Denotes g escape host dsHost) (hdb : Denotes g escape db dsDBName)
    (huser : Denotes g escape user dsUser) (hpassword : Denotes g escape password dsPassword) :
    Plain dsHost.toList ∧ Plain dsDBName.toList ∧ Plain dsUser.toList ∧
      Plain dsPassword.toList := by
  obtain ⟨h₁, h₂, h₃, h₄⟩ := lengths_of_fields hlex hhost hdb huser hpassword
  rw [fieldsText] at hlex
  obtain ⟨p₁, -⟩ := plain_of_denotes hlex hhost h₁
  rw [lex_quote p₁ rfl, lex_port, fields] at hlex
  simp only [List.cons.injEq, true_and] at hlex
  obtain ⟨-, hlex⟩ := hlex
  obtain ⟨p₂, -⟩ := plain_of_denotes hlex hdb h₂
  rw [lex_quote p₂ rfl, lex_user] at hlex
  simp only [List.cons.injEq, true_and] at hlex
  obtain ⟨-, hlex⟩ := hlex
  obtain ⟨p₃, -⟩ := plain_of_denotes hlex huser h₃
  rw [lex_quote p₃ rfl, lex_password] at hlex
  simp only [List.cons.injEq, true_and] at hlex
  obtain ⟨-, hlex⟩ := hlex
  exact ⟨p₁, p₂, p₃, (plain_of_denotes hlex hpassword h₄).1⟩

theorem registers_iff {escape : Char → Char} {dsHost dsDBName dsUser dsPassword : String}
    (hds : ∀ c ∈ dsName.toList, isUnitChar c = true) :
    Registers g dsName dsPort escape dsHost dsDBName dsUser dsPassword ↔
      Plain dsHost.toList ∧ Plain dsDBName.toList ∧ Plain dsUser.toList ∧
        Plain dsPassword.toList := by
  constructor
  · rintro ⟨host, db, user, password, hlex, hhost, hdb, huser, hpassword⟩
    rw [lex_opening hds] at hlex
    exact plain_of_fields (List.append_cancel_left hlex) hhost hdb huser hpassword
  · rintro ⟨hhost, hdb, huser, hpassword⟩
    refine ⟨_, _, _, _, ?_, denotes_quote hhost, denotes_quote hdb, denotes_quote huser,
      denotes_quote hpassword⟩
    rw [lex_opening hds, lex_fields hhost hdb huser hpassword]

/-- A storage unit is registered with its values, in any of the grammars and whatever the
escapes stand for, if and only if none of them needs an escape. -/
theorem registers_its_values (g : Grammar) (escape : Char → Char) (node : StorageNode)
    (hname : ∀ c ∈ node.name.toList, isObjectNameChar c = true) (dsPort : ℕ)
    (dsHost dsDBName dsUser dsPassword : String) :
    Registers g (getDSName node) dsPort escape dsHost dsDBName dsUser dsPassword ↔
      Plain dsHost.toList ∧ Plain dsDBName.toList ∧ Plain dsUser.toList ∧
        Plain dsPassword.toList :=
  registers_iff (getDSName_chars hname)

def unitNode : StorageNode where
  name := "mysql-0"
  nameSpace := "default"
  annotations := fun _ => none
  finalizers := []
  deletionTimestamp := false
  storageProviderName := "aws"
  replicas := 1
  status := {}

theorem unitNode_registers :
    (∀ c ∈ unitNode.name.toList, isObjectNameChar c = true) ∧
      Registers .encrypt (getDSName unitNode) 3306 id "h" "d" "u" "p" := by
  have hname : ∀ c ∈ unitNode.name.toList, isObjectNameChar c = true :=
    List.all_eq_true.mp (by decide)
  have hplain : ∀ s ∈ ["h", "d", "u", "p"], Plain s.toList := by
    have hall : ∀ s ∈ ["h", "d", "u", "p"],
        s.toList.all (fun c => decide (c ≠ doubleQuote ∧ c ≠ backSlash)) = true := by
      decide
    exact fun s hs c hc => of_decide_eq_true (List.all_eq_true.mp (hall s hs) c hc)
  exact ⟨hname, (registers_its_values .encrypt id unitNode hname 3306 "h" "d" "u" "p").mpr
    ⟨hplain _ (by decide), hplain _ (by decide), hplain _ (by decide), hplain _ (by decide)⟩⟩

/-- A quote in the password ends its literal. -/
theorem quoted_password_is_lost :
    ¬ Registers .encrypt (getDSName unitNode) 3306 id "h" "d" "u" "p\"w" := by
  rw [registers_iff (getDSName_chars (List.all_eq_true.mp (by decide)))]
  rintro ⟨-, -, -, h⟩
  exact (h doubleQuote (by decide)).1 rfl

end Statement

end ShardingOnCloud.Operator.RegisterText
