import Mathlib.Tactic.Common
import ShardingOnCloud.Lib.Lexer

namespace ShardingOnCloud.Distsql.Tokens

open ShardingOnCloud.Lib.Patterns ShardingOnCloud.Lib.Lexer

/-- The tokens of `Symbol.g4`, in its order. -/
inductive Symbol
  | and | or | not | tilde | verticalBar | ampersand | signedLeftShift | signedRightShift
  | caret | mod | colon | plus | minus | asterisk | slash | backslash | dot | dotAsterisk
  | safeEq | deq | eq | neq | gt | gte | lt | lte | pound | lp | rp | lbe | rbe | lbt | rbt
  | comma | dq | sq | bq | question | at | semi | jsonSeparator | ul
  deriving DecidableEq, Repr

def Symbol.texts : Symbol → List String
  | .and => ["&&"]
  | .or => ["||"]
  | .not => ["!"]
  | .tilde => ["~"]
  | .verticalBar => ["|"]
  | .ampersand => ["&"]
  | .signedLeftShift => ["<<"]
  | .signedRightShift => [">>"]
  | .caret => ["^"]
  | .mod => ["%"]
  | .colon => [":"]
  | .plus => ["+"]
  | .minus => ["-"]
  | .asterisk => ["*"]
  | .slash => ["/"]
  | .backslash => ["\\"]
  | .dot => ["."]
  | .dotAsterisk => [".*"]
  | .safeEq => ["<=>"]
  | .deq => ["=="]
  | .eq => ["="]
  | .neq => ["<>", "!="]
  | .gt => [">"]
  | .gte => [">="]
  | .lt => ["<"]
  | .lte => ["<="]
  | .pound => ["#"]
  | .lp => ["("]
  | .rp => [")"]
  | .lbe => ["\x7b"]
  | .rbe => ["\x7d"]
  | .lbt => ["["]
  | .rbt => ["]"]
  | .comma => [","]
  | .dq => ["\""]
  | .sq => ["'"]
  | .bq => ["`"]
  | .question => ["?"]
  | .at => ["@"]
  | .semi => [";"]
  | .jsonSeparator => ["->>"]
  | .ul => ["_"]

def Symbol.all : List Symbol :=
  [.and, .or, .not, .tilde, .verticalBar, .ampersand, .signedLeftShift, .signedRightShift,
    .caret, .mod, .colon, .plus, .minus, .asterisk, .slash, .backslash, .dot, .dotAsterisk,
    .safeEq, .deq, .eq, .neq, .gt, .gte, .lt, .lte, .pound, .lp, .rp, .lbe, .rbe, .lbt, .rbt,
    .comma, .dq, .sq, .bq, .question, .at, .semi, .jsonSeparator, .ul]

inductive Keyword
  | create | alter | drop | showKw | sharding | rule | fromKw | storageUnits
  | keyGenerateStrategy | defaultTableStrategy | table | shardingColumn | shardingColumns
  | type | name | properties | column | reference | broadcast | rules | columns | algorithm
  | algorithms | hint | default | database | shardingAlgorithm | strategy | datanodes
  | databaseStrategy | tableStrategy | nodes | key | generator | generators | keyGenerator
  | unused | used | ifKw | exists | withKw | count | auditor | auditors | auditStrategy
  | allowHintDisable | true | false | mod | cosidMod | hashMod | volumeRange | boundaryRange
  | autoInterval | inline | interval | cosidInterval | cosidIntervalSnowflake | complexInline
  | hintInline | classBased | snowflake | nanoid | uuid | cosid | cosidSnowflake | standard
  | complex | dmlShardingConditions | not | none | resource | encrypt | encryptAlgorithm
  | assistedQueryAlgorithm | likeQueryAlgorithm | cipher | plain | assistedQueryColumn
  | likeQueryColumn | queryWithCipherColumn | dataType | plainDataType | cipherDataType
  | assistedQueryDataType | likeQueryDataType | md5 | aes | rc4 | sm3 | sm4 | charDigestLike
  | mask | keepFirstNLastM | keepFromXToY | maskFirstNLastM | maskFromXToY
  | maskBeforeSpecialChars | maskAfterSpecialChars | personalIdentityNumberRandomReplace
  | militaryIdentityNumberRandomReplace | landlineNumberRandomReplace | telephoneRandomReplace
  | unifiedCreditCodeRandomReplace | genericTableRandomReplace | addressRandomReplace
  | readwriteSplitting | writeStorageUnit | readStorageUnits | transactionalReadQueryStrategy
  | resources | status | enable | disable | read | roundRobin | random | weight | shadow
  | source | set | add | databaseValue | tableValue | clear | valueMatch | regexMatch | sqlHint
  deriving DecidableEq, Repr

def Keyword.text : Keyword → String
  | .create => "CREATE"
  | .alter => "ALTER"
  | .drop => "DROP"
  | .showKw => "SHOW"
  | .sharding => "SHARDING"
  | .rule => "RULE"
  | .fromKw => "FROM"
  | .storageUnits => "STORAGE_UNITS"
  | .keyGenerateStrategy => "KEY_GENERATE_STRATEGY"
  | .defaultTableStrategy => "DEFAULT_TABLE_STRATEGY"
  | .table => "TABLE"
  | .shardingColumn => "SHARDING_COLUMN"
  | .shardingColumns => "SHARDING_COLUMNS"
  | .type => "TYPE"
  | .name => "NAME"
  | .properties => "PROPERTIES"
  | .column => "COLUMN"
  | .reference => "REFERENCE"
  | .broadcast => "BROADCAST"
  | .rules => "RULES"
  | .columns => "COLUMNS"
  | .algorithm => "ALGORITHM"
  | .algorithms => "ALGORITHMS"
  | .hint => "HINT"
  | .default => "DEFAULT"
  | .database => "DATABASE"
  | .shardingAlgorithm => "SHARDING_ALGORITHM"
  | .strategy => "STRATEGY"
  | .datanodes => "DATANODES"
  | .databaseStrategy => "DATABASE_STRATEGY"
  | .tableStrategy => "TABLE_STRATEGY"
  | .nodes => "NODES"
  | .key => "KEY"
  | .generator => "GENERATOR"
  | .generators => "GENERATORS"
  | .keyGenerator => "KEY_GENERATOR"
  | .unused => "UNUSED"
  | .used => "USED"
  | .ifKw => "IF"
  | .exists => "EXISTS"
  | .withKw => "WITH"
  | .count => "COUNT"
  | .auditor => "AUDITOR"
  | .auditors => "AUDITORS"
  | .auditStrategy => "AUDIT_STRATEGY"
  | .allowHintDisable => "ALLOW_HINT_DISABLE"
  | .true => "TRUE"
  | .false => "FALSE"
  | .mod => "MOD"
  | .cosidMod => "COSID_MOD"
  | .hashMod => "HASH_MOD"
  | .volumeRange => "VOLUME_RANGE"
  | .boundaryRange => "BOUNDARY_RANGE"
  | .autoInterval => "AUTO_INTERVAL"
  | .inline => "INLINE"
  | .interval => "INTERVAL"
  | .cosidInterval => "COSID_INTERVAL"
  | .cosidIntervalSnowflake => "COSID_INTERVAL_SNOWFLAKE"
  | .complexInline => "COMPLEX_INLINE"
  | .hintInline => "HINT_INLINE"
  | .classBased => "CLASS_BASED"
  | .snowflake => "SNOWFLAKE"
  | .nanoid => "NANOID"
  | .uuid => "UUID"
  | .cosid => "COSID"
  | .cosidSnowflake => "COSID_SNOWFLAKE"
  | .standard => "STANDARD"
  | .complex => "COMPLEX"
  | .dmlShardingConditions => "DML_SHARDING_CONDITIONS"
  | .not => "NOT"
  | .none => "NONE"
  | .resource => "RESOURCE"
  | .encrypt => "ENCRYPT"
  | .encryptAlgorithm => "ENCRYPT_ALGORITHM"
  | .assistedQueryAlgorithm => "ASSISTED_QUERY_ALGORITHM"
  | .likeQueryAlgorithm => "LIKE_QUERY_ALGORITHM"
  | .cipher => "CIPHER"
  | .plain => "PLAIN"
  | .assistedQueryColumn => "ASSISTED_QUERY_COLUMN"
  | .likeQueryColumn => "LIKE_QUERY_COLUMN"
  | .queryWithCipherColumn => "QUERY_WITH_CIPHER_COLUMN"
  | .dataType => "DATA_TYPE"
  | .plainDataType => "PLAIN_DATA_TYPE"
  | .cipherDataType => "CIPHER_DATA_TYPE"
  | .assistedQueryDataType => "ASSISTED_QUERY_DATA_TYPE"
  | .likeQueryDataType => "LIKE_QUERY_DATA_TYPE"
  | .md5 => "MD5"
  | .aes => "AES"
  | .rc4 => "RC4"
  | .sm3 => "SM3"
  | .sm4 => "SM4"
  | .charDigestLike => "CHAR_DIGEST_LIKE"
  | .mask => "MASK"
  | .keepFirstNLastM => "KEEP_FIRST_N_LAST_M"
  | .keepFromXToY => "KEEP_FROM_X_TO_Y"
  | .maskFirstNLastM => "MASK_FIRST_N_LAST_M"
  | .maskFromXToY => "MASK_FROM_X_TO_Y"
  | .maskBeforeSpecialChars => "MASK_BEFORE_SPECIAL_CHARS"
  | .maskAfterSpecialChars => "MASK_AFTER_SPECIAL_CHARS"
  | .personalIdentityNumberRandomReplace => "PERSONAL_IDENTITY_NUMBER_RANDOM_REPLACE"
  | .militaryIdentityNumberRandomReplace => "MILITARY_IDENTITY_NUMBER_RANDOM_REPLACE"
  | .landlineNumberRandomReplace => "LANDLINE_NUMBER_RANDOM_REPLACE"
  | .telephoneRandomReplace => "TELEPHONE_RANDOM_REPLACE"
  | .unifiedCreditCodeRandomReplace => "UNIFIED_CREDIT_CODE_RANDOM_REPLACE"
  | .genericTableRandomReplace => "GENERIC_TABLE_RANDOM_REPLACE"
  | .addressRandomReplace => "ADDRESS_RANDOM_REPLACE"
  | .readwriteSplitting => "READWRITE_SPLITTING"
  | .writeStorageUnit => "WRITE_STORAGE_UNIT"
  | .readStorageUnits => "READ_STORAGE_UNITS"
  | .transactionalReadQueryStrategy => "TRANSACTIONAL_READ_QUERY_STRATEGY"
  | .resources => "RESOURCES"
  | .status => "STATUS"
  | .enable => "ENABLE"
  | .disable => "DISABLE"
  | .read => "READ"
  | .roundRobin => "ROUND_ROBIN"
  | .random => "RANDOM"
  | .weight => "WEIGHT"
  | .shadow => "SHADOW"
  | .source => "SOURCE"
  | .set => "SET"
  | .add => "ADD"
  | .databaseValue => "DATABASE_VALUE"
  | .tableValue => "TABLE_VALUE"
  | .clear => "CLEAR"
  | .valueMatch => "VALUE_MATCH"
  | .regexMatch => "REGEX_MATCH"
  | .sqlHint => "SIMPLE_HINT"

inductive Grammar
  | sharding
  | encrypt
  | mask
  | readWriteSplitting
  | shadow
  deriving DecidableEq, Repr

/-- The keywords of a grammar, in the order of its `Keyword.g4`. -/
def keywords : Grammar → List Keyword
  | .sharding =>
    [.create, .alter, .drop, .showKw, .sharding, .rule, .fromKw, .storageUnits,
      .keyGenerateStrategy, .defaultTableStrategy, .table, .shardingColumn, .shardingColumns,
      .type, .name, .properties, .column, .reference, .broadcast, .rules, .columns, .algorithm,
      .algorithms, .hint, .default, .database, .shardingAlgorithm, .strategy, .datanodes,
      .databaseStrategy, .tableStrategy, .nodes, .key, .generator, .generators, .keyGenerator,
      .unused, .used, .ifKw, .exists, .withKw, .count, .auditor, .auditors, .auditStrategy,
      .allowHintDisable, .true, .false, .mod, .cosidMod, .hashMod, .volumeRange,
      .boundaryRange, .autoInterval, .inline, .interval, .cosidInterval,
      .cosidIntervalSnowflake, .complexInline, .hintInline, .classBased, .snowflake, .nanoid,
      .uuid, .cosid, .cosidSnowflake, .standard, .complex, .dmlShardingConditions, .not, .none]
  | .encrypt =>
    [.create, .alter, .drop, .showKw, .resource, .rule, .fromKw, .encrypt, .type,
      .encryptAlgorithm, .assistedQueryAlgorithm, .likeQueryAlgorithm, .name, .properties,
      .column, .rules, .table, .columns, .cipher, .plain, .assistedQueryColumn,
      .likeQueryColumn, .queryWithCipherColumn, .true, .false, .dataType, .plainDataType,
      .cipherDataType, .assistedQueryDataType, .likeQueryDataType, .ifKw, .exists, .count,
      .md5, .aes, .rc4, .sm3, .sm4, .charDigestLike, .not]
  | .mask =>
    [.true, .false, .create, .alter, .drop, .showKw, .rule, .fromKw, .mask, .type, .name,
      .properties, .column, .rules, .table, .columns, .ifKw, .exists, .count, .not, .md5,
      .keepFirstNLastM, .keepFromXToY, .maskFirstNLastM, .maskFromXToY,
      .maskBeforeSpecialChars, .maskAfterSpecialChars, .personalIdentityNumberRandomReplace,
      .militaryIdentityNumberRandomReplace, .landlineNumberRandomReplace,
      .telephoneRandomReplace, .unifiedCreditCodeRandomReplace, .genericTableRandomReplace,
      .addressRandomReplace]
  | .readWriteSplitting =>
    [.true, .false, .create, .alter, .drop, .showKw, .rule, .fromKw, .readwriteSplitting,
      .writeStorageUnit, .readStorageUnits, .transactionalReadQueryStrategy, .type, .name,
      .properties, .rules, .resources, .status, .enable, .disable, .read, .ifKw, .exists,
      .count, .roundRobin, .random, .weight, .not]
  | .shadow =>
    [.true, .false, .create, .alter, .drop, .showKw, .shadow, .source, .rule, .fromKw,
      .resources, .table, .type, .name, .properties, .rules, .algorithm, .algorithms, .set,
      .add, .databaseValue, .tableValue, .status, .clear, .default, .ifKw, .exists, .count,
      .valueMatch, .regexMatch, .sqlHint, .not]
inductive Kind
  | symbol (s : Symbol)
  | ws
  | keyword (k : Keyword)
  | forGenerator
  | identifier
  | string
  | int
  | hex
  | number
  | hexDigit
  | bitNum
  | bool
  deriving DecidableEq, Repr

def backQuote : Char := Char.ofNat 96
def doubleQuote : Char := Char.ofNat 34
def singleQuote : Char := Char.ofNat 39
def backSlash : Char := Char.ofNat 92

def isBlank (c : Char) : Bool := c = ' ' || c = '\t' || c = '\r' || c = '\n'

/-- The class `[A-Za-z_$]`. -/
def isNameStart (c : Char) : Bool := c.isAlpha || c = '_' || c = '$'

/-- The class `[A-Za-z_$0-9]`. -/
def isNameChar (c : Char) : Bool := isNameStart c || c.isDigit

def isHexDigit (c : Char) : Bool :=
  c.isDigit || ('a' ≤ c && c ≤ 'f') || ('A' ≤ c && c ≤ 'F')

section Patterns

def char (c : Char) : Pattern Char := .cls (fun d => d = c)

def literal (s : String) : Pattern Char := .word (s.toList.map (fun c d => d = c))

/-- The fragments of `Alphabet.g4` accept a letter in either case. -/
def anyCase (s : String) : Pattern Char := .word (s.toList.map (fun c d => d.toUpper = c))

def digits : Pattern Char := .plus (.cls Char.isDigit)

def plainIdentifier : Pattern Char :=
  .seq (.star (.cls isNameChar)) (.seq (.plus (.cls isNameStart)) (.star (.cls isNameChar)))

def quotedIdentifier : Pattern Char :=
  .seq (char backQuote) (.seq (.plus (.cls (fun c => c ≠ backQuote))) (char backQuote))

/-- What stands between the quotes of a string: escaped characters, doubled quotes and
characters that are neither. -/
def stringPart (q : Char) : Pattern Char :=
  .alt (.seq (char backSlash) (.cls (fun _ => true)))
    (.alt (.seq (char q) (char q)) (.cls (fun c => c ≠ q && c ≠ backSlash)))

def quoted (q : Char) : Pattern Char :=
  .seq (char q) (.seq (.star (stringPart q)) (char q))

/-- The sign of `NUMBER_` stands in its exponent only. -/
def numberPattern : Pattern Char :=
  .seq (.opt digits) (.seq (.opt (char '.')) (.seq digits
    (.opt (.seq (anyCase "E") (.seq (.opt (.alt (char '+') (char '-'))) digits)))))

def hexDigitPattern : Pattern Char :=
  .alt (.seq (literal "0x") (.plus (.cls isHexDigit)))
    (.seq (char 'X') (.seq (char singleQuote)
      (.seq (.plus (.cls isHexDigit)) (char singleQuote))))

def isBit (c : Char) : Bool := c = '0' || c = '1'

def bitNumPattern : Pattern Char :=
  .alt (.seq (literal "0b") (.plus (.cls isBit)))
    (.seq (anyCase "B") (.seq (char singleQuote) (.seq (.plus (.cls isBit)) (char singleQuote))))

def forGeneratorText : String := "DO NOT MATCH ANY THING, JUST FOR GENERATOR"

/-- The lexer rules. The operators that are not greedy in `IDENTIFIER_` are followed by a
greedy one over all their characters, so they do not shorten the match. -/
def Kind.pattern : Kind → Pattern Char
  | .symbol s => s.texts.foldr (fun t r => .alt (literal t) r) .zero
  | .ws => .plus (.cls isBlank)
  | .keyword k => anyCase k.text
  | .forGenerator => literal forGeneratorText
  | .identifier => .alt plainIdentifier quotedIdentifier
  | .string => .alt (quoted doubleQuote) (quoted singleQuote)
  | .int => digits
  | .hex => .cls isHexDigit
  | .number => numberPattern
  | .hexDigit => hexDigitPattern
  | .bitNum => bitNumPattern
  | .bool => .alt (anyCase "TRUE") (anyCase "FALSE")

end Patterns

/-- The rules of `Literals.g4`, which are not the same in all grammars. -/
def literals : Grammar → List Kind
  | .sharding => [.identifier, .string, .int]
  | .encrypt | .mask | .readWriteSplitting =>
    [.identifier, .string, .int, .hex, .number, .hexDigit, .bitNum]
  | .shadow => [.identifier, .string, .int, .hex, .number, .hexDigit, .bitNum, .bool]

def vocabulary (g : Grammar) : Vocabulary Char Kind where
  kinds := Symbol.all.map .symbol ++ .ws :: (keywords g).map .keyword ++
    .forGenerator :: literals g
  pattern := Kind.pattern
  skips := fun k => k = .ws

def kindOf (g : Grammar) (w : List Char) : Option Kind := classify (vocabulary g) w

def lex (g : Grammar) (cs : List Char) : List (List Char) := tokens (vocabulary g) cs

attribute [irreducible] lex

/-- A token of a parse tree: a text that the lexer takes for this kind. -/
abbrev Leaf (g : Grammar) (k : Kind) := {w : List Char // kindOf g w = some k}

end ShardingOnCloud.Distsql.Tokens
