import ExpenseLedger.Id
import ExpenseLedger.Json.Basic
import ExpenseLedger.Text.Integer

/-!
# The tokens of JSON text

A text is read one character at a time into marks, words, numbers and strings, and each token has
one written form. Blanks between tokens are skipped; a blank is a space, a tab or an end of line.
-/

namespace ExpenseLedger.Json

/-- A token. -/
inductive Token where
  /-- An opening bracket. -/
  | openList
  /-- A closing bracket. -/
  | closeList
  /-- An opening brace. -/
  | openObject
  /-- A closing brace. -/
  | closeObject
  /-- A comma. -/
  | comma
  /-- A colon. -/
  | colon
  /-- The word `null`. -/
  | null
  /-- One of the words `true` and `false`. -/
  | bool (b : Bool)
  /-- A number. -/
  | number (n : JsonNumber)
  /-- A string, without text if it holds half a surrogate pair. -/
  | string (text : Option String)
deriving DecidableEq

/-! ## Writing -/

/-- The two hexadecimal digits of a control character. -/
def controlDigits (c : Char) : List Char :=
  [HexDigit.char (Fin.ofNat 16 (c.toNat / 16)), HexDigit.char (Fin.ofNat 16 c.toNat)]

/-- The characters that stand for one character of a string. -/
def escapeChar (c : Char) : List Char :=
  if c = '"' then ['\\', '"']
  else if c = '\\' then ['\\', '\\']
  else if c = '\x08' then ['\\', 'b']
  else if c = '\x0c' then ['\\', 'f']
  else if c = '\n' then ['\\', 'n']
  else if c = '\r' then ['\\', 'r']
  else if c = '\t' then ['\\', 't']
  else if c.toNat < 32 then ['\\', 'u', '0', '0'] ++ controlDigits c
  else [c]

/-- The decimal character of a digit. -/
def digitChar (d : Fin 10) : Char := Char.ofNat (48 + d.val)

/-- The characters of a number. -/
def numberChars (n : JsonNumber) : List Char :=
  (if n.negative then ['-'] else []) ++ Text.naturalChars n.whole ++
    (match n.fraction with
      | none => []
      | some ds => '.' :: ds.map digitChar) ++
    (match n.exponent with
      | none => []
      | some e => 'e' :: Text.integerChars e)

/-- The characters of a token. -/
def Token.chars : Token → List Char
  | openList => ['[']
  | closeList => [']']
  | openObject => ['\x7b']
  | closeObject => ['\x7d']
  | comma => [',']
  | colon => [':']
  | null => ['n', 'u', 'l', 'l']
  | bool true => ['t', 'r', 'u', 'e']
  | bool false => ['f', 'a', 'l', 's', 'e']
  | number n => numberChars n
  | string none => ['"', '\\', 'u', 'd', '8', '0', '0', '"']
  | string (some s) => '"' :: s.toList.flatMap escapeChar ++ ['"']

/-! ## Strings -/

/-- One element of a string: a character as it stands, or a 16-bit unit given by number. -/
inductive Piece where
  /-- A character. -/
  | char (c : Char)
  /-- A unit of 16 bits. -/
  | unit (n : Nat)

/-- The first half of a surrogate pair. -/
def isHighHalf (n : Nat) : Bool := 0xd800 ≤ n && n ≤ 0xdbff

/-- The second half of a surrogate pair. -/
def isLowHalf (n : Nat) : Bool := 0xdc00 ≤ n && n ≤ 0xdfff

/-- The characters that the elements make up, unless a half stands alone. -/
def assemble : List Piece → Option (List Char)
  | [] => some []
  | .char c :: ps => (assemble ps).map (c :: ·)
  | .unit hi :: .unit lo :: ps =>
    if isHighHalf hi then
      if isLowHalf lo then
        (assemble ps).map (Char.ofNat (0x10000 + (hi - 0xd800) * 0x400 + (lo - 0xdc00)) :: ·)
      else none
    else if isLowHalf hi then none
    else (assemble (.unit lo :: ps)).map (Char.ofNat hi :: ·)
  | .unit n :: ps =>
    if isHighHalf n || isLowHalf n then none else (assemble ps).map (Char.ofNat n :: ·)

/-- What the escaped character stands for, if it is a letter or mark of its own. -/
def unescape? (c : Char) : Option Char :=
  match c with
  | '"' => some '"'
  | '\\' => some '\\'
  | '/' => some '/'
  | 'b' => some '\x08'
  | 'f' => some '\x0c'
  | 'n' => some '\n'
  | 'r' => some '\r'
  | 't' => some '\t'
  | _ => none

/-! ## Numbers -/

/-- Splits off the decimal digits in front. -/
def takeDigits (cs : List Char) : List (Fin 10) × List Char :=
  match cs with
  | [] => ([], [])
  | c :: cs' =>
    match Text.digit? c with
    | none => ([], c :: cs')
    | some d =>
      let (ds, rest) := takeDigits cs'
      (Fin.ofNat 10 d :: ds, rest)

/-- The natural number with the given decimal digits. -/
def digitsValue (ds : List (Fin 10)) : Nat := ds.foldl (fun n d => n * 10 + d.val) 0

/-- Reads the power of ten that ends a number. -/
def readExponent (cs : List Char) : Option (Option Int) :=
  let signed (negative : Bool) (rest : List Char) : Option (Option Int) :=
    match takeDigits rest with
    | (d :: ds, []) =>
      let n := digitsValue (d :: ds)
      some (some (if negative then -(n : Int) else n))
    | _ => none
  let power (rest : List Char) : Option (Option Int) :=
    match rest with
    | '-' :: rest => signed true rest
    | '+' :: rest => signed false rest
    | rest => signed false rest
  match cs with
  | [] => some none
  | 'e' :: rest => power rest
  | 'E' :: rest => power rest
  | _ => none

/-- Reads what follows the digits before the point. -/
def readFraction (negative : Bool) (whole : Nat) (cs : List Char) : Option JsonNumber :=
  match cs with
  | '.' :: rest =>
    match takeDigits rest with
    | ([], _) => none
    | (d :: ds, rest) => (readExponent rest).map (⟨negative, whole, some (d :: ds), ·⟩)
  | rest => (readExponent rest).map (⟨negative, whole, none, ·⟩)

/-- Reads a number without its sign. Its first digit is no needless zero. -/
def readUnsigned (negative : Bool) (cs : List Char) : Option JsonNumber :=
  match takeDigits cs with
  | ([], _) => none
  | ([d], rest) => readFraction negative d.val rest
  | (d :: ds, rest) =>
    if d.val = 0 then none else readFraction negative (digitsValue (d :: ds)) rest

/-- Reads a number. -/
def readNumber (cs : List Char) : Option JsonNumber :=
  match cs with
  | '-' :: rest => readUnsigned true rest
  | rest => readUnsigned false rest

/-! ## Scanning -/

/-- What is being read. -/
inductive Mode where
  /-- Nothing. -/
  | gap
  /-- A word, with its letters so far, the last first. -/
  | word (letters : List Char)
  /-- A number, with its characters so far, the last first. -/
  | number (chars : List Char)
  /-- A string, with its elements so far, the last first. -/
  | string (pieces : List Piece)
  /-- A string after a backslash. -/
  | escape (pieces : List Piece)
  /-- A string within the four digits of a unit: how many are left, and the value of the others. -/
  | unit (pieces : List Piece) (left value : Nat)

/-- What is being read, and the tokens that have been read, the last first. -/
structure Scan where
  /-- What is being read. -/
  mode : Mode
  /-- The tokens read. -/
  tokens : List Token

/-- The character separates tokens. -/
def isGap (c : Char) : Bool := c = ' ' || c = '\t' || c = '\n' || c = '\r'

/-- The character is a token by itself. -/
def mark? (c : Char) : Option Token :=
  match c with
  | '[' => some .openList
  | ']' => some .closeList
  | '\x7b' => some .openObject
  | '\x7d' => some .closeObject
  | ',' => some .comma
  | ':' => some .colon
  | _ => none

/-- The word that some letters spell. -/
def word? (letters : List Char) : Option Token :=
  if letters = ['n', 'u', 'l', 'l'] then some .null
  else if letters = ['t', 'r', 'u', 'e'] then some (.bool true)
  else if letters = ['f', 'a', 'l', 's', 'e'] then some (.bool false)
  else none

/-- The character can be part of a number. -/
def isNumberChar (c : Char) : Bool :=
  (Text.digit? c).isSome || c = '-' || c = '+' || c = '.' || c = 'e' || c = 'E'

/-- The character is a small letter. -/
def isLetter (c : Char) : Bool := 'a' ≤ c && c ≤ 'z'

/-- The character that follows some tokens, of which none is being read. -/
def Scan.begin (tokens : List Token) (c : Char) : Option Scan :=
  if isGap c then some ⟨.gap, tokens⟩
  else if c = '"' then some ⟨.string [], tokens⟩
  else
    match mark? c with
    | some t => some ⟨.gap, t :: tokens⟩
    | none =>
      if c = '-' || (Text.digit? c).isSome then some ⟨.number [c], tokens⟩
      else if isLetter c then some ⟨.word [c], tokens⟩
      else none

/-- Reads one more character. -/
def Scan.step (s : Scan) (c : Char) : Option Scan :=
  match s.mode with
  | .gap => Scan.begin s.tokens c
  | .word letters =>
    if isLetter c then some ⟨.word (c :: letters), s.tokens⟩
    else (word? letters.reverse).bind fun t => Scan.begin (t :: s.tokens) c
  | .number chars =>
    if isNumberChar c then some ⟨.number (c :: chars), s.tokens⟩
    else (readNumber chars.reverse).bind fun n => Scan.begin (.number n :: s.tokens) c
  | .string pieces =>
    if c = '"' then
      some ⟨.gap, .string ((assemble pieces.reverse).map String.ofList) :: s.tokens⟩
    else if c = '\\' then some ⟨.escape pieces, s.tokens⟩
    else if c.toNat < 32 then none
    else some ⟨.string (.char c :: pieces), s.tokens⟩
  | .escape pieces =>
    if c = 'u' then some ⟨.unit pieces 4 0, s.tokens⟩
    else (unescape? c).map fun d => ⟨.string (.char d :: pieces), s.tokens⟩
  | .unit pieces left value =>
    (HexDigit.ofChar? c).map fun d =>
      let value := value * 16 + d.val
      if left ≤ 1 then ⟨.string (.unit value :: pieces), s.tokens⟩
      else ⟨.unit pieces (left - 1) value, s.tokens⟩

/-- Ends the reading and gives the tokens, the last first. -/
def Scan.finish (s : Scan) : Option (List Token) :=
  match s.mode with
  | .gap => some s.tokens
  | .word letters => (word? letters.reverse).map (· :: s.tokens)
  | .number chars => (readNumber chars.reverse).map (.number · :: s.tokens)
  | _ => none

/-- The tokens of a text. -/
def tokenize (cs : List Char) : Option (List Token) :=
  ((cs.foldlM Scan.step ⟨.gap, []⟩).bind Scan.finish).map List.reverse

end ExpenseLedger.Json
