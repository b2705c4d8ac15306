import MacroShell.Text.Numeral
import MacroShell.Toml.Value

/-! # Reading TOML

Readers take what they recognise from the front of the input, or fail and leave the input as it
is. No reader tells why it fails.
-/

namespace MacroShell.Toml

abbrev Reader := StateT (List Char) Option

namespace Reader

variable {α : Type}

def peek : Reader (Option Char) := fun input => some (input.head?, input)

/-- Takes a character with a property. -/
def satisfy (p : Char → Bool) : Reader Char
  | c :: rest => if p c then some (c, rest) else none
  | [] => none

def char (c : Char) : Reader Unit := do discard (satisfy (· = c))

/-- Takes a given text. -/
def token (text : String) : Reader Unit := fun input =>
  if text.toList.isPrefixOf input then some ((), input.drop text.length) else none

def takeWhile (p : Char → Bool) : Reader (List Char) := fun input =>
  some (input.takeWhile p, input.dropWhile p)

/-- Takes characters with a property, at least one. -/
def takeSome (p : Char → Bool) : Reader (List Char) := do
  let cs ← takeWhile p
  if cs.isEmpty then failure else return cs

/-- Takes a number of characters with a property. -/
def takeExactly (p : Char → Bool) : Nat → Reader (List Char)
  | 0 => return []
  | n + 1 => do return (← satisfy p) :: (← takeExactly p n)

/-- Recognises what another reader recognises, and takes nothing. -/
def ahead (reader : Reader α) : Reader Unit := fun input => (reader input).map fun _ => ((), input)

def endOfInput : Reader Unit
  | [] => some ((), [])
  | _ :: _ => none

def repeatUpTo (reader : Reader α) : Nat → Reader (List α)
  | 0 => return []
  | n + 1 => (do return (← reader) :: (← repeatUpTo reader n)) <|> return []

/-- Applies a reader as long as it succeeds. It has to take something each time. -/
def many (reader : Reader α) : Reader (List α) := fun input =>
  repeatUpTo reader input.length input

/-- One or more items with a separator between them. -/
def separated (reader : Reader α) (separator : Reader Unit) : Reader (List α) := do
  return (← reader) :: (← many (do separator; reader))

/-! ## Blanks, lines and comments -/

def blanks : Reader Unit := do discard (takeWhile fun c => c = ' ' || c = '\t')

def newline : Reader Unit := char '\n' <|> token "\r\n"

/-- The characters of comments and strings: all but the controls, of which only the tab may
stand. -/
def isPlain (c : Char) : Bool := c = '\t' || (c.toNat ≥ 0x20 && c.toNat ≠ 0x7F)

def comment : Reader Unit := do
  char '#'
  discard (takeWhile isPlain)

/-- The end of a line, after blanks and a comment. -/
def lineEnd : Reader Unit := do
  blanks
  comment <|> pure ()
  newline <|> endOfInput

/-! ## Strings -/

/-- The character with a code of `n` hexadecimal digits. -/
def codePoint (n : Nat) : Reader Char := do
  let code := Text.ofDigits 16 (← takeExactly (Text.isDigit 16) n)
  if h : code.isValidChar then return Char.ofNatAux code h else failure

def escape : Reader Char := do
  char '\\'
  match ← satisfy fun _ => true with
  | 'b' => return '\x08'
  | 't' => return '\t'
  | 'n' => return '\n'
  | 'f' => return '\x0c'
  | 'r' => return '\r'
  | '"' => return '"'
  | '\\' => return '\\'
  | 'u' => codePoint 4
  | 'U' => codePoint 8
  | _ => failure

def basicChar : Reader Char := satisfy fun c => isPlain c && c ≠ '"' && c ≠ '\\'

def basicString : Reader String := do
  char '"'
  let cs ← many (basicChar <|> escape)
  char '"'
  return String.ofList cs

def literalString : Reader String := do
  char '\x27'
  let cs ← takeWhile fun c => isPlain c && c ≠ '\x27'
  char '\x27'
  return String.ofList cs

/-- A backslash at the end of a line, with all blanks and lines that follow. -/
def lineContinuation : Reader Unit := do
  char '\\'
  blanks
  newline
  discard (many ((do discard (satisfy fun c => c = ' ' || c = '\t')) <|> newline))

/-- The inside of a string over several lines. `quote` is its quotation mark, which may stand
once or twice in a row, and `piece` reads anything else. -/
def longBody (quote : Char) (piece : Reader (List Char)) : Reader (List Char) := do
  let one : Reader (List Char) := do char quote; return [quote]
  let two : Reader (List Char) := do char quote; char quote; return [quote, quote]
  let close : Reader Unit := do char quote; char quote; char quote
  let run (next : Reader Unit) : Reader (List Char) :=
    (do let cs ← two; next; return cs) <|> (do let cs ← one; next; return cs)
  close
  newline <|> pure ()
  let pieces ← many (piece <|> run (ahead piece))
  let last ← run (ahead close) <|> return []
  close
  return pieces.flatten ++ last

def longBasicString : Reader String := do
  let cs ← longBody '"' <|
    (do return [← basicChar]) <|> (do lineContinuation; return []) <|>
      (do return [← escape]) <|> (do newline; return ['\n'])
  return String.ofList cs

def longLiteralString : Reader String := do
  let cs ← longBody '\x27' <|
    (do return [← satisfy fun c => isPlain c && c ≠ '\x27']) <|> (do newline; return ['\n'])
  return String.ofList cs

/-- The long forms come first, since a short one would take their opening for an empty string. -/
def string : Reader String := do
  if (← peek) = some '"' then
    if ((token "\"\"\"" : Reader Unit).run (← get)).isSome then longBasicString else basicString
  else
    if ((token "'''" : Reader Unit).run (← get)).isSome then longLiteralString else literalString

/-! ## Keys -/

def isBareKeyChar (c : Char) : Bool := c.isAlphanum || c = '_' || c = '-'

def simpleKey : Reader String :=
  basicString <|> literalString <|> (do return String.ofList (← takeSome isBareKeyChar))

/-- A key with the keys of the tables that lead to it. -/
def key : Reader (List String) :=
  separated (do blanks; let k ← simpleKey; blanks; return k) (char '.')

/-! ## Numbers -/

/-- Digits between which single underscores may stand. -/
def digits (base : Nat) : Reader (List Char) := do
  let first ← satisfy (Text.isDigit base)
  let rest ← many (do
    (char '_' <|> pure ())
    satisfy (Text.isDigit base))
  return first :: rest

/-- A sign, empty if there is none. -/
def sign : Reader (List Char) := (do return [← satisfy fun c => c = '+' || c = '-']) <|> return []

/-- Decimal digits without a leading zero. -/
def decimalDigits : Reader (List Char) := do
  if (← peek) = some '0' then return [← satisfy (· = '0')] else digits 10

/-- Integers have 64 bits. -/
def bounded (n : Int) : Reader Int :=
  if Int64.minValue.toInt ≤ n ∧ n ≤ Int64.maxValue.toInt then return n else failure

def integer : Reader Int :=
  (do token "0x"; bounded (Text.ofDigits 16 (← digits 16))) <|>
  (do token "0o"; bounded (Text.ofDigits 8 (← digits 8))) <|>
  (do token "0b"; bounded (Text.ofDigits 2 (← digits 2))) <|>
  (do
    let sign ← sign
    let n := Text.ofDigits 10 (← decimalDigits)
    bounded (if sign = ['-'] then -n else n))

def exponent : Reader (List Char) := do
  let mark ← satisfy fun c => c = 'e' || c = 'E'
  let sign ← sign
  return mark :: sign ++ (← digits 10)

def fraction : Reader (List Char) := do
  char '.'
  return '.' :: (← digits 10)

def float : Reader String := do
  let sign ← sign
  let special : Reader (List Char) :=
    (do token "inf"; return ['i', 'n', 'f']) <|> (do token "nan"; return ['n', 'a', 'n'])
  let number : Reader (List Char) := do
    let whole ← decimalDigits
    let rest ← exponent <|> (do return (← fraction) ++ (← exponent <|> return []))
    return whole ++ rest
  return String.ofList (sign ++ (← number <|> special))

/-! ## Dates and times -/

/-- A number of `width` digits within bounds. -/
def field (width least greatest : Nat) : Reader Nat := do
  let n := Text.ofDigits 10 (← takeExactly (Text.isDigit 10) width)
  if least ≤ n ∧ n ≤ greatest then return n else failure

def daysInMonth (year month : Nat) : Nat :=
  match month with
  | 2 => if year % 4 = 0 ∧ (year % 100 ≠ 0 ∨ year % 400 = 0) then 29 else 28
  | 4 | 6 | 9 | 11 => 30
  | _ => 31

def date : Reader Date := do
  let year ← field 4 0 9999
  char '-'
  let month ← field 2 1 12
  char '-'
  let day ← field 2 1 (daysInMonth year month)
  return { year, month, day }

/-- The nanoseconds of a fraction of a second; further digits are dropped. -/
def nanoseconds : Reader Nat := do
  char '.'
  let cs := (← takeSome (Text.isDigit 10)).take 9
  return Text.ofDigits 10 cs * Nat.pow 10 (9 - cs.length)

def time : Reader Time := do
  let hour ← field 2 0 23
  char ':'
  let minute ← field 2 0 59
  char ':'
  let second ← field 2 0 60
  let nanosecond ← nanoseconds <|> return 0
  return { hour, minute, second, nanosecond }

def offset : Reader Offset :=
  (do discard (satisfy fun c => c = 'Z' || c = 'z'); return .utc) <|>
  (do
    let negative := (← satisfy fun c => c = '+' || c = '-') = '-'
    let hours ← field 2 0 23
    char ':'
    let minutes ← field 2 0 59
    let total : Int := hours * 60 + minutes
    return .minutes (if negative then -total else total))

def dateTime : Reader DateTime :=
  (do
    let date ← date
    (do
      discard (satisfy fun c => c = 'T' || c = 't' || c = ' ')
      let time ← time
      let offset ← (do return some (← offset)) <|> return none
      return .dateTime date time offset) <|> return .date date) <|>
  (do return .time (← time))

end Reader

end MacroShell.Toml
