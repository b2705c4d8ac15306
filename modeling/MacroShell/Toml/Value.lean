/-! # Values of a TOML document

Documents of TOML 1.0. Tables keep the order of their keys and know how they came into being,
because that decides whether a later line may add to them.
-/

namespace MacroShell.Toml

structure Date where
  year : Nat
  month : Nat
  day : Nat
deriving DecidableEq, Repr

structure Time where
  hour : Nat
  minute : Nat
  second : Nat
  nanosecond : Nat
deriving DecidableEq, Repr

inductive Offset where
  | utc
  | minutes (offset : Int)
deriving DecidableEq, Repr

inductive DateTime where
  | date (date : Date)
  | time (time : Time)
  | dateTime (date : Date) (time : Time) (offset : Option Offset)
deriving DecidableEq, Repr

/-- Decimal digits, with zeros in front up to `width` of them. -/
def padded (width n : Nat) : String :=
  let digits := toString n
  String.ofList (List.replicate (width - digits.length) '0') ++ digits

def Date.render (date : Date) : String :=
  s!"{padded 4 date.year}-{padded 2 date.month}-{padded 2 date.day}"

/-- The fraction of a second has as many digits as it needs. -/
def Time.render (time : Time) : String :=
  let fraction := (padded 9 time.nanosecond).toList.reverse.dropWhile (· = '0')
  let seconds := s!"{padded 2 time.hour}:{padded 2 time.minute}:{padded 2 time.second}"
  if fraction.isEmpty then seconds else s!"{seconds}.{String.ofList fraction.reverse}"

def Offset.render : Offset → String
  | utc => "Z"
  | minutes offset =>
    let sign := if offset < 0 then "-" else "+"
    s!"{sign}{padded 2 (offset.natAbs / 60)}:{padded 2 (offset.natAbs % 60)}"

def DateTime.render : DateTime → String
  | date d => d.render
  | time t => t.render
  | dateTime d t none => s!"{d.render}T{t.render}"
  | dateTime d t (some offset) => s!"{d.render}T{t.render}{offset.render}"

/-- How a table came into being. -/
inductive Origin where
  /-- By a header of its own. -/
  | header
  /-- On the way to the table of a header. -/
  | implied
  /-- By a dotted key. -/
  | dotted
  /-- As a value between braces. -/
  | inline
deriving DecidableEq, Repr

inductive Value where
  | text (text : String)
  | integer (n : Int)
  /-- A number with a fraction or an exponent, as it is written. -/
  | float (digits : String)
  | boolean (b : Bool)
  | dateTime (d : DateTime)
  | array (items : List Value)
  | table (origin : Origin) (entries : List (String × Value))
  /-- An array of tables with a header each. -/
  | tables (elements : List (List (String × Value)))

abbrev Entries := List (String × Value)

end MacroShell.Toml
