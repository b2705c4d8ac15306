/-! # Numerals

Strict reading of whole numbers: an optional sign, then ASCII digits only, at least one of them.
Leading zeros are fine. A number beyond the bound is no number.
-/

namespace MacroShell.Text

/-- The value of a digit in bases up to 16. -/
def digitValue (c : Char) : Option Nat :=
  if '0' ≤ c ∧ c ≤ '9' then some (c.toNat - '0'.toNat)
  else if 'a' ≤ c ∧ c ≤ 'f' then some (c.toNat - 'a'.toNat + 10)
  else if 'A' ≤ c ∧ c ≤ 'F' then some (c.toNat - 'A'.toNat + 10)
  else none

def isDigit (base : Nat) (c : Char) : Bool :=
  match digitValue c with
  | some d => d < base
  | none => false

/-- The number that digits stand for, the leading digit first. -/
def ofDigits (base : Nat) (cs : List Char) : Nat :=
  cs.foldl (fun n c => n * base + (digitValue c).getD 0) 0

/-- Reads one or more decimal digits. -/
def decimal? (cs : List Char) : Option Nat :=
  if !cs.isEmpty && cs.all (isDigit 10) then some (ofDigits 10 cs) else none

/-- Reads a number below `bound`; a plus sign may stand in front. -/
def natural? (bound : Nat) (s : String) : Option Nat :=
  let digits := match s.toList with
    | '+' :: rest => rest
    | cs => cs
  (decimal? digits).filter (· < bound)

/-- Reads a whole number; a sign may stand in front. -/
def integer? (s : String) : Option Int :=
  match s.toList with
  | '+' :: rest => (decimal? rest).map Int.ofNat
  | '-' :: rest => (decimal? rest).map fun n => -(n : Int)
  | cs => (decimal? cs).map Int.ofNat

/-- Reads a number of 32 bits with a sign. -/
def int32? (s : String) : Option Int32 :=
  (integer? s).bind fun n =>
    if Int32.minValue.toInt ≤ n ∧ n ≤ Int32.maxValue.toInt then some (Int32.ofInt n) else none

end MacroShell.Text
