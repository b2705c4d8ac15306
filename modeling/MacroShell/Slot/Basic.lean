/-! # Slots

Command text is kept in slots named by one character. Registers are named by the ASCII letters
and digits, hotkeys by the printable ASCII characters. Each kind numbers its slots from zero.
-/

namespace MacroShell

inductive SlotKind where
  | register
  | hotkey
deriving DecidableEq, Repr

namespace SlotKind

def name : SlotKind → String
  | register => "register"
  | hotkey => "hotkey"

/-- The number of slots. -/
def size : SlotKind → Nat
  | register => 62
  | hotkey => 95

end SlotKind

structure Slot (kind : SlotKind) where
  index : Fin kind.size
deriving DecidableEq, Repr

namespace Slot

def ofIndex? (kind : SlotKind) (n : Nat) : Option (Slot kind) :=
  if h : n < kind.size then some ⟨n, h⟩ else none

/-- The number that a character names: lower case, then upper case, then digits for a register;
the code, counted from the space, for a hotkey. -/
def indexOf? (kind : SlotKind) (c : Char) : Option Nat :=
  match kind with
  | .register =>
    if 'a' ≤ c ∧ c ≤ 'z' then some (c.toNat - 'a'.toNat)
    else if 'A' ≤ c ∧ c ≤ 'Z' then some (c.toNat - 'A'.toNat + 26)
    else if '0' ≤ c ∧ c ≤ '9' then some (c.toNat - '0'.toNat + 52)
    else none
  | .hotkey => if ' ' ≤ c ∧ c ≤ '~' then some (c.toNat - ' '.toNat) else none

def ofChar? (kind : SlotKind) (c : Char) : Option (Slot kind) :=
  (indexOf? kind c).bind (ofIndex? kind)

/-- The character that names a slot. -/
def char {kind : SlotKind} (slot : Slot kind) : Char :=
  let n := slot.index.val
  match kind with
  | .register =>
    if n < 26 then Char.ofNat ('a'.toNat + n)
    else if n < 52 then Char.ofNat ('A'.toNat + (n - 26))
    else Char.ofNat ('0'.toNat + (n - 52))
  | .hotkey => Char.ofNat (' '.toNat + n)

/-- All slots of a kind, in order. -/
def all (kind : SlotKind) : List (Slot kind) := (List.finRange kind.size).map Slot.mk

/-- Register `C`, where the sampler publishes the click rate. -/
def clickRate : Slot .register := ⟨28, by decide⟩

/-- Register `L`, where the cursor position is stored. -/
def lastLocation : Slot .register := ⟨37, by decide⟩

end Slot

end MacroShell
