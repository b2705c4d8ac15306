import MacroShell.Device.Basic

/-! # Faulty devices

A device some operations of which are broken: they fail before they do anything. The operations
that are composed of others fail where their parts do.
-/

namespace MacroShell

inductive DeviceOperation where
  | pressKey
  | releaseKey
  | pressButton
  | releaseButton
  | moveCursor
  | queryCursor
deriving DecidableEq, Repr

namespace DeviceOperation

def all : List DeviceOperation :=
  [pressKey, releaseKey, pressButton, releaseButton, moveCursor, queryCursor]

def name : DeviceOperation → String
  | pressKey => "press_key"
  | releaseKey => "release_key"
  | pressButton => "press_button"
  | releaseButton => "release_button"
  | moveCursor => "move_cursor"
  | queryCursor => "query_cursor"

def ofName? (name : String) : Option DeviceOperation := all.find? (·.name = name)

end DeviceOperation

structure FaultyDevice (δ : Type) where
  inner : δ
  broken : List DeviceOperation

namespace FaultyDevice

variable {δ : Type}

/-- Runs an operation of the inner device, unless that operation is broken. -/
def attempt {α : Type} (operation : DeviceOperation) (action : EStateM ShellError δ α) :
    EStateM ShellError (FaultyDevice δ) α := fun device =>
  if operation ∈ device.broken then .error (.device s!"{operation.name} failed") device
  else
    match action device.inner with
    | .ok a inner => .ok a { device with inner }
    | .error e inner => .error e { device with inner }

instance [InputDevice δ] : InputDevice (FaultyDevice δ) where
  pressKey key := attempt .pressKey (InputDevice.pressKey key)
  releaseKey key := attempt .releaseKey (InputDevice.releaseKey key)
  pressButton button := attempt .pressButton (InputDevice.pressButton button)
  releaseButton button := attempt .releaseButton (InputDevice.releaseButton button)
  moveCursor x y := attempt .moveCursor (InputDevice.moveCursor x y)
  queryCursor := attempt .queryCursor InputDevice.queryCursor

instance [KeySource δ] : KeySource (FaultyDevice δ) where
  nextKey device := (KeySource.nextKey device.inner).map fun (press, inner) =>
    (press, { device with inner })

end FaultyDevice

end MacroShell
