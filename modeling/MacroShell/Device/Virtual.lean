import MacroShell.Device.Basic
import MacroShell.Recent
import MacroShell.Text.Escaped

/-! # The virtual device

A simulated keyboard and pointer. It tracks the cursor and what is held down, logs every action,
and serves the key presses that were injected. The log and the pending presses are bounded.
-/

namespace MacroShell

inductive DeviceEvent where
  | keyDown (key : Char)
  | keyUp (key : Char)
  | buttonDown (button : MouseButton)
  | buttonUp (button : MouseButton)
  | cursorMove (x y : Int32)
deriving DecidableEq, Repr

structure VirtualDevice where
  width : Int32
  height : Int32
  cursor : Int32 × Int32 := (0, 0)
  /-- The keys held down, in the order of their codes. -/
  heldKeys : List Char := []
  /-- The buttons held down, in the order in which they were pressed. -/
  heldButtons : List MouseButton := []
  log : Recent 4096 DeviceEvent := .empty
  pending : Recent 256 KeyPress := .empty

namespace VirtualDevice

/-- A device whose cursor is confined to a screen of at least one point. -/
def ofSize (width height : Int32) : VirtualDevice :=
  { width := max width 1, height := max height 1 }

instance : Inhabited VirtualDevice := ⟨ofSize 1920 1080⟩

/-- The keys are those of the printable ASCII characters. -/
def hasKey (key : Char) : Bool := ' ' ≤ key && key ≤ '~'

def checkKey (key : Char) : EStateM ShellError VirtualDevice Unit :=
  if hasKey key then pure () else throw (.device s!"no key produces {Text.quoteChar key}")

def record (device : VirtualDevice) (event : DeviceEvent) : VirtualDevice :=
  { device with log := device.log.push event }

/-- Puts a key into an increasing list of keys, where it stands once. -/
def holdKey (key : Char) : List Char → List Char
  | [] => [key]
  | other :: rest =>
    if key < other then key :: other :: rest
    else if key = other then other :: rest
    else other :: holdKey key rest

def holdButton (button : MouseButton) (held : List MouseButton) : List MouseButton :=
  if button ∈ held then held else held ++ [button]

/-- The nearest coordinate on a screen of `size` points. -/
def confine (size n : Int32) : Int32 := max 0 (min n (size - 1))

instance : InputDevice VirtualDevice where
  pressKey key := do
    checkKey key
    modify fun device =>
      { device with heldKeys := holdKey key device.heldKeys }.record (.keyDown key)
  releaseKey key := do
    checkKey key
    modify fun device =>
      { device with heldKeys := device.heldKeys.filter (· ≠ key) }.record (.keyUp key)
  pressButton button :=
    modify fun device =>
      { device with heldButtons := holdButton button device.heldButtons }.record
        (.buttonDown button)
  releaseButton button :=
    modify fun device =>
      { device with heldButtons := device.heldButtons.filter (· ≠ button) }.record
        (.buttonUp button)
  moveCursor x y :=
    modify fun device =>
      let x := confine device.width x
      let y := confine device.height y
      { device with cursor := (x, y) }.record (.cursorMove x y)
  queryCursor := return (← get).cursor

/-- Adds a physical key press to those that wait to be handled. -/
def inject (device : VirtualDevice) (press : KeyPress) : VirtualDevice :=
  { device with pending := device.pending.push press }

instance : KeySource VirtualDevice where
  nextKey device := device.pending.pop?.map fun (press, rest) =>
    (press, { device with pending := rest })

/-- The logged events, oldest first. -/
def events (device : VirtualDevice) : List DeviceEvent := device.log.toList

def clearEvents (device : VirtualDevice) : VirtualDevice := { device with log := .empty }

end VirtualDevice

end MacroShell
