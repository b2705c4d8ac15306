import Mathlib.Data.List.DropRight
import MacroShell.Proofs.Failures

/-! # Calls of the virtual device

Whoever uses a virtual device does so by calls: the shell and its tasks, a listener, and whoever injects
keys or looks at the log.  Here a call is a piece of data, so that any use of a device is a list of calls.

A call that acts records events, and to record an event is all that it does to the device: what the event
says has happened, and the log tells of it.
-/

namespace MacroShell

/-- What a virtual device can be asked to do. -/
inductive DeviceCall where
  | pressKey (key : Char)
  | releaseKey (key : Char)
  | tapKey (key : Char)
  | pressButton (button : MouseButton)
  | releaseButton (button : MouseButton)
  | click (button : MouseButton)
  | moveCursor (x y : Int32)
  /-- Takes the events out of the log. -/
  | takeEvents
  | inject (press : KeyPress)
  /-- Takes the oldest key press that waits, and does not wait for one. -/
  | nextKey
deriving DecidableEq, Repr

/-- What a call gives back. -/
inductive DeviceReply where
  | done
  | events (events : List DeviceEvent)
  | key (press? : Option KeyPress)
deriving DecidableEq, Repr

/-- The events that a call records on a screen of the given size.  There are keys for the printable ASCII
    characters only, and a cursor is moved no further than the edges of the screen. -/
def DeviceCall.events (width height : Int32) : DeviceCall → List DeviceEvent
  | pressKey key => if VirtualDevice.hasKey key then [.keyDown key] else []
  | releaseKey key => if VirtualDevice.hasKey key then [.keyUp key] else []
  | tapKey key => if VirtualDevice.hasKey key then [.keyDown key, .keyUp key] else []
  | pressButton button => [.buttonDown button]
  | releaseButton button => [.buttonUp button]
  | click button => [.buttonDown button, .buttonUp button]
  | moveCursor x y => [.cursorMove (VirtualDevice.confine width x) (VirtualDevice.confine height y)]
  | takeEvents | inject _ | nextKey => []

/-- What a call does to the key presses that wait. -/
def DeviceCall.pending (waiting : Recent 256 KeyPress) : DeviceCall → Recent 256 KeyPress
  | .inject press => waiting.push press
  | .nextKey => (waiting.pop?.map Prod.snd).getD waiting
  | _ => waiting

/-- The key that a call is about. -/
def DeviceCall.key? : DeviceCall → Option Char
  | pressKey key | releaseKey key | tapKey key => some key
  | _ => none

namespace VirtualDevice

def call : DeviceCall → EStateM ShellError VirtualDevice DeviceReply
  | .pressKey key => do InputDevice.pressKey key; return .done
  | .releaseKey key => do InputDevice.releaseKey key; return .done
  | .tapKey key => do InputDevice.tapKey key; return .done
  | .pressButton button => do InputDevice.pressButton button; return .done
  | .releaseButton button => do InputDevice.releaseButton button; return .done
  | .click button => do InputDevice.click button; return .done
  | .moveCursor x y => do InputDevice.moveCursor x y; return .done
  | .takeEvents => fun device => .ok (.events device.events) device.clearEvents
  | .inject press => fun device => .ok .done (device.inject press)
  | .nextKey => fun device =>
    match KeySource.nextKey device with
    | some (press, rest) => .ok (.key (some press)) rest
    | none => .ok (.key none) device

/-- The device after a call, whether the call succeeds or is rejected. -/
def after (device : VirtualDevice) (request : DeviceCall) : VirtualDevice :=
  match call request device with
  | .ok _ device | .error _ device => device

/-- The device after calls in a row. -/
def run (device : VirtualDevice) (calls : List DeviceCall) : VirtualDevice := calls.foldl after device

theorem run_concat (device : VirtualDevice) (calls : List DeviceCall) (request : DeviceCall) :
    device.run (calls ++ [request]) = (device.run calls).after request := List.foldl_concat ..

theorem run_append (device : VirtualDevice) (calls later : List DeviceCall) :
    device.run (calls ++ later) = (device.run calls).run later := List.foldl_append ..

/-! ## What a call does -/

/-- The device after an event has happened and was logged. -/
def follow (device : VirtualDevice) : DeviceEvent → VirtualDevice
  | .keyDown key => { device with heldKeys := holdKey key device.heldKeys }.record (.keyDown key)
  | .keyUp key => { device with heldKeys := device.heldKeys.filter (· ≠ key) }.record (.keyUp key)
  | .buttonDown button =>
    { device with heldButtons := holdButton button device.heldButtons }.record (.buttonDown button)
  | .buttonUp button =>
    { device with heldButtons := device.heldButtons.filter (· ≠ button) }.record (.buttonUp button)
  | .cursorMove x y => { device with cursor := (x, y) }.record (.cursorMove x y)

theorem follow_log (device : VirtualDevice) (event : DeviceEvent) :
    (device.follow event).log = device.log.push event := by
  cases event <;> rfl

theorem follow_size (device : VirtualDevice) (event : DeviceEvent) :
    (device.follow event).width = device.width ∧ (device.follow event).height = device.height := by
  cases event <;> exact ⟨rfl, rfl⟩

/-- A call about a key that there is not is rejected, and nothing has happened. -/
theorem call_rejected {request : DeviceCall} {key : Char} (about : request.key? = some key)
    (lacks : hasKey key = false) (device : VirtualDevice) :
    call request device = .error (.device s!"no key produces {Text.quoteChar key}") device := by
  have lacks : ¬ hasKey key = true := by simp [lacks]
  cases request with
  | pressKey | releaseKey | tapKey =>
      cases about
      simp only [call, InputDevice.tapKey, bind, EStateM.bind, pressKey_of_not_hasKey lacks,
        releaseKey_of_not_hasKey lacks]
  | _ => cases about

theorem call_accepted {request : DeviceCall} (has : ∀ key, request.key? = some key → hasKey key = true)
    (device : VirtualDevice) : ∃ reply, call request device = .ok reply (device.after request) := by
  cases request with
  | pressKey key | releaseKey key | tapKey key =>
      have has := has key rfl
      refine ⟨.done, ?_⟩
      simp only [after, call, InputDevice.tapKey, bind, EStateM.bind, pressKey_of_hasKey has,
        releaseKey_of_hasKey has]
      rfl
  | nextKey =>
      simp only [after, call]
      cases KeySource.nextKey device <;> exact ⟨_, rfl⟩
  | pressButton | releaseButton | click | moveCursor | takeEvents | inject => exact ⟨_, rfl⟩

/-- The calls that are rejected are those about a key that there is not.  They record nothing, and they
    leave the device as it is. -/
theorem call_eq_error_iff {device final : VirtualDevice} {request : DeviceCall} {e : ShellError} :
    call request device = .error e final ↔
      final = device ∧ ∃ key, request.key? = some key ∧ hasKey key = false ∧
        e = .device s!"no key produces {Text.quoteChar key}" := by
  constructor
  · intro failed
    by_cases has : ∀ key, request.key? = some key → hasKey key = true
    · obtain ⟨reply, ran⟩ := call_accepted has device
      cases failed.symm.trans ran
    · simp only [not_forall, Bool.not_eq_true] at has
      obtain ⟨key, about, lacks⟩ := has
      cases failed.symm.trans (call_rejected about lacks device)
      exact ⟨rfl, key, about, lacks, rfl⟩
  · rintro ⟨rfl, key, about, lacks, rfl⟩
    exact call_rejected about lacks final

theorem events_of_rejected {request : DeviceCall} {key : Char} (about : request.key? = some key)
    (lacks : hasKey key = false) (width height : Int32) : request.events width height = [] := by
  cases request with
  | pressKey | releaseKey | tapKey =>
      cases about
      simp [DeviceCall.events, lacks]
  | _ => cases about

/-- Apart from the key presses that wait, and unless it takes the log, a call comes to its events. -/
theorem after_eq {request : DeviceCall} (other : request ≠ .takeEvents) (device : VirtualDevice) :
    device.after request =
      { (request.events device.width device.height).foldl follow device with
        pending := request.pending device.pending } := by
  cases request with
  | takeEvents => exact absurd rfl other
  | inject press => rfl
  | nextKey =>
      simp only [after, call, KeySource.nextKey, DeviceCall.pending]
      cases device.pending.pop? <;> rfl
  | pressKey key | releaseKey key | tapKey key =>
      by_cases has : hasKey key = true
      · simp only [after, call, InputDevice.tapKey, bind, EStateM.bind, pressKey_of_hasKey has,
          releaseKey_of_hasKey has, DeviceCall.events, has]
        rfl
      · have lacks : hasKey key = false := by simpa using has
        rw [after, call_rejected rfl lacks]
        simp [DeviceCall.events, DeviceCall.pending, lacks]
  | pressButton | releaseButton | click | moveCursor => rfl

theorem after_pending (device : VirtualDevice) (request : DeviceCall) :
    (device.after request).pending = request.pending device.pending := by
  by_cases taken : request = .takeEvents
  · subst taken
    rfl
  · rw [after_eq taken]

end VirtualDevice
end MacroShell
