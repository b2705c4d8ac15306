import MacroShell.Device.Faulty
import MacroShell.Device.Virtual
import MacroShell.Proofs.History
import MacroShell.Proofs.Owners

/-! # Verbs that fail

A verb that runs no stored text looks at the shell and then does a single deed.  There the device acts
first if it does, and what comes after it cannot fail.  So a verb that fails has changed nothing but the
device.  Whether the device has changed depends on what it does when it fails, except that a sequence of
keys may have been typed in part.
-/

namespace MacroShell

variable {δ α β : Type}

/-! ## Actions by how they fail -/

namespace ShellM

def Sure (action : ShellM δ α) : Prop := ∀ shell, ∃ a after, action shell = .ok a after

/-- When the action fails it has changed nothing but the device, and that only as `Kept` allows. -/
def FailsWithin (Kept : δ → δ → Prop) (action : ShellM δ α) : Prop :=
  ∀ shell e after, action shell = .error e after →
    ∃ device, Kept shell.device device ∧ after = { shell with device }

theorem sure_pure (a : α) : Sure (pure a : ShellM δ α) := fun shell => ⟨a, shell, rfl⟩

theorem sure_modify (change : Shell δ → Shell δ) (a : α) :
    Sure (do modify change; return a : ShellM δ α) := fun shell => ⟨a, change shell, rfl⟩

section FailsWithin

variable {Kept : δ → δ → Prop} {action : ShellM δ α} {next : α → ShellM δ β}

theorem Sure.failsWithin (sure : action.Sure) : action.FailsWithin Kept := by
  intro shell e after failed
  obtain ⟨a, done, ran⟩ := sure shell
  rw [ran] at failed
  cases failed

theorem failsWithin_throw (refl : ∀ device, Kept device device) (e : ShellError) :
    FailsWithin Kept (throw e : ShellM δ α) := by
  intro shell e after failed
  cases failed
  exact ⟨shell.device, refl _, rfl⟩

theorem failsWithin_store (refl : ∀ device, Kept device device) (path : String) :
    FailsWithin Kept (Execute.store path) := by
  intro shell e after failed
  unfold Execute.store at failed
  split at failed
  · cases failed
  · cases failed
    exact ⟨shell.device, refl _, rfl⟩

/-- What cannot fail may change anything, as long as nothing that fails comes after it. -/
theorem FailsWithin.thenSure (first : action.FailsWithin Kept) (sure : ∀ a, (next a).Sure) :
    (action >>= next).FailsWithin Kept := by
  intro shell e after failed
  cases ran : action shell with
  | ok a middle =>
      obtain ⟨b, done, ended⟩ := sure a middle
      rw [bind_ok ran, ended] at failed
      cases failed
  | error e middle =>
      rw [bind_error ran] at failed
      cases failed
      exact first shell _ _ ran

end FailsWithin

end ShellM

/-! ## Devices that fail -/

/-- When the operation fails it leaves the device as `Kept` allows. -/
def InputDevice.FailsWithin (Kept : δ → δ → Prop) (operation : EStateM ShellError δ α) : Prop :=
  ∀ device e after, operation device = .error e after → Kept device after

/-- When a single action fails it leaves the device as `Kept` allows. -/
structure InputDevice.Careful [InputDevice δ] (Kept : δ → δ → Prop) : Prop where
  pressKey : ∀ key, FailsWithin Kept (pressKey key)
  releaseKey : ∀ key, FailsWithin Kept (releaseKey key)
  tapKey : ∀ key, FailsWithin Kept (tapKey key)
  pressButton : ∀ button, FailsWithin Kept (pressButton button)
  releaseButton : ∀ button, FailsWithin Kept (releaseButton button)
  click : ∀ button, FailsWithin Kept (click button)
  moveCursor : ∀ x y, FailsWithin Kept (moveCursor x y)
  queryCursor : FailsWithin Kept queryCursor

theorem InputDevice.careful_trivial [InputDevice δ] : Careful fun _ _ : δ => True :=
  have any {α : Type} (operation : EStateM ShellError δ α) : FailsWithin (fun _ _ => True) operation :=
    fun _ _ _ _ => trivial
  ⟨fun _ => any _, fun _ => any _, fun _ => any _, fun _ => any _, fun _ => any _, fun _ => any _,
    fun _ _ => any _, any _⟩

theorem ShellM.failsWithin_onDevice {Kept : δ → δ → Prop} {operation : EStateM ShellError δ α}
    (within : InputDevice.FailsWithin Kept operation) : FailsWithin Kept (onDevice operation) := by
  intro shell e after failed
  unfold onDevice at failed
  cases ran : operation shell.device with
  | ok a device =>
      rw [ran] at failed
      cases failed
  | error e device =>
      rw [ran] at failed
      cases failed
      exact ⟨device, within _ _ _ ran, rfl⟩

namespace VirtualDevice

variable {key : Char}

theorem pressKey_of_hasKey (has : hasKey key = true) (device : VirtualDevice) :
    InputDevice.pressKey key device =
      .ok () ({ device with heldKeys := holdKey key device.heldKeys }.record (.keyDown key)) := by
  simp only [InputDevice.pressKey, checkKey, has, if_true]
  rfl

theorem releaseKey_of_hasKey (has : hasKey key = true) (device : VirtualDevice) :
    InputDevice.releaseKey key device =
      .ok () ({ device with heldKeys := device.heldKeys.filter (· ≠ key) }.record (.keyUp key)) := by
  simp only [InputDevice.releaseKey, checkKey, has, if_true]
  rfl

theorem pressKey_of_not_hasKey (lacks : ¬ hasKey key = true) (device : VirtualDevice) :
    InputDevice.pressKey key device = .error (.device s!"no key produces {Text.quoteChar key}") device := by
  simp only [InputDevice.pressKey, checkKey, lacks]
  rfl

theorem releaseKey_of_not_hasKey (lacks : ¬ hasKey key = true) (device : VirtualDevice) :
    InputDevice.releaseKey key device = .error (.device s!"no key produces {Text.quoteChar key}") device := by
  simp only [InputDevice.releaseKey, checkKey, lacks]
  rfl

/-- When the virtual device fails it has done nothing.  Press and release fail for the same reason, so a
    tap does not fail halfway. -/
theorem careful : InputDevice.Careful (δ := VirtualDevice) (· = ·) where
  pressKey key device e after failed := by
    by_cases has : hasKey key = true
    · rw [pressKey_of_hasKey has] at failed
      cases failed
    · rw [pressKey_of_not_hasKey has] at failed
      cases failed
      rfl
  releaseKey key device e after failed := by
    by_cases has : hasKey key = true
    · rw [releaseKey_of_hasKey has] at failed
      cases failed
    · rw [releaseKey_of_not_hasKey has] at failed
      cases failed
      rfl
  tapKey key device e after failed := by
    simp only [InputDevice.tapKey, bind, EStateM.bind] at failed
    by_cases has : hasKey key = true
    · simp only [pressKey_of_hasKey has, releaseKey_of_hasKey has] at failed
      cases failed
    · rw [pressKey_of_not_hasKey has] at failed
      cases failed
      rfl
  pressButton _ _ _ _ failed := by cases failed
  releaseButton _ _ _ _ failed := by cases failed
  click _ _ _ _ failed := by cases failed
  moveCursor _ _ _ _ _ failed := by cases failed
  queryCursor _ _ _ failed := by cases failed

end VirtualDevice

/-! ## Verbs that run no stored text -/

section Deed

open ShellM

variable [InputDevice δ] {Kept : δ → δ → Prop}

theorem InputDevice.Careful.operation (careful : Careful Kept) (operation : Operation) :
    FailsWithin Kept (operation.run : EStateM ShellError δ Unit) := by
  cases operation with
  | pressKey key => exact careful.pressKey key
  | releaseKey key => exact careful.releaseKey key
  | tapKey key => exact careful.tapKey key
  | pressButton button => exact careful.pressButton button
  | releaseButton button => exact careful.releaseButton button
  | moveCursor x y => exact careful.moveCursor x y

variable (refl : ∀ device, Kept device device) (careful : InputDevice.Careful Kept) {verb : Verb}
  (typing : verb = .sequence → ∀ keys, InputDevice.FailsWithin Kept (InputDevice.typeKeys keys))
include refl careful typing

/-- Typing a sequence of keys is no single action, so what it does when it fails is asked for apart. -/
theorem Deed.failsWithin_perform {deed : Deed δ} (fits : deed.Fits (fun _ => True) verb) :
    deed.perform.FailsWithin Kept := by
  cases deed with
  | refuse e => exact failsWithin_throw refl e
  | say output => exact (sure_pure output).failsWithin
  | list text => exact Sure.failsWithin fun shell => ⟨_, shell, rfl⟩
  | make change output => exact (sure_modify _ output).failsWithin
  | act operation => exact (failsWithin_onDevice (careful.operation operation)).thenSure fun _ => sure_pure _
  | typing keys => exact (failsWithin_onDevice (typing fits keys)).thenSure fun _ => sure_pure _
  | click button => exact (failsWithin_onDevice (careful.click button)).thenSure fun _ => sure_modify _ _
  | locate output => exact (failsWithin_onDevice careful.queryCursor).thenSure fun _ => sure_modify _ _
  | store path output => exact (failsWithin_store refl path).thenSure fun _ => sure_pure output

theorem Execute.failsWithin_run (leaf : verb.recalls = false) (runText : String → ShellM δ Unit)
    (operands : List String) : (run runText verb operands).FailsWithin Kept := by
  intro shell e after failed
  obtain ⟨deed, fits, does⟩ := run_eq_perform leaf operands shell
  rw [does runText] at failed
  exact Deed.failsWithin_perform refl careful typing fits shell e after failed

end Deed

/-! ## Commands that fail -/

/-- The opcodes of the verbs that run stored text, and the one of the verb that types keys. -/
theorem VerbEntry.opcode_of_builtin {entry : VerbEntry} (listed : entry ∈ builtins) {opcode : Char}
    (owned : opcode ∈ entry.aliases) :
    (entry.verb.recalls = true → opcode ∈ ['#', '=', '-', '/', '<']) ∧
      (entry.verb = .sequence → opcode = 'S') := by
  -- A quantifier over characters would be decided by trying all of them.
  have each : ∀ entry ∈ builtins, entry.aliases.all fun opcode =>
      decide ((entry.verb.recalls = true → opcode ∈ ['#', '=', '-', '/', '<']) ∧
        (entry.verb = .sequence → opcode = 'S')) := by decide
  exact of_decide_eq_true (List.all_eq_true.mp (each entry listed) opcode owned)

namespace Shell

/-- What is left in the journal by a command that fails and has recalled nothing. -/
def failure (shell : Shell δ) (depth : Nat) (command : Command) (e : ShellError) : Array Effect :=
  #[.dispatched depth command, .failed e] ++ if shell.options.isOn .quiet then #[] else #[.line e.message]

theorem settle_error (shell : Shell δ) (depth : Nat) (command : Command) (e : ShellError) (device : δ) :
    settle (.error e { shell.log (.dispatched depth command) with device }) =
      { shell with device, journal := shell.journal ++ shell.failure depth command e } := by
  rw [settle, conclude, notice_eq, failure, ← Array.append_assoc]
  rfl

theorem dispatch_of_failed [InputDevice δ] {Kept : δ → δ → Prop} (refl : ∀ device, Kept device device)
    (careful : InputDevice.Careful Kept) {command : Command} (leaf : command.opcode ∉ ['#', '=', '-', '/', '<'])
    (typing : command.opcode = 'S' → ∀ keys, InputDevice.FailsWithin Kept (InputDevice.typeKeys keys))
    {depth : Nat} {e : ShellError} {shell after : Shell δ}
    (failed : shell.outcome? command depth = some (.error e after)) :
    ∃ device, Kept shell.device device ∧ shell.dispatch command depth =
      { shell with device, journal := shell.journal ++ shell.failure depth command e } := by
  have unspoilt : ∃ device, Kept shell.device device ∧
      after = { shell.log (.dispatched depth command) with device } := by
    obtain ⟨entry, found, came⟩ := Option.map_eq_some_iff.mp failed
    obtain ⟨listed, owned⟩ := Registry.mem_of_lookup found
    obtain ⟨recalls, types⟩ := VerbEntry.opcode_of_builtin listed owned
    split at came
    · refine Execute.failsWithin_run refl careful (fun same => typing (types same)) ?_ _ _ _ _ _ came
      exact Bool.eq_false_iff.mpr fun same => leaf (recalls same)
    · cases came
      exact ⟨shell.device, refl _, rfl⟩
  obtain ⟨device, kept, rfl⟩ := unspoilt
  exact ⟨device, kept, by rw [dispatch_of_outcome? failed, settle_error]⟩

/-- Take a command that does not run stored text, and suppose that its verb is refused the operands or
    fails.  Then its diagnostic is all that comes of it: registers, hotkeys, options, clicks, the quit flag,
    tasks and files are as before, whatever the device does when it fails.  The virtual device is as
    before too, unless the command types keys. -/
theorem dispatch_failed_leaf {command : Command} (leaf : command.opcode ∉ ['#', '=', '-', '/', '<'])
    (depth : Nat) (e : ShellError) :
    (∀ {δ : Type} [InputDevice δ] {shell after : Shell δ},
      shell.outcome? command depth = some (.error e after) →
      ∃ device, shell.dispatch command depth =
        { shell with device, journal := shell.journal ++ shell.failure depth command e }) ∧
    (command.opcode ≠ 'S' → ∀ {shell after : Shell VirtualDevice},
      shell.outcome? command depth = some (.error e after) →
      shell.dispatch command depth =
        { shell with journal := shell.journal ++ shell.failure depth command e }) := by
  constructor
  · intro δ _ shell after failed
    obtain ⟨device, -, same⟩ := dispatch_of_failed (fun _ => trivial) InputDevice.careful_trivial leaf
      (fun _ _ _ _ _ _ => trivial) failed
    exact ⟨device, same⟩
  · intro single shell after failed
    obtain ⟨_, rfl, same⟩ := dispatch_of_failed (fun _ => rfl) VirtualDevice.careful leaf
      (fun types => absurd types single) failed
    exact same

/-- A click whose release fails has pressed the button and is not counted.  A key that the virtual device
    does not have is not pressed. -/
theorem dispatch_failed_leaf_halfway :
    let faulty : Shell (FaultyDevice VirtualDevice) :=
      { device := ⟨default, [.releaseButton]⟩, dotfile := "rc", clicks := 7 }
    let shell : Shell VirtualDevice := { device := default, dotfile := "rc", clicks := 7 }
    let click : Command := ⟨'C', "C", ["0"]⟩
    let key : Command := ⟨'K', "K", ["é"]⟩
    (∃ e after, faulty.outcome? click 0 = some (.error e after)) ∧
      (faulty.dispatch click 0).device.inner.heldButtons = [.left] ∧ (faulty.dispatch click 0).clicks = 7 ∧
      (∃ e after, shell.outcome? key 3 = some (.error e after)) ∧
      (shell.dispatch key 3).device = shell.device := by
  intro faulty shell click key
  have noRelease : faulty.outcome? click 0 = some (.error _ _) := rfl
  have noKey : shell.outcome? key 3 = some (.error _ _) := rfl
  obtain ⟨device, clicked⟩ := (dispatch_failed_leaf (by decide) 0 _).1 noRelease
  have typed := (dispatch_failed_leaf (by decide) 3 _).2 (by decide) noKey
  refine ⟨⟨_, _, noRelease⟩, by decide, ?_, ⟨_, _, noKey⟩, ?_⟩
  · rw [clicked]
  · rw [typed]

end Shell

end MacroShell
