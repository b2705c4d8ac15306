import MacroShell.Proofs.Dispatching

/-! # What a recall runs

Five verbs run stored text.  Those that recall registers differ only in how they choose them: the
choice is made before anything runs, and it reads nothing but the registers.  The fifth reads a file
as a whole and runs its lines.
-/

namespace MacroShell

variable {δ α β : Type}

theorem ShellM.check_bind (result : Except ShellError α) (next : α → Except ShellError β) :
    (check (result >>= next) : ShellM δ β) = check result >>= fun a => check (next a) := by
  cases result <;> rfl

theorem ShellM.bind_error {action : ShellM δ α} {next : α → ShellM δ β} {shell after : Shell δ}
    {e : ShellError} (failed : action shell = .error e after) :
    (action >>= next) shell = .error e after := by
  simp only [bind, EStateM.bind, failed]

def Verb.recalls : Verb → Bool
  | recallAll | recallWhen _ | recallEither | load => true
  | _ => false

def Command.recalls (command : Command) : Bool :=
  (Registry.builtin.lookup command.opcode).any (·.verb.recalls)

namespace Execute

/-- Tells whether a register of the table, which may not be empty, holds exactly `value`. -/
def holdsValue (registers : SlotTable .register) (register value : String) :
    Except ShellError Bool := do
  let slot ← Slot.parse .register register
  return (← registers.require slot) = value

/-- The registers that a verb is about to recall. -/
def targets (registers : SlotTable .register) :
    Verb → List String → Except ShellError (List (Slot .register))
  | .recallAll, names => Slot.parseAll .register names
  | .recallWhen equal, condition :: value :: names => do
    let slots ← Slot.parseAll .register names
    return if (← holdsValue registers condition value) = equal then slots else []
  | .recallEither, [condition, value, first, second] => do
    let first ← Slot.parse .register first
    let second ← Slot.parse .register second
    return [if ← holdsValue registers condition value then first else second]
  | _, _ => .ok []

/-- Recalls registers that were chosen, or fails as the choice did. -/
def recallChosen (runText : String → ShellM δ Unit) (chosen : Except ShellError (List (Slot .register))) :
    ShellM δ Output := do
  let slots ← ShellM.check chosen
  recallSlots runText slots
  return .none

theorem conditionHolds_eq (register value : String) (shell : Shell δ) :
    conditionHolds register value shell =
      (ShellM.check (holdsValue shell.registers register value) : ShellM δ Bool) shell := by
  unfold conditionHolds holdsValue parseRegister
  rw [ShellM.check_bind]
  cases Slot.parse .register register with
  | error e => rfl
  | ok slot =>
      change (ShellM.check (shell.registers.require slot) >>= _) shell = ShellM.check _ shell
      rw [ShellM.check_bind]
      rfl

section Recall

variable (runText : String → ShellM δ Unit) (shell : Shell δ)

theorem recallWhen_eq (equal : Bool) (condition value : String) (names : List String) :
    recallWhen runText equal condition value names shell =
      recallChosen runText
        (targets shell.registers (.recallWhen equal) (condition :: value :: names)) shell := by
  have chosen := conditionHolds_eq condition value shell
  rw [recallWhen, parseRegisters, recallChosen, targets]
  cases Slot.parseAll .register names with
  | error e => rfl
  | ok slots =>
      change (conditionHolds condition value >>= _) shell = _
      cases held : holdsValue shell.registers condition value with
      | error e =>
          rw [held] at chosen
          exact ShellM.bind_error chosen
      | ok holds =>
          rw [held] at chosen
          rw [ShellM.bind_ok chosen]
          change _ = (recallSlots runText (if holds = equal then slots else []) >>= fun _ => pure Output.none) shell
          split <;> rfl

theorem recallEither_eq (condition value first second : String) :
    recallEither runText condition value first second shell =
      recallChosen runText
        (targets shell.registers .recallEither [condition, value, first, second]) shell := by
  have chosen := conditionHolds_eq condition value shell
  rw [recallEither, parseRegister, parseRegister, recallChosen, targets]
  cases Slot.parse .register first with
  | error e => rfl
  | ok first =>
      cases Slot.parse .register second with
      | error e => rfl
      | ok second =>
          change (conditionHolds condition value >>= _) shell = _
          cases held : holdsValue shell.registers condition value with
          | error e =>
              rw [held] at chosen
              exact ShellM.bind_error chosen
          | ok holds =>
              rw [held] at chosen
              rw [ShellM.bind_ok chosen]
              rfl

/-- Every verb that recalls registers recalls the ones that it chooses. -/
theorem run_recalls [InputDevice δ] {verb : Verb} (recalls : verb.recalls = true) (other : verb ≠ .load)
    (operands : List String) :
    run runText verb operands shell =
      recallChosen runText (targets shell.registers verb operands) shell := by
  cases verb with
  | recallAll => rfl
  | recallWhen equal =>
      match operands with
      | [] | [_] => rfl
      | condition :: value :: names => exact recallWhen_eq runText shell equal condition value names
  | recallEither =>
      match operands with
      | [] | [_] | [_, _] | [_, _, _] | _ :: _ :: _ :: _ :: _ :: _ => rfl
      | [condition, value, first, second] => exact recallEither_eq runText shell condition value first second
  | load => exact absurd rfl other
  | _ => cases recalls

end Recall
end Execute
end MacroShell
