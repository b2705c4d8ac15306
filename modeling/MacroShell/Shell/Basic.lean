import MacroShell.Command
import MacroShell.Device.Basic
import MacroShell.FileTree
import MacroShell.OptionTable
import MacroShell.Slot.Table

/-! # The shell

The state that commands act on: slot tables, options, the click counter and the quit flag, and
around them a device, the files, the background tasks and a journal of what was done.
-/

namespace MacroShell

/-- The part of a shell that its commands set and read. -/
structure State where
  registers : SlotTable .register := .empty
  hotkeys : SlotTable .hotkey := .empty
  options : OptionTable := {}
  /-- The clicks since the last sample; the count wraps around. -/
  clicks : UInt64 := 0
  quit : Bool := false

/-- Work that goes on beside the commands that are entered. -/
inductive Task where
  /-- A repetition of stored texts, not yet begun. -/
  | repetition (texts : List String) (count : Nat)
  /-- A repetition with `passes` passes to begin, in the middle of a pass with `rest` to run. -/
  | repeating (body rest : List Command) (passes : Nat)
  /-- A loop over stored texts while a register has a value, not yet begun. -/
  | watch (condition : Slot .register) (value : String) (texts : List String)
  /-- Such a loop in the middle of a pass with `rest` to run; a pass begins when nothing is
  left. -/
  | watching (condition : Slot .register) (value : String) (body rest : List Command)
  /-- Runs what is bound to the keys that are pressed. -/
  | listener
  /-- Publishes the number of clicks from time to time. -/
  | sampler
deriving DecidableEq, Repr

/-- What happens in a run, in the order in which it happens. -/
inductive Effect where
  /-- A command was dispatched, `depth` recalls below the command that was entered. -/
  | dispatched (depth : Nat) (command : Command)
  /-- A command failed; its diagnostic, if there is one, follows. -/
  | failed (error : ShellError)
  /-- A line was written to the console; its text may have line feeds. -/
  | line (text : String)
  /-- The shell waited for some milliseconds. -/
  | slept (milliseconds : Nat)
  | saved (path content : String)
  /-- The quit hook ran. -/
  | quitHook
deriving DecidableEq, Repr

structure Shell (δ : Type) extends State where
  device : δ
  files : FileTree := .empty
  /-- The tasks that have not ended, in the order in which they were started. -/
  tasks : List Task := []
  journal : Array Effect := #[]
  /-- The file that save and load use when none is named. -/
  dotfile : String
  /-- A hook is installed that runs whenever a command quits. -/
  hooked : Bool := true

/-- What a command that succeeds has to say. -/
inductive Output where
  /-- Always printed. -/
  | text (text : String)
  /-- A confirmation, printed unless the shell is quiet. -/
  | notice (text : String)
  | none
  /-- Asks the shell to quit. -/
  | quit
deriving DecidableEq, Repr

/-- Actions of a verb: they act on a shell and may fail, and what they did before they failed
stays done. -/
abbrev ShellM (δ : Type) := EStateM ShellError (Shell δ)

/-- The lines among effects. -/
def Effect.lines (effects : List Effect) : List String :=
  effects.filterMap fun
    | .line text => some text
    | _ => none

theorem Effect.lines_append (early late : List Effect) :
    lines (early ++ late) = lines early ++ lines late := List.filterMap_append

namespace Shell

variable {δ : Type}

def log (shell : Shell δ) (effect : Effect) : Shell δ :=
  { shell with journal := shell.journal.push effect }

def print (shell : Shell δ) (text : String) : Shell δ := shell.log (.line text)

/-- Prints unless the shell is quiet. -/
def notice (shell : Shell δ) (text : String) : Shell δ :=
  if shell.options.isOn .quiet then shell else shell.print text

/-- Starts a task; its turn comes with the next round. -/
def spawn (shell : Shell δ) (task : Task) : Shell δ :=
  { shell with tasks := shell.tasks ++ [task] }

def requestQuit (shell : Shell δ) : Shell δ :=
  let shell := { shell with quit := true }
  if shell.hooked then shell.log .quitHook else shell

/-- Carries out what a command ended with. A failure becomes a diagnostic and goes no further. -/
def conclude (shell : Shell δ) : Except ShellError Output → Shell δ
  | .ok (.text text) => shell.print text
  | .ok (.notice text) => shell.notice text
  | .ok .none => shell
  | .ok .quit => shell.requestQuit
  | .error e => (shell.log (.failed e)).notice e.message

def setRegister (shell : Shell δ) (slot : Slot .register) (text : String) : Shell δ :=
  { shell with registers := shell.registers.set slot text }

def setHotkey (shell : Shell δ) (slot : Slot .hotkey) (text : String) : Shell δ :=
  { shell with hotkeys := shell.hotkeys.set slot text }

/-- A shell with the given settings; fails at the first unknown option. -/
def build (device : δ) (dotfile : String) (settings : List (String × String)) :
    Except ShellError (Shell δ) := do
  let options ← OptionTable.setAll {} settings
  return { options, device, dotfile }

end Shell

namespace ShellM

variable {δ α : Type}

/-- Goes on with a result, or fails with its error. -/
def check : Except ShellError α → ShellM δ α
  | .ok a => pure a
  | .error e => throw e

/-- Lets the device act. -/
def onDevice (action : EStateM ShellError δ α) : ShellM δ α := fun shell =>
  match action shell.device with
  | .ok a device => .ok a { shell with device }
  | .error e device => .error e { shell with device }

end ShellM

end MacroShell
