import MacroShell.Shell.Execute

/-! # Dispatch

A command is dispatched to its verb, and what the verb ends with is carried out. Stored text that a
verb recalls is dispatched one level deeper, down to `recallLimit` levels below the command that
was entered; from there on a recall fails.
-/

namespace MacroShell.Shell

variable {δ : Type} [InputDevice δ]

/-- The deepest level at which a command runs. -/
def recallLimit : Nat := 256

/-- Runs a command, with `runText` for the stored text that it recalls. An opcode without a verb is
ignored. -/
def dispatchWith (runText : String → ShellM δ Unit) (depth : Nat) (command : Command)
    (shell : Shell δ) : Shell δ :=
  let shell := shell.log (.dispatched depth command)
  match Registry.builtin.lookup command.opcode with
  | none => shell
  | some entry =>
    let action : ShellM δ Output :=
      if entry.arity.accepts command.operands.length then
        Execute.run runText entry.verb command.operands
      else throw (.arity entry.name entry.usage)
    match action shell with
    | .ok output shell => shell.conclude (.ok output)
    | .error e shell => shell.conclude (.error e)

/-- Runs stored text one level below `depth`, with `levels` levels left. Once the shell is no longer
`live`, the text is passed over. -/
def recallWhile (live : Shell δ → Bool) : (levels depth : Nat) → String → ShellM δ Unit
  | 0, _, _ => throw (.recallDepth recallLimit)
  | levels + 1, depth, text => do
    if live (← get) then
      let command ← ShellM.check (Command.parse text)
      modify (dispatchWith (recallWhile live levels (depth + 1)) (depth + 1) command)

/-- Runs the text that a command at `depth` recalls. -/
def recallText (depth : Nat) : String → ShellM δ Unit :=
  recallWhile (fun _ => true) (recallLimit - depth) depth

/-- Runs a command that stands `depth` recalls below the one that was entered. -/
def dispatch (command : Command) (depth : Nat) (shell : Shell δ) : Shell δ :=
  dispatchWith (recallText depth) depth command shell

/-- Runs a line that was entered. -/
def executeLine (line : String) (shell : Shell δ) : Shell δ :=
  match Command.parse line with
  | .ok command => shell.dispatch command 0
  | .error e => shell.conclude (.error e)

/-- Runs a line that may start with the prompt. -/
def enterLine (line : String) (shell : Shell δ) : Shell δ :=
  shell.executeLine (stripLeader line (shell.options.get .leader))

end MacroShell.Shell
