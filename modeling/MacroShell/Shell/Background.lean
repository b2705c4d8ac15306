import MacroShell.Shell.Dispatch

/-! # Background tasks

A task advances by steps, each of which runs at most one command. A task that has nothing to do for
the moment idles; in a round every task runs until it idles or ends, one after the other.
-/

namespace MacroShell.Shell

variable {δ : Type} [InputDevice δ]

/-- Takes the number of clicks since the last sample, and publishes it if that is asked for. -/
def sample (shell : Shell δ) : UInt64 × Shell δ :=
  let clicks := shell.clicks
  let shell := { shell with clicks := 0 }
  if shell.options.isOn .clickRate then
    (clicks, shell.setRegister Slot.clickRate (toString clicks.toNat))
  else (clicks, shell)

/-- Handles the next key press, if one waits: runs what is bound to its character, and tells the
character if something is. -/
def handleKey [KeySource δ] (shell : Shell δ) : Option (Option Char × Shell δ) :=
  (KeySource.nextKey shell.device).map fun (press, device) =>
    let shell := { shell with device }
    match (Slot.ofChar? .hotkey press.char).bind shell.hotkeys.get? with
    | none => (none, shell)
    | some text =>
      match Command.parse text with
      | .ok command => (some press.char, shell.dispatch command 1)
      | .error _ => (some press.char, shell)

/-- One turn of a listener that does not wait for keys and sleeps for `idle` milliseconds while
hotkeys are off. -/
def listen [KeySource δ] (idle : Nat) (shell : Shell δ) : Option Char × Shell δ :=
  if shell.options.isOn .hotkeys then shell.handleKey.getD (none, shell)
  else (none, shell.log (.slept idle))

end Shell

/-- What a step of a task leads to. -/
inductive Progress (δ : Type) where
  | ended (shell : Shell δ)
  /-- The task waits until its next round. -/
  | idle (task : Task) (shell : Shell δ)
  /-- The task goes on. -/
  | ran (task : Task) (shell : Shell δ)

namespace Task

variable {δ : Type} [InputDevice δ] [KeySource δ]

/-- One step of a task; `tick` tells whether the time of a sample has come. -/
def step (tick : Bool) (shell : Shell δ) : Task → Progress δ
  | repetition texts count =>
    match Command.parseAll texts with
    | .ok body => .ran (repeating body [] count) shell
    | .error _ => .ended shell
  | repeating body (command :: rest) passes =>
    if shell.quit then .ended shell
    else .ran (repeating body rest passes) (shell.dispatch command 1)
  | repeating body [] (passes + 1) => .ran (repeating body body passes) shell
  | repeating _ [] 0 => .ended shell
  | watch condition value texts =>
    match Command.parseAll texts with
    | .ok body => .ran (watching condition value body []) shell
    | .error _ => .ended shell
  | watching condition value body (command :: rest) =>
    if shell.registers.get? condition = some value then
      .ran (watching condition value body rest) (shell.dispatch command 1)
    else .idle (watching condition value body []) shell
  | watching condition value body [] =>
    if shell.quit then .ended shell else .ran (watching condition value body body) shell
  | listener =>
    if shell.quit then .ended shell
    else if shell.options.isOn .hotkeys then
      match shell.handleKey with
      | some (_, shell) => .ran listener shell
      | none => .idle listener shell
    else .idle listener shell
  | sampler =>
    if !tick then .idle sampler shell
    else if shell.quit then .ended shell
    else .idle sampler shell.sample.2

/-- Runs a task until it idles or ends, for at most `fuel` steps. The task is given back if it has
not ended. -/
def drive (tick : Bool) : (fuel : Nat) → Task → Shell δ → Option Task × Shell δ
  | 0, task, shell => (some task, shell)
  | fuel + 1, task, shell =>
    match task.step tick shell with
    | .ended shell => (none, shell)
    | .idle task shell => (some task, shell)
    | .ran task shell => drive tick fuel task shell

end Task

namespace Shell

variable {δ : Type} [InputDevice δ] [KeySource δ]

/-- Drives the tasks of a queue in turn; those that they start go to its end. `waiting` holds the
tasks that were driven and have not ended, the last one first. -/
def driveQueue (tick : Bool) (fuel : Nat) :
    (turns : Nat) → (queue waiting : List Task) → Shell δ → Shell δ
  | turns + 1, task :: queue, waiting, shell =>
    let (left, shell) := task.drive tick fuel shell
    driveQueue tick fuel turns (queue ++ shell.tasks) (left.toList ++ waiting)
      { shell with tasks := [] }
  | _, queue, waiting, shell => { shell with tasks := waiting.reverse ++ queue ++ shell.tasks }

/-- One round: every task that has not ended, also one that is started meanwhile, runs alone until
it idles or ends. A loop need not do either, so the round has at most `fuel` turns of at most
`fuel` steps. -/
def round (tick : Bool) (fuel : Nat) (shell : Shell δ) : Shell δ :=
  driveQueue tick fuel fuel shell.tasks [] { shell with tasks := [] }

end Shell

end MacroShell
