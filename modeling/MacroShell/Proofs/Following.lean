import MacroShell.Proofs.Nesting
import MacroShell.Shell.Background

/-! # Following a task

A task makes its steps one at a time, and between two of them anything may happen to the shell: lines
are entered, keys are pressed, other tasks make their steps.  Here one task is followed through such a
run, from step to step.  Nothing is asked of what the others do, so what holds of every followed task
holds whenever and however they get their turns; that a task is driven alone for a while is one way.
-/

namespace MacroShell

variable {δ : Type}

namespace Progress

def shell : Progress δ → Shell δ
  | ended shell | idle _ shell | ran _ shell => shell

/-- The task as it goes on, unless it has ended. -/
def next? : Progress δ → Option Task
  | ended _ => none
  | idle task _ | ran task _ => some task

def isIdle : Progress δ → Bool
  | idle _ _ => true
  | ended _ | ran _ _ => false

end Progress

/-- The command that was dispatched, if one was at this depth. -/
def Effect.command? (depth : Nat) : Effect → Option Command
  | dispatched inner command => if inner = depth then some command else none
  | failed _ | line _ | slept _ | saved _ _ | quitHook => none

/-- A step that a task made, and the shell in which it made it. -/
structure Act (δ : Type) where
  before : Shell δ
  progress : Progress δ

namespace Act

/-- What the step added to the journal. -/
def effects (act : Act δ) : List Effect :=
  act.progress.shell.journal.toList.drop act.before.journal.size

/-- The commands that the task dispatched, which it does at depth 1.  What these recall is dispatched
    deeper. -/
def commands (act : Act δ) : List Command := act.effects.filterMap (Effect.command? 1)

/-- The step did nothing, or it dispatched one command at depth 1 and all else belongs to that. -/
def Single (act : Act δ) : Prop :=
  act.effects = [] ∨ ∃ command deeper, act.effects = .dispatched 1 command :: deeper ∧
    ∀ inner nested, .dispatched inner nested ∈ deeper → 1 < inner

theorem effects_of_still {act : Act δ} (still : act.progress.shell = act.before) : act.effects = [] := by
  rw [effects, still, ← Array.length_toList, List.drop_length]

theorem commands_of_still {act : Act δ} (still : act.progress.shell = act.before) : act.commands = [] := by
  rw [commands, effects_of_still still, List.filterMap_nil]

theorem Single.effects_eq_nil {act : Act δ} (single : act.Single) (silent : act.commands = []) :
    act.effects = [] := by
  rcases single with none | ⟨command, deeper, split, -⟩
  · exact none
  · simp [commands, split, Effect.command?] at silent

/-- A step that is not the last of its task leaves that to the steps after it. -/
theorem last_of_cons {first : Act δ} {acts : List (Act δ)} {next : Task}
    (goes : first.progress.next? = some next) (last : ∃ act ∈ first :: acts, act.progress.next? = none) :
    ∃ act ∈ acts, act.progress.next? = none := by
  rcases (List.exists_mem_cons_iff _ _ _).mp last with ends | later
  · rw [goes] at ends
    cases ends
  · exact later

variable [InputDevice δ] {act : Act δ} {command : Command}

theorem effects_of_dispatch (ran : act.progress.shell = act.before.dispatch command 1) :
    ∃ deeper, act.effects = .dispatched 1 command :: deeper ∧
      ∀ inner nested, .dispatched inner nested ∈ deeper → 1 < inner := by
  obtain ⟨deeper, grown, below⟩ := Shell.nested_of_stages (Shell.dispatch_stages command 1 act.before)
  refine ⟨deeper, ?_, fun inner nested member => (below inner nested member).1⟩
  rw [effects, ran, grown]
  simp [Shell.log]

theorem single_of_dispatch (ran : act.progress.shell = act.before.dispatch command 1) : act.Single := by
  obtain ⟨deeper, split, below⟩ := effects_of_dispatch ran
  exact .inr ⟨command, deeper, split, below⟩

theorem commands_of_dispatch (ran : act.progress.shell = act.before.dispatch command 1) :
    act.commands = [command] := by
  obtain ⟨deeper, split, below⟩ := effects_of_dispatch ran
  have others : deeper.filterMap (Effect.command? 1) = [] := by
    rw [List.filterMap_eq_nil_iff]
    intro effect member
    cases effect with
    | dispatched inner nested =>
        have := below inner nested member
        exact if_neg (by omega)
    | failed | line | slept | saved | quitHook => rfl
  have first : Effect.command? 1 (.dispatched 1 command) = some command := by simp [Effect.command?]
  rw [commands, split, List.filterMap_cons_some first, others]

end Act

/-- A turn of a run in which one task is followed. -/
inductive Turn (δ : Type) where
  /-- The task makes a step; `tick` tells whether the time of a sample has come. -/
  | own (tick : Bool)
  /-- Something else happens to the shell. -/
  | other (change : Shell δ → Shell δ)

def Turn.isOwn : Turn δ → Bool
  | own _ => true
  | other _ => false

namespace Task

variable [InputDevice δ] [KeySource δ]

/-- The steps that a task makes in a run, up to its end. -/
def follow (task : Task) (shell : Shell δ) : List (Turn δ) → List (Act δ)
  | [] => []
  | .other change :: turns => task.follow (change shell) turns
  | .own tick :: turns =>
    let progress := task.step tick shell
    ⟨shell, progress⟩ ::
      match progress.next? with
      | none => []
      | some next => next.follow progress.shell turns

/-- A task that is driven makes steps of its own and nothing else happens between them.  So what it comes
    to is what the last of these steps came to. -/
theorem drive_eq_follow (task : Task) (tick : Bool) (fuel : Nat) (shell : Shell δ) :
    ∃ count, task.drive tick fuel shell =
      ((task.follow shell (List.replicate count (.own tick))).getLast?.map fun act =>
        (act.progress.next?, act.progress.shell)).getD (some task, shell) := by
  induction fuel generalizing task shell with
  | zero => exact ⟨0, rfl⟩
  | succ fuel ih =>
      unfold drive
      cases stepped : task.step tick shell with
      | ended after | idle next after =>
          refine ⟨1, ?_⟩
          simp [follow, stepped, Progress.next?, Progress.shell]
      | ran next after =>
          obtain ⟨count, rest⟩ := ih next after
          refine ⟨count + 1, ?_⟩
          simp only [List.replicate_succ, follow, stepped, Progress.next?, Progress.shell, rest,
            List.getLast?_cons]
          cases (next.follow after (List.replicate count (.own tick))).getLast? <;> rfl

end Task

end MacroShell
