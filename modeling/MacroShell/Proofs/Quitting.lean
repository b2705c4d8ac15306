import MacroShell.Device.Virtual
import MacroShell.Proofs.Following
import MacroShell.Proofs.Runs

/-! # Background tasks after a quit

Once the quit flag is set it stays set, whatever is entered.  Repetitions, the listener and the sampler
look at it before everything they do, so they do nothing more.  A loop looks at it only between two
passes: it may finish the pass that it is in.
-/

namespace MacroShell

variable {δ : Type}

def Invariant.quitting : Invariant δ where
  Inv shell := shell.quit = true
  Fine _ := True
  hereditary := .trivial
  holds _ := Shell.holds_trivial _
  change {_ change} quits _ := by cases change <;> exact quits
  log quits _ _ := quits
  quit _ := rfl
  save quits _ := quits

namespace Shell

variable [InputDevice δ] {shell : Shell δ}

theorem dispatch_of_quit (quits : shell.quit = true) (command : Command) (depth : Nat) :
    (shell.dispatch command depth).quit = true :=
  Invariant.quitting.dispatch (fun _ _ quits => quits) (fun _ _ => trivial) depth quits

theorem performAll_of_quit [KeySource δ] (quits : shell.quit = true) (steps : List (Step δ)) :
    (shell.performAll steps).quit = true :=
  Invariant.quitting.performAll (fun _ _ quits => quits) (fun _ quits => quits)
    (fun step _ => step.holds_trivial) quits

end Shell

/-- What happens in the turn happens in a run: the task makes a step, or the others make theirs. -/
def Turn.OfRun [InputDevice δ] [KeySource δ] : Turn δ → Prop
  | own _ => True
  | other change => ∃ steps, change = fun shell => shell.performAll steps

namespace Task

/-- The commands that a loop has yet to run in its pass. -/
def leftOfPass : Task → List Command
  | watching _ _ _ rest => rest
  | repetition _ _ | repeating _ _ _ | watch _ _ _ | listener | sampler => []

variable [InputDevice δ] [KeySource δ]

/-- What a step after a quit can do: nothing, and then nothing is left of a pass, or it runs the next
    command that was left. -/
inductive Spent (task : Task) (shell : Shell δ) : Progress δ → Prop
  | ended : Spent task shell (.ended shell)
  | idle {next : Task} (none : next.leftOfPass = []) : Spent task shell (.idle next shell)
  | ready {next : Task} (none : next.leftOfPass = []) : Spent task shell (.ran next shell)
  | ran {next : Task} {command : Command} (left : task.leftOfPass = command :: next.leftOfPass) :
      Spent task shell (.ran next (shell.dispatch command 1))

theorem spent_step (task : Task) (tick : Bool) {shell : Shell δ} (quits : shell.quit = true) :
    task.Spent shell (task.step tick shell) := by
  match task with
  | .repetition texts count | .watch condition value texts =>
      simp only [step]
      cases Command.parseAll texts with
      | ok body => exact .ready rfl
      | error e => exact .ended
  | .repeating body (command :: rest) passes =>
      simp only [step, if_pos quits]
      exact .ended
  | .repeating body [] (passes + 1) => exact .ready rfl
  | .repeating body [] 0 => exact .ended
  | .watching condition value body (command :: rest) =>
      simp only [step]
      split
      · exact .ran rfl
      · exact .idle rfl
  | .watching condition value body [] =>
      simp only [step, if_pos quits]
      exact .ended
  | .listener =>
      simp only [step, if_pos quits]
      exact .ended
  | .sampler =>
      simp only [step, if_pos quits]
      split
      · exact .idle rfl
      · exact .ended

/-- Once the quit flag is set it is set for good, and all that a task still dispatches is what is left of
    the pass that it is in, which is nothing unless it is a loop.  Every other step of it leaves the shell
    as it is: no hotkey fires and no sample is taken. -/
theorem follow_of_quit (task : Task) {shell : Shell δ} (quits : shell.quit = true) {turns : List (Turn δ)}
    (run : ∀ turn ∈ turns, turn.OfRun) :
    let acts := task.follow shell turns
    (∀ act ∈ acts, act.before.quit = true ∧ act.progress.shell.quit = true) ∧
    acts.flatMap Act.commands <+: task.leftOfPass ∧
    ∀ act ∈ acts, act.commands = [] → act.progress.shell = act.before := by
  -- On the turns.  What is left of the pass shrinks with every command, and is gone after any other step.
  induction turns generalizing task shell with
  | nil => simp [follow]
  | cons turn turns ih =>
      obtain ⟨now, later⟩ := List.forall_mem_cons.mp run
      cases turn with
      | other change =>
          obtain ⟨steps, rfl⟩ := now
          exact ih task (Shell.performAll_of_quit quits steps) later
      | own tick =>
          have stepped := task.spent_step tick quits
          simp only [follow]
          generalize task.step tick shell = progress at stepped
          cases stepped with
          | ended =>
              simp only [Progress.next?, List.forall_mem_singleton, List.flatMap_singleton]
              rw [Act.commands_of_still rfl]
              exact ⟨⟨quits, quits⟩, List.nil_prefix, fun _ => rfl⟩
          | idle none | ready none =>
              obtain ⟨set, rest, others⟩ := ih _ quits later
              rw [none, List.prefix_nil] at rest
              simp only [Progress.next?, Progress.shell, List.forall_mem_cons, List.flatMap_cons, rest]
              rw [Act.commands_of_still rfl]
              exact ⟨⟨⟨quits, quits⟩, set⟩, List.nil_prefix, fun _ => trivial, others⟩
          | @ran next command left =>
              have stays := Shell.dispatch_of_quit quits command 1
              obtain ⟨set, rest, others⟩ := ih next stays later
              simp only [Progress.next?, Progress.shell, List.forall_mem_cons, List.flatMap_cons, left]
              rw [Act.commands_of_dispatch rfl]
              exact ⟨⟨⟨quits, stays⟩, set⟩, (List.prefix_append_right_inj [command]).mpr rest, by simp, others⟩

/-- The flag is set while a loop has printed the first of three texts.  The second is still printed; then
    somebody enters a line that takes the value away, and the third is not. -/
theorem follow_of_quit_halted :
    let slot : Slot .register := ⟨2, by decide⟩
    let shell : Shell VirtualDevice :=
      { device := default, dotfile := "rc", quit := true, registers := SlotTable.empty.set slot "go" }
    let print (word : String) : Command := ⟨'P', "P", [word]⟩
    let loop : Task := .watching slot "go" (["one", "two", "three"].map print) (["two", "three"].map print)
    let turns : List (Turn VirtualDevice) :=
      [.own false, .other fun shell => shell.performAll [.execute "@ c stop"], .own false, .own false]
    let acts := loop.follow shell turns
    shell.quit = true ∧ (∀ turn ∈ turns, turn.OfRun) ∧
      acts.flatMap Act.commands <+: ["two", "three"].map print ∧ acts.length = 3 ∧
      acts.flatMap Act.commands = [print "two"] := by
  intro slot shell print loop turns acts
  have run : ∀ turn ∈ turns, turn.OfRun := by
    simp only [turns, List.forall_mem_cons]
    exact ⟨trivial, ⟨_, rfl⟩, trivial, trivial, nofun⟩
  exact ⟨rfl, run, (loop.follow_of_quit rfl run).2.1, by decide +kernel, by decide +kernel⟩

/-- A loop over two registers, the first of which quits; no hook ends the program.  The second is run
    with the flag already set. -/
theorem follow_finishes_pass :
    let start : Shell VirtualDevice := { device := default, dotfile := "rc", hooked := false }
    let shell := start.performAll
      [.execute "@ c go", .execute "@ a Q", .execute "@ b P after", .execute "^ c go a b"]
    let loop : Task := .watch ⟨2, by decide⟩ "go" ["Q", "P after"]
    shell.tasks = [loop] ∧ shell.quit = false ∧
      ∃ act ∈ loop.follow shell (List.replicate 4 (.own false)),
        act.before.quit = true ∧ act.commands = [⟨'P', "P", ["after"]⟩] := by
  decide +kernel

end Task

end MacroShell
