import MacroShell.Device.Virtual
import MacroShell.Proofs.Following
import MacroShell.Proofs.Snapshots

/-! # Repetitions run their snapshot

A repetition dispatches the commands that its registers held when it was started, over and over, however
often it was told to.  What happens to the registers afterwards is nothing to it, also if it happens in
its own body.  Only the quit flag makes it stop before it is through.
-/

namespace MacroShell

variable {δ : Type}

namespace Task

def Repeats : Task → Prop
  | repetition _ _ | repeating _ _ _ => True
  | watch _ _ _ | watching _ _ _ _ | listener | sampler => False

/-- The commands that a repetition has yet to dispatch.  There are none if one of its texts is no
    command. -/
def ahead : Task → List Command
  | repetition texts count =>
    match Command.parseAll texts with
    | .ok body => (List.replicate count body).flatten
    | .error _ => []
  | repeating body rest passes => rest ++ (List.replicate passes body).flatten
  | watch _ _ _ | watching _ _ _ _ | listener | sampler => []

/-- The steps that a repetition makes before the one in which it ends, unless it has to quit. -/
def stepsAhead : Task → Nat
  | repetition texts count =>
    match Command.parseAll texts with
    | .ok body => count * (body.length + 1) + 1
    | .error _ => 0
  | repeating body rest passes => rest.length + passes * (body.length + 1)
  | watch _ _ _ | watching _ _ _ _ | listener | sampler => 0

variable [InputDevice δ]

/-- What a step of a repetition can do: it ends, it makes ready for a pass, or it dispatches the next
    command. -/
inductive Repeated (task : Task) (shell : Shell δ) : Progress δ → Prop
  | ended (through : task.ahead = [] ∨ shell.quit = true) : Repeated task shell (.ended shell)
  | ready {next : Task} (repeats : next.Repeats) (same : task.ahead = next.ahead)
      (fewer : task.stepsAhead = next.stepsAhead + 1) : Repeated task shell (.ran next shell)
  | ran {next : Task} {command : Command} (repeats : next.Repeats) (first : task.ahead = command :: next.ahead)
      (fewer : task.stepsAhead = next.stepsAhead + 1) :
      Repeated task shell (.ran next (shell.dispatch command 1))

namespace Repeated

variable {task next : Task} {shell : Shell δ} {progress : Progress δ}

theorem single (stepped : task.Repeated shell progress) : Act.Single ⟨shell, progress⟩ := by
  cases stepped with
  | ended | ready => exact .inl (Act.effects_of_still rfl)
  | ran => exact Act.single_of_dispatch rfl

theorem ends (stepped : task.Repeated shell progress) (last : progress.next? = none) :
    Act.commands ⟨shell, progress⟩ = [] ∧ (task.ahead = [] ∨ shell.quit = true) := by
  cases stepped with
  | ended through => exact ⟨Act.commands_of_still rfl, through⟩
  | ready | ran => cases last

theorem goes (stepped : task.Repeated shell progress) (after : progress.next? = some next) :
    next.Repeats ∧ task.ahead = Act.commands ⟨shell, progress⟩ ++ next.ahead ∧
      task.stepsAhead = next.stepsAhead + 1 := by
  cases stepped with
  | ended => cases after
  | ready repeats same fewer =>
      cases after
      exact ⟨repeats, by rw [Act.commands_of_still rfl, same, List.nil_append], fewer⟩
  | ran repeats first fewer =>
      cases after
      exact ⟨repeats, by rw [Act.commands_of_dispatch rfl, first, List.singleton_append], fewer⟩

end Repeated

variable [KeySource δ]

theorem repeated_step {task : Task} (repeats : task.Repeats) (tick : Bool) (shell : Shell δ) :
    task.Repeated shell (task.step tick shell) := by
  match task with
  | .repetition texts count =>
      simp only [step]
      cases parsed : Command.parseAll texts with
      | error e => exact .ended (.inl (by simp [ahead, parsed]))
      | ok body => exact .ready trivial (by simp [ahead, parsed]) (by simp [stepsAhead, parsed])
  | .repeating body (command :: rest) passes =>
      simp only [step]
      split
      · rename_i quits
        exact .ended (.inr quits)
      · exact .ran trivial (by simp [ahead]) (by simp only [stepsAhead, List.length_cons]; omega)
  | .repeating body [] (passes + 1) =>
      have repeats : (repeating body body passes).Repeats := trivial
      refine .ready repeats ?_ ?_
      · simp [ahead, List.replicate_succ]
      · simp only [stepsAhead, List.length_nil, Nat.succ_mul]
        omega
  | .repeating body [] 0 => exact .ended (.inl rfl)

/-- What a repetition dispatches in a run is what it had ahead, from the start, up to where it got. -/
theorem follow_repeats (task : Task) (repeats : task.Repeats) (shell : Shell δ) (turns : List (Turn δ)) :
    let acts := task.follow shell turns
    (∀ act ∈ acts, act.Single) ∧ acts.flatMap Act.commands <+: task.ahead ∧
      ∀ act ∈ acts, act.progress.next? = none → act.before.quit = false →
        acts.flatMap Act.commands = task.ahead := by
  -- On the turns.  A step takes what it dispatches from the front of what is ahead, and others take nothing.
  induction turns generalizing task shell with
  | nil => simp [follow]
  | cons turn turns ih =>
      cases turn with
      | other change => exact ih task repeats (change shell)
      | own tick =>
          have stepped := repeated_step repeats tick shell
          simp only [follow]
          cases after : (task.step tick shell).next? with
          | none =>
              obtain ⟨silent, done⟩ := stepped.ends after
              simp only [List.forall_mem_singleton, List.flatMap_singleton, silent]
              refine ⟨stepped.single, List.nil_prefix, ?_⟩
              intro _ clear
              exact (done.resolve_right (by simp [clear])).symm
          | some next =>
              obtain ⟨repeats, split, -⟩ := stepped.goes after
              obtain ⟨single, reached, whole⟩ := ih next repeats (task.step tick shell).shell
              rw [List.flatMap_cons, split]
              refine ⟨List.forall_mem_cons.mpr ⟨stepped.single, single⟩,
                (List.prefix_append_right_inj _).mpr reached, ?_⟩
              intro act member last clear
              rcases List.mem_cons.mp member with rfl | member
              · simp [after] at last
              · rw [whole act member last clear]

/-- A repetition that gets its turns comes to its end. -/
theorem follow_repeats_ends (task : Task) (repeats : task.Repeats) (shell : Shell δ) {turns : List (Turn δ)}
    (enough : task.stepsAhead < turns.countP Turn.isOwn) :
    ∃ act ∈ task.follow shell turns, act.progress.next? = none := by
  induction turns generalizing task shell with
  | nil => simp at enough
  | cons turn turns ih =>
      cases turn with
      | other change => exact ih task repeats (change shell) (by simpa [Turn.isOwn] using enough)
      | own tick =>
          simp only [List.countP_cons, Turn.isOwn, if_true] at enough
          simp only [follow, List.exists_mem_cons_iff]
          cases after : (task.step tick shell).next? with
          | none => exact .inl rfl
          | some next =>
              obtain ⟨repeats, -, fewer⟩ := (repeated_step repeats tick shell).goes after
              exact .inr (ih next repeats _ (by omega))

end Task

namespace Shell

variable [InputDevice δ] [KeySource δ]

/-- A `*` that succeeds starts one task, with copies of what its registers hold.  In whatever way the
    task then gets its turns, it dispatches the commands in these copies, as often as it was told to and
    in their order, up to where it got; it gets to the end if it has turns enough, unless the quit flag
    is set.  If one of the copies is no command, it does nothing at all. -/
theorem dispatch_repetition_snapshot {head count : String} {registers : List String} {depth : Nat}
    {shell after : Shell δ} {output : Output}
    (succeeds : shell.outcome? ⟨'*', head, count :: registers⟩ depth = some (.ok output after)) :
    ∃ passes slots texts, Text.natural? UInt64.size count = some passes ∧ 0 < passes ∧
      Slot.parseAll .register registers = .ok slots ∧
      List.Forall₂ (fun slot text => shell.registers.get? slot = some text) slots texts ∧
      (shell.dispatch ⟨'*', head, count :: registers⟩ depth).tasks =
        shell.tasks ++ [.repetition texts passes] ∧
      ∀ turns : List (Turn δ),
        let acts := (Task.repetition texts passes).follow
          (shell.dispatch ⟨'*', head, count :: registers⟩ depth) turns
        let ran := acts.flatMap Act.commands
        (∀ act ∈ acts, act.Single) ∧
        (∀ body, List.Forall₂ (fun text command => Command.parse text = .ok command) texts body →
          let whole := (List.replicate passes body).flatten
          ran <+: whole ∧
          (∀ act ∈ acts, act.progress.next? = none → act.before.quit = false → ran = whole) ∧
          (passes * (body.length + 1) + 1 < turns.countP Turn.isOwn →
            ∃ act ∈ acts, act.progress.next? = none)) ∧
        ∀ text ∈ texts, ∀ e, Command.parse text = .error e → ∀ act ∈ acts, act.effects = [] := by
  obtain ⟨passes, slots, texts, counted, positive, parsed, held, spawned⟩ := dispatch_repetition succeeds
  refine ⟨passes, slots, texts, counted, positive, parsed, held, spawned, ?_⟩
  intro turns acts ran
  obtain ⟨single, reached, whole⟩ : (∀ act ∈ acts, act.Single) ∧ _ ∧ _ :=
    Task.follow_repeats (.repetition texts passes) trivial _ turns
  refine ⟨single, ?_, ?_⟩
  · intro body read
    have same := Command.parseAll_eq_ok_iff.mpr read
    simp only [Task.ahead, same] at reached whole
    refine ⟨reached, whole, ?_⟩
    intro enough
    exact Task.follow_repeats_ends (.repetition texts passes) trivial _
      (by simpa only [Task.stepsAhead, same] using enough)
  · intro text member e refused act found
    obtain ⟨e, none⟩ := Command.parseAll_refused member refused
    simp only [Task.ahead, none, List.prefix_nil, List.flatMap_eq_nil_iff] at reached
    exact (single act found).effects_eq_nil (reached act found)

/-- Register `a` is told to overwrite itself with a command that quits, and is repeated three times.  The
    repetition overwrites it three times, and quits at none of them. -/
theorem dispatch_repetition_snapshot_overwritten :
    let slot : Slot .register := ⟨0, by decide⟩
    let shell : Shell VirtualDevice :=
      { device := default, dotfile := "rc", registers := SlotTable.empty.set slot "@ a Q" }
    let command : Command := ⟨'@', "@", ["a", "Q"]⟩
    let line : Command := ⟨'*', "*", ["3", "a"]⟩
    let turns : List (Turn VirtualDevice) := List.replicate 9 (.own false)
    let acts := (Task.repetition ["@ a Q"] 3).follow (shell.dispatch line 0) turns
    (∃ output after, shell.outcome? line 0 = some (.ok output after)) ∧
      acts.flatMap Act.commands = [command, command, command] ∧
      ∃ act ∈ acts, act.commands = [command] ∧ act.before.registers.get? slot = some "Q" := by
  intro slot shell command line turns acts
  have succeeds : shell.outcome? line 0 = some (.ok _ _) := rfl
  refine ⟨⟨_, _, succeeds⟩, ?_, by decide +kernel⟩
  obtain ⟨passes, slots, texts, -, -, -, -, spawned, runs⟩ := dispatch_repetition_snapshot succeeds
  have started : (shell.dispatch line 0).tasks = [.repetition ["@ a Q"] 3] := rfl
  obtain ⟨rfl, rfl⟩ : texts = ["@ a Q"] ∧ passes = 3 := by
    rw [spawned] at started
    simpa [shell] using started
  have read : List.Forall₂ (fun text command => Command.parse text = .ok command) ["@ a Q"] [command] :=
    .cons rfl .nil
  obtain ⟨-, whole, ends⟩ := (runs turns).2.1 [command] read
  obtain ⟨act, member, last⟩ := ends (by decide)
  have clear : ∀ act ∈ acts, act.before.quit = false := by decide +kernel
  exact whole act member last (clear act member)

end Shell

end MacroShell
