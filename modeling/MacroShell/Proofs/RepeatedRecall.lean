import Mathlib.Logic.Function.Iterate
import MacroShell.Proofs.RecordRecall
import MacroShell.Proofs.Repetitions

/-! # Repeating registers and recalling them

A repetition runs copies of texts, made once and taken apart once.  A recall reads the register again for
every command and takes its text apart each time.  As long as the registers go on to hold what was
copied, and nothing quits, both dispatch the same commands in the same shells.  All that shows is that a recall
announces each of them.
-/

namespace MacroShell

variable {δ : Type}

/-! ## Acts that dispatch -/

namespace Act

/-- The step dispatched something. -/
def dispatches (act : Act δ) : Bool := !act.commands.isEmpty

theorem dispatches_of_still {act : Act δ} (still : act.progress.shell = act.before) : act.dispatches = false := by
  rw [dispatches, commands_of_still still]
  rfl

/-- What is seen when the command of a step is recalled: the notice, unless the shell is quiet then, and
    what the step itself adds to the journal. -/
def recalled (named : Slot .register × String) (act : Act δ) : List Effect :=
  (if act.before.options.isOn .quiet then []
    else [.line s!"Recalling command in register '{named.1.char}': {named.2}"]) ++ act.effects

theorem lines_recalled (named : Slot .register × String) (act : Act δ) :
    Effect.lines (act.recalled named) =
      (if act.before.options.isOn .quiet then []
        else [s!"Recalling command in register '{named.1.char}': {named.2}"]) ++ Effect.lines act.effects := by
  rw [recalled, Effect.lines_append]
  split <;> rfl

variable [InputDevice δ]

theorem dispatches_of_dispatch {act : Act δ} {command : Command}
    (ran : act.progress.shell = act.before.dispatch command 1) : act.dispatches = true := by
  rw [dispatches, commands_of_dispatch ran]
  rfl

/-- The commands are dispatched one after the other, one in each step, and nothing happens between the
    steps. -/
inductive Run : Shell δ → List Command → List (Act δ) → Shell δ → Prop
  | nil (shell : Shell δ) : Run shell [] [] shell
  | cons (act : Act δ) {command : Command} {commands : List Command} {acts : List (Act δ)} {after : Shell δ}
      (ran : act.progress.shell = act.before.dispatch command 1) (rest : Run act.progress.shell commands acts after) :
      Run act.before (command :: commands) (act :: acts) after

/-- What a step adds to the journal does not hang on what is there, nor does anything else that it does. -/
theorem dispatch_journal {act : Act δ} {command : Command} (ran : act.progress.shell = act.before.dispatch command 1)
    (journal : Array Effect) :
    { act.before with journal : Shell δ }.dispatch command 1 =
      { act.progress.shell with journal := journal ++ act.effects.toArray } := by
  obtain ⟨effects, same⟩ := Shell.dispatch_effects command 1 act.before
  have grown : act.progress.shell.journal = act.before.journal ++ effects := by
    rw [ran]
    exact congrArg Shell.journal (same act.before.journal)
  have added : act.effects.toArray = effects := by
    rw [Act.effects, grown, Array.toList_append, ← Array.length_toList, List.drop_left, Array.toArray_toList]
  rw [same, ran, added]

namespace Run

variable {start after : Shell δ} {commands more : List Command} {acts : List (Act δ)}

theorem split (run : Run start (commands ++ more) acts after) :
    ∃ first rest middle, acts = first ++ rest ∧ Run start commands first middle ∧ Run middle more rest after := by
  induction commands generalizing start acts with
  | nil => exact ⟨[], acts, start, rfl, .nil start, run⟩
  | cons command commands ih =>
      cases run with
      | cons act ran rest =>
          obtain ⟨first, later, middle, rfl, run, run'⟩ := ih rest
          exact ⟨act :: first, later, middle, rfl, .cons act ran run, run'⟩

theorem length_eq (run : Run start commands acts after) : acts.length = commands.length := by
  induction run with
  | nil => rfl
  | cons _ _ _ ih => rw [List.length_cons, List.length_cons, ih]

theorem commands_eq (run : Run start commands acts after) : acts.flatMap Act.commands = commands := by
  induction run with
  | nil => rfl
  | cons _ ran _ ih => rw [List.flatMap_cons, ih, commands_of_dispatch ran, List.singleton_append]

theorem journal_eq (run : Run start commands acts after) :
    after.journal = start.journal ++ (acts.flatMap Act.effects).toArray := by
  induction run with
  | nil => simp
  | @cons act command _ acts after ran _ ih =>
      have grown := congrArg Shell.journal (dispatch_journal ran act.before.journal)
      rw [ih, ran, grown]
      simp

end Run
end Act

/-! ## Recalling what was run -/

namespace Shell

variable [InputDevice δ] {start after : Shell δ} {named : List (Slot .register × String)} {body : List Command}
  {acts : List (Act δ)}

/-- The registers hold the texts. -/
def HoldsAll (shell : Shell δ) (named : List (Slot .register × String)) : Prop :=
  ∀ entry ∈ named, shell.registers.get? entry.1 = some entry.2

instance (shell : Shell δ) (named : List (Slot .register × String)) : Decidable (shell.HoldsAll named) :=
  inferInstanceAs (Decidable (∀ entry ∈ named, _))

/-- Along the commands.  When a register comes to be recalled, its command has been run up to there in both,
    and only the journals differ. -/
theorem recallSlots_run (run : Act.Run start body acts after)
    (read : List.Forall₂ (fun entry command => Command.parse entry.2 = .ok command) named body)
    (held : ∀ act ∈ acts, act.before.HoldsAll named) (journal : Array Effect) :
    Execute.recallSlots (recallText 0) (named.map Prod.fst) { start with journal } =
      .ok () { after with journal := journal ++ (List.zipWith Act.recalled named acts).flatten.toArray } := by
  induction run generalizing named journal with
  | nil shell =>
      cases read
      simp only [List.map_nil, Execute.recallSlots, List.zipWith_nil_left, List.flatten_nil, Array.append_empty]
      rfl
  | @cons act command _ acts after ran _ ih =>
      obtain ⟨⟨slot, text⟩, others, parsed, later, rfl⟩ := List.forall₂_cons_right_iff.mp read
      have rest : ∀ act ∈ acts, act.before.HoldsAll others := fun act member entry found =>
        held act (List.mem_cons_of_mem _ member) entry (List.mem_cons_of_mem _ found)
      have here : { act.before with journal : Shell δ }.registers.get? slot = some text :=
        held act List.mem_cons_self (slot, text) List.mem_cons_self
      have shown := notice_eq { act.before with journal } s!"Recalling command in register '{slot.char}': {text}"
      have recalled := recallText_of_parse (by decide : 0 < recallLimit) parsed
        ({ act.before with journal : Shell δ }.notice s!"Recalling command in register '{slot.char}': {text}")
      rw [List.map_cons, Execute.recallSlots_cons here recalled, shown, Act.dispatch_journal ran, ih later rest]
      simp only [List.zipWith_cons_cons, List.flatten_cons, Act.recalled]
      split <;> simp

theorem parseAll_char (slots : List (Slot .register)) :
    Slot.parseAll .register (slots.map fun slot => String.singleton slot.char) = .ok slots := by
  rw [Slot.parseAll, mapM_eq_ok_iff, List.forall₂_map_left_iff, List.forall₂_same]
  exact fun slot _ => slot.parse_char

/-- A line that recalls the registers does what the pass does. -/
theorem executeLine_run (nonempty : named ≠ []) (run : Act.Run start body acts after)
    (read : List.Forall₂ (fun entry command => Command.parse entry.2 = .ok command) named body)
    (held : ∀ act ∈ acts, act.before.HoldsAll named) (journal : Array Effect) :
    ∃ effects, { start with journal }.executeLine (recallLine (named.map Prod.fst)) =
        { after with journal := journal ++ effects } ∧
      Effect.lines effects.toList =
        (List.zipWith (fun entry act => Effect.lines (Act.recalled entry act)) named acts).flatten := by
  let slots := named.map Prod.fst
  let names := slots.map fun slot => String.singleton slot.char
  let command : Command := ⟨'#', "#", names⟩
  let shown := (List.zipWith Act.recalled named acts).flatten
  have listed : names ≠ [] := by simpa only [names, slots, ne_eq, List.map_eq_nil_iff] using nonempty
  have ran : Execute.recallAll (recallText 0) names ({ start with journal : Shell δ }.log (.dispatched 0 command)) =
      .ok .none { after with journal := journal.push (.dispatched 0 command) ++ shown.toArray } :=
    (ShellM.bind_ok (ShellM.check_ok (parseAll_char slots) _)).trans
      (ShellM.bind_ok (recallSlots_run run read held (journal.push (.dispatched 0 command))))
  have joined : journal.push (.dispatched 0 command) ++ shown.toArray =
      journal ++ (.dispatched 0 command :: shown).toArray := by simp
  refine ⟨(.dispatched 0 command :: shown).toArray, ?_, ?_⟩
  · rw [executeLine, parse_recallLine, ← joined]
    exact (dispatchWith_recallAll listed "#" (recallText 0) 0 _).trans (congrArg settle ran)
  · have flat : Effect.lines shown =
        (List.zipWith (fun entry act => Effect.lines (Act.recalled entry act)) named acts).flatten := by
      simp only [shown, Effect.lines, List.filterMap_flatten, List.map_zipWith]
    rw [← flat]
    rfl

/-- Pass by pass. -/
theorem iterate_executeLine_run (nonempty : named ≠ []) {passes : Nat}
    (run : Act.Run start (List.replicate passes body).flatten acts after)
    (read : List.Forall₂ (fun entry command => Command.parse entry.2 = .ok command) named body)
    (held : ∀ act ∈ acts, act.before.HoldsAll named) (journal : Array Effect) :
    ∃ effects, (executeLine (recallLine (named.map Prod.fst)))^[passes] { start with journal } =
        { after with journal := journal ++ effects } ∧
      Effect.lines effects.toList =
        (List.zipWith (fun entry act => Effect.lines (Act.recalled entry act)) (List.replicate passes named).flatten
          acts).flatten := by
  induction passes generalizing start acts journal with
  | zero =>
      cases run
      exact ⟨#[], by simp, by simp [Effect.lines]⟩
  | succ passes ih =>
      rw [List.replicate_succ, List.flatten_cons] at run
      obtain ⟨first, rest, middle, rfl, pass, others⟩ := run.split
      rw [List.forall_mem_append] at held
      obtain ⟨early, ran, seen⟩ := executeLine_run nonempty pass read held.1 journal
      obtain ⟨late, went, shown⟩ := ih others held.2 (journal ++ early)
      have aligned : named.length = first.length := read.length_eq.trans pass.length_eq.symm
      refine ⟨early ++ late, ?_, ?_⟩
      · rw [Function.iterate_succ_apply, ran, went, Array.append_assoc]
      · rw [List.replicate_succ, List.flatten_cons, List.zipWith_append aligned, List.flatten_append, ← seen, ← shown,
          Array.toList_append]
        exact List.filterMap_append

theorem registers_ne_nil_of_repetition {head count : String} {registers : List String} {depth : Nat}
    {shell : Shell δ} {output : Output}
    (succeeds : shell.outcome? ⟨'*', head, count :: registers⟩ depth = some (.ok output after)) :
    registers ≠ [] := by
  rintro rfl
  have refused : shell.outcome? ⟨'*', head, [count]⟩ depth = some (.error _ _) := rfl
  cases refused.symm.trans succeeds

end Shell

/-! ## What a repetition runs when it is left alone -/

namespace Task

variable [InputDevice δ] [KeySource δ]

/-- A repetition that is driven and has nothing to quit for runs all that it has ahead, and ends. -/
theorem follow_run (task : Task) (repeats : task.Repeats) (tick : Bool) {fuel : Nat} (enough : task.stepsAhead < fuel)
    (shell : Shell δ)
    (clear : ∀ act ∈ task.follow shell (List.replicate fuel (.own tick)), act.before.quit = false) :
    ∃ finished, task.drive tick fuel shell = (none, finished) ∧
      Act.Run shell task.ahead
        ((task.follow shell (List.replicate fuel (.own tick))).filter Act.dispatches) finished := by
  induction fuel generalizing task shell with
  | zero => cases enough
  | succ fuel ih =>
      have stepped := repeated_step repeats tick shell
      rw [List.replicate_succ, follow] at clear ⊢
      rw [drive]
      generalize task.step tick shell = progress at stepped clear ⊢
      obtain ⟨now, later⟩ := List.forall_mem_cons.mp clear
      cases stepped with
      | ended through =>
          have done : task.ahead = [] := through.resolve_right (by simpa using now)
          have still : Act.dispatches ⟨shell, .ended shell⟩ = false := Act.dispatches_of_still rfl
          rw [done, List.filter_cons_of_neg (by simp [still])]
          exact ⟨shell, rfl, .nil shell⟩
      | @ready next repeats same fewer =>
          have still : Act.dispatches ⟨shell, .ran next shell⟩ = false := Act.dispatches_of_still rfl
          rw [same, List.filter_cons_of_neg (by simp [still])]
          exact ih next repeats (by omega) shell later
      | @ran next command repeats first fewer =>
          have runs : Act.dispatches ⟨shell, .ran next (shell.dispatch command 1)⟩ = true :=
            Act.dispatches_of_dispatch rfl
          obtain ⟨finished, driven, run⟩ := ih next repeats (by omega) (shell.dispatch command 1) later
          rw [first, List.filter_cons_of_pos runs]
          exact ⟨finished, driven, .cons ⟨shell, .ran next (shell.dispatch command 1)⟩ rfl run⟩

/-- Left alone, a repetition of texts that the registers go on to hold leads where recalling the registers
    leads. -/
theorem drive_recalled {named : List (Slot .register × String)} {body : List Command} {passes fuel : Nat}
    {tick : Bool} {start : Shell δ} (nonempty : named ≠ [])
    (read : List.Forall₂ (fun entry command => Command.parse entry.2 = .ok command) named body)
    (enough : passes * (body.length + 1) + 1 < fuel)
    (undisturbed : ∀ act ∈ (repetition (named.map Prod.snd) passes).follow start (List.replicate fuel (.own tick)),
      act.before.quit = false ∧ act.before.HoldsAll named) :
    let ran := ((repetition (named.map Prod.snd) passes).follow start (List.replicate fuel (.own tick))).filter
      Act.dispatches
    ∃ finished effects, (repetition (named.map Prod.snd) passes).drive tick fuel start = (none, finished) ∧
      Act.Run start (List.replicate passes body).flatten ran finished ∧
      (Shell.executeLine (Shell.recallLine (named.map Prod.fst)))^[passes] start =
        { finished with journal := start.journal ++ effects } ∧
      Effect.lines effects.toList =
        (List.zipWith (fun entry act => Effect.lines (Act.recalled entry act)) (List.replicate passes named).flatten
          ran).flatten := by
  intro ran
  have known : Command.parseAll (named.map Prod.snd) = .ok body :=
    Command.parseAll_eq_ok_iff.mpr (List.forall₂_map_left_iff.mpr read)
  obtain ⟨finished, driven, run⟩ := follow_run (repetition (named.map Prod.snd) passes) trivial tick
    (by simpa only [stepsAhead, known] using enough) start fun act member => (undisturbed act member).1
  simp only [ahead, known] at run
  have kept : ∀ act ∈ ran, act.before.HoldsAll named := fun act member =>
    (undisturbed act (List.mem_of_mem_filter member)).2
  obtain ⟨effects, went, shown⟩ := Shell.iterate_executeLine_run nonempty run read kept start.journal
  exact ⟨finished, effects, driven, run, went, shown⟩

end Task

namespace Shell

variable [InputDevice δ] [KeySource δ]

/-- Take a `*` that succeeds, and the task that it starts.  Suppose that the task is driven alone, from any
    shell, with steps enough to come to its end; that the registers still hold the copied texts whenever it makes a
    step, and that the quit flag is clear.  Then recalling the registers as often in that shell leads to the same,
    apart from the journals.  On the console a recall shows what the task shows and, before each command, a notice
    unless the shell is quiet at that moment. -/
theorem drive_repetition_recalled {head count : String} {registers : List String} {depth : Nat}
    {shell after : Shell δ} {output : Output}
    (succeeds : shell.outcome? ⟨'*', head, count :: registers⟩ depth = some (.ok output after)) :
    ∃ passes slots texts, Text.natural? UInt64.size count = some passes ∧ 0 < passes ∧
      Slot.parseAll .register registers = .ok slots ∧
      List.Forall₂ (fun slot text => shell.registers.get? slot = some text) slots texts ∧
      (shell.dispatch ⟨'*', head, count :: registers⟩ depth).tasks =
        shell.tasks ++ [.repetition texts passes] ∧
      ∀ body, List.Forall₂ (fun text command => Command.parse text = .ok command) texts body →
      ∀ (start : Shell δ) (tick : Bool) (fuel : Nat), passes * (body.length + 1) + 1 < fuel →
        let task := Task.repetition texts passes
        let acts := task.follow start (List.replicate fuel (.own tick))
        (∀ act ∈ acts, act.before.quit = false ∧ act.before.HoldsAll (slots.zip texts)) →
        let ran := acts.filter Act.dispatches
        let finished := (task.drive tick fuel start).2
        let recalled := (executeLine (recallLine slots))^[passes] start
        (task.drive tick fuel start).1 = none ∧
        ran.flatMap Act.commands = (List.replicate passes body).flatten ∧
        recalled = { finished with journal := recalled.journal } ∧
        Effect.lines finished.journal.toList = Effect.lines start.journal.toList ++
          ran.flatMap (fun act => Effect.lines act.effects) ∧
        Effect.lines recalled.journal.toList = Effect.lines start.journal.toList ++
          (List.zipWith (fun entry act =>
              (if act.before.options.isOn .quiet then []
                else [s!"Recalling command in register '{entry.1.char}': {entry.2}"]) ++ Effect.lines act.effects)
            (List.replicate passes (slots.zip texts)).flatten ran).flatten := by
  obtain ⟨passes, slots, texts, counted, positive, parsed, held, spawned⟩ := dispatch_repetition succeeds
  refine ⟨passes, slots, texts, counted, positive, parsed, held, spawned, ?_⟩
  intro body read start tick fuel enough task acts undisturbed ran finished recalled
  have slotNames : (slots.zip texts).map Prod.fst = slots := List.map_fst_zip held.length_eq.le
  have copies : (slots.zip texts).map Prod.snd = texts := List.map_snd_zip held.length_eq.ge
  have entries : slots.zip texts ≠ [] := by
    have positive := List.length_pos_iff.mpr (registers_ne_nil_of_repetition succeeds)
    have same : registers.length = slots.length := (mapM_eq_ok_iff.mp parsed).length_eq
    have long : slots.length = texts.length := held.length_eq
    rw [← List.length_pos_iff, List.length_zip]
    omega
  have each : List.Forall₂ (fun entry command => Command.parse entry.2 = .ok command) (slots.zip texts) body :=
    List.forall₂_map_left_iff.mp (copies.symm ▸ read)
  have calm : ∀ act ∈ (Task.repetition ((slots.zip texts).map Prod.snd) passes).follow start
      (List.replicate fuel (.own tick)), act.before.quit = false ∧ act.before.HoldsAll (slots.zip texts) := by
    rw [copies]
    exact undisturbed
  have alone := Task.drive_recalled entries each enough calm
  rw [copies, slotNames] at alone
  obtain ⟨last, effects, driven, run, went, shown⟩ := alone
  have ended : finished = last := congrArg Prod.snd driven
  have came : recalled = { last with journal := start.journal ++ effects } := went
  refine ⟨congrArg Prod.fst driven, run.commands_eq, ?_, ?_, ?_⟩
  · rw [came, ended]
  · rw [ended, run.journal_eq, Array.toList_append, List.toList_toArray, Effect.lines_append]
    exact congrArg _ (List.filterMap_flatMap ..)
  · rw [came, Array.toList_append, Effect.lines_append, shown]
    simp only [Act.lines_recalled, ran, acts, task]

/-- Two registers are repeated twice, the second of which makes the shell quiet.  So the second pass is not
    announced when they are recalled. -/
theorem drive_repetition_recalled_quiet :
    let a : Slot .register := ⟨0, by decide⟩
    let b : Slot .register := ⟨1, by decide⟩
    let shell : Shell VirtualDevice :=
      { device := default, dotfile := "rc"
        registers := (SlotTable.empty.set a "P hi").set b "! quiet true" }
    let task : Task := .repetition ["P hi", "! quiet true"] 2
    (∃ output after, shell.outcome? ⟨'*', "*", ["2", "a", "b"]⟩ 0 = some (.ok output after)) ∧
      recallLine [a, b] = "# a b" ∧
      (executeLine (recallLine [a, b]))^[2] shell =
        { (task.drive false 8 shell).2 with journal := ((executeLine (recallLine [a, b]))^[2] shell).journal } ∧
      Effect.lines (task.drive false 8 shell).2.journal.toList = ["hi", "hi"] ∧
      Effect.lines ((executeLine (recallLine [a, b]))^[2] shell).journal.toList =
        ["Recalling command in register 'a': P hi", "hi",
          "Recalling command in register 'b': ! quiet true", "hi"] := by
  intro a b shell task
  have succeeds : shell.outcome? ⟨'*', "*", ["2", "a", "b"]⟩ 0 = some (.ok _ _) := rfl
  obtain ⟨passes, slots, texts, -, -, parsed, -, spawned, runs⟩ := drive_repetition_recalled succeeds
  have started : (shell.dispatch ⟨'*', "*", ["2", "a", "b"]⟩ 0).tasks = [task] := rfl
  obtain ⟨rfl, rfl⟩ : texts = ["P hi", "! quiet true"] ∧ passes = 2 := by
    rw [spawned] at started
    simpa [shell, task] using started
  obtain rfl : slots = [a, b] := Except.ok.inj (parsed.symm.trans rfl)
  have read : List.Forall₂ (fun text command => Command.parse text = .ok command) ["P hi", "! quiet true"]
      [⟨'P', "P", ["hi"]⟩, ⟨'!', "!", ["quiet", "true"]⟩] := .cons rfl (.cons rfl .nil)
  obtain ⟨-, -, same, -, -⟩ := runs _ read shell false 8 (by decide) (by decide +kernel)
  exact ⟨⟨_, _, succeeds⟩, by decide +kernel, same, by decide +kernel, by decide +kernel⟩

end Shell
end MacroShell
