import MacroShell.Proofs.Following
import MacroShell.Proofs.Runs

/-! # The moments of a run

A run dispatches commands, one inside the other, and takes samples.  Here these moments are listed in
their order, each with the shell as it is then; the functions that list them go along with those that
run.  Between two moments nothing happens but that lines are printed, the quit flag is set, and
the device, the files and the tasks change.

So a run takes its course from moment to moment, and what is to be shown of every run has to be shown
of a single moment and of what lies between two.
-/

namespace MacroShell

variable {δ α β : Type}

/-- A point of a run, with the shell as it is then. -/
inductive Moment (δ : Type) where
  | dispatch (shell : Shell δ) (depth : Nat) (command : Command)
  | sample (shell : Shell δ)

/-- The shell that an action leaves behind, whether it ends well or fails. -/
def ShellM.after (action : ShellM δ α) (shell : Shell δ) : Shell δ :=
  match action shell with
  | .ok _ after | .error _ after => after

namespace ShellM

variable {action : ShellM δ α} {next : α → ShellM δ β} {shell middle : Shell δ}

theorem after_of_ok {a : α} (ran : action shell = .ok a middle) : action.after shell = middle := by
  rw [after, ran]

theorem after_of_error {e : ShellError} (failed : action shell = .error e middle) :
    action.after shell = middle := by
  rw [after, failed]

theorem after_bind_ok {a : α} (ran : action shell = .ok a middle) :
    (action >>= next).after shell = (next a).after middle := by
  rw [after, after, bind_ok ran]

theorem after_bind_error {e : ShellError} (failed : action shell = .error e middle) :
    (action >>= next).after shell = middle :=
  after_of_error (bind_error failed)

/-- What comes last and does nothing can be left out. -/
theorem after_bind_pure (value : α → β) : (action >>= fun a => pure (value a)).after shell = action.after shell := by
  cases ran : action shell with
  | ok a middle =>
      rw [after_bind_ok ran, after_of_ok ran]
      rfl
  | error e middle => rw [after_bind_error ran, after_of_error ran]

end ShellM

/-! ## Texts that are run -/

namespace Execute

variable (runText : String → ShellM δ Unit)

/-- The texts that are run when registers are recalled, each with the shell in which its turn comes. -/
def slotTexts : List (Slot .register) → Shell δ → List (String × Shell δ)
  | [], _ => []
  | slot :: rest, shell =>
    match shell.registers.get? slot with
    | none => []
    | some text =>
      let shell := shell.notice s!"Recalling command in register '{slot.char}': {text}"
      (text, shell) ::
        match runText text shell with
        | .ok _ after => slotTexts rest after
        | .error _ _ => []

/-- The lines of a file that are run. -/
def lineTexts : List String → Shell δ → List (String × Shell δ)
  | [], _ => []
  | line :: rest, shell =>
    if Text.isBlankLine line then lineTexts rest shell
    else
      (line, shell) ::
        match runText line shell with
        | .ok _ after => lineTexts rest after
        | .error _ _ => []

def chosenTexts (chosen : Except ShellError (List (Slot .register))) (shell : Shell δ) : List (String × Shell δ) :=
  match chosen with
  | .ok slots => slotTexts runText slots shell
  | .error _ => []

/-- The texts that a verb runs.  Most verbs run none. -/
def texts (verb : Verb) (operands : List String) (shell : Shell δ) : List (String × Shell δ) :=
  match verb with
  | .load =>
    match shell.files.read (operands.head?.getD shell.dotfile) with
    | .ok content => lineTexts runText (Text.lines content) shell
    | .error _ => []
  | verb => chosenTexts runText (targets shell.registers verb operands) shell

end Execute

/-! ## Moments -/

namespace Shell

section Dispatch

variable [InputDevice δ]

/-- The moments of a command: its own, and those `within` the texts that it runs. -/
def momentsWith (runText : String → ShellM δ Unit) (within : String → Shell δ → List (Moment δ)) (depth : Nat)
    (command : Command) (shell : Shell δ) : List (Moment δ) :=
  .dispatch shell depth command ::
    match Registry.builtin.lookup command.opcode with
    | none => []
    | some entry =>
      if entry.arity.accepts command.operands.length then
        (Execute.texts runText entry.verb command.operands (shell.log (.dispatched depth command))).flatMap
          fun run => within run.1 run.2
      else []

/-- The moments of text that a command at `depth` runs, with `levels` levels left. -/
def recallMoments : (levels depth : Nat) → String → Shell δ → List (Moment δ)
  | 0, _, _, _ => []
  | levels + 1, depth, text, shell =>
    match Command.parse text with
    | .ok command =>
      shell.momentsWith (recallWhile (fun _ => true) levels (depth + 1)) (recallMoments levels (depth + 1))
        (depth + 1) command
    | .error _ => []

def dispatchMoments (command : Command) (depth : Nat) (shell : Shell δ) : List (Moment δ) :=
  shell.momentsWith (recallText depth) (recallMoments (recallLimit - depth) depth) depth command

/-- The moments of a line, as of a command that stands `depth` recalls below one that was entered. -/
def lineMoments (line : String) (depth : Nat) (shell : Shell δ) : List (Moment δ) :=
  match Command.parse line with
  | .ok command => shell.dispatchMoments command depth
  | .error _ => []

def keyMoments [KeySource δ] (shell : Shell δ) : List (Moment δ) :=
  match KeySource.nextKey shell.device with
  | none => []
  | some (press, device) =>
    match (Slot.ofChar? .hotkey press.char).bind shell.hotkeys.get? with
    | none => []
    | some text => { shell with device }.lineMoments text 1

end Dispatch
end Shell

section Moments

variable [InputDevice δ] [KeySource δ]

/-- The moments of one step of a task. -/
def Task.stepMoments (tick : Bool) (shell : Shell δ) : Task → List (Moment δ)
  | repeating _ (command :: _) _ => if shell.quit then [] else shell.dispatchMoments command 1
  | watching condition value _ (command :: _) =>
    if shell.registers.get? condition = some value then shell.dispatchMoments command 1 else []
  | listener => if !shell.quit && shell.options.isOn .hotkeys then shell.keyMoments else []
  | sampler => if tick && !shell.quit then [.sample shell] else []
  | repeating _ [] _ | watching _ _ _ [] | repetition _ _ | watch _ _ _ => []

def Task.driveMoments (tick : Bool) : (fuel : Nat) → Task → Shell δ → List (Moment δ)
  | 0, _, _ => []
  | fuel + 1, task, shell =>
    task.stepMoments tick shell ++
      match task.step tick shell with
      | .ran task shell => driveMoments tick fuel task shell
      | .ended _ | .idle _ _ => []

namespace Shell

def queueMoments (tick : Bool) (fuel : Nat) : (turns : Nat) → List Task → Shell δ → List (Moment δ)
  | turns + 1, task :: queue, shell =>
    let driven := (task.drive tick fuel shell).2
    task.driveMoments tick fuel shell ++
      queueMoments tick fuel turns (queue ++ driven.tasks) { driven with tasks := [] }
  | _, _, _ => []

def stepMoments (shell : Shell δ) : Step δ → List (Moment δ)
  | .execute line => shell.lineMoments line 0
  | .enter line => shell.lineMoments (stripLeader line (shell.options.get .leader)) 0
  | .dispatch line depth => shell.lineMoments line depth
  | .listen _ => if shell.options.isOn .hotkeys then shell.keyMoments else []
  | .sample => [.sample shell]
  | .advance index tick =>
    match shell.tasks[index]? with
    | none => []
    | some task => task.stepMoments tick shell
  | .round tick fuel => queueMoments tick fuel fuel shell.tasks { shell with tasks := [] }
  | .spawn _ | .device _ | .files _ => []

/-- The moments of a run. -/
def moments (shell : Shell δ) : List (Step δ) → List (Moment δ)
  | [] => []
  | step :: steps => shell.stepMoments step ++ (shell.perform step).moments steps

end Shell
end Moments

/-! ## Courses -/

namespace Moment

def shell : Moment δ → Shell δ
  | dispatch shell _ _ | sample shell => shell

/-- What becomes of the shell at the moment itself.  A command that runs stored text is only logged: what
    it runs has moments of its own. -/
def after [InputDevice δ] : Moment δ → Shell δ
  | dispatch shell depth command =>
    if command.recalls then shell.log (.dispatched depth command) else shell.dispatch command depth
  | sample shell => shell.sample.2

section Dispatch

variable [InputDevice δ] {command : Command}

theorem after_recalls (recalls : command.recalls = true) (depth : Nat) (shell : Shell δ) :
    (dispatch shell depth command).after = shell.log (.dispatched depth command) :=
  if_pos recalls

theorem after_leaf (leaf : command.recalls = false) (depth : Nat) (shell : Shell δ) :
    (dispatch shell depth command).after = shell.dispatch command depth :=
  if_neg (by simp [leaf])

end Dispatch
end Moment

/-- What happens between two moments. -/
inductive Between (shell : Shell δ) : Shell δ → Prop
  | log {effect : Effect} (own : effect.isDispatch = false) : Between shell (shell.log effect)
  | quit : Between shell { shell with quit := true }
  | around (device : δ) (files : FileTree) (tasks : List Task) : Between shell { shell with device, files, tasks }

/-- The shell can come from `start` by way of the moments. -/
inductive Course [InputDevice δ] (start : Shell δ) : List (Moment δ) → Shell δ → Prop
  | refl : Course start [] start
  | between {moments : List (Moment δ)} {shell after : Shell δ} (course : Course start moments shell)
      (change : Between shell after) : Course start moments after
  | moment {moments : List (Moment δ)} {moment : Moment δ} (course : Course start moments moment.shell) :
      Course start (moments ++ [moment]) moment.after

namespace Course

variable [InputDevice δ] {a b c : Shell δ} {moments later : List (Moment δ)}

theorem trans (first : Course a moments b) (second : Course b later c) : Course a (moments ++ later) c := by
  induction second with
  | refl => simpa using first
  | between _ change ih => exact ih.between change
  | moment _ ih =>
      rw [← List.append_assoc]
      exact ih.moment

theorem single (moment : Moment δ) : Course moment.shell [moment] moment.after := .moment .refl

theorem ofBetween (change : Between a b) : Course a [] b := refl.between change

/-- Every moment is reached by way of those before it. -/
theorem reach {earlier : List (Moment δ)} {moment : Moment δ}
    (course : Course a (earlier ++ moment :: later) b) : Course a earlier moment.shell := by
  generalize whole : earlier ++ moment :: later = moments at course
  induction course generalizing later with
  | refl => simp at whole
  | between _ _ ih => exact ih whole
  | moment course ih =>
      rcases List.eq_nil_or_concat later with rfl | ⟨rest, last, rfl⟩
      · obtain ⟨rfl, same⟩ := List.append_inj' whole rfl
        cases same
        exact course
      · rw [List.concat_eq_append, ← List.cons_append, ← List.append_assoc] at whole
        exact ih (List.append_inj' whole rfl).1

theorem notice (text : String) : Course a [] (a.notice text) := by
  unfold Shell.notice
  split
  · exact .refl
  · exact ofBetween (.log rfl)

theorem conclude (result : Except ShellError Output) : Course a [] (a.conclude result) := by
  rcases result with e | output
  · exact (ofBetween (.log rfl)).trans (notice _)
  · cases output with
    | text text => exact ofBetween (.log rfl)
    | notice text => exact notice text
    | none => exact .refl
    | quit =>
        have quits : Course a [] { a with quit := true } := ofBetween .quit
        unfold Shell.conclude Shell.requestQuit
        dsimp only
        split
        · exact quits.between (.log rfl)
        · exact quits

theorem settle {action : ShellM δ Output} (course : Course a moments (action.after a)) :
    Course a moments (Shell.settle (action a)) := by
  rw [← List.append_nil moments]
  cases ran : action a with
  | ok output after =>
      rw [ShellM.after_of_ok ran] at course
      exact course.trans (conclude (.ok output))
  | error e after =>
      rw [ShellM.after_of_error ran] at course
      exact course.trans (conclude (.error e))

theorem tasks (queue : List Task) : Course a [] { a with tasks := queue } :=
  ofBetween (.around a.device a.files queue)

end Course

/-! ## Every run takes its course -/

/-- What a command does by itself. -/
def Invariant.own (start : Shell δ) : Invariant δ where
  Inv := Shell.Own start
  Fine _ := True
  hereditary := .trivial
  holds _ := Shell.holds_trivial _
  change {s change} sofar _ := by
    cases change with
    | sleep milliseconds => exact Shell.Own.log sofar rfl
    | device | clicks | register | hotkey | option | tasks => exact sofar
  log sofar own _ := Shell.Own.log sofar own
  quit sofar := sofar
  save {s path files} sofar _ := by
    have written : Shell.Own start { s with files } := sofar
    exact Shell.Own.log written rfl

namespace Shell

variable [InputDevice δ] {command : Command}

/-- A command that runs no stored text does the same whatever running a text would do. -/
theorem dispatchWith_leaf (leaf : command.recalls = false) (runText runText' : String → ShellM δ Unit)
    (depth : Nat) (shell : Shell δ) :
    shell.dispatchWith runText depth command = shell.dispatchWith runText' depth command := by
  cases found : Registry.builtin.lookup command.opcode with
  | none => rw [dispatchWith_unknown found, dispatchWith_unknown found]
  | some entry =>
      cases accepted : entry.arity.accepts command.operands.length with
      | false => rw [dispatchWith_refused found accepted, dispatchWith_refused found accepted]
      | true =>
          rw [dispatchWith_accepted found accepted, dispatchWith_accepted found accepted]
          have acts : entry.verb.recalls = false := by simpa [Command.recalls, found] using leaf
          obtain ⟨deed, -, does⟩ := Execute.run_eq_perform acts command.operands
            (shell.log (.dispatched depth command))
          rw [does runText, does runText']

theorem own_dispatch (leaf : command.recalls = false) (depth : Nat) (shell : Shell δ) :
    Own (shell.log (.dispatched depth command)) (shell.dispatch command depth) := by
  rw [dispatch, dispatchWith_leaf leaf _ (fun _ => pure ())]
  exact (Invariant.own _).dispatchWith (fun _ _ _ _ alike => .ok trivial alike) (fun _ _ => trivial)
    (own_of_journal rfl)

end Shell

namespace Execute

variable [InputDevice δ] {runText : String → ShellM δ Unit} {within : String → Shell δ → List (Moment δ)}
  (runs : ∀ text shell, Course shell (within text shell) ((runText text).after shell))
include runs

theorem course_recallSlots (slots : List (Slot .register)) (shell : Shell δ) :
    Course shell ((slotTexts runText slots shell).flatMap fun run => within run.1 run.2)
      ((recallSlots runText slots).after shell) := by
  induction slots generalizing shell with
  | nil => exact .refl
  | cons slot rest ih =>
      cases held : shell.registers.get? slot with
      | none =>
          have failed : require slot shell = .error (.emptySlot .register slot.char) shell := by
            rw [require, ShellM.get_bind, SlotTable.require, held]
            rfl
          rw [slotTexts, held, recallSlots, ShellM.after_bind_error failed]
          exact .refl
      | some text =>
          let noticed := shell.notice s!"Recalling command in register '{slot.char}': {text}"
          have shown : Course shell [] noticed := .notice _
          have ran := runs text noticed
          have peeled : (recallSlots runText (slot :: rest)).after shell =
              (runText text >>= fun _ => recallSlots runText rest).after noticed := by
            rw [recallSlots, ShellM.after_bind_ok (require_ok held)]
            rfl
          rw [slotTexts, held, peeled, List.flatMap_cons]
          dsimp only
          cases came : runText text noticed with
          | ok _ after =>
              rw [ShellM.after_of_ok came] at ran
              rw [ShellM.after_bind_ok came]
              exact shown.trans (ran.trans (ih after))
          | error e after =>
              rw [ShellM.after_of_error came] at ran
              rw [ShellM.after_bind_error came, List.flatMap_nil, List.append_nil]
              exact shown.trans ran

theorem course_recallLines (lines : List String) (shell : Shell δ) :
    Course shell ((lineTexts runText lines shell).flatMap fun run => within run.1 run.2)
      ((recallLines runText lines).after shell) := by
  induction lines generalizing shell with
  | nil => exact .refl
  | cons line rest ih =>
      rw [lineTexts, recallLines]
      split
      · exact ih shell
      · have ran := runs line shell
        rw [List.flatMap_cons]
        cases came : runText line shell with
        | ok _ after =>
            rw [ShellM.after_of_ok came] at ran
            rw [ShellM.after_bind_ok came, ShellM.after_bind_pure]
            exact ran.trans (ih after)
        | error e after =>
            rw [ShellM.after_of_error came] at ran
            rw [ShellM.after_bind_error came, List.flatMap_nil, List.append_nil]
            exact ran

theorem course_load (operands : List String) (shell : Shell δ) :
    Course shell ((texts runText .load operands shell).flatMap fun run => within run.1 run.2)
      ((load runText operands).after shell) := by
  have named : fileOperand operands shell = .ok (operands.head?.getD shell.dotfile) shell := rfl
  rw [load, ShellM.after_bind_ok named, ShellM.after_bind_pure, texts]
  unfold loadFile ShellM.after
  rw [ShellM.get_bind]
  cases shell.files.read (operands.head?.getD shell.dotfile) with
  | ok content => exact course_recallLines runs (Text.lines content) shell
  | error e => exact .refl

theorem course_recallChosen (chosen : Except ShellError (List (Slot .register))) (shell : Shell δ) :
    Course shell ((chosenTexts runText chosen shell).flatMap fun run => within run.1 run.2)
      ((recallChosen runText chosen).after shell) := by
  cases chosen with
  | ok slots =>
      rw [recallChosen, ShellM.after_bind_ok (ShellM.check_ok rfl shell), ShellM.after_bind_pure]
      exact course_recallSlots runs slots shell
  | error e => exact .refl

theorem course_run {verb : Verb} (recalls : verb.recalls = true) (operands : List String) (shell : Shell δ) :
    Course shell ((texts runText verb operands shell).flatMap fun run => within run.1 run.2)
      ((run runText verb operands).after shell) := by
  by_cases loads : verb = .load
  · subst loads
    exact course_load runs operands shell
  · rw [texts, ShellM.after, run_recalls runText shell recalls loads]
    · exact course_recallChosen runs _ shell
    · exact loads

end Execute

namespace Shell

theorem momentsWith_leaf {command : Command} (leaf : command.recalls = false) (runText : String → ShellM δ Unit)
    (within : String → Shell δ → List (Moment δ)) (depth : Nat) (shell : Shell δ) :
    shell.momentsWith runText within depth command = [.dispatch shell depth command] := by
  unfold momentsWith
  cases found : Registry.builtin.lookup command.opcode with
  | none => rfl
  | some entry =>
      have acts : entry.verb.recalls = false := by simpa [Command.recalls, found] using leaf
      have none (start : Shell δ) : Execute.texts runText entry.verb command.operands start = [] := by
        cases verb : entry.verb with
        | recallAll | recallWhen | recallEither | load =>
            rw [verb] at acts
            cases acts
        | _ => rfl
      dsimp only
      split
      · rw [none, List.flatMap_nil]
      · rfl

section Dispatch

variable [InputDevice δ]

theorem course_dispatchWith {runText : String → ShellM δ Unit} {within : String → Shell δ → List (Moment δ)}
    (runs : ∀ text shell, Course shell (within text shell) ((runText text).after shell)) (depth : Nat)
    (command : Command) (shell : Shell δ) :
    Course shell (shell.momentsWith runText within depth command) (shell.dispatchWith runText depth command) := by
  have begun := Course.single (.dispatch shell depth command)
  cases recalls : command.recalls with
  | false =>
      rw [Moment.after_leaf recalls] at begun
      rw [momentsWith_leaf recalls, dispatchWith_leaf recalls runText (recallText depth)]
      exact begun
  | true =>
      rw [Moment.after_recalls recalls] at begun
      cases found : Registry.builtin.lookup command.opcode with
      | none => simp [Command.recalls, found] at recalls
      | some entry =>
          unfold momentsWith
          rw [found]
          cases accepted : entry.arity.accepts command.operands.length with
          | false =>
              rw [dispatchWith_refused found accepted]
              simp only [accepted, Bool.false_eq_true, if_false]
              exact begun.trans (.conclude _)
          | true =>
              have acts : entry.verb.recalls = true := by simpa [Command.recalls, found] using recalls
              rw [dispatchWith_accepted found accepted]
              simp only [accepted, if_true]
              exact begun.trans (Course.settle (Execute.course_run runs acts command.operands _))

/-- On the levels that are left. -/
theorem course_recallWhile (levels depth : Nat) (text : String) (shell : Shell δ) :
    Course shell (recallMoments levels depth text shell)
      ((recallWhile (fun _ => true) levels depth text).after shell) := by
  induction levels generalizing depth text shell with
  | zero => exact .refl
  | succ levels ih =>
      unfold ShellM.after
      rw [recallMoments, recallWhile, ShellM.get_bind, if_pos rfl]
      cases Command.parse text with
      | error e => exact .refl
      | ok command => exact course_dispatchWith (ih (depth + 1)) (depth + 1) command shell

theorem course_dispatch (command : Command) (depth : Nat) (shell : Shell δ) :
    Course shell (shell.dispatchMoments command depth) (shell.dispatch command depth) :=
  course_dispatchWith (course_recallWhile _ depth) depth command shell

theorem course_executeLine (line : String) (shell : Shell δ) :
    Course shell (shell.lineMoments line 0) (shell.executeLine line) := by
  unfold lineMoments executeLine
  cases Command.parse line with
  | ok command => exact course_dispatch command 0 shell
  | error e => exact .conclude _

variable [KeySource δ]

theorem course_handleKey (shell : Shell δ) :
    Course shell shell.keyMoments (shell.handleKey.elim shell Prod.snd) := by
  unfold keyMoments handleKey
  cases KeySource.nextKey shell.device with
  | none => exact .refl
  | some pressed =>
      obtain ⟨press, device⟩ := pressed
      have taken : Course shell [] { shell with device } := .ofBetween (.around device shell.files shell.tasks)
      simp only [Option.map_some, Option.elim_some]
      cases (Slot.ofChar? .hotkey press.char).bind shell.hotkeys.get? with
      | none => exact taken
      | some text =>
          dsimp only
          unfold lineMoments
          cases Command.parse text with
          | error e => exact taken
          | ok command => exact taken.trans (course_dispatch command 1 _)

theorem course_listen (idle : Nat) (shell : Shell δ) :
    Course shell (if shell.options.isOn .hotkeys then shell.keyMoments else []) (shell.listen idle).2 := by
  unfold listen
  split
  · have handled := course_handleKey shell
    cases same : shell.handleKey with
    | none => simpa [same] using handled
    | some pressed => simpa [same] using handled
  · exact .ofBetween (.log rfl)

end Dispatch
end Shell

namespace Task

variable [InputDevice δ] [KeySource δ]

theorem course_step (tick : Bool) (task : Task) (shell : Shell δ) :
    Course shell (task.stepMoments tick shell) (task.step tick shell).shell := by
  match task with
  | .repetition texts count | .watch condition value texts =>
      simp only [stepMoments, step]
      cases Command.parseAll texts <;> exact .refl
  | .repeating body (command :: rest) passes =>
      simp only [stepMoments, step]
      split
      · exact .refl
      · exact Shell.course_dispatch command 1 shell
  | .repeating body [] (passes + 1) | .repeating body [] 0 => exact .refl
  | .watching condition value body (command :: rest) =>
      simp only [stepMoments, step]
      split
      · exact Shell.course_dispatch command 1 shell
      · exact .refl
  | .watching condition value body [] =>
      simp only [stepMoments, step]
      split <;> exact .refl
  | .listener =>
      simp only [stepMoments, step]
      cases shell.quit with
      | true => exact .refl
      | false =>
          cases shell.options.isOn .hotkeys with
          | false => exact .refl
          | true =>
              have handled := Shell.course_handleKey shell
              cases same : shell.handleKey with
              | none => simpa [same, Progress.shell] using handled
              | some pressed => simpa [same, Progress.shell] using handled
  | .sampler =>
      simp only [stepMoments, step]
      cases tick with
      | false => exact .refl
      | true =>
          cases shell.quit with
          | true => exact .refl
          | false => exact .single (.sample shell)

theorem course_drive (tick : Bool) (fuel : Nat) (task : Task) (shell : Shell δ) :
    Course shell (task.driveMoments tick fuel shell) (task.drive tick fuel shell).2 := by
  induction fuel generalizing task shell with
  | zero => exact .refl
  | succ fuel ih =>
      have stepped := task.course_step tick shell
      unfold driveMoments drive
      cases came : task.step tick shell with
      | ended after | idle next after =>
          rw [came] at stepped
          simpa [Progress.shell] using stepped
      | ran next after =>
          rw [came] at stepped
          exact stepped.trans (ih next after)

end Task

namespace Shell

variable [InputDevice δ] [KeySource δ]

theorem course_driveQueue (tick : Bool) (fuel turns : Nat) (queue waiting : List Task) (shell : Shell δ) :
    Course shell (queueMoments tick fuel turns queue shell) (shell.driveQueue tick fuel turns queue waiting) := by
  induction turns generalizing queue waiting shell with
  | zero => exact .tasks _
  | succ turns ih =>
      match queue with
      | [] => exact .tasks _
      | task :: queue =>
          simp only [queueMoments, driveQueue]
          exact (task.course_drive tick fuel shell).trans ((Course.tasks []).trans (ih _ _ _))

theorem course_advance (index : Nat) (tick : Bool) (shell : Shell δ) :
    Course shell (shell.stepMoments (.advance index tick)) (shell.advance index tick) := by
  unfold advance
  simp only [stepMoments]
  cases shell.tasks[index]? with
  | none => exact .refl
  | some task =>
      have stepped := task.course_step tick shell
      dsimp only
      rw [← List.append_nil (task.stepMoments tick shell)]
      cases came : task.step tick shell with
      | ended after | idle next after | ran next after =>
          rw [came] at stepped
          exact stepped.trans (.tasks _)

theorem course_perform (step : Step δ) (shell : Shell δ) :
    Course shell (shell.stepMoments step) (shell.perform step) := by
  cases step with
  | execute line => exact course_executeLine line shell
  | enter line => exact course_executeLine _ shell
  | dispatch line depth =>
      simp only [stepMoments, lineMoments, perform]
      cases Command.parse line with
      | ok command => exact course_dispatch command depth shell
      | error e => exact .refl
  | listen idle => exact course_listen idle shell
  | sample => exact .single (.sample shell)
  | advance index tick => exact course_advance index tick shell
  | round tick fuel => exact (Course.tasks []).trans (course_driveQueue tick fuel fuel shell.tasks [] _)
  | spawn task => exact .tasks _
  | device change => exact .ofBetween (.around (change shell.device) shell.files shell.tasks)
  | files files => exact .ofBetween (.around shell.device files shell.tasks)

theorem course_performAll (steps : List (Step δ)) (shell : Shell δ) :
    Course shell (shell.moments steps) (shell.performAll steps) := by
  induction steps generalizing shell with
  | nil => exact .refl
  | cons step steps ih => exact (course_perform step shell).trans (ih _)

end Shell

/-! ## What the journal shows of a course -/

def Effect.dispatch? : Effect → Option (Nat × Command)
  | dispatched depth command => some (depth, command)
  | failed _ | line _ | slept _ | saved _ _ | quitHook => none

def Moment.dispatch? : Moment δ → Option (Nat × Command)
  | dispatch _ depth command => some (depth, command)
  | sample _ => none

theorem Effect.dispatch?_of_own {effect : Effect} (own : effect.isDispatch = false) : effect.dispatch? = none := by
  cases effect with
  | dispatched => cases own
  | failed | line | slept | saved | quitHook => rfl

namespace Shell

/-- The commands that are dispatched on the way from one shell to the other, with their depths. -/
def Dispatches (before : Shell δ) (commands : List (Nat × Command)) (after : Shell δ) : Prop :=
  ∃ effects, after.journal.toList = before.journal.toList ++ effects ∧ effects.filterMap Effect.dispatch? = commands

theorem Own.dispatches {before after : Shell δ} (own : Own before after) : Dispatches before [] after := by
  obtain ⟨effects, grown, none⟩ := own
  refine ⟨effects, grown, ?_⟩
  rw [List.filterMap_eq_nil_iff]
  exact fun effect member => Effect.dispatch?_of_own (none effect member)

theorem dispatches_log (shell : Shell δ) (depth : Nat) (command : Command) :
    Dispatches shell [(depth, command)] (shell.log (.dispatched depth command)) :=
  ⟨[.dispatched depth command], by simp [log], rfl⟩

theorem Dispatches.trans {a b c : Shell δ} {early late : List (Nat × Command)} (first : Dispatches a early b)
    (second : Dispatches b late c) : Dispatches a (early ++ late) c := by
  obtain ⟨es, grown, rfl⟩ := first
  obtain ⟨fs, grown', rfl⟩ := second
  exact ⟨es ++ fs, by rw [grown', grown, List.append_assoc], List.filterMap_append⟩

end Shell

theorem Between.own {before after : Shell δ} (between : Between before after) : Shell.Own before after := by
  cases between with
  | log own => exact Shell.own_log before own
  | quit | around => exact Shell.own_of_journal rfl

theorem Moment.dispatches [InputDevice δ] (moment : Moment δ) :
    moment.shell.Dispatches moment.dispatch?.toList moment.after := by
  cases moment with
  | dispatch shell depth command =>
      have logged := shell.dispatches_log depth command
      cases recalls : command.recalls with
      | true =>
          rw [after_recalls recalls]
          exact logged
      | false =>
          rw [after_leaf recalls]
          exact logged.trans (shell.own_dispatch recalls depth).dispatches
  | sample shell =>
      have same : shell.sample.2.journal = shell.journal := by
        unfold Shell.sample
        dsimp only
        split <;> rfl
      exact (Shell.own_of_journal same).dispatches

/-- The moments at which commands are dispatched are those that the journal has, in its order. -/
theorem Course.dispatches [InputDevice δ] {start shell : Shell δ} {moments : List (Moment δ)}
    (course : Course start moments shell) : start.Dispatches (moments.filterMap Moment.dispatch?) shell := by
  induction course with
  | refl => exact (Shell.own_of_journal rfl).dispatches
  | between _ change ih => simpa using ih.trans change.own.dispatches
  | @moment moments moment _ ih =>
      have here := moment.dispatches
      rw [List.filterMap_append]
      cases same : moment.dispatch? with
      | none => simpa [same] using ih.trans here
      | some _ => simpa [same] using ih.trans here

end MacroShell
