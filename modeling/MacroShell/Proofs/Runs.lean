import MacroShell.Proofs.Invariants
import MacroShell.Shell.Background

/-! # Runs

A run is a sequence of steps: lines are entered, keys are handled, clicks are sampled, and the tasks
in the background advance, one command at a time or a round at once, in any order.  Between these the
device and the files may change for reasons of their own.

Every step keeps alike shells alike if dispatching does, so a whole run does.
-/

namespace MacroShell

variable {δ : Type}

/-- One step of a run. -/
inductive Step (δ : Type) where
  | execute (line : String)
  /-- A line that may start with the prompt. -/
  | enter (line : String)
  /-- A line that is run as if it stood `depth` recalls below one that was entered. -/
  | dispatch (line : String) (depth : Nat)
  | listen (idle : Nat)
  | sample
  /-- One step of a single task; `tick` tells whether the time of a sample has come. -/
  | advance (index : Nat) (tick : Bool)
  | round (tick : Bool) (fuel : Nat)
  | spawn (task : Task)
  /-- Something happens to the device, for instance a key is pressed. -/
  | device (change : δ → δ)
  /-- Somebody else puts files into place. -/
  | files (files : FileTree)

namespace Shell

variable [InputDevice δ] [KeySource δ]

/-- One step of the task at `index`. -/
def advance (index : Nat) (tick : Bool) (shell : Shell δ) : Shell δ :=
  match shell.tasks[index]? with
  | none => shell
  | some task =>
    match task.step tick shell with
    | .ended shell => { shell with tasks := shell.tasks.eraseIdx index }
    | .idle task shell | .ran task shell => { shell with tasks := shell.tasks.set index task }

def perform (shell : Shell δ) : Step δ → Shell δ
  | .execute line => shell.executeLine line
  | .enter line => shell.enterLine line
  | .dispatch line depth =>
    match Command.parse line with
    | .ok command => shell.dispatch command depth
    | .error _ => shell
  | .listen idle => (shell.listen idle).2
  | .sample => shell.sample.2
  | .advance index tick => shell.advance index tick
  | .round tick fuel => shell.round tick fuel
  | .spawn task => shell.spawn task
  | .device change => { shell with device := change shell.device }
  | .files files => { shell with files }

def performAll (shell : Shell δ) (steps : List (Step δ)) : Shell δ := steps.foldl perform shell

end Shell

/-- The texts that are entered in a step have the property. -/
def Step.Holds (Fine : String → Prop) : Step δ → Prop
  | execute line | enter line | dispatch line _ => Fine line
  | spawn task => task.Holds Fine
  | listen _ | sample | advance _ _ | round _ _ | device _ | files _ => True

theorem Step.holds_trivial (step : Step δ) : step.Holds fun _ => True := by
  cases step with
  | spawn task => exact task.holds_trivial
  | execute | enter | dispatch | listen | sample | advance | round | device | files => trivial

/-- What happens to the device in a step, apart from what the shell does, keeps near devices near. -/
def Step.Respects (Near : δ → δ → Prop) : Step δ → Prop
  | device change => ∀ d e, Near d e → Near (change d) (change e)
  | execute _ | enter _ | dispatch _ _ | listen _ | sample | advance _ _ | round _ _ | spawn _ | files _ => True

theorem Hereditary.parseAll {Fine : String → Prop} (hereditary : Hereditary Fine) {texts : List String}
    {commands : List Command} (fine : ∀ text ∈ texts, Fine text)
    (parsed : Command.parseAll texts = .ok commands) : ∀ command ∈ commands, command.Holds Fine := by
  intro command member
  obtain ⟨text, found, same⟩ := mem_of_mapM_ok parsed command member
  exact hereditary.parse (fine text found) same

/-- Progress of the same task in alike shells. -/
inductive Progressed [InputDevice δ] (C : Coupling δ) : Progress δ → Progress δ → Prop
  | ended {s t : Shell δ} (alike : C.Alike s t) : Progressed C (.ended s) (.ended t)
  | idle {task : Task} {s t : Shell δ} (fine : task.Holds C.Fine) (alike : C.Alike s t) :
      Progressed C (.idle task s) (.idle task t)
  | ran {task : Task} {s t : Shell δ} (fine : task.Holds C.Fine) (alike : C.Alike s t) :
      Progressed C (.ran task s) (.ran task t)

/-- What a run asks for beyond the verbs: dispatching keeps shells alike, and so do files that are put
    into place in both. -/
structure Coupling.Steady [InputDevice δ] (C : Coupling δ) : Prop where
  dispatch : ∀ {command s t} depth, Command.Holds C.Fine command → C.Alike s t →
    C.Alike (s.dispatch command depth) (t.dispatch command depth)
  files : ∀ {s t} files, C.Alike s t → C.Alike { s with files } { t with files }

/-- Besides, the same keys wait at near devices. -/
structure Coupling.Lasting [InputDevice δ] [KeySource δ] (C : Coupling δ) : Prop extends C.Steady where
  keys : ∀ {d e}, C.Near d e →
    Option.Rel (fun a b => a.1 = b.1 ∧ C.Near a.2 b.2) (KeySource.nextKey d) (KeySource.nextKey e)

namespace Coupling

variable [InputDevice δ] (C : Coupling δ) {s t : Shell δ}

theorem tasks (alike : C.Alike s t) {queue : List Task} (fine : ∀ task ∈ queue, task.Holds C.Fine) :
    C.Alike { s with tasks := queue } { t with tasks := queue } :=
  C.change (c := .tasks queue) alike fine trivial

theorem sample (alike : C.Alike s t) : C.Alike s.sample.2 t.sample.2 := by
  have reset : C.Alike { s with clicks := 0 } { t with clicks := 0 } :=
    C.change (c := .clicks 0) alike trivial trivial
  unfold Shell.sample
  dsimp only
  rw [(C.agree alike).isOn_eq (by decide), (C.agree alike).clicks]
  split
  · exact C.change (c := .register Slot.clickRate (toString t.clicks.toNat)) reset (C.hereditary.numeral _)
      trivial
  · exact reset

/-- The tasks of a queue, those that wait and those that were started meanwhile are put back. -/
theorem restore (alike : C.Alike s t) {queue waiting : List Task} (queued : ∀ task ∈ queue, task.Holds C.Fine)
    (waited : ∀ task ∈ waiting, task.Holds C.Fine) :
    C.Alike { s with tasks := waiting.reverse ++ queue ++ s.tasks }
      { t with tasks := waiting.reverse ++ queue ++ t.tasks } := by
  rw [← (C.agree alike).tasks]
  apply C.tasks alike
  simp only [List.forall_mem_append, List.mem_reverse]
  exact ⟨⟨waited, queued⟩, (C.holds alike).tasks⟩

namespace Lasting

variable {C} [KeySource δ] (lasting : C.Lasting)
include lasting

theorem executeLine {line : String} (fine : C.Fine line) (alike : C.Alike s t) :
    C.Alike (s.executeLine line) (t.executeLine line) := by
  unfold Shell.executeLine
  cases parsed : Command.parse line with
  | ok command => exact lasting.dispatch 0 (C.hereditary.parse fine parsed) alike
  | error e => exact C.fail e alike

theorem handleKey (alike : C.Alike s t) :
    Option.Rel (fun a b => a.1 = b.1 ∧ C.Alike a.2 b.2) s.handleKey t.handleKey := by
  have waits := lasting.keys (C.near alike)
  unfold Shell.handleKey
  generalize KeySource.nextKey s.device = a at waits
  generalize KeySource.nextKey t.device = b at waits
  cases waits with
  | none => exact .none
  | @some first second same =>
      obtain ⟨press, device⟩ := first
      obtain ⟨_, device'⟩ := second
      obtain ⟨rfl, near⟩ : press = _ ∧ C.Near device device' := same
      apply Option.Rel.some
      have taken : C.Alike { s with device } { t with device := device' } := C.device alike near
      dsimp only
      rw [(C.agree alike).hotkeys]
      cases bound : (Slot.ofChar? .hotkey press.char).bind t.hotkeys.get? with
      | none => exact ⟨rfl, taken⟩
      | some text =>
          obtain ⟨slot, -, held⟩ := Option.bind_eq_some_iff.mp bound
          rw [← (C.agree alike).hotkeys] at held
          have fine := (C.holds alike).hotkeys slot text held
          dsimp only
          cases parsed : Command.parse text with
          | error e => exact ⟨rfl, taken⟩
          | ok command => exact ⟨rfl, lasting.dispatch 1 (C.hereditary.parse fine parsed) taken⟩

theorem listen (idle : Nat) (alike : C.Alike s t) : C.Alike (s.listen idle).2 (t.listen idle).2 := by
  unfold Shell.listen
  rw [(C.agree alike).isOn_eq (by decide)]
  split
  · have handled := lasting.handleKey alike
    generalize s.handleKey = a at handled
    generalize t.handleKey = b at handled
    cases handled with
    | none => exact alike
    | some same => exact same.2
  · exact C.change (c := .sleep idle) alike trivial trivial

/-- One case for each kind of step that a task can make. -/
theorem step (tick : Bool) {task : Task} (fine : task.Holds C.Fine) (alike : C.Alike s t) :
    Progressed C (task.step tick s) (task.step tick t) := by
  have quits := (C.agree alike).quit
  match task with
  | .repetition texts count | .watch condition value texts =>
      simp only [Task.step]
      cases parsed : Command.parseAll texts with
      | ok body => exact .ran ⟨C.hereditary.parseAll fine parsed, by simp⟩ alike
      | error e => exact .ended alike
  | .repeating body (command :: rest) passes =>
      obtain ⟨whole, head, others⟩ : _ ∧ _ ∧ _ := ⟨fine.1, List.forall_mem_cons.mp fine.2⟩
      simp only [Task.step]
      rw [quits]
      split
      · exact .ended alike
      · exact .ran ⟨whole, others⟩ (lasting.dispatch 1 head alike)
  | .repeating body [] (passes + 1) => exact .ran ⟨fine.1, fine.1⟩ alike
  | .repeating body [] 0 => exact .ended alike
  | .watching condition value body (command :: rest) =>
      obtain ⟨whole, head, others⟩ : _ ∧ _ ∧ _ := ⟨fine.1, List.forall_mem_cons.mp fine.2⟩
      simp only [Task.step]
      rw [(C.agree alike).registers]
      split
      · exact .ran ⟨whole, others⟩ (lasting.dispatch 1 head alike)
      · exact .idle ⟨whole, by simp⟩ alike
  | .watching condition value body [] =>
      simp only [Task.step]
      rw [quits]
      split
      · exact .ended alike
      · exact .ran ⟨fine.1, fine.1⟩ alike
  | .listener =>
      simp only [Task.step]
      rw [quits, (C.agree alike).isOn_eq (by decide)]
      split
      · exact .ended alike
      · split
        · have handled := lasting.handleKey alike
          generalize s.handleKey = a at handled
          generalize t.handleKey = b at handled
          cases handled with
          | none => exact .idle fine alike
          | some same => exact .ran fine same.2
        · exact .idle fine alike
  | .sampler =>
      simp only [Task.step]
      rw [quits]
      split
      · exact .idle fine alike
      · split
        · exact .ended alike
        · exact .idle fine (C.sample alike)

theorem drive (tick : Bool) (fuel : Nat) {task : Task} (fine : task.Holds C.Fine) (alike : C.Alike s t) :
    (task.drive tick fuel s).1 = (task.drive tick fuel t).1 ∧
    (∀ left ∈ (task.drive tick fuel s).1, left.Holds C.Fine) ∧
    C.Alike (task.drive tick fuel s).2 (task.drive tick fuel t).2 := by
  induction fuel generalizing task s t with
  | zero => exact ⟨rfl, by simpa [Task.drive] using fine, alike⟩
  | succ fuel ih =>
      have stepped := lasting.step tick fine alike
      unfold Task.drive
      generalize task.step tick s = a at stepped
      generalize task.step tick t = b at stepped
      cases stepped with
      | ended alike => exact ⟨rfl, by simp, alike⟩
      | idle fine alike => exact ⟨rfl, by simpa using fine, alike⟩
      | ran fine alike => exact ih fine alike

theorem driveQueue (tick : Bool) (fuel turns : Nat) {queue waiting : List Task}
    (queued : ∀ task ∈ queue, task.Holds C.Fine) (waited : ∀ task ∈ waiting, task.Holds C.Fine)
    (alike : C.Alike s t) :
    C.Alike (s.driveQueue tick fuel turns queue waiting) (t.driveQueue tick fuel turns queue waiting) := by
  -- On the turns.  What a task starts while it is driven joins the queue, which stays the same in both.
  induction turns generalizing queue waiting s t with
  | zero =>
      simp only [Shell.driveQueue]
      exact C.restore alike queued waited
  | succ turns ih =>
      match queue with
      | [] =>
          simp only [Shell.driveQueue]
          exact C.restore alike queued waited
      | task :: queue =>
          obtain ⟨head, others⟩ := List.forall_mem_cons.mp queued
          obtain ⟨same, left, driven⟩ := lasting.drive tick fuel head alike
          simp only [Shell.driveQueue]
          rw [← same, ← (C.agree driven).tasks]
          apply ih
          · exact List.forall_mem_append.mpr ⟨others, (C.holds driven).tasks⟩
          · exact List.forall_mem_append.mpr ⟨fun task member => left task (by simpa using member), waited⟩
          · exact C.tasks driven (by simp)

theorem round (tick : Bool) (fuel : Nat) (alike : C.Alike s t) :
    C.Alike (s.round tick fuel) (t.round tick fuel) := by
  unfold Shell.round
  rw [← (C.agree alike).tasks]
  exact lasting.driveQueue tick fuel fuel (C.holds alike).tasks (by simp) (C.tasks alike (by simp))

theorem advance (index : Nat) (tick : Bool) (alike : C.Alike s t) :
    C.Alike (s.advance index tick) (t.advance index tick) := by
  unfold Shell.advance
  rw [← (C.agree alike).tasks]
  cases found : s.tasks[index]? with
  | none => exact alike
  | some task =>
      have stepped := lasting.step tick ((C.holds alike).tasks task (List.mem_of_getElem? found)) alike
      dsimp only
      generalize task.step tick s = a at stepped
      generalize task.step tick t = b at stepped
      cases stepped with
      | ended alike =>
          dsimp only
          rw [← (C.agree alike).tasks]
          exact C.tasks alike fun task member => (C.holds alike).tasks task (List.mem_of_mem_eraseIdx member)
      | idle fine alike | ran fine alike =>
          dsimp only
          rw [← (C.agree alike).tasks]
          apply C.tasks alike
          intro task member
          rcases List.mem_or_eq_of_mem_set member with kept | rfl
          · exact (C.holds alike).tasks task kept
          · exact fine

theorem perform {step : Step δ} (fine : step.Holds C.Fine) (respects : step.Respects C.Near)
    (alike : C.Alike s t) : C.Alike (s.perform step) (t.perform step) := by
  cases step with
  | execute line => exact lasting.executeLine fine alike
  | enter line =>
      simp only [Shell.perform, Shell.enterLine]
      rw [(C.agree alike).options .leader (by decide)]
      exact lasting.executeLine (C.hereditary.strip _ fine) alike
  | dispatch line depth =>
      simp only [Shell.perform]
      cases parsed : Command.parse line with
      | ok command => exact lasting.dispatch depth (C.hereditary.parse fine parsed) alike
      | error e => exact alike
  | listen idle => exact lasting.listen idle alike
  | sample => exact C.sample alike
  | advance index tick => exact lasting.advance index tick alike
  | round tick fuel => exact lasting.round tick fuel alike
  | spawn task => exact C.spawn task fine alike
  | device change => exact C.device alike (respects _ _ (C.near alike))
  | files files => exact lasting.files files alike

theorem performAll {steps : List (Step δ)} (fine : ∀ step ∈ steps, step.Holds C.Fine)
    (respects : ∀ step ∈ steps, step.Respects C.Near) (alike : C.Alike s t) :
    C.Alike (s.performAll steps) (t.performAll steps) := by
  induction steps generalizing s t with
  | nil => exact alike
  | cons step steps ih =>
      obtain ⟨head, others⟩ := List.forall_mem_cons.mp fine
      obtain ⟨first, rest⟩ := List.forall_mem_cons.mp respects
      exact ih others rest (lasting.perform head first alike)

end Lasting

/-! ### Equal devices -/

namespace Steady

variable {C} [KeySource δ] (steady : C.Steady) (strict : C.Near = (· = ·))
include steady strict

theorem lasting : C.Lasting where
  toSteady := steady
  keys {d e} near := by
    rw [strict] at near ⊢
    subst near
    cases KeySource.nextKey d with
    | none => exact .none
    | some pressed => exact .some ⟨rfl, rfl⟩

theorem performAll {steps : List (Step δ)} (fine : ∀ step ∈ steps, step.Holds C.Fine) (alike : C.Alike s t) :
    C.Alike (s.performAll steps) (t.performAll steps) := by
  refine (steady.lasting strict).performAll fine (fun step _ => ?_) alike
  rw [strict]
  cases step with
  | device change => exact fun d e same => congrArg change same
  | execute | enter | dispatch | listen | sample | advance | round | spawn | files => trivial

end Steady
end Coupling

namespace Invariant

variable [InputDevice δ] [KeySource δ] (I : Invariant δ)

/-- An invariant that does not look at dispatches and files is kept by every run. -/
theorem performAll (logged : ∀ {s} depth command, I.Inv s → I.Inv (s.log (.dispatched depth command)))
    (placed : ∀ {s} files, I.Inv s → I.Inv { s with files }) {steps : List (Step δ)}
    (fine : ∀ step ∈ steps, step.Holds I.Fine) {s : Shell δ} (inv : I.Inv s) :
    I.Inv (s.performAll steps) := by
  have steady : I.coupling.Steady := by
    constructor
    · rintro command s _ depth fine ⟨rfl, inv⟩
      exact ⟨rfl, I.dispatch logged fine depth inv⟩
    · rintro s _ files ⟨rfl, inv⟩
      exact ⟨rfl, placed files inv⟩
  exact (steady.performAll rfl fine ⟨rfl, inv⟩).2

end Invariant
end MacroShell
