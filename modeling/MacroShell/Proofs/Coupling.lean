import MacroShell.Proofs.Deeds

/-! # Runs side by side

Most of what can be said about all verbs compares two runs of the same verb from two shells that are
alike in some sense, or says that a run keeps some property; the second is the first with one shell
compared to itself.  A `Coupling` lists what a notion of alike shells has to put up with, and every
deed is shown once to keep alike shells alike.  Verbs that run stored text do so as far as the text
itself can be run on both sides.
-/

namespace MacroShell

variable {δ σ α β : Type}

/-! ## Actions that keep shells alike -/

/-- Two runs that both end well, or both fail with the same error. -/
inductive Matched (Alike : σ → σ → Prop) (Same : α → α → Prop) :
    EStateM.Result ShellError σ α → EStateM.Result ShellError σ α → Prop
  | ok {a b : α} {s t : σ} (same : Same a b) (alike : Alike s t) :
      Matched Alike Same (.ok a s) (.ok b t)
  | error {e : ShellError} {s t : σ} (alike : Alike s t) :
      Matched Alike Same (.error e s) (.error e t)

/-- Actions on shells, or on their devices, that run alike. -/
def Coupled (Alike : σ → σ → Prop) (Same : α → α → Prop) (x y : EStateM ShellError σ α) : Prop :=
  ∀ s t, Alike s t → Matched Alike Same (x s) (y t)

namespace Coupled

variable {Alike : σ → σ → Prop} {Same : α → α → Prop} {Like : β → β → Prop}

theorem ofPure {a b : α} (same : Same a b) : Coupled Alike Same (pure a) (pure b) :=
  fun _ _ alike => .ok same alike

theorem ofThrow (e : ShellError) : Coupled Alike Same (throw e) (throw e) :=
  fun _ _ alike => .error alike

theorem bind {x y : EStateM ShellError σ α} {f g : α → EStateM ShellError σ β} (first : Coupled Alike Same x y)
    (second : ∀ a b, Same a b → Coupled Alike Like (f a) (g b)) :
    Coupled Alike Like (x >>= f) (y >>= g) := by
  intro s t alike
  have step := first s t alike
  simp only [Bind.bind, EStateM.bind]
  generalize x s = r at step
  generalize y t = r' at step
  cases step with
  | ok same alike => exact second _ _ same _ _ alike
  | error alike => exact .error alike

/-- The case in which both sides go on with the same value. -/
theorem bindEq {P : α → Prop} {x y : EStateM ShellError σ α} {f g : α → EStateM ShellError σ β}
    (first : Coupled Alike (fun a b => a = b ∧ P a) x y)
    (second : ∀ a, P a → Coupled Alike Like (f a) (g a)) :
    Coupled Alike Like (x >>= f) (y >>= g) := by
  apply first.bind
  rintro a _ ⟨rfl, holds⟩
  exact second a holds

theorem getBind {f g : σ → EStateM ShellError σ β}
    (runs : ∀ s t, Alike s t → Coupled Alike Like (f s) (g t)) :
    Coupled Alike Like (get >>= f) (get >>= g) :=
  fun s t alike => runs s t alike s t alike

theorem ofModify {f g : σ → σ} (keeps : ∀ s t, Alike s t → Alike (f s) (g t)) :
    Coupled Alike (fun _ _ => True) (modify f) (modify g) :=
  fun s t alike => .ok trivial (keeps s t alike)

theorem check {Alike : Shell δ → Shell δ → Prop} (result : Except ShellError α) :
    Coupled Alike (fun a b => a = b ∧ result = .ok a) (ShellM.check result) (ShellM.check result) := by
  cases result with
  | ok a => exact ofPure ⟨rfl, rfl⟩
  | error e => exact ofThrow e

theorem refl (x : EStateM ShellError σ α) : Coupled (· = ·) (· = ·) x x := by
  rintro s _ rfl
  cases x s with
  | ok a s => exact .ok rfl rfl
  | error e s => exact .error rfl

end Coupled

/-- All that a device can do keeps near devices near. -/
structure InputDevice.Respects [InputDevice δ] (Near : δ → δ → Prop) : Prop where
  pressKey : ∀ key, Coupled Near (· = ·) (pressKey key) (pressKey key)
  releaseKey : ∀ key, Coupled Near (· = ·) (releaseKey key) (releaseKey key)
  pressButton : ∀ button, Coupled Near (· = ·) (pressButton button) (pressButton button)
  releaseButton : ∀ button, Coupled Near (· = ·) (releaseButton button) (releaseButton button)
  moveCursor : ∀ x y, Coupled Near (· = ·) (moveCursor x y) (moveCursor x y)
  queryCursor : Coupled Near (· = ·) queryCursor queryCursor

namespace InputDevice.Respects

variable [InputDevice δ] {Near : δ → δ → Prop}

theorem refl : Respects (δ := δ) (· = ·) :=
  ⟨fun _ => .refl _, fun _ => .refl _, fun _ => .refl _, fun _ => .refl _, fun _ _ => .refl _, .refl _⟩

variable (respects : Respects Near)
include respects

theorem tapKey (key : Char) : Coupled Near (· = ·) (InputDevice.tapKey key) (InputDevice.tapKey key) :=
  (respects.pressKey key).bind fun _ _ _ => respects.releaseKey key

theorem click (button : MouseButton) :
    Coupled Near (· = ·) (InputDevice.click button) (InputDevice.click button) :=
  (respects.pressButton button).bind fun _ _ _ => respects.releaseButton button

theorem typeKeys (keys : List Char) :
    Coupled Near (· = ·) (InputDevice.typeKeys keys) (InputDevice.typeKeys keys) := by
  induction keys with
  | nil => exact .ofPure rfl
  | cons key keys ih => exact (respects.tapKey key).bind fun _ _ _ => ih

theorem operation (operation : Operation) : Coupled Near (· = ·) operation.run operation.run := by
  cases operation with
  | pressKey key => exact respects.pressKey key
  | releaseKey key => exact respects.releaseKey key
  | tapKey key => exact respects.tapKey key
  | pressButton button => exact respects.pressButton button
  | releaseButton button => exact respects.releaseButton button
  | moveCursor x y => exact respects.moveCursor x y

end InputDevice.Respects

/-! ## Notions of alike shells -/

/-- Shells that hold the same, apart from the value of `quiet`, the files and the journal. -/
structure Shell.Agree (s t : Shell δ) : Prop extends Shell.AgreeOffDevice s t where
  device : s.device = t.device

/-- What comes of two attempts at files that both succeed, or both fail for the same reason. -/
inductive Agreed (Like : α → α → Prop) : Except FileError α → Except FileError α → Prop
  | ok {a b : α} (like : Like a b) : Agreed Like (.ok a) (.ok b)
  | error (e : FileError) : Agreed Like (.error e) (.error e)

/-- A notion of alike shells that all verbs respect.  Their devices are `Near` each other, the texts that are
    stored are `Fine`, lines of files that are run correspond to each other as `Line` says, and what is
    printed as `Said` says. -/
structure Coupling (δ : Type) [InputDevice δ] where
  Alike : Shell δ → Shell δ → Prop
  Near : δ → δ → Prop
  Fine : String → Prop
  Line : String → String → Prop
  Said : Output → Output → Prop
  hereditary : Hereditary Fine
  respects : InputDevice.Respects Near
  agree : ∀ {s t}, Alike s t → s.AgreeOffDevice t
  near : ∀ {s t}, Alike s t → Near s.device t.device
  holds : ∀ {s t}, Alike s t → s.Holds Fine
  change : ∀ {s t c}, Alike s t → Change.Holds Fine c → Change.OffDevice c → Alike (s.make c) (t.make c)
  device : ∀ {s t d e}, Alike s t → Near d e → Alike { s with device := d } { t with device := e }
  notice : ∀ {s t} text, Alike s t → Alike (s.notice text) (t.notice text)
  fail : ∀ {s t} e, Alike s t → Alike (s.conclude (.error e)) (t.conclude (.error e))
  said_refl : ∀ output, Said output output
  conclude : ∀ {s t a b}, Alike s t → Said a b → Alike (s.conclude (.ok a)) (t.conclude (.ok b))
  said_options : ∀ {s t}, Alike s t → ∀ text : OptionTable → String,
    Said (.text (text s.options)) (.text (text t.options))
  store : ∀ path, Coupled Alike (fun _ _ => True) (Execute.store path) (Execute.store path)
  line : ∀ {text}, Fine text → Line text text
  blank : ∀ {a b}, Line a b → Text.isBlankLine a = Text.isBlankLine b
  reads : ∀ {s t} path, Alike s t →
    Agreed (fun a b => List.Forall₂ Line (Text.lines a) (Text.lines b)) (s.files.read path) (t.files.read path)

namespace Coupling

variable [InputDevice δ] (C : Coupling δ)

theorem said (output : Output) : Coupled C.Alike C.Said (pure output) (pure output) :=
  .ofPure (C.said_refl output)

theorem modifySaid {f : Shell δ → Shell δ} (keeps : ∀ s t, C.Alike s t → C.Alike (f s) (f t))
    (output : Output) : Coupled C.Alike C.Said (do modify f; return output) (do modify f; return output) :=
  .bind (.ofModify keeps) fun _ _ _ => C.said output

/-! ### Reading -/

theorem require (slot : Slot .register) :
    Coupled C.Alike (fun a b => a = b ∧ C.Fine a) (Execute.require slot) (Execute.require slot) := by
  apply Coupled.getBind
  intro s t alike
  rw [← (C.agree alike).registers]
  cases held : s.registers.get? slot with
  | none =>
      rw [SlotTable.require, held]
      exact .ofThrow _
  | some text =>
      rw [SlotTable.require, held]
      exact .ofPure ⟨rfl, (C.holds alike).registers slot text held⟩

theorem fileOperand (operands : List String) :
    Coupled C.Alike (fun a b => a = b ∧ True) (Execute.fileOperand operands)
      (Execute.fileOperand operands) := by
  apply Coupled.getBind
  intro s t alike
  rw [(C.agree alike).dotfile]
  exact .ofPure ⟨rfl, trivial⟩

/-! ### Verbs that do a single deed -/

theorem spawn (task : Task) (fine : task.Holds C.Fine) {s t : Shell δ} (alike : C.Alike s t) :
    C.Alike (s.spawn task) (t.spawn task) := by
  rw [Shell.spawn, Shell.spawn, ← (C.agree alike).tasks]
  exact C.change (c := .tasks (s.tasks ++ [task])) alike ((C.holds alike).queue fine) trivial

theorem onDevice {action : EStateM ShellError δ α} (acts : Coupled C.Near (· = ·) action action) :
    Coupled C.Alike (fun a b => a = b ∧ True) (ShellM.onDevice action) (ShellM.onDevice action) := by
  intro s t alike
  have acted := acts _ _ (C.near alike)
  unfold ShellM.onDevice
  generalize action s.device = a at acted
  generalize action t.device = b at acted
  cases acted with
  | ok same near => exact .ok ⟨same, trivial⟩ (C.device alike near)
  | error near => exact .error (C.device alike near)

theorem perform {verb : Verb} {deed : Deed δ} (fits : deed.Fits C.Fine verb) :
    Coupled C.Alike C.Said deed.perform deed.perform := by
  cases deed with
  | refuse e => exact .ofThrow e
  | say output => exact C.said output
  | list text => exact fun s t alike => .ok (C.said_options alike text) alike
  | make change output => exact C.modifySaid (fun s t alike => C.change alike fits.1 fits.2.1) output
  | act operation => exact .bindEq (C.onDevice (C.respects.operation operation)) fun _ _ => C.said _
  | typing keys => exact .bindEq (C.onDevice (C.respects.typeKeys keys)) fun _ _ => C.said _
  | click button =>
      refine .bindEq (C.onDevice (C.respects.click button)) fun _ _ => C.modifySaid (fun s t alike => ?_) _
      rw [← (C.agree alike).clicks]
      exact C.change (c := .clicks (s.clicks + 1)) alike True.intro trivial
  | locate output =>
      refine .bindEq (C.onDevice C.respects.queryCursor) fun position _ => C.modifySaid (fun s t alike => ?_) _
      exact C.change (c := .register Slot.lastLocation (Execute.moveText position)) alike
        (C.hereditary.location position) trivial
  | store path output => exact .bind (C.store path) fun _ _ _ => C.said output

theorem run_leaf {verb : Verb} (leaf : verb.recalls = false) {operands : List String}
    (fine : ∀ word ∈ operands, C.Fine word) (runText runText' : String → ShellM δ Unit) :
    Coupled C.Alike C.Said (Execute.run runText verb operands)
      (Execute.run runText' verb operands) := by
  intro s t alike
  obtain ⟨deed, fits, does⟩ := Execute.run_deed leaf C.hereditary fine (C.holds alike)
  rw [does runText s (.refl s), does runText' t (C.agree alike)]
  exact C.perform fits s t alike

/-! ### Verbs that run stored text -/

section Run

variable {C} {runText runText' : String → ShellM δ Unit}
  (runs : ∀ a b, C.Line a b → Coupled C.Alike (fun _ _ => True) (runText a) (runText' b))
include runs

theorem recallSlots (slots : List (Slot .register)) :
    Coupled C.Alike (fun _ _ => True) (Execute.recallSlots runText slots)
      (Execute.recallSlots runText' slots) := by
  induction slots with
  | nil => exact .ofPure trivial
  | cons slot rest ih =>
      refine .bindEq (C.require slot) fun text fine => ?_
      refine .bind (.ofModify fun _ _ alike => C.notice _ alike) fun _ _ _ => ?_
      exact .bind (runs text text (C.line fine)) fun _ _ _ => ih

theorem recallLines {as bs : List String} (lines : List.Forall₂ C.Line as bs) :
    Coupled C.Alike (fun a b => a = b ∧ True) (Execute.recallLines runText as)
      (Execute.recallLines runText' bs) := by
  induction lines with
  | nil => exact .ofPure ⟨rfl, trivial⟩
  | @cons a b as bs line _ ih =>
      rw [Execute.recallLines, Execute.recallLines, C.blank line]
      split
      · exact ih
      · exact .bind (runs a b line) fun _ _ _ => .bindEq ih fun _ _ => .ofPure ⟨rfl, trivial⟩

theorem loadFile (path : String) :
    Coupled C.Alike (fun a b => a = b ∧ True) (Execute.loadFile runText path)
      (Execute.loadFile runText' path) := by
  apply Coupled.getBind
  intro s t alike
  have same := C.reads path alike
  generalize s.files.read path = a at same
  generalize t.files.read path = b at same
  cases same with
  | ok lines => exact recallLines runs lines
  | error e => exact .ofThrow _

theorem run (verb : Verb) {operands : List String}
    (fine : ∀ word ∈ operands, C.Fine word) :
    Coupled C.Alike C.Said (Execute.run runText verb operands)
      (Execute.run runText' verb operands) := by
  cases recalls : verb.recalls with
  | false => exact C.run_leaf recalls fine runText runText'
  | true =>
      by_cases loads : verb = .load
      · subst loads
        exact .bindEq (C.fileOperand operands) fun path _ =>
          .bindEq (loadFile runs path) fun _ _ => C.said _
      · intro s t alike
        rw [Execute.run_recalls runText s recalls loads, Execute.run_recalls runText' t recalls loads,
          (C.agree alike).registers]
        have chosen : Coupled C.Alike C.Said
            (Execute.recallChosen runText (Execute.targets t.registers verb operands))
            (Execute.recallChosen runText' (Execute.targets t.registers verb operands)) :=
          .bindEq (.check _) fun slots _ => .bind (recallSlots runs slots) fun _ _ _ => C.said _
        exact chosen s t alike

omit runs in
theorem settle {r r' : EStateM.Result ShellError (Shell δ) Output} (same : Matched C.Alike C.Said r r') :
    C.Alike (Shell.settle r) (Shell.settle r') := by
  cases same with
  | ok said alike => exact C.conclude alike said
  | error alike => exact C.fail _ alike

/-- The commands may be dispatched at different depths; what is logged of that has to be alike. -/
theorem dispatchWith {command : Command} (fine : command.Holds C.Fine)
    {depth depth' : Nat} {s t : Shell δ}
    (alike : C.Alike (s.log (.dispatched depth command)) (t.log (.dispatched depth' command))) :
    C.Alike (s.dispatchWith runText depth command) (t.dispatchWith runText' depth' command) := by
  cases found : Registry.builtin.lookup command.opcode with
  | none =>
      rw [Shell.dispatchWith_unknown found, Shell.dispatchWith_unknown found]
      exact alike
  | some entry =>
      cases accepted : entry.arity.accepts command.operands.length with
      | false =>
          rw [Shell.dispatchWith_refused found accepted, Shell.dispatchWith_refused found accepted]
          exact C.fail _ alike
      | true =>
          rw [Shell.dispatchWith_accepted found accepted, Shell.dispatchWith_accepted found accepted]
          exact settle (run runs entry.verb fine _ _ alike)

end Run

section Dispatch

/-- Lines that are not the same and yet run to the same end, whatever is recalled. -/
def Interchangeable (a b : String) : Prop :=
  ∃ command command', Command.parse a = .ok command ∧ Command.parse b = .ok command' ∧
    ∀ (runText runText' : String → ShellM δ Unit) (depth : Nat) {s t : Shell δ}, C.Alike s t →
      C.Alike (s.dispatchWith runText depth command) (t.dispatchWith runText' depth command')

variable {C} (same : ∀ {a b}, C.Line a b → a = b ∧ C.Fine a ∨ C.Interchangeable a b)
  (logged : ∀ {s t} depth command, C.Alike s t →
    C.Alike (s.log (.dispatched depth command)) (t.log (.dispatched depth command)))
include same logged

/-- The nesting of recalls unfolds level by level, so what holds of one dispatch holds at all of
    them. -/
theorem recallWhile {live : Shell δ → Bool} (blind : ∀ s t, C.Alike s t → live s = live t)
    (levels depth : Nat) (a b : String) (line : C.Line a b) :
    Coupled C.Alike (fun _ _ => True) (Shell.recallWhile live levels depth a)
      (Shell.recallWhile live levels depth b) := by
  induction levels generalizing depth a b with
  | zero => exact .ofThrow _
  | succ levels ih =>
      apply Coupled.getBind
      intro s t alike
      rw [blind s t alike]
      split
      · rcases same line with ⟨rfl, fine⟩ | ⟨command, command', parsed, parsed', runs⟩
        · refine .bindEq (.check _) fun command parsed => .ofModify fun s t alike => ?_
          exact dispatchWith (ih (depth + 1)) (C.hereditary.parse fine parsed) (logged _ _ alike)
        · rw [parsed, parsed']
          exact .ofModify fun s t alike => runs _ _ (depth + 1) alike
      · exact .ofPure trivial

theorem dispatch {command : Command} (fine : command.Holds C.Fine) (depth : Nat) {s t : Shell δ}
    (alike : C.Alike s t) : C.Alike (s.dispatch command depth) (t.dispatch command depth) :=
  dispatchWith (recallWhile same logged (fun _ _ _ => rfl) _ depth) fine (logged depth command alike)

end Dispatch

end Coupling
end MacroShell
