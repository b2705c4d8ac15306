import Mathlib.Data.List.Forall2
import MacroShell.Proofs.Recalling

/-! # What a verb does

A verb that runs no stored text looks at the shell, and then does a single deed: it fails, it says
something, it changes one thing, it lets the device act, or it writes a file.  What it looks at is no
different in shells that agree apart from their devices, so there it does the same deed.

This is shown here once, verb by verb.  What holds of all such verbs follows from what deeds there are.
-/

namespace MacroShell

variable {δ α β : Type}

theorem mapM_eq_ok_iff {ε : Type} {f : α → Except ε β} {as : List α} {bs : List β} :
    as.mapM f = .ok bs ↔ List.Forall₂ (fun a b => f a = .ok b) as bs := by
  induction as generalizing bs with
  | nil => simp [pure, Except.pure, eq_comm]
  | cons a as ih =>
      rw [List.mapM_cons, List.forall₂_cons_left_iff]
      cases first : f a with
      | error e => simp [bind, Except.bind]
      | ok b =>
          cases rest : as.mapM f with
          | error e => simp [bind, Except.bind, ← ih, rest]
          | ok others => simp [bind, Except.bind, pure, Except.pure, ← ih, rest, eq_comm]

/-- Either one of the elements is refused, and its error ends the whole, or none is. -/
theorem mapM_cases {ε : Type} (f : α → Except ε β) (as : List α) :
    (∃ e, as.mapM f = .error e ∧ ∃ a ∈ as, f a = .error e) ∨
      ∃ bs, as.mapM f = .ok bs ∧ ∀ a ∈ as, ∃ b, f a = .ok b := by
  induction as with
  | nil => exact .inr ⟨[], rfl, by simp⟩
  | cons a as ih =>
      rw [List.mapM_cons]
      cases first : f a with
      | error e => exact .inl ⟨e, rfl, a, List.mem_cons_self, first⟩
      | ok b =>
          rcases ih with ⟨e, failed, other, member, refused⟩ | ⟨bs, mapped, fine⟩
          · rw [failed]
            exact .inl ⟨e, rfl, other, List.mem_cons_of_mem a member, refused⟩
          · rw [mapped]
            exact .inr ⟨b :: bs, rfl, List.forall_mem_cons.mpr ⟨⟨b, first⟩, fine⟩⟩

theorem mem_of_mapM_ok {ε : Type} {f : α → Except ε β} {as : List α} {bs : List β}
    (mapped : as.mapM f = .ok bs) : ∀ b ∈ bs, ∃ a ∈ as, f a = .ok b := by
  have pairs := mapM_eq_ok_iff.mp mapped
  clear mapped
  induction pairs with
  | nil => simp
  | cons same pairs ih =>
      refine List.forall_mem_cons.mpr ⟨⟨_, List.mem_cons_self, same⟩, ?_⟩
      intro b member
      obtain ⟨a, found, same⟩ := ih b member
      exact ⟨a, List.mem_cons_of_mem _ found, same⟩

theorem SlotTable.get?_of_require {table : SlotTable .register} {slot : Slot .register} {text : String}
    (found : table.require slot = .ok text) : table.get? slot = some text := by
  unfold require at found
  split at found
  · rename_i held
    cases found
    exact held
  · cases found

/-! ## Texts in a shell -/

/-- A property of texts that holds of every text that the shell makes out of texts with the property,
    or on its own. -/
structure Hereditary (Fine : String → Prop) : Prop where
  lines : ∀ {content line : String}, line ∈ Text.lines content → Fine line
  strip : ∀ {line : String} (leader : String), Fine line → Fine (stripLeader line leader)
  words : ∀ {line word : String}, Fine line → word ∈ Words.split line → Fine word
  join : ∀ {words : List String}, (∀ word ∈ words, Fine word) → Fine (Words.join words)
  location : ∀ position : Int32 × Int32, Fine (Execute.moveText position)
  numeral : ∀ n : Nat, Fine (toString n)

theorem Hereditary.trivial : Hereditary fun _ => True :=
  ⟨by simp, by simp, by simp, by simp, by simp, by simp⟩

def Command.Holds (Fine : String → Prop) (command : Command) : Prop :=
  ∀ word ∈ command.operands, Fine word

def Task.Holds (Fine : String → Prop) : Task → Prop
  | repetition texts _ | watch _ _ texts => ∀ text ∈ texts, Fine text
  | repeating body rest _ | watching _ _ body rest =>
      (∀ command ∈ body, command.Holds Fine) ∧ ∀ command ∈ rest, command.Holds Fine
  | listener | sampler => True

/-- Every text that is stored in the shell, or waits in a task to be run, has the property. -/
structure Shell.Holds (Fine : String → Prop) (shell : Shell δ) : Prop where
  options : ∀ key, Fine (shell.options.get key)
  registers : ∀ slot text, shell.registers.get? slot = some text → Fine text
  hotkeys : ∀ slot text, shell.hotkeys.get? slot = some text → Fine text
  tasks : ∀ task ∈ shell.tasks, task.Holds Fine

theorem Hereditary.parse {Fine : String → Prop} (hereditary : Hereditary Fine) {line : String}
    {command : Command} (fine : Fine line) (parsed : Command.parse line = .ok command) :
    command.Holds Fine := by
  intro word member
  unfold Command.parse at parsed
  split at parsed
  · rename_i found
    cases parsed
    exact hereditary.words fine (found ▸ List.mem_cons_of_mem _ member)
  · cases parsed

theorem Task.holds_trivial (task : Task) : task.Holds fun _ => True := by
  cases task <;> simp [Task.Holds, Command.Holds]

theorem Shell.holds_trivial (shell : Shell δ) : shell.Holds fun _ => True :=
  ⟨by simp, by simp, by simp, fun task _ => task.holds_trivial⟩

theorem Shell.Holds.queue {Fine : String → Prop} {shell : Shell δ} (holds : shell.Holds Fine) {task : Task}
    (fine : task.Holds Fine) : ∀ other ∈ shell.tasks ++ [task], other.Holds Fine :=
  List.forall_mem_append.mpr ⟨holds.tasks, List.forall_mem_singleton.mpr fine⟩

/-! ## Changes -/

/-- Tells whether an effect is that a command was dispatched. -/
def Effect.isDispatch : Effect → Bool
  | dispatched _ _ => true
  | _ => false

/-- A single thing that a verb does to a shell by itself. -/
inductive Change (δ : Type) where
  | device (device : δ)
  | clicks (clicks : UInt64)
  | register (slot : Slot .register) (text : String)
  | hotkey (slot : Slot .hotkey) (text : String)
  | option (key : OptionKey) (value : String)
  | tasks (tasks : List Task)
  | sleep (milliseconds : Nat)

def Shell.make (shell : Shell δ) : Change δ → Shell δ
  | .device device => { shell with device }
  | .clicks clicks => { shell with clicks }
  | .register slot text => shell.setRegister slot text
  | .hotkey slot text => shell.setHotkey slot text
  | .option key value => { shell with options := shell.options.set key value }
  | .tasks tasks => { shell with tasks }
  | .sleep milliseconds => shell.log (.slept milliseconds)

/-- Tells whether a change leaves the device alone. -/
def Change.OffDevice : Change δ → Prop
  | device _ => False
  | clicks _ | register _ _ | hotkey _ _ | option _ _ | tasks _ | sleep _ => True

def Change.Holds (Fine : String → Prop) : Change δ → Prop
  | device _ | clicks _ | sleep _ => True
  | register _ text | hotkey _ text | option _ text => Fine text
  | tasks queue => ∀ task ∈ queue, task.Holds Fine

theorem Shell.Holds.make {Fine : String → Prop} {shell : Shell δ} (holds : shell.Holds Fine)
    {change : Change δ} (fine : change.Holds Fine) : (shell.make change).Holds Fine := by
  cases change with
  | device | clicks | sleep => exact ⟨holds.options, holds.registers, holds.hotkeys, holds.tasks⟩
  | tasks tasks => exact ⟨holds.options, holds.registers, holds.hotkeys, fine⟩
  | register slot text =>
      refine ⟨holds.options, ?_, holds.hotkeys, holds.tasks⟩
      intro other stored held
      simp only [Shell.make, Shell.setRegister, SlotTable.get?_set] at held
      split at held
      · cases held
        exact fine
      · exact holds.registers other stored held
  | hotkey slot text =>
      refine ⟨holds.options, holds.registers, ?_, holds.tasks⟩
      intro other stored held
      simp only [Shell.make, Shell.setHotkey, SlotTable.get?_set] at held
      split at held
      · cases held
        exact fine
      · exact holds.hotkeys other stored held
  | option key value =>
      refine ⟨?_, holds.registers, holds.hotkeys, holds.tasks⟩
      intro other
      simp only [Shell.make, OptionTable.get_set]
      split
      · exact fine
      · exact holds.options other

/-! ## Deeds -/

/-- Writes the script of the shell to a file. -/
def Execute.store (path : String) : ShellM δ Unit := fun shell =>
  match shell.files.write path shell.script with
  | .ok files => .ok () ({ shell with files }.log (.saved path shell.script))
  | .error e => .error (.file path e) shell

theorem Execute.save_eq (operands : List String) :
    (save operands : ShellM δ Output) = do
      let path ← fileOperand operands
      store path
      return .notice s!"Saved state to {path}" := by
  funext shell
  have named (next : String → ShellM δ Output) : (fileOperand operands >>= next) shell =
      next (operands.head?.getD shell.dotfile) shell := rfl
  rw [save, named, named, ShellM.get_bind]
  let path := operands.head?.getD shell.dotfile
  cases written : shell.files.write path shell.script with
  | ok files =>
      have stored : store path shell = .ok () ({ shell with files }.log (.saved path shell.script)) := by
        rw [store, written]
      rw [ShellM.bind_ok stored]
      rfl
  | error e =>
      have stored : store path shell = .error (.file path e) shell := by
        rw [store, written]
      rw [ShellM.bind_error stored]
      rfl

/-- A single action on the device.  A click and a sequence of keys are none: the one is counted, and the
    other may be done in part. -/
inductive Operation where
  | pressKey (key : Char)
  | releaseKey (key : Char)
  | tapKey (key : Char)
  | pressButton (button : MouseButton)
  | releaseButton (button : MouseButton)
  | moveCursor (x y : Int32)

def Operation.run [InputDevice δ] : Operation → EStateM ShellError δ Unit
  | pressKey key => InputDevice.pressKey key
  | releaseKey key => InputDevice.releaseKey key
  | tapKey key => InputDevice.tapKey key
  | pressButton button => InputDevice.pressButton button
  | releaseButton button => InputDevice.releaseButton button
  | moveCursor x y => InputDevice.moveCursor x y

/-- What a verb does once it has looked at the shell. -/
inductive Deed (δ : Type) where
  | refuse (e : ShellError)
  | say (output : Output)
  /-- Tells about the options, `quiet` among them. -/
  | list (text : OptionTable → String)
  | make (change : Change δ) (output : Output)
  | act (operation : Operation)
  | typing (keys : List Char)
  /-- Clicks, and counts the click. -/
  | click (button : MouseButton)
  /-- Stores where the cursor is. -/
  | locate (output : Int32 × Int32 → Output)
  | store (path : String) (output : Output)

namespace Deed

def perform [InputDevice δ] : Deed δ → ShellM δ Output
  | refuse e => throw e
  | say output => return output
  | list text => do return .text (text (← get).options)
  | make change output => do
    modify (·.make change)
    return output
  | act operation => do
    ShellM.onDevice operation.run
    return .none
  | typing keys => do
    ShellM.onDevice (InputDevice.typeKeys keys)
    return .none
  | click button => do
    ShellM.onDevice (InputDevice.click button)
    modify fun shell => { shell with clicks := shell.clicks + 1 }
    return .none
  | locate output => do
    let position ← ShellM.onDevice InputDevice.queryCursor
    modify (·.setRegister Slot.lastLocation (Execute.moveText position))
    return output position
  | store path output => do
    Execute.store path
    return output

/-- The verb may do the deed.  What it stores has the property, only the verb that clicks has to do with the
    counter, and only one verb types keys in a row. -/
def Fits (Fine : String → Prop) (verb : Verb) : Deed δ → Prop
  | make change _ =>
    change.Holds Fine ∧ change.OffDevice ∧ ∀ shell : Shell δ, (shell.make change).clicks = shell.clicks
  | typing _ => verb = .sequence
  | click _ => verb = .button .tap
  | refuse _ | say _ | list _ | act _ | locate _ | store _ _ => True

end Deed

/-- Shells that hold the same, apart from the value of `quiet`, the device, the files and the journal. -/
structure Shell.AgreeOffDevice (s t : Shell δ) : Prop where
  registers : s.registers = t.registers
  hotkeys : s.hotkeys = t.hotkeys
  options : ∀ key, key ≠ .quiet → s.options.get key = t.options.get key
  clicks : s.clicks = t.clicks
  quit : s.quit = t.quit
  tasks : s.tasks = t.tasks
  dotfile : s.dotfile = t.dotfile

namespace Shell.AgreeOffDevice

variable {s t : Shell δ}

theorem refl (shell : Shell δ) : shell.AgreeOffDevice shell := ⟨rfl, rfl, fun _ _ => rfl, rfl, rfl, rfl, rfl⟩

theorem isOn_eq (agree : s.AgreeOffDevice t) {key : OptionKey} (other : key ≠ .quiet) :
    s.options.isOn key = t.options.isOn key := by
  rw [OptionTable.isOn, OptionTable.isOn, agree.options key other]

end Shell.AgreeOffDevice

/-- There is one deed that the verb may do and that the action comes to, in the shell and in all that agree
    with it off the device. -/
def ShellM.ComesToDeed [InputDevice δ] (Fine : String → Prop) (verb : Verb) (shell : Shell δ)
    (action : ShellM δ Output) : Prop :=
  ∃ deed : Deed δ, deed.Fits Fine verb ∧
    ∀ other, shell.AgreeOffDevice other → action other = deed.perform other

namespace ShellM.ComesToDeed

variable [InputDevice δ] {Fine : String → Prop} {verb : Verb} {shell : Shell δ}

theorem ofDeed (deed : Deed δ) (fits : deed.Fits Fine verb) : ComesToDeed Fine verb shell deed.perform :=
  ⟨deed, fits, fun _ _ => rfl⟩

theorem refuse (e : ShellError) : ComesToDeed Fine verb shell (throw e) := ofDeed (.refuse e) trivial

theorem say (output : Output) : ComesToDeed Fine verb shell (pure output) := ofDeed (.say output) trivial

theorem check {result : Except ShellError α} {next : α → ShellM δ Output}
    (rest : ∀ a, result = .ok a → ComesToDeed Fine verb shell (next a)) :
    ComesToDeed Fine verb shell (ShellM.check result >>= next) := by
  cases result with
  | ok a => exact rest a rfl
  | error e => exact refuse e

theorem look {next : Shell δ → ShellM δ Output}
    (same : ∀ other, shell.AgreeOffDevice other → next shell = next other)
    (rest : ComesToDeed Fine verb shell (next shell)) : ComesToDeed Fine verb shell (get >>= next) := by
  obtain ⟨deed, fits, does⟩ := rest
  refine ⟨deed, fits, fun other agree => ?_⟩
  rw [get_bind, ← same other agree, does other agree]

section Holds

variable (holds : shell.Holds Fine)
include holds

theorem require (slot : Slot .register) {next : String → ShellM δ Output}
    (rest : ∀ text, Fine text → ComesToDeed Fine verb shell (next text)) :
    ComesToDeed Fine verb shell (Execute.require slot >>= next) := by
  change ComesToDeed Fine verb shell (get >>= fun s => ShellM.check (s.registers.require slot) >>= next)
  refine look (fun other agree => by rw [agree.registers]) (check fun text found => rest text ?_)
  exact holds.registers slot text (SlotTable.get?_of_require found)

theorem snapshot (slots : List (Slot .register)) {next : List String → ShellM δ Output}
    (rest : ∀ texts, (∀ text ∈ texts, Fine text) → ComesToDeed Fine verb shell (next texts)) :
    ComesToDeed Fine verb shell (Execute.snapshot slots >>= next) := by
  change ComesToDeed Fine verb shell (get >>= fun s => ShellM.check (slots.mapM s.registers.require) >>= next)
  refine look (fun other agree => by rw [agree.registers]) (check fun texts taken => rest texts ?_)
  intro text member
  obtain ⟨slot, -, found⟩ := mem_of_mapM_ok taken text member
  exact holds.registers slot text (SlotTable.get?_of_require found)

theorem spawn (task : Task) (fine : task.Holds Fine) (output : Output) :
    ComesToDeed Fine verb shell (do modify (·.spawn task); return output) := by
  refine ⟨.make (.tasks (shell.tasks ++ [task])) output, ⟨holds.queue fine, trivial, fun _ => rfl⟩, ?_⟩
  intro other agree
  rw [agree.tasks]
  rfl

end Holds
end ShellM.ComesToDeed

/-! ## One deed for every verb -/

namespace Execute

open ShellM

variable [InputDevice δ] {Fine : String → Prop} {verb : Verb} {shell : Shell δ}

theorem comesToDeed_repetition (holds : shell.Holds Fine) (count : String) (registers : List String) :
    ComesToDeed Fine verb shell (repetition count registers) := by
  unfold repetition
  split
  · exact .check fun slots _ => .snapshot holds slots fun texts fine =>
      .spawn holds (.repetition texts _) fine _
  · exact .refuse _

theorem comesToDeed_watch (holds : shell.Holds Fine) (condition value : String) (registers : List String) :
    ComesToDeed Fine verb shell (watch condition value registers) :=
  .check fun slot _ => .check fun slots _ => .snapshot holds slots fun texts fine =>
    .spawn holds (.watch slot value texts) fine _

theorem comesToDeed_option {operands : List String} (fine : ∀ word ∈ operands, Fine word) :
    ComesToDeed Fine verb shell (option operands) := by
  match operands with
  | [] =>
      refine ⟨.list fun options => "\n".intercalate
        (options.entries.map fun entry => optionText entry.1.name entry.2), trivial, fun other _ => ?_⟩
      rw [option, get_bind]
      rfl
  | [name] =>
      cases known : OptionKey.ofName? name with
      | none =>
          refine ⟨.refuse (.unknownOption name), trivial, fun other _ => ?_⟩
          rw [option, get_bind, OptionTable.getNamed, known]
          rfl
      | some key =>
          refine ⟨.list fun options => optionText name (options.get key), trivial, fun other _ => ?_⟩
          rw [option, get_bind, OptionTable.getNamed, known]
          rfl
  | name :: value :: _ =>
      cases known : OptionKey.ofName? name with
      | none =>
          refine ⟨.refuse (.unknownOption name), trivial, fun other _ => ?_⟩
          rw [option, get_bind, OptionTable.setNamed, known]
          rfl
      | some key =>
          refine ⟨.make (.option key value) (.notice s!"Option {name} set to {value}"),
            ⟨fine value (by simp), trivial, fun _ => rfl⟩, fun other _ => ?_⟩
          rw [option, get_bind, OptionTable.setNamed, known]
          rfl

theorem comesToDeed_save (operands : List String) : ComesToDeed Fine verb shell (save operands) := by
  rw [save_eq]
  change ComesToDeed Fine verb shell (get >>= fun s => do
    let path := operands.head?.getD s.dotfile
    store path
    return .notice s!"Saved state to {path}")
  exact .look (fun other agree => by rw [agree.dotfile]) (.ofDeed (.store _ _) trivial)

theorem comesToDeed_delay (arg : String) : ComesToDeed Fine verb shell (delay arg) := by
  unfold delay
  split
  · exact .ofDeed (.make (.sleep _) .none) ⟨True.intro, trivial, fun _ => rfl⟩
  · exact .refuse _

theorem comesToDeed_moveTo (x y : String) : ComesToDeed Fine verb shell (moveTo x y) := by
  unfold moveTo parseCoordinate
  split
  · split
    · exact .ofDeed (.act (.moveCursor _ _)) trivial
    · exact .refuse _
  · exact .refuse _

theorem comesToDeed_storeLocation : ComesToDeed Fine verb shell storeLocation := by
  refine .look (fun other agree => by rw [agree.isOn_eq (by decide)]) ?_
  split
  · exact .ofDeed (.locate _) trivial
  · exact .refuse _

theorem comesToDeed_strokeButton (stroke : Stroke) (arg : String) :
    ComesToDeed Fine (.button stroke) shell (strokeButton stroke arg) := by
  refine .check fun button _ => ?_
  cases stroke with
  | tap => exact .ofDeed (.click button) rfl
  | down => exact .ofDeed (.act (.pressButton button)) trivial
  | up => exact .ofDeed (.act (.releaseButton button)) trivial

theorem comesToDeed_strokeKey (stroke : Stroke) (arg : String) :
    ComesToDeed Fine verb shell (strokeKey stroke arg) := by
  unfold strokeKey
  split
  · rename_i key _
    cases stroke with
    | tap => exact .ofDeed (.act (.tapKey key)) trivial
    | down => exact .ofDeed (.act (.pressKey key)) trivial
    | up => exact .ofDeed (.act (.releaseKey key)) trivial
  · exact .refuse _

theorem comesToDeed_sequence (words : List String) :
    ComesToDeed Fine .sequence shell (sequence words) := by
  rw [sequence, InputDevice.typeWords_eq]
  exact .ofDeed (.typing _) rfl

/-- One case for each verb that runs no stored text.  How stored text would be run makes no difference to
    it. -/
theorem run_deed (leaf : verb.recalls = false) (hereditary : Hereditary Fine) {operands : List String}
    (fine : ∀ word ∈ operands, Fine word) (holds : shell.Holds Fine) :
    ∃ deed : Deed δ, deed.Fits Fine verb ∧ ∀ runText other, shell.AgreeOffDevice other →
      run runText verb operands other = deed.perform other := by
  have always {action : ShellM δ Output} (comes : ComesToDeed Fine verb shell action)
      (same : ∀ runText, run runText verb operands = action) :
      ∃ deed : Deed δ, deed.Fits Fine verb ∧ ∀ runText other, shell.AgreeOffDevice other →
        run runText verb operands other = deed.perform other := by
    obtain ⟨deed, fits, does⟩ := comes
    exact ⟨deed, fits, fun runText other agree => by rw [same, does other agree]⟩
  cases verb with
  | recallAll | recallWhen | recallEither | load => cases leaf
  | help | quit => exact always (.say _) fun _ => rfl
  | option => exact always (comesToDeed_option fine) fun _ => rfl
  | save => exact always (comesToDeed_save operands) fun _ => rfl
  | sequence => exact always (comesToDeed_sequence operands) fun _ => rfl
  | print =>
      exact always (.look (fun other agree => by rw [agree.registers]) (.say _)) fun _ => rfl
  | bind =>
      match operands with
      | [] => exact always (.say _) fun _ => rfl
      | key :: words =>
          have joined := hereditary.join fun word member => fine word (List.mem_cons_of_mem key member)
          have bound : ComesToDeed Fine .bind shell (Execute.bind key words) :=
            .check fun slot _ => .ofDeed (.make (.hotkey slot _) _) ⟨joined, trivial, fun _ => rfl⟩
          exact always bound fun _ => rfl
  | record =>
      match operands with
      | [] => exact always (.say _) fun _ => rfl
      | register :: words =>
          have joined := hereditary.join fun word member => fine word (List.mem_cons_of_mem register member)
          have recorded : ComesToDeed Fine .record shell (record register words) :=
            .check fun slot _ => .ofDeed (.make (.register slot _) _) ⟨joined, trivial, fun _ => rfl⟩
          exact always recorded fun _ => rfl
  | clone =>
      match operands with
      | [source, target] =>
          have cloned : ComesToDeed Fine .clone shell (clone source target) :=
            .check fun source _ => .check fun target _ => .require holds source fun text fine =>
              .ofDeed (.make (.register target text) _) ⟨fine, trivial, fun _ => rfl⟩
          exact always cloned fun _ => rfl
      | [] | [_] | _ :: _ :: _ :: _ => exact always (.say _) fun _ => rfl
  | repetition =>
      match operands with
      | [] => exact always (.say _) fun _ => rfl
      | count :: registers => exact always (comesToDeed_repetition holds count registers) fun _ => rfl
  | watch =>
      match operands with
      | [] | [_] => exact always (.say _) fun _ => rfl
      | condition :: value :: registers =>
          exact always (comesToDeed_watch holds condition value registers) fun _ => rfl
  | move =>
      match operands with
      | [x, y] => exact always (comesToDeed_moveTo x y) fun _ => rfl
      | [] | [_] | _ :: _ :: _ :: _ => exact always comesToDeed_storeLocation fun _ => rfl
  | button stroke =>
      match operands with
      | [arg] => exact always (comesToDeed_strokeButton stroke arg) fun _ => rfl
      | [] | _ :: _ :: _ => exact always (.say _) fun _ => rfl
  | key stroke =>
      match operands with
      | [arg] => exact always (comesToDeed_strokeKey stroke arg) fun _ => rfl
      | [] | _ :: _ :: _ => exact always (.say _) fun _ => rfl
  | delay =>
      match operands with
      | [arg] => exact always (comesToDeed_delay arg) fun _ => rfl
      | [] | _ :: _ :: _ => exact always (.say _) fun _ => rfl

/-- The same in a single shell, where the texts may be any. -/
theorem run_eq_perform (leaf : verb.recalls = false) (operands : List String) (shell : Shell δ) :
    ∃ deed : Deed δ, deed.Fits (fun _ => True) verb ∧
      ∀ runText, run runText verb operands shell = deed.perform shell := by
  obtain ⟨deed, fits, does⟩ := run_deed leaf .trivial (fun _ (_ : _ ∈ operands) => trivial)
    shell.holds_trivial
  exact ⟨deed, fits, fun runText => does runText shell (.refl shell)⟩

end Execute
end MacroShell
