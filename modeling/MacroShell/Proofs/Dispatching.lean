import MacroShell.Shell.Dispatch

/-! # The steps of a dispatch

A dispatch logs the command, finds its verb, checks the number of operands and runs the verb, and
carries out what the verb ends with.  Each of the three ways through is stated once here, so that
nothing else has to open the definition.
-/

namespace MacroShell

variable {δ α β : Type}

namespace ShellM

theorem bind_ok {action : ShellM δ α} {next : α → ShellM δ β} {shell after : Shell δ} {a : α}
    (ran : action shell = .ok a after) : (action >>= next) shell = next a after := by
  simp only [bind, EStateM.bind, ran]

theorem get_bind (next : Shell δ → ShellM δ β) (shell : Shell δ) :
    (get >>= next : ShellM δ β) shell = next shell shell := rfl

theorem check_ok {result : Except ShellError α} {a : α} (good : result = .ok a) (shell : Shell δ) :
    (check result : ShellM δ α) shell = .ok a shell := by
  rw [good]
  rfl

theorem onDevice_ok {action : EStateM ShellError δ α} {shell : Shell δ} {device : δ} {a : α}
    (ran : action shell.device = .ok a device) : onDevice action shell = .ok a { shell with device } := by
  rw [onDevice, ran]

theorem onDevice_error {action : EStateM ShellError δ α} {shell : Shell δ} {device : δ} {e : ShellError}
    (failed : action shell.device = .error e device) :
    onDevice action shell = .error e { shell with device } := by
  rw [onDevice, failed]

end ShellM

namespace Execute

theorem require_ok {shell : Shell δ} {slot : Slot .register} {text : String}
    (held : shell.registers.get? slot = some text) : require slot shell = .ok text shell :=
  ShellM.check_ok (by rw [SlotTable.require, held]) shell

theorem require_error {shell : Shell δ} {slot : Slot .register} (absent : shell.registers.get? slot = none) :
    require slot shell = .error (.emptySlot .register slot.char) shell := by
  change (ShellM.check (shell.registers.require slot) : ShellM δ String) shell = _
  rw [SlotTable.require, absent]
  rfl

/-- A register that holds text is recalled with its notice, then come the others. -/
theorem recallSlots_cons {runText : String → ShellM δ Unit} {shell after : Shell δ}
    {slot : Slot .register} {text : String} (held : shell.registers.get? slot = some text)
    (ran : runText text (shell.notice s!"Recalling command in register '{slot.char}': {text}") =
      .ok () after) (rest : List (Slot .register)) :
    recallSlots runText (slot :: rest) shell = recallSlots runText rest after :=
  (ShellM.bind_ok (require_ok held)).trans (ShellM.bind_ok ran)

theorem recallAll_one {runText : String → ShellM δ Unit} {shell after : Shell δ} {register text : String}
    {slot : Slot .register} (named : Slot.parse .register register = .ok slot)
    (held : shell.registers.get? slot = some text)
    (ran : runText text (shell.notice s!"Recalling command in register '{slot.char}': {text}") =
      .ok () after) : recallAll runText [register] shell = .ok .none after := by
  have slots : Slot.parseAll .register [register] = .ok [slot] := by
    rw [Slot.parseAll, List.mapM_cons, named]
    rfl
  exact (ShellM.bind_ok (ShellM.check_ok slots shell)).trans
    (ShellM.bind_ok (recallSlots_cons held ran []))

end Execute

namespace Shell

variable [InputDevice δ]

/-- Carries out the outcome of a verb. -/
def settle : EStateM.Result ShellError (Shell δ) Output → Shell δ
  | .ok output shell => shell.conclude (.ok output)
  | .error e shell => shell.conclude (.error e)

theorem dispatchWith_unknown {command : Command} (unknown : Registry.builtin.lookup command.opcode = none)
    (runText : String → ShellM δ Unit) (depth : Nat) (shell : Shell δ) :
    dispatchWith runText depth command shell = shell.log (.dispatched depth command) := by
  simp [dispatchWith, unknown]

theorem dispatchWith_refused {command : Command} {entry : VerbEntry}
    (found : Registry.builtin.lookup command.opcode = some entry)
    (refused : entry.arity.accepts command.operands.length = false)
    (runText : String → ShellM δ Unit) (depth : Nat) (shell : Shell δ) :
    dispatchWith runText depth command shell =
      (shell.log (.dispatched depth command)).conclude (.error (.arity entry.name entry.usage)) := by
  unfold dispatchWith
  rw [found]
  simp only [refused]
  rfl

theorem dispatchWith_accepted {command : Command} {entry : VerbEntry}
    (found : Registry.builtin.lookup command.opcode = some entry)
    (accepted : entry.arity.accepts command.operands.length = true)
    (runText : String → ShellM δ Unit) (depth : Nat) (shell : Shell δ) :
    dispatchWith runText depth command shell =
      settle (Execute.run runText entry.verb command.operands (shell.log (.dispatched depth command))) := by
  unfold dispatchWith
  rw [found]
  simp only [accepted, if_true]
  rfl

/-- What a command comes to: its verb is refused the operands, or runs.  An opcode without a verb comes
    to nothing. -/
def outcome? (command : Command) (depth : Nat) (shell : Shell δ) :
    Option (EStateM.Result ShellError (Shell δ) Output) :=
  (Registry.builtin.lookup command.opcode).map fun entry =>
    if entry.arity.accepts command.operands.length then
      Execute.run (recallText depth) entry.verb command.operands (shell.log (.dispatched depth command))
    else .error (.arity entry.name entry.usage) (shell.log (.dispatched depth command))

theorem dispatch_of_outcome? {command : Command} {depth : Nat} {shell : Shell δ}
    {result : EStateM.Result ShellError (Shell δ) Output} (came : shell.outcome? command depth = some result) :
    shell.dispatch command depth = settle result := by
  obtain ⟨entry, found, rfl⟩ := Option.map_eq_some_iff.mp came
  unfold dispatch
  cases accepted : entry.arity.accepts command.operands.length with
  | false => exact dispatchWith_refused found accepted _ depth shell
  | true => exact dispatchWith_accepted found accepted _ depth shell

/-- The verb that an opcode selects, and the numbers of operands that it takes. -/
def selection (opcode : Char) : Option (Verb × Arity) :=
  (Registry.builtin.lookup opcode).map fun entry => (entry.verb, entry.arity)

theorem dispatchWith_selected {opcode : Char} {operands : List String} {verb : Verb} {arity : Arity}
    (selected : selection opcode = some (verb, arity)) (accepted : arity.accepts operands.length = true)
    (head : String) (runText : String → ShellM δ Unit) (depth : Nat) (shell : Shell δ) :
    dispatchWith runText depth ⟨opcode, head, operands⟩ shell =
      settle (Execute.run runText verb operands
        (shell.log (.dispatched depth ⟨opcode, head, operands⟩))) := by
  obtain ⟨entry, found, same⟩ := Option.map_eq_some_iff.mp selected
  obtain ⟨rfl, rfl⟩ := Prod.mk.inj same
  exact dispatchWith_accepted found accepted runText depth shell

theorem outcome?_selected {opcode : Char} {operands : List String} {verb : Verb} {arity : Arity}
    (selected : selection opcode = some (verb, arity)) (accepted : arity.accepts operands.length = true)
    (head : String) (depth : Nat) (shell : Shell δ) :
    shell.outcome? ⟨opcode, head, operands⟩ depth =
      some (Execute.run (recallText depth) verb operands
        (shell.log (.dispatched depth ⟨opcode, head, operands⟩))) := by
  obtain ⟨entry, found, same⟩ := Option.map_eq_some_iff.mp selected
  obtain ⟨rfl, rfl⟩ := Prod.mk.inj same
  simp [outcome?, found, accepted]

theorem accepts_atLeast_one {operands : List String} (nonempty : operands ≠ []) :
    (Arity.atLeast 1).accepts operands.length = true :=
  decide_eq_true (List.length_pos_iff.mpr nonempty)

theorem dispatchWith_recallAll {names : List String} (nonempty : names ≠ []) (head : String)
    (runText : String → ShellM δ Unit) (depth : Nat) (shell : Shell δ) :
    dispatchWith runText depth ⟨'#', head, names⟩ shell =
      settle (Execute.recallAll runText names (shell.log (.dispatched depth ⟨'#', head, names⟩))) := by
  have selected : selection '#' = some (.recallAll, .atLeast 1) := by decide
  exact dispatchWith_selected selected (accepts_atLeast_one nonempty) head runText depth shell

theorem accepts_atLeast_two {first : String} {rest : List String} (nonempty : rest ≠ []) :
    (Arity.atLeast 2).accepts (first :: rest).length = true := by
  have positive := List.length_pos_iff.mpr nonempty
  simp only [Arity.accepts, List.length_cons, decide_eq_true_eq]
  omega

/-! ## Verbs that set one thing -/

theorem dispatchWith_record {register : String} {words : List String} {slot : Slot .register}
    (named : Slot.parse .register register = .ok slot) (nonempty : words ≠ []) (head : String)
    (runText : String → ShellM δ Unit) (depth : Nat) (shell : Shell δ) :
    dispatchWith runText depth ⟨'@', head, register :: words⟩ shell =
      ((shell.log (.dispatched depth ⟨'@', head, register :: words⟩)).setRegister slot
        (Words.join words)).notice
          s!"Recorded command in register '{slot.char}': {Words.join words}" := by
  have selected : selection '@' = some (.record, .atLeast 2) := by decide
  rw [dispatchWith_selected selected (accepts_atLeast_two nonempty)]
  simp only [Execute.run, Execute.record, Execute.parseRegister, named]
  rfl

theorem dispatchWith_bind {key : String} {words : List String} {slot : Slot .hotkey}
    (named : Slot.parse .hotkey key = .ok slot) (nonempty : words ≠ []) (head : String)
    (runText : String → ShellM δ Unit) (depth : Nat) (shell : Shell δ) :
    dispatchWith runText depth ⟨'&', head, key :: words⟩ shell =
      ((shell.log (.dispatched depth ⟨'&', head, key :: words⟩)).setHotkey slot
        (Words.join words)).notice
          s!"Hotkey '{slot.char}' set to command: {Words.join words}" := by
  have selected : selection '&' = some (.bind, .atLeast 2) := by decide
  rw [dispatchWith_selected selected (accepts_atLeast_two nonempty)]
  simp only [Execute.run, Execute.bind, named]
  rfl

/-- The notice comes after the change, so the new value of `quiet` decides whether it is printed. -/
theorem dispatchWith_option (key : OptionKey) (value head : String)
    (runText : String → ShellM δ Unit) (depth : Nat) (shell : Shell δ) :
    dispatchWith runText depth ⟨'!', head, [key.name, value]⟩ shell =
      { shell.log (.dispatched depth ⟨'!', head, [key.name, value]⟩) with
        options := shell.options.set key value : Shell δ }.notice
          s!"Option {key.name} set to {value}" := by
  have selected : selection '!' = some (.option, .between 0 2) := by decide
  have accepted : (Arity.between 0 2).accepts [key.name, value].length = true := by rfl
  have named : shell.options.setNamed key.name value = .ok (shell.options.set key value) := by
    simp [OptionTable.setNamed]
  rw [dispatchWith_selected selected accepted]
  rw [Execute.run, Execute.option, ShellM.get_bind, show (shell.log _).options = shell.options from rfl,
    named]
  rfl

/-! ## Recalled text -/

/-- Below the limit, text that is a command is dispatched one level deeper. -/
theorem recallText_of_parse {depth : Nat} (below : depth < recallLimit) {text : String} {command : Command}
    (parsed : Command.parse text = .ok command) (shell : Shell δ) :
    recallText depth text shell = .ok () (shell.dispatch command (depth + 1)) := by
  obtain ⟨levels, left⟩ : ∃ levels, recallLimit - depth = levels + 1 :=
    Nat.exists_eq_succ_of_ne_zero (by omega)
  have fewer : recallLimit - (depth + 1) = levels := by omega
  unfold recallText dispatch
  rw [left]
  unfold recallText
  rw [fewer]
  simp only [recallWhile, parsed]
  rfl

end Shell
end MacroShell
