import MacroShell.Device.Virtual
import MacroShell.Proofs.History
import MacroShell.Proofs.ScriptLines

/-! # Recording a command and recalling it

A command that is recorded is taken apart, joined to a text, stored, and taken apart again when the
register is recalled.  For commands whose words are rejoinable all of this cancels: the register
holds the very command, and recalling it is the same as running the command one level down.
-/

namespace MacroShell.Shell

open MacroShell.Text MacroShell.Words

variable {δ : Type} [InputDevice δ]

/-- If the opcode of a command is no quote, its first word is bare as soon as it holds no quote. -/
theorem head_bare {line : String} {command : Command} (parsed : Command.parse line = .ok command)
    (other : command.opcode ≠ '"') (noQuote : '"' ∉ command.head.toList) :
    Bare command.head.toList ∧ command.head.toList.head? = some command.opcode := by
  obtain ⟨more, words, found⟩ := splitQuoted_of_find? (parse_eq_ok_iff.mp parsed).1
  have same := Except.ok.inj ((parse_of_splitQuoted found).symm.trans parsed)
  have head : command.head.toList = command.opcode :: more := by
    rw [← congrArg Command.head same, String.toList_ofList, unwrap_of_head_ne more other]
  rw [head] at noQuote ⊢
  have noSpace : ' ' ∉ command.opcode :: more := fun space =>
    noQuote (quote_mem_of_space_mem (by rw [found]; exact List.mem_cons_self) space)
  exact ⟨⟨List.cons_ne_nil _ _, noSpace⟩, rfl⟩

theorem parse_join_words {line : String} {command : Command} (parsed : Command.parse line = .ok command)
    (other : command.opcode ≠ '"') (noQuote : ∀ word ∈ command.words, '"' ∉ word.toList)
    (rejoinable : Rejoinable (command.words.map String.toList)) :
    Command.parse (join command.words) = .ok command := by
  obtain ⟨bare, first⟩ := head_bare parsed other (noQuote command.head List.mem_cons_self)
  refine parse_eq_ok_iff.mpr ⟨?_, (split_join_eq_iff noQuote).mpr rejoinable⟩
  rw [join, String.toList_ofList]
  exact (find?_joinChars rejoinable).trans ((if_pos bare).trans first)

theorem executeLine_record {q : Char} {slot : Slot .register} (named : Slot.ofChar? .register q = some slot)
    {line : String} {command : Command} (parsed : Command.parse line = .ok command) (shell : Shell δ) :
    shell.executeLine s!"@ {q} {line}" =
      ((shell.log (.dispatched 0 ⟨'@', "@", String.singleton q :: command.words⟩)).setRegister slot
        (join command.words)).notice
          s!"Recorded command in register '{q}': {join command.words}" := by
  obtain rfl := Slot.char_of_ofChar? named
  have found : split line = command.words := (parse_eq_ok_iff.mp parsed).2
  have recorded : Command.parse (State.registerLine slot line) =
      .ok ⟨'@', "@", String.singleton slot.char :: command.words⟩ := by
    rw [State.parse_registerLine, found]
  change shell.executeLine (State.registerLine slot line) = _
  rw [executeLine, recorded]
  exact dispatchWith_record (Slot.parse_char slot) (List.cons_ne_nil _ _) _ _ _ shell

/-- The line that recalls registers. -/
def recallLine (slots : List (Slot .register)) : String :=
  " ".intercalate ("#" :: slots.map fun slot => String.singleton slot.char)

theorem parse_recallLine (slots : List (Slot .register)) :
    Command.parse (recallLine slots) =
      .ok ⟨'#', "#", slots.map fun slot => String.singleton slot.char⟩ := by
  refine parse_intercalate ?_ rfl
  rw [List.forall_mem_cons, List.forall_mem_map]
  refine ⟨Plain.singleton (c := '#') (by decide) (by decide), fun slot _ => ?_⟩
  obtain ⟨other, solid⟩ := Slot.register_char slot
  exact .singleton solid other

/-- A single register that holds a command is recalled by dispatching that command one level down,
    after the notice. -/
theorem dispatch_recallAll {register text : String} {slot : Slot .register} {command : Command}
    (named : Slot.parse .register register = .ok slot) (parsed : Command.parse text = .ok command)
    {depth : Nat} (below : depth < recallLimit) (head : String) {shell : Shell δ}
    (held : shell.registers.get? slot = some text) :
    shell.dispatch ⟨'#', head, [register]⟩ depth =
      ((shell.log (.dispatched depth ⟨'#', head, [register]⟩)).notice
        s!"Recalling command in register '{slot.char}': {text}").dispatch command (depth + 1) := by
  let logged := shell.log (.dispatched depth ⟨'#', head, [register]⟩)
  have ran : Execute.recallAll (recallText depth) [register] logged = .ok .none _ :=
    Execute.recallAll_one named held (recallText_of_parse below parsed _)
  rw [dispatch, dispatchWith_recallAll (List.cons_ne_nil register [])]
  exact congrArg settle ran

/-- Recalling a register at the top does what dispatching its command one level down does.  Only the
    journal has more, and that in front: the recall itself and, unless the shell is quiet, one
    notice. -/
theorem executeLine_recall {slot : Slot .register} {text : String} {command : Command} {shell : Shell δ}
    (held : shell.registers.get? slot = some text) (parsed : Command.parse text = .ok command) :
    ∃ effects,
      (shell.dispatch command 1).journal = shell.journal ++ effects ∧
      shell.executeLine s!"# {slot.char}" =
        { shell.dispatch command 1 with
          journal := shell.journal ++ #[.dispatched 0 ⟨'#', "#", [String.singleton slot.char]⟩] ++
            (if shell.options.isOn .quiet then #[]
              else #[.line s!"Recalling command in register '{slot.char}': {text}"]) ++ effects } := by
  obtain ⟨effects, same⟩ := dispatch_effects command 1 shell
  refine ⟨effects, congrArg Shell.journal (same shell.journal), ?_⟩
  have noticed (effect : Effect) (text : String) : (shell.log effect).notice text =
      { shell with
        journal := shell.journal ++ #[effect] ++
          if shell.options.isOn .quiet then #[] else #[.line text] } := by
    rw [notice_eq]
    rfl
  have recalled := dispatch_recallAll (Slot.parse_char slot) parsed (by decide : 0 < recallLimit) "#" held
  change shell.executeLine (recallLine [slot]) = _
  rw [executeLine, parse_recallLine]
  refine recalled.trans ?_
  rw [noticed, same]

/-- Recording a command and recalling the register, for every command with rejoinable words: the
    register holds a text that is the command again, and recalling it leaves the shell as
    dispatching the command one level down does. -/
theorem recall_recorded {q : Char} {slot : Slot .register} (named : Slot.ofChar? .register q = some slot)
    {line : String} {command : Command} (parsed : Command.parse line = .ok command)
    (other : command.opcode ≠ '"') (noQuote : ∀ word ∈ command.words, '"' ∉ word.toList)
    (rejoinable : Rejoinable (command.words.map String.toList)) (shell : Shell δ) :
    let recorded := shell.executeLine s!"@ {q} {line}"
    let direct := recorded.dispatch command 1
    ∃ text effects,
      recorded.registers.get? slot = some text ∧ Command.parse text = .ok command ∧
      direct.journal = recorded.journal ++ effects ∧
      recorded.executeLine s!"# {q}" =
        { direct with
          journal := recorded.journal ++ #[.dispatched 0 ⟨'#', "#", [String.singleton q]⟩] ++
            (if recorded.options.isOn .quiet then #[]
              else #[.line s!"Recalling command in register '{q}': {text}"]) ++ effects } := by
  intro recorded direct
  obtain rfl := Slot.char_of_ofChar? named
  have again := parse_join_words parsed other noQuote rejoinable
  have held : recorded.registers.get? slot = some (join command.words) := by
    simp only [recorded, executeLine_record named parsed shell, notice_eq, setRegister]
    rw [SlotTable.get?_set, if_pos rfl]
  obtain ⟨effects, grown, recalled⟩ := executeLine_recall held again
  exact ⟨join command.words, effects, held, again, grown, recalled⟩

/-- A command with words that need quotes, recorded in register `q` and recalled from it. -/
theorem recall_recorded_print :
    let shell : Shell VirtualDevice := { device := default, dotfile := "state.rc" }
    let line := "P \"two  spaces\" and \"\" more"
    let command : Command := ⟨'P', "P", ["two  spaces", "and", "", "more"]⟩
    let q := 'q'
    let recorded := shell.executeLine s!"@ {q} {line}"
    Command.parse line = .ok command ∧ recorded.executeLine s!"# {q}" =
      { recorded.dispatch command 1 with journal := (recorded.executeLine s!"# {q}").journal } := by
  intro shell line command q recorded
  have parsed : Command.parse line = .ok command := by decide
  have named : Slot.ofChar? .register q = some ⟨16, by decide⟩ := by decide
  obtain ⟨text, effects, -, -, -, recalled⟩ :=
    recall_recorded named parsed (by decide) (by decide) (by decide) shell
  exact ⟨parsed, by rw [recalled]⟩

end MacroShell.Shell
