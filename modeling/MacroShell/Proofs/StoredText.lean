import MacroShell.Proofs.Nesting
import MacroShell.Proofs.Runs
import MacroShell.Proofs.SavedState

/-! # Stored text stays stored

A saved state is run when it is loaded.  The texts in it stand in the same lines as the commands that
store them, and as long as no text has a line feed in it, none of them begins a line.  No run brings
a line feed into a shell, whatever files are loaded and whatever the tasks do, so loading a state
stores its texts and does not run them.
-/

namespace MacroShell

variable {δ : Type}

/-! ## Texts of a single line -/

def Text.SingleLine (text : String) : Prop := '\n' ∉ text.toList

namespace Text

theorem closeLine_subset (reversed : List Char) : closeLine reversed ⊆ reversed := by
  unfold closeLine
  intro c member
  split at member
  · exact List.mem_cons_of_mem _ (List.mem_reverse.mp member)
  · exact List.mem_reverse.mp member

theorem newline_not_mem_linesFrom {reversed : List Char} (single : '\n' ∉ reversed) (text : List Char) :
    ∀ line ∈ linesFrom reversed text, '\n' ∉ line := by
  induction text generalizing reversed with
  | nil =>
      unfold linesFrom
      split
      · simp
      · simpa using single
  | cons c text ih =>
      by_cases newline : c = '\n'
      · subst newline
        rw [linesFrom, List.forall_mem_cons]
        exact ⟨fun member => single (closeLine_subset reversed member), ih (by simp)⟩
      · rw [linesFrom_cons newline]
        exact ih (by simp [single, Ne.symm newline])

theorem newline_not_mem_natural (n : Nat) : '\n' ∉ n.repr.toList := by
  intro member
  have written : '\n' ∈ Nat.toDigits 10 n := by simpa using member
  cases Nat.isDigit_of_mem_toDigits (by decide) (by decide) written

theorem newline_not_mem_integer (n : Int) : '\n' ∉ n.repr.toList := by
  cases n with
  | ofNat n => exact newline_not_mem_natural n
  | negSucc n =>
      change '\n' ∉ ("-" ++ (n + 1).repr).toList
      rw [String.toList_append, List.mem_append]
      exact not_or.mpr ⟨by decide, newline_not_mem_natural (n + 1)⟩

end Text

theorem Words.mem_of_splitFrom {inside : Bool} {reversed rest : List Char} :
    ∀ word ∈ splitFrom inside reversed rest, ∀ c ∈ word, c ∈ reversed ∨ c ∈ rest := by
  induction rest generalizing inside reversed with
  | nil =>
      intro word member c written
      rw [splitFrom_nil] at member
      rw [mem_asWord member] at written
      exact .inl (List.mem_reverse.mp written)
  | cons d rest ih =>
      intro word member c written
      rcases splitFrom_cons_cases inside reversed d rest with
        ⟨after, step, -⟩ | ⟨-, -, step⟩ | ⟨-, -, -, step⟩
      · rw [step] at member
        rcases ih word member c written with before | later
        · rcases List.mem_cons.mp before with rfl | before
          · exact .inr List.mem_cons_self
          · exact .inl before
        · exact .inr (List.mem_cons_of_mem d later)
      · rw [step, List.mem_append] at member
        rcases member with here | there
        · rw [mem_asWord here] at written
          exact .inl (List.mem_reverse.mp written)
        · rcases ih word there c written with before | later
          · cases before
          · exact .inr (List.mem_cons_of_mem d later)
      · rw [step] at member
        rcases ih word member c written with before | later
        · cases before
        · exact .inr (List.mem_cons_of_mem d later)

theorem Words.unwrap_subset (word : List Char) : unwrap word ⊆ word := by
  rcases unwrap_cases word with whole | wrapped
  · rw [whole]
    exact List.Subset.refl word
  · intro c member
    rw [wrapped]
    simp [member]

theorem hereditary_singleLine : Hereditary Text.SingleLine where
  lines := by
    intro content line member
    obtain ⟨chars, found, rfl⟩ := List.mem_map.mp member
    simpa [Text.SingleLine] using Text.newline_not_mem_linesFrom (by simp) content.toList chars found
  strip := by
    intro line leader single
    unfold stripLeader
    split
    · intro member
      exact single (List.mem_of_mem_drop (by simpa using member))
    · exact single
  words := by
    intro line word single member
    obtain ⟨chars, found, rfl⟩ := List.mem_map.mp member
    intro written
    have inside := Words.unwrap_subset chars (by simpa using written)
    rcases Words.mem_of_splitFrom chars found '\n' inside with before | later
    · cases before
    · exact single later
  join := by
    intro words single written
    rw [Words.join, String.toList_ofList] at written
    rcases Words.mem_joinChars written with space | quote | ⟨word, member, inside⟩
    · cases space
    · cases quote
    · obtain ⟨text, found, rfl⟩ := List.mem_map.mp member
      exact single text found inside
  location := by
    rintro ⟨x, y⟩
    change '\n' ∉ ("M " ++ toString x.toInt ++ " " ++ toString y.toInt).toList
    simp [Text.newline_not_mem_integer]
  numeral := Text.newline_not_mem_natural

/-- All texts in the shell are single lines. -/
def Invariant.singleLines : Invariant δ where
  Inv := Shell.Holds Text.SingleLine
  Fine := Text.SingleLine
  hereditary := hereditary_singleLine
  holds := id
  change holds fine := holds.make fine
  log holds _ _ := ⟨holds.options, holds.registers, holds.hotkeys, holds.tasks⟩
  quit holds := ⟨holds.options, holds.registers, holds.hotkeys, holds.tasks⟩
  save holds _ := ⟨holds.options, holds.registers, holds.hotkeys, holds.tasks⟩

/-! ## The lines of a script -/

namespace Setting

def text : Setting → String
  | option _ value => value
  | register _ text | hotkey _ text => text

/-- The character that the line of a setting starts with. -/
def marker : Setting → Char
  | option _ _ => '!'
  | register _ _ => '@'
  | hotkey _ _ => '&'

theorem line_starts (setting : Setting) :
    ∃ body, body ≠ [] ∧ setting.line.toList = [setting.marker, ' '] ++ body := by
  cases setting with
  | option key value => exact ⟨_, by simp, State.optionLine_toList key value⟩
  | register slot text => exact ⟨_, by simp, State.registerLine_toList slot text⟩
  | hotkey slot text => exact ⟨_, by simp, State.hotkeyLine_toList slot text⟩

theorem singleLine_line {setting : Setting} (single : Text.SingleLine setting.text) :
    Text.SingleLine setting.line := by
  unfold Text.SingleLine at *
  cases setting with
  | option key value => exact State.newline_not_mem_optionLine key single
  | register slot text =>
      have stored : '\n' ∉ text.toList := single
      simp [line, State.registerLine_toList, slot.newline_ne_char, stored]
  | hotkey slot text =>
      have stored : '\n' ∉ text.toList := single
      have trigger : '\n' ∉ Words.quoteChars [slot.char] :=
        Words.newline_not_mem_quoteChars (by simpa using slot.newline_ne_char)
      simp [line, State.hotkeyLine_toList, trigger, stored]

end Setting

theorem State.lines_script_of_singleLine {state : State}
    (single : ∀ setting ∈ state.settings, Text.SingleLine setting.text) :
    Text.lines state.script =
      state.settings.map fun setting => String.ofList (Text.closeLine setting.line.toList.reverse) := by
  have lines : ∀ line ∈ state.scriptLines, '\n' ∉ line.toList := by
    rw [← map_line_settings, List.forall_mem_map]
    exact fun setting member => Setting.singleLine_line (single setting member)
  rw [State.script, Text.lines_terminated lines, ← map_line_settings, List.map_map]
  rfl

theorem Shell.Holds.settings {Fine : String → Prop} {shell : Shell δ} (holds : shell.Holds Fine) :
    ∀ setting ∈ shell.settings, Fine setting.text :=
  State.forall_settings holds.options holds.registers holds.hotkeys

/-! ## Commands that only set -/

def Command.Sets (command : Command) : Prop :=
  ∃ entry, Registry.builtin.lookup command.opcode = some entry ∧ entry.verb ∈ [.option, .record, .bind]

/-- Whatever text a line of a script stores, the line is a command that sets something. -/
theorem Setting.parse_closed (setting : Setting) :
    let line := String.ofList (Text.closeLine setting.line.toList.reverse)
    [setting.marker, ' '] <+: line.toList ∧
      ∃ command, Command.parse line = .ok command ∧ command.Sets := by
  intro line
  obtain ⟨body, nonempty, starts⟩ := setting.line_starts
  have chars : line.toList = [setting.marker, ' '] ++ Text.closeLine body.reverse := by
    rw [String.toList_ofList, starts, Text.closeLine_reverse_append _ nonempty]
  have solid : Text.isBlank setting.marker = false := by cases setting <;> rfl
  obtain ⟨more, words, split⟩ := Words.splitQuoted_solid (' ' :: Text.closeLine body.reverse) solid
  have found : Words.splitQuoted line.toList = (setting.marker :: more) :: words := by
    rw [chars]
    exact split
  refine ⟨⟨_, chars.symm⟩, _, Words.parse_of_splitQuoted found, ?_⟩
  cases setting <;> exact ⟨_, rfl, by decide⟩

/-- From one shell to the other, registers, hotkeys and options may have been set, and only commands
    that do so were dispatched.  All the rest is the same. -/
def Shell.OnlySets (s t : Shell δ) : Prop :=
  ∃ registers hotkeys options effects,
    t = { s with registers, hotkeys, options, journal := s.journal ++ effects } ∧
    ∀ depth command, .dispatched depth command ∈ effects → command.Sets

namespace Shell.OnlySets

theorem ofSet (s : Shell δ) (registers : SlotTable .register) (hotkeys : SlotTable .hotkey)
    (options : OptionTable) : s.OnlySets { s with registers, hotkeys, options } :=
  ⟨registers, hotkeys, options, #[], by simp, by simp⟩

theorem refl (s : Shell δ) : s.OnlySets s := ofSet s s.registers s.hotkeys s.options

variable {s t u : Shell δ}

theorem trans (first : s.OnlySets t) (second : t.OnlySets u) : s.OnlySets u := by
  obtain ⟨_, _, _, effects, rfl, sets⟩ := first
  obtain ⟨registers, hotkeys, options, effects', rfl, sets'⟩ := second
  refine ⟨registers, hotkeys, options, effects ++ effects', by simp [Array.append_assoc], ?_⟩
  intro depth command member
  rcases Array.mem_append.mp member with early | late
  · exact sets depth command early
  · exact sets' depth command late

theorem log (first : s.OnlySets t) {effect : Effect}
    (sets : ∀ depth command, effect = .dispatched depth command → command.Sets) :
    s.OnlySets (t.log effect) := by
  refine first.trans ⟨t.registers, t.hotkeys, t.options, #[effect], by simp [Shell.log], ?_⟩
  intro depth command member
  exact sets depth command (Array.mem_singleton.mp member).symm

theorem notice (first : s.OnlySets t) (text : String) : s.OnlySets (t.notice text) := by
  unfold Shell.notice
  split
  · exact first
  · exact first.log (by simp)

theorem fail (first : s.OnlySets t) (e : ShellError) : s.OnlySets (t.conclude (.error e)) :=
  (first.log (by simp)).notice _

end Shell.OnlySets

namespace Shell

theorem onlySets_record (register : String) (words : List String) (shell : Shell δ) :
    shell.OnlySets (settle (Execute.record register words shell)) := by
  unfold Execute.record Execute.parseRegister
  cases Slot.parse .register register with
  | error e => exact (OnlySets.refl shell).fail e
  | ok slot =>
      have set := OnlySets.ofSet shell (shell.registers.set slot (Words.join words)) shell.hotkeys shell.options
      exact set.notice _

theorem onlySets_bind (key : String) (words : List String) (shell : Shell δ) :
    shell.OnlySets (settle (Execute.bind key words shell)) := by
  unfold Execute.bind
  cases Slot.parse .hotkey key with
  | error e => exact (OnlySets.refl shell).fail e
  | ok slot =>
      have set := OnlySets.ofSet shell shell.registers (shell.hotkeys.set slot (Words.join words)) shell.options
      exact set.notice _

theorem onlySets_option (operands : List String) (shell : Shell δ) :
    shell.OnlySets (settle (Execute.option operands shell)) := by
  have same := OnlySets.refl shell
  match operands with
  | [] => exact same.log (by simp)
  | [name] =>
      rw [Execute.option, ShellM.get_bind, OptionTable.getNamed]
      cases OptionKey.ofName? name with
      | none => exact same.fail _
      | some key => exact same.log (by simp)
  | name :: value :: _ =>
      rw [Execute.option, ShellM.get_bind, OptionTable.setNamed]
      cases OptionKey.ofName? name with
      | none => exact same.fail _
      | some key =>
          have set := OnlySets.ofSet shell shell.registers shell.hotkeys (shell.options.set key value)
          exact set.notice _

variable [InputDevice δ]

theorem onlySets_run (runText : String → ShellM δ Unit) {verb : Verb} (sets : verb ∈ [.option, .record, .bind])
    (operands : List String) (shell : Shell δ) :
    shell.OnlySets (settle (Execute.run runText verb operands shell)) := by
  simp only [List.mem_cons, List.not_mem_nil, or_false] at sets
  rcases sets with rfl | rfl | rfl
  · exact onlySets_option operands shell
  · match operands with
    | [] => exact OnlySets.refl shell
    | register :: words => exact onlySets_record register words shell
  · match operands with
    | [] => exact OnlySets.refl shell
    | key :: words => exact onlySets_bind key words shell

/-- Whatever operands a command that sets something is given, also a number of them that it does not
    take. -/
theorem onlySets_dispatch {command : Command} (sets : command.Sets) (depth : Nat) (shell : Shell δ) :
    shell.OnlySets (shell.dispatch command depth) := by
  have logged : shell.OnlySets (shell.log (.dispatched depth command)) := by
    refine (OnlySets.refl shell).log ?_
    rintro _ _ ⟨rfl, rfl⟩
    exact sets
  obtain ⟨entry, found, sets⟩ := sets
  unfold dispatch
  cases accepted : entry.arity.accepts command.operands.length with
  | false =>
      rw [dispatchWith_refused found accepted]
      exact logged.fail _
  | true =>
      rw [dispatchWith_accepted found accepted]
      exact logged.trans (onlySets_run _ sets _ _)

/-! ## Loading -/

theorem recallLines_sets {depth : Nat} (below : depth < recallLimit) {lines : List String}
    (setting : ∀ line ∈ lines, ∃ command, Command.parse line = .ok command ∧ command.Sets)
    (shell : Shell δ) :
    ∃ loaded, Execute.recallLines (recallText depth) lines shell = .ok lines.length loaded ∧
      shell.OnlySets loaded := by
  induction lines generalizing shell with
  | nil => exact ⟨shell, rfl, .refl shell⟩
  | cons line lines ih =>
      rw [List.forall_mem_cons] at setting
      obtain ⟨⟨command, parsed, sets⟩, others⟩ := setting
      obtain ⟨loaded, ran, set⟩ := ih others (shell.dispatch command (depth + 1))
      refine ⟨loaded, ?_, (onlySets_dispatch sets (depth + 1) shell).trans set⟩
      rw [recallLines_cons below parsed, ShellM.bind_ok ran]
      rfl

theorem recallLines_refused {depth : Nat} (limit : recallLimit ≤ depth) {line : String} {command : Command}
    (parsed : Command.parse line = .ok command) (rest : List String) (shell : Shell δ) :
    Execute.recallLines (recallText depth) (line :: rest) shell = .error (.recallDepth recallLimit) shell := by
  have refused : recallText depth line shell = .error (.recallDepth recallLimit) shell :=
    recallText_eq_error_iff.mpr ⟨rfl, .inl ⟨limit, rfl⟩⟩
  rw [Execute.recallLines, isBlankLine_of_parse parsed, if_neg (by decide), ShellM.bind_error refused]

/-- The lines of a script below the limit, and the first of them at the limit. -/
theorem loadFile_sets {state : State} (single : ∀ setting ∈ state.settings, Text.SingleLine setting.text)
    {target : Shell δ} {path : String} (holds : target.files.read path = .ok state.script) (depth : Nat) :
    ∃ loaded, target.OnlySets loaded ∧ Execute.loadFile (recallText depth) path target =
      if depth < recallLimit then .ok (5 + state.registers.occupied + state.hotkeys.occupied) loaded
      else .error (.recallDepth recallLimit) loaded := by
  have setting : ∀ line ∈ Text.lines state.script,
      ∃ command, Command.parse line = .ok command ∧ command.Sets := by
    rw [State.lines_script_of_singleLine single, List.forall_mem_map]
    exact fun setting _ => setting.parse_closed.2
  have count : (Text.lines state.script).length = 5 + state.registers.occupied + state.hotkeys.occupied := by
    rw [State.lines_script_of_singleLine single, List.length_map, State.length_settings]
  rw [Execute.loadFile, ShellM.get_bind, holds]
  dsimp only
  by_cases below : depth < recallLimit
  · obtain ⟨loaded, ran, set⟩ := recallLines_sets below setting target
    exact ⟨loaded, set, by rw [if_pos below, ran, count]⟩
  · refine ⟨target, .refl target, ?_⟩
    rw [if_neg below]
    cases lines : Text.lines state.script with
    | nil =>
        -- Every option has a line, so there is a first line that can be refused.
        rw [lines, List.length_nil] at count
        omega
    | cons line rest =>
        rw [lines] at setting
        obtain ⟨command, parsed, -⟩ := setting line List.mem_cons_self
        exact recallLines_refused (Nat.not_lt.mp below) parsed rest target

variable [KeySource δ]

theorem Holds.performAll {start : Shell δ} (single : start.Holds Text.SingleLine) {steps : List (Step δ)}
    (entered : ∀ step ∈ steps, step.Holds Text.SingleLine) :
    (start.performAll steps).Holds Text.SingleLine := by
  refine Invariant.singleLines.performAll ?_ ?_ entered single
  · intro s depth command holds
    exact Holds.mk holds.options holds.registers holds.hotkeys holds.tasks
  · intro s files holds
    exact Holds.mk holds.options holds.registers holds.hotkeys holds.tasks

/-- Take any run of a shell whose texts are single lines, in which only single lines are entered;
    files may hold anything, and tasks, keys and samples may come in any order.  Then all texts stay
    single lines, and the script of the shell has one line for each option, register and hotkey, which
    starts as a command that sets one of these.  Loading that script into any shell dispatches only
    such commands and leaves alone all that they do not set, whatever the stored texts are. -/
theorem loadFile_reached {ε : Type} [InputDevice ε] {start : Shell δ} (single : start.Holds Text.SingleLine)
    {steps : List (Step δ)} (entered : ∀ step ∈ steps, step.Holds Text.SingleLine) :
    let reached := start.performAll steps
    (∀ key, '\n' ∉ (reached.options.get key).toList) ∧
    (∀ slot text, reached.registers.get? slot = some text → '\n' ∉ text.toList) ∧
    (∀ slot text, reached.hotkeys.get? slot = some text → '\n' ∉ text.toList) ∧
    (Text.lines reached.script).length = 5 + reached.registers.occupied + reached.hotkeys.occupied ∧
    (∀ line ∈ Text.lines reached.script, ∃ marker ∈ ['!', '@', '&'], [marker, ' '] <+: line.toList) ∧
    ∀ (target : Shell ε) (path : String) (depth : Nat), target.files.read path = .ok reached.script →
      ∃ loaded effects,
        Execute.loadFile (recallText depth) path target =
          (if depth < recallLimit then .ok (5 + reached.registers.occupied + reached.hotkeys.occupied) loaded
            else .error (.recallDepth recallLimit) loaded) ∧
        loaded.journal = target.journal ++ effects ∧
        (∀ inner command, .dispatched inner command ∈ effects → command.Sets) ∧
        loaded.device = target.device ∧ loaded.clicks = target.clicks ∧ loaded.quit = target.quit ∧
        loaded.tasks = target.tasks ∧ loaded.files = target.files := by
  intro reached
  have holds : reached.Holds Text.SingleLine := single.performAll entered
  refine ⟨holds.options, holds.registers, holds.hotkeys, ?_, ?_, ?_⟩
  · rw [State.lines_script_of_singleLine holds.settings, List.length_map, State.length_settings]
  · rw [State.lines_script_of_singleLine holds.settings, List.forall_mem_map]
    intro setting _
    refine ⟨setting.marker, ?_, setting.parse_closed.1⟩
    cases setting <;> simp [Setting.marker]
  · intro target path depth saved
    obtain ⟨loaded, ⟨registers, hotkeys, options, effects, rfl, sets⟩, ran⟩ :=
      loadFile_sets holds.settings saved depth
    exact ⟨_, effects, ran, rfl, sets, rfl, rfl, rfl, rfl, rfl⟩

/-- Register `a` is given a command that quits, a file starts a repetition, and the script of what
    comes out of that is loaded into a fresh shell, which does not quit. -/
theorem loadFile_reached_quit :
    let start : Shell VirtualDevice :=
      { device := default, dotfile := "state.rc"
        files := { entries := [(["macros"], .text "@ b C 0\n* 2 b\n")] } }
    let steps : List (Step VirtualDevice) :=
      [.execute "@ a Q", .execute "< macros", .advance 0 false, .sample, .round false 8]
    let reached := start.performAll steps
    let target : Shell VirtualDevice :=
      { device := default, dotfile := "state.rc"
        files := { entries := [(["state.rc"], .text reached.script)] } }
    start.Holds Text.SingleLine ∧ (∀ step ∈ steps, step.Holds Text.SingleLine) ∧
    target.files.read "state.rc" = .ok reached.script ∧ reached.registers.get? ⟨0, by decide⟩ = some "Q" ∧
    ∃ loaded, Execute.loadFile (recallText 0) "state.rc" target =
        .ok (5 + reached.registers.occupied + reached.hotkeys.occupied) loaded ∧
      loaded.quit = false ∧ loaded.tasks = [] := by
  intro start steps reached target
  have single : start.Holds Text.SingleLine := by
    refine ⟨fun key => ?_, ?_, ?_, ?_⟩
    · unfold Text.SingleLine
      cases key <;> decide
    · simp [start]
    · simp [start]
    · simp [start]
  have entered : ∀ step ∈ steps, step.Holds Text.SingleLine := by
    simp [steps, Step.Holds, Text.SingleLine]
  have saved : target.files.read "state.rc" = .ok reached.script := rfl
  obtain ⟨-, -, -, -, -, loads⟩ := loadFile_reached (ε := VirtualDevice) single entered
  obtain ⟨loaded, effects, ran, -, -, -, -, quit, tasks, -⟩ := loads target "state.rc" 0 saved
  exact ⟨single, entered, saved, by decide +kernel, loaded, ran, quit, tasks⟩

end Shell
end MacroShell
