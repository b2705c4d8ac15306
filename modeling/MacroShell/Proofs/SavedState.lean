import MacroShell.Device.Virtual
import MacroShell.Proofs.History
import MacroShell.Proofs.ScriptLines

/-! # Loading a saved state

Nothing decodes a script: it is run, line by line, in the shell that loads it.  Every line of a clean
state sets one thing and touches nothing else, so the run as a whole puts the state into the shell
and leaves what the state does not hold as it was.
-/

namespace MacroShell

open MacroShell.Text MacroShell.Words

/-! ## Texts that survive a script -/

/-- Words that are found again in a line of a script that they are joined to. -/
structure CleanWords (words : List String) : Prop where
  nonempty : words ≠ []
  noQuote : ∀ word ∈ words, '"' ∉ word.toList
  unbroken : ∀ word ∈ words, '\n' ∉ word.toList
  rejoinable : Rejoinable (words.map String.toList)

def CleanText (text : String) : Prop := ∃ words, CleanWords words ∧ text = Words.join words

/-- An option value that is found again at the end of a line of a script. -/
structure CleanValue (value : String) : Prop where
  noQuote : '"' ∉ value.toList
  unbroken : '\n' ∉ value.toList
  starts : Bare value.toList → StartsSolid value.toList
  ends : Bare value.toList → value.toList.getLast? ≠ some '\r'

/-- A state with clean option values and texts.  The quote as a trigger has no partner in its line,
    and the text that is bound to it must not supply one. -/
structure State.Clean (state : State) : Prop where
  options : ∀ key, CleanValue (state.options.get key)
  registers : ∀ slot text, state.registers.get? slot = some text → CleanText text
  hotkeys : ∀ slot text, state.hotkeys.get? slot = some text → CleanText text
  alone : ∀ slot text, state.hotkeys.get? slot = some text → slot.char = '"' → '"' ∉ text.toList

theorem CleanWords.unbroken_join {words : List String} (clean : CleanWords words) :
    Unbroken (Words.join words).toList := by
  rw [Words.join, String.toList_ofList]
  constructor
  · intro written
    rcases mem_joinChars written with space | quote | ⟨word, member, inside⟩
    · cases space
    · cases quote
    · obtain ⟨text, found, rfl⟩ := List.mem_map.mp member
      exact clean.unbroken text found inside
  · intro ends
    cases endsSolid_joinChars _ '\r' ends

theorem CleanValue.unbroken_quote {value : String} (clean : CleanValue value) :
    Unbroken (quoteChars value.toList) := by
  constructor
  · exact newline_not_mem_quoteChars clean.unbroken
  · by_cases bare : Bare value.toList
    · rw [quoteChars_bare bare]
      exact clean.ends bare
    · rw [getLast?_quoteChars bare]
      decide

theorem State.unbroken_hotkeyLine (slot : Slot .hotkey) {text : String} (unbroken : Unbroken text.toList) :
    Unbroken (State.hotkeyLine slot text).toList := by
  have unwritten : '\n' ∉ quoteChars [slot.char] :=
    newline_not_mem_quoteChars (by simpa using slot.newline_ne_char)
  have front : '\n' ∉ ['&', ' '] ++ quoteChars [slot.char] ++ [' '] := by simp [unwritten]
  have whole := unbroken.prepend front (by rw [List.getLast?_concat]; decide)
  simpa [State.hotkeyLine_toList] using whole

/-! ## What a line sets -/

/-- What one line of a script sets. -/
inductive Setting where
  | option (key : OptionKey) (value : String)
  | register (slot : Slot .register) (text : String)
  | hotkey (slot : Slot .hotkey) (text : String)

namespace Setting

def line : Setting → String
  | option key value => State.optionLine key value
  | register slot text => State.registerLine slot text
  | hotkey slot text => State.hotkeyLine slot text

def apply (state : State) : Setting → State
  | option key value => { state with options := state.options.set key value }
  | register slot text => { state with registers := state.registers.set slot text }
  | hotkey slot text => { state with hotkeys := state.hotkeys.set slot text }

def Clean : Setting → Prop
  | option _ value => CleanValue value
  | register _ text => CleanText text
  | hotkey slot text => CleanText text ∧ (slot.char = '"' → '"' ∉ text.toList)

/-- The line of a clean setting is a command, and running it does what the setting says. -/
theorem dispatch_line {δ : Type} [InputDevice δ] {setting : Setting} (clean : setting.Clean) :
    ∃ command, Command.parse setting.line = .ok command ∧
      ∀ (depth : Nat) (shell : Shell δ), ∃ journal, shell.dispatch command depth =
        { shell with toState := setting.apply shell.toState, journal } := by
  cases setting with
  | option key value =>
      refine ⟨_, State.parse_optionLine key clean.noQuote clean.starts, fun depth shell => ?_⟩
      rw [Shell.dispatch, Shell.dispatchWith_option, Shell.notice_eq]
      exact ⟨_, rfl⟩
  | register slot text =>
      obtain ⟨words, clean, rfl⟩ := clean
      have found := (split_join_eq_iff clean.noQuote).mpr clean.rejoinable
      refine ⟨_, State.parse_registerLine slot _, fun depth shell => ?_⟩
      rw [found, Shell.dispatch, Shell.dispatchWith_record (Slot.parse_char slot) clean.nonempty,
        Shell.notice_eq]
      exact ⟨_, rfl⟩
  | hotkey slot text =>
      obtain ⟨⟨words, clean, rfl⟩, alone⟩ := clean
      have found := (split_join_eq_iff clean.noQuote).mpr clean.rejoinable
      refine ⟨_, State.parse_hotkeyLine slot alone, fun depth shell => ?_⟩
      rw [found, Shell.dispatch, Shell.dispatchWith_bind (Slot.parse_char slot) clean.nonempty,
        Shell.notice_eq]
      exact ⟨_, rfl⟩

theorem unbroken_line {setting : Setting} (clean : setting.Clean) : Unbroken setting.line.toList := by
  cases setting with
  | option key value =>
      have front : '\n' ∉ ("! " ++ key.name ++ " ").toList ∧
          ("! " ++ key.name ++ " ").toList.getLast? ≠ some '\r' := by
        cases key <;> decide
      have unbroken := (CleanValue.unbroken_quote clean).prepend front.1 front.2
      simpa [line, State.optionLine_toList] using unbroken
  | register slot text =>
      obtain ⟨words, clean, rfl⟩ := clean
      have front : '\n' ∉ ['@', ' ', slot.char, ' '] := by simp [slot.newline_ne_char]
      rw [line, State.registerLine_toList]
      exact clean.unbroken_join.prepend front (by simp)
  | hotkey slot text =>
      obtain ⟨⟨words, clean, rfl⟩, -⟩ := clean
      exact State.unbroken_hotkeyLine slot clean.unbroken_join

end Setting

theorem isBlankLine_of_parse {line : String} {command : Command}
    (parsed : Command.parse line = .ok command) : isBlankLine line = false := by
  have found := (parse_eq_ok_iff.mp parsed).1
  have solid := List.find?_some found
  rw [isBlankLine, List.all_eq_false]
  exact ⟨command.opcode, List.mem_of_find?_eq_some found, by simpa using solid⟩

/-! ## Running the lines -/

section Run

variable {δ : Type} [InputDevice δ] {depth : Nat}

theorem recallLines_cons (below : depth < Shell.recallLimit) {line : String} {command : Command}
    (parsed : Command.parse line = .ok command) (rest : List String) (shell : Shell δ) :
    Execute.recallLines (Shell.recallText depth) (line :: rest) shell =
      (do return (← Execute.recallLines (Shell.recallText depth) rest) + 1 : ShellM δ Nat)
        (shell.dispatch command (depth + 1)) := by
  rw [Execute.recallLines, isBlankLine_of_parse parsed, if_neg (by decide),
    ShellM.bind_ok (Shell.recallText_of_parse below parsed shell)]

/-- The lines of clean settings make the settings, one after the other, and nothing but the journal
    changes besides. -/
theorem recallLines_settings (below : depth < Shell.recallLimit) {settings : List Setting}
    (clean : ∀ setting ∈ settings, setting.Clean) (shell : Shell δ) :
    ∃ journal, Execute.recallLines (Shell.recallText depth) (settings.map Setting.line) shell =
      .ok settings.length
        { shell with toState := settings.foldl Setting.apply shell.toState, journal } := by
  induction settings generalizing shell with
  | nil => exact ⟨shell.journal, rfl⟩
  | cons setting settings ih =>
      rw [List.forall_mem_cons] at clean
      obtain ⟨command, parsed, dispatched⟩ := Setting.dispatch_line (δ := δ) clean.1
      obtain ⟨journal, set⟩ := dispatched (depth + 1) shell
      obtain ⟨final, ran⟩ := ih clean.2
        { shell with toState := setting.apply shell.toState, journal }
      refine ⟨final, ?_⟩
      rw [List.map_cons, recallLines_cons below parsed, set, ShellM.bind_ok ran]
      rfl

end Run

namespace State

/-- What a script sets, line by line. -/
def settings (state : State) : List Setting :=
  state.options.entries.map (fun entry => .option entry.1 entry.2) ++
    state.registers.entries.map (fun entry => .register entry.1 entry.2) ++
    state.hotkeys.entries.map (fun entry => .hotkey entry.1 entry.2)

theorem map_line_settings (state : State) : state.settings.map Setting.line = state.scriptLines := by
  simp only [settings, scriptLines, List.map_append, List.map_map]
  rfl

theorem length_settings (state : State) :
    state.settings.length = 5 + state.registers.occupied + state.hotkeys.occupied := by
  simp only [settings, SlotTable.occupied, OptionTable.entries, OptionKey.all, List.length_append,
    List.length_map, List.length_cons, List.length_nil]

theorem forall_settings {state : State} {P : Setting → Prop}
    (options : ∀ key, P (.option key (state.options.get key)))
    (registers : ∀ slot text, state.registers.get? slot = some text → P (.register slot text))
    (hotkeys : ∀ slot text, state.hotkeys.get? slot = some text → P (.hotkey slot text)) :
    ∀ setting ∈ state.settings, P setting := by
  simp only [State.settings, List.forall_mem_append, List.forall_mem_map]
  refine ⟨⟨?_, ?_⟩, ?_⟩
  · intro entry member
    obtain ⟨key, -, rfl⟩ := List.mem_map.mp member
    exact options key
  · intro entry member
    exact registers entry.1 entry.2 (SlotTable.mem_entries.mp member)
  · intro entry member
    exact hotkeys entry.1 entry.2 (SlotTable.mem_entries.mp member)

theorem Clean.settings {state : State} (clean : state.Clean) :
    ∀ setting ∈ state.settings, setting.Clean :=
  forall_settings clean.options clean.registers fun slot text held =>
    ⟨clean.hotkeys slot text held, clean.alone slot text held⟩

/-- A script sets every option, and of the slots those that its state holds. -/
theorem foldl_apply_settings (source target : State) :
    source.settings.foldl Setting.apply target =
      { target with
        options := source.options
        registers := target.registers.putAll source.registers.entries
        hotkeys := target.hotkeys.putAll source.hotkeys.entries } := by
  have registers (entries : List (Slot .register × String)) (state : State) :
      entries.foldl (fun state entry => Setting.apply state (.register entry.1 entry.2)) state =
        { state with registers := state.registers.putAll entries } := by
    induction entries generalizing state with
    | nil => rfl
    | cons entry entries ih => exact ih _
  have hotkeys (entries : List (Slot .hotkey × String)) (state : State) :
      entries.foldl (fun state entry => Setting.apply state (.hotkey entry.1 entry.2)) state =
        { state with hotkeys := state.hotkeys.putAll entries } := by
    induction entries generalizing state with
    | nil => rfl
    | cons entry entries ih => exact ih _
  rw [settings, List.foldl_append, List.foldl_append, List.foldl_map, List.foldl_map, List.foldl_map,
    registers, hotkeys]
  rfl

theorem lines_script {state : State} (clean : state.Clean) :
    Text.lines state.script = state.settings.map Setting.line := by
  rw [script, ← map_line_settings]
  refine Text.lines_join fun line member => ?_
  obtain ⟨setting, found, rfl⟩ := List.mem_map.mp member
  exact Setting.unbroken_line (clean.settings setting found)

end State

/-- Loading the script of a clean state succeeds and counts its lines.  Afterwards the options are
    those of the state, every slot that the state holds has its text, and the rest is as it was
    before.  A shell that held no other slots has the same script as the state. -/
theorem loadFile_script {δ : Type} [InputDevice δ] {source : State} (clean : source.Clean)
    {target : Shell δ} {path : String} (holds : target.files.read path = .ok source.script)
    {depth : Nat} (below : depth < Shell.recallLimit) :
    ∃ loaded, Execute.loadFile (Shell.recallText depth) path target =
        .ok (5 + source.registers.occupied + source.hotkeys.occupied) loaded ∧
      loaded.options = source.options ∧
      (∀ slot, loaded.registers.get? slot =
        (source.registers.get? slot).or (target.registers.get? slot)) ∧
      (∀ slot, loaded.hotkeys.get? slot =
        (source.hotkeys.get? slot).or (target.hotkeys.get? slot)) ∧
      loaded.clicks = target.clicks ∧ loaded.quit = target.quit ∧
      loaded.device = target.device ∧ loaded.tasks = target.tasks ∧ loaded.files = target.files ∧
      ((∀ slot, source.registers.get? slot = none → target.registers.get? slot = none) →
        (∀ slot, source.hotkeys.get? slot = none → target.hotkeys.get? slot = none) →
        loaded.script = source.script) := by
  obtain ⟨journal, ran⟩ := recallLines_settings below clean.settings target
  rw [State.length_settings, State.foldl_apply_settings, ← State.lines_script clean] at ran
  have loads : Execute.loadFile (Shell.recallText depth) path target =
      Execute.recallLines (Shell.recallText depth) (Text.lines source.script) target := by
    rw [Execute.loadFile, ShellM.get_bind, holds]
  refine ⟨_, loads.trans ran, rfl, SlotTable.get?_putAll_entries _ _,
    SlotTable.get?_putAll_entries _ _, rfl, rfl, rfl, rfl, rfl, ?_⟩
  intro registersCovered hotkeysCovered
  simp only [State.script, State.scriptLines, SlotTable.putAll_entries_of_covered registersCovered,
    SlotTable.putAll_entries_of_covered hotkeysCovered]

/-- An option value that ends in a space, a text with quoted words, and the space and the quote as
    triggers, loaded at the last depth below the limit. -/
theorem loadFile_script_triggers :
    let source : State :=
      { options := { leader := "> " }
        registers := SlotTable.empty.set ⟨0, by decide⟩ (Words.join ["P", "two  spaces", "", "end"])
        hotkeys := (SlotTable.empty.set ⟨0, by decide⟩ (Words.join ["P", "a b"])).set ⟨2, by decide⟩
          (Words.join ["K", "x"]) }
    let target : Shell VirtualDevice :=
      { device := default, dotfile := "state.rc"
        files := { entries := [(["state.rc"], .text source.script)] }
        registers := SlotTable.empty.set ⟨1, by decide⟩ "K y" }
    source.Clean ∧ target.files.read "state.rc" = .ok source.script ∧
    ∃ loaded, Execute.loadFile (Shell.recallText 255) "state.rc" target = .ok 8 loaded ∧
      loaded.options = source.options ∧
      loaded.registers.get? ⟨0, by decide⟩ = some "P \"two  spaces\" \"\" end" ∧
      loaded.registers.get? ⟨1, by decide⟩ = some "K y" ∧
      loaded.hotkeys.get? ⟨0, by decide⟩ = some "P \"a b\"" ∧
      loaded.hotkeys.get? ⟨2, by decide⟩ = some "K x" := by
  intro source target
  have clean : source.Clean := by
    constructor
    · intro key
      cases key <;> exact ⟨by decide, by decide, by decide, by decide⟩
    · intro slot text held
      simp only [source, SlotTable.get?_set, SlotTable.get?_empty] at held
      split at held
      · cases held
        exact ⟨_, ⟨by decide, by decide, by decide, by decide⟩, rfl⟩
      · cases held
    · intro slot text held
      simp only [source, SlotTable.get?_set, SlotTable.get?_empty] at held
      split at held
      · cases held
        exact ⟨_, ⟨by decide, by decide, by decide, by decide⟩, rfl⟩
      · split at held
        · cases held
          exact ⟨_, ⟨by decide, by decide, by decide, by decide⟩, rfl⟩
        · cases held
    · intro slot text held quote
      simp only [source, SlotTable.get?_set, SlotTable.get?_empty] at held
      split at held
      · cases held
        decide
      · split at held
        · rename_i here
          subst here
          cases quote
        · cases held
  have holds : target.files.read "state.rc" = .ok source.script := rfl
  have count : 5 + source.registers.occupied + source.hotkeys.occupied = 8 := by decide +kernel
  obtain ⟨loaded, ran, options, registers, hotkeys, -⟩ :=
    loadFile_script clean holds (by decide : 255 < Shell.recallLimit)
  rw [count] at ran
  refine ⟨clean, holds, loaded, ran, options, ?_, ?_, ?_, ?_⟩
  · rw [registers]; rfl
  · rw [registers]; rfl
  · rw [hotkeys]; rfl
  · rw [hotkeys]; rfl

end MacroShell
