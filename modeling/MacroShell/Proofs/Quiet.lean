import MacroShell.Device.Virtual
import MacroShell.Proofs.History
import MacroShell.Proofs.LikeFiles
import MacroShell.Proofs.Runs
import MacroShell.Proofs.ScriptLines

/-! # Quiet shells

A quiet shell prints less than one that is not quiet, and does the same.  The value of `quiet` gets
into files when a state is saved, and back into a shell when that file is loaded.  So files are
compared as well: they are the same up to lines that turn `quiet` on or off.
-/

namespace MacroShell

variable {δ : Type}

/-! ## Lines that turn quiet on or off -/

/-- Values of `quiet` that need not be told apart. -/
def TwinValue (a b : String) : Prop := a = b ∨ a ∈ ["true", "false"] ∧ b ∈ ["true", "false"]

def TwinLine (a b : String) : Prop :=
  a = b ∨ a ∈ ["! quiet true", "! quiet false"] ∧ b ∈ ["! quiet true", "! quiet false"]

/-- Texts with the same line ends and, between these, the same lines up to those that turn `quiet` on
    or off. -/
inductive TwinText : String → String → Prop
  | last {a b : String} (line : TwinLine a b) : TwinText a b
  | more {a b rest rest' : String} (line : TwinLine a b) {ending : String} (ends : ending ∈ ["\n", "\r\n"])
      (others : TwinText rest rest') : TwinText (a ++ ending ++ rest) (b ++ ending ++ rest')

theorem TwinText.refl (text : String) : TwinText text text := .last (.inl rfl)

theorem Text.lines_append {ending : String} (ends : ending ∈ ["\n", "\r\n"]) (front rest : String) :
    Text.lines (front ++ ending ++ rest) = Text.lines (front ++ ending) ++ Text.lines rest := by
  obtain ⟨more, chars⟩ : ∃ more, ending.toList = more ++ ['\n'] := by
    simp only [List.mem_cons, List.not_mem_nil, or_false] at ends
    rcases ends with rfl | rfl
    · exact ⟨[], rfl⟩
    · exact ⟨['\r'], rfl⟩
  have split := linesFrom_separated [] (front.toList ++ more) rest.toList
  simp only [Text.lines, String.toList_append, chars, ← List.map_append]
  simpa using congrArg (List.map String.ofList) split

theorem TwinLine.lines {a b : String} (line : TwinLine a b) {ending : String} (ends : ending ∈ ["", "\n", "\r\n"]) :
    List.Forall₂ TwinLine (Text.lines (a ++ ending)) (Text.lines (b ++ ending)) := by
  rcases line with rfl | ⟨first, second⟩
  · exact List.forall₂_same.mpr fun _ _ => .inl rfl
  · have alone (text : String) (member : text ∈ ["! quiet true", "! quiet false"]) :
        Text.lines (text ++ ending) = [text] := by
      simp only [List.mem_cons, List.not_mem_nil, or_false] at ends member
      rcases ends with rfl | rfl | rfl <;> rcases member with rfl | rfl <;> decide
    rw [alone a first, alone b second]
    exact .cons (.inr ⟨first, second⟩) .nil

theorem TwinText.lines {a b : String} (twins : TwinText a b) :
    List.Forall₂ TwinLine (Text.lines a) (Text.lines b) := by
  induction twins with
  | last line =>
      have whole := line.lines (show "" ∈ ["", "\n", "\r\n"] by simp)
      simpa using whole
  | more line ends _ ih =>
      rw [Text.lines_append ends, Text.lines_append ends]
      exact List.rel_append (line.lines (List.mem_cons_of_mem "" ends)) ih

theorem TwinLine.isBlankLine_eq {a b : String} (line : TwinLine a b) : Text.isBlankLine a = Text.isBlankLine b := by
  rcases line with rfl | ⟨first, second⟩
  · rfl
  · have solid : ∀ text ∈ ["! quiet true", "! quiet false"], Text.isBlankLine text = false := by decide
    rw [solid a first, solid b second]

/-! ## Twins -/

/-- Shells that agree on all but the value of `quiet`, which is on or off in each if it is not the same,
    and on files up to lines that turn it on or off.  What they have printed is not compared. -/
structure Shell.Twins (s t : Shell δ) : Prop extends Shell.Agree s t where
  quiet : TwinValue (s.options.get .quiet) (t.options.get .quiet)
  files : s.files.LikeFiles TwinText t.files

/-- The lines of a script after the first, which sets `quiet`. -/
def State.otherLines (state : State) : List String :=
  OptionKey.all.tail.map (fun key => optionLine key (state.options.get key)) ++
    state.registers.entries.map (fun entry => registerLine entry.1 entry.2) ++
    state.hotkeys.entries.map (fun entry => hotkeyLine entry.1 entry.2)

theorem State.script_eq (state : State) :
    state.script = optionLine .quiet (state.options.get .quiet) ++ "\n" ++
      String.join (state.otherLines.map (· ++ "\n")) := by
  rw [← String.toList_inj]
  simp [script, scriptLines, otherLines, OptionTable.entries, OptionKey.all, String.toList_join]

theorem TwinValue.line {a b : String} (twins : TwinValue a b) :
    TwinLine (State.optionLine .quiet a) (State.optionLine .quiet b) := by
  rcases twins with rfl | ⟨first, second⟩
  · exact .inl rfl
  · have written : ∀ value ∈ ["true", "false"],
        State.optionLine .quiet value ∈ ["! quiet true", "! quiet false"] := by decide
    exact .inr ⟨written a first, written b second⟩

namespace Shell.Twins

variable {s t : Shell δ}

theorem script (twins : s.Twins t) : TwinText s.script t.script := by
  have others : s.otherLines = t.otherLines := by
    simp [State.otherLines, OptionKey.all, twins.options, twins.registers, twins.hotkeys]
  rw [State.script_eq, State.script_eq, others]
  exact .more twins.quiet.line (by simp) (.refl _)

theorem place (twins : s.Twins t) {a b : FileTree} (files : a.LikeFiles TwinText b)
    (journal journal' : Array Effect) :
    Twins { s with files := a, journal } { t with files := b, journal := journal' } :=
  { twins with files }

theorem journals (twins : s.Twins t) (journal journal' : Array Effect) :
    Twins { s with journal } { t with journal := journal' } :=
  twins.place twins.files journal journal'

theorem notice (twins : s.Twins t) (text text' : String) : (s.notice text).Twins (t.notice text') := by
  rw [notice_eq, notice_eq]
  exact twins.journals _ _

theorem requestQuit (twins : s.Twins t) : s.requestQuit.Twins t.requestQuit := by
  have quits (shell : Shell δ) : shell.requestQuit =
      { shell with quit := true, journal := shell.journal ++ if shell.hooked then #[.quitHook] else #[] } := by
    unfold Shell.requestQuit
    dsimp only
    split <;> simp [Shell.log, *]
  rw [quits, quits]
  exact { twins with quit := rfl }

theorem setOption (twins : s.Twins t) (key : OptionKey) {value value' : String}
    (same : value = value' ∨ key = .quiet ∧ TwinValue value value') :
    Twins { s with options := s.options.set key value } { t with options := t.options.set key value' } := by
  refine { twins with options := ?_, quiet := ?_ }
  · intro other differs
    dsimp only
    rw [OptionTable.get_set, OptionTable.get_set, twins.options other differs]
    rcases same with rfl | ⟨rfl, -⟩
    · rfl
    · rw [if_neg differs.symm, if_neg differs.symm]
  · dsimp only
    rw [OptionTable.get_set, OptionTable.get_set]
    split
    · rcases same with rfl | ⟨-, twin⟩
      · exact .inl rfl
      · exact twin
    · exact twins.quiet

theorem make (twins : s.Twins t) (change : Change δ) : (s.make change).Twins (t.make change) := by
  cases change with
  | device => exact { twins with device := rfl }
  | clicks => exact { twins with clicks := rfl }
  | tasks => exact { twins with tasks := rfl }
  | sleep => exact twins.journals _ _
  | register slot text => exact { twins with registers := congrArg (·.set slot text) twins.registers }
  | hotkey slot text => exact { twins with hotkeys := congrArg (·.set slot text) twins.hotkeys }
  | option key value => exact twins.setOption key (.inl rfl)

/-- Saving writes twin scripts to twin files. -/
theorem store (path : String) :
    Coupled (Twins (δ := δ)) (fun _ _ => True) (Execute.store path) (Execute.store path) := by
  intro s t twins
  have written := twins.files.write path twins.script
  unfold Execute.store
  generalize s.files.write path s.script = a at written
  generalize t.files.write path t.script = b at written
  cases written with
  | error e => exact .error twins
  | ok files => exact .ok trivial (twins.place files _ _)

end Shell.Twins

/-- Twins print different texts where a command prints the value of an option. -/
def Coupling.twins [InputDevice δ] : Coupling δ where
  Alike := Shell.Twins
  Near := (· = ·)
  Fine _ := True
  Line := TwinLine
  Said a b := a = b ∨ ∃ text text', a = .text text ∧ b = .text text'
  hereditary := .trivial
  respects := .refl
  agree twins := twins.toAgreeOffDevice
  near twins := twins.device
  holds _ := Shell.holds_trivial _
  change twins _ _ := twins.make _
  device twins same := same ▸ twins.make (.device _)
  notice text twins := twins.notice text text
  fail e twins := (twins.journals _ _).notice _ _
  said_refl _ := .inl rfl
  conclude := by
    rintro s t a b twins (rfl | ⟨text, text', rfl, rfl⟩)
    · cases a with
      | text text => exact twins.journals _ _
      | notice text => exact twins.notice text text
      | none => exact twins
      | quit => exact twins.requestQuit
    · exact twins.journals _ _
  said_options _ text := .inr ⟨_, _, rfl, rfl⟩
  store := Shell.Twins.store
  line _ := .inl rfl
  blank line := line.isBlankLine_eq
  reads {s t} path twins := by
    have read := twins.files.read path
    generalize s.files.read path = a at read
    generalize t.files.read path = b at read
    cases read with
    | ok texts => exact .ok texts.lines
    | error e => exact .error e

section Run

variable [InputDevice δ]

theorem parse_quietLine {line : String} (turns : line ∈ ["! quiet true", "! quiet false"]) :
    ∃ value ∈ ["true", "false"], Command.parse line = .ok ⟨'!', "!", [OptionKey.quiet.name, value]⟩ := by
  simp only [List.mem_cons, List.not_mem_nil, or_false] at turns
  rcases turns with rfl | rfl
  · exact ⟨"true", by simp, by decide⟩
  · exact ⟨"false", by simp, by decide⟩

/-- Turning `quiet` on in one and off in the other leaves twins. -/
theorem TwinLine.interchangeable {a b : String} (line : TwinLine a b) :
    a = b ∧ True ∨ (Coupling.twins : Coupling δ).Interchangeable a b := by
  rcases line with rfl | ⟨first, second⟩
  · exact .inl ⟨rfl, trivial⟩
  · obtain ⟨value, on, parsed⟩ := parse_quietLine first
    obtain ⟨value', on', parsed'⟩ := parse_quietLine second
    refine .inr ⟨_, _, parsed, parsed', ?_⟩
    intro runText runText' depth s t twins
    rw [Shell.dispatchWith_option, Shell.dispatchWith_option]
    have set := Shell.Twins.setOption twins .quiet (.inr ⟨rfl, .inr ⟨on, on'⟩⟩)
    exact (set.journals _ _).notice _ _

theorem steady_twins : (Coupling.twins : Coupling δ).Steady where
  dispatch depth fine twins := Coupling.dispatch (C := .twins) (TwinLine.interchangeable ·)
    (fun _ _ twins => Shell.Twins.journals twins _ _) fine depth twins
  files files twins := Shell.Twins.place twins (.refl .refl files) _ _

/-- Take two runs of the same steps, from shells that agree on everything but on whether they are quiet,
    with files that agree up to lines that turn `quiet` on or off.  After these steps the shells still
    agree on everything else, and their files still agree in that way. -/
theorem Shell.performAll_twins [KeySource δ] {s t : Shell δ} (twins : s.Twins t) (steps : List (Step δ)) :
    (s.performAll steps).Twins (t.performAll steps) :=
  steady_twins.performAll rfl (fun step _ => step.holds_trivial) twins

/-- A quiet shell and one that is not, each with a file of its own that says so.  Both load it, save
    their states over it and recall what it recorded. -/
theorem Shell.performAll_twins_load :
    let shell (value : String) : Shell VirtualDevice :=
      { device := default, dotfile := "rc", options := { quiet := value }
        files := { entries := [(["rc"], .text ("! quiet " ++ value ++ "\r\n" ++ "@ a C 0"))] } }
    let steps : List (Step VirtualDevice) :=
      [.execute "<", .execute ">", .execute "* 2 a", .round false 8, .execute "# a", .execute "!"]
    (shell "true").Twins (shell "false") ∧
      ((shell "true").performAll steps).Twins ((shell "false").performAll steps) ∧
      ((shell "true").performAll steps).clicks = 3 := by
  intro shell steps
  have text : TwinText ("! quiet true" ++ "\r\n" ++ "@ a C 0") ("! quiet false" ++ "\r\n" ++ "@ a C 0") :=
    .more (.inr ⟨by simp, by simp⟩) (by simp) (.refl _)
  have twins : (shell "true").Twins (shell "false") := by
    refine ⟨⟨⟨rfl, rfl, ?_, rfl, rfl, rfl, rfl⟩, rfl⟩, .inr ?_, ?_⟩
    · intro key other
      cases key with
      | quiet => exact absurd rfl other
      | leader | clickRate | lastLocation | hotkeys => rfl
    · simp [shell, OptionTable.get]
    · intro location
      simp only [shell, FileTree.find?, List.lookup_cons, List.lookup_nil]
      split
      · exact .some (.text text)
      · exact .none
  exact ⟨twins, performAll_twins twins steps, by decide +kernel⟩

end Run
end MacroShell
