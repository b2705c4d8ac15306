import MacroShell.Device.Virtual
import MacroShell.Proofs.StoredText
import MacroShell.Proofs.WordGrammar

/-! # Loading a file

A file is read as a whole, and then its lines are run one level below the command that loads it.  A line
that is no command is passed over, and every other line has its turn, whatever the lines before it have
done to the shell or to the file.
-/

namespace MacroShell

open MacroShell.Text

/-- The commands of lines.  A line that is none is passed over. -/
def Command.ofLines (lines : List String) : List Command :=
  lines.filterMap fun line => (Command.parse line).toOption

theorem Command.ofLines_cons_error {line : String} {e : ShellError} (refused : Command.parse line = .error e)
    (rest : List String) : Command.ofLines (line :: rest) = Command.ofLines rest := by
  rw [ofLines, List.filterMap_cons_none (by rw [refused]; rfl), ofLines]

theorem Command.ofLines_cons_ok {line : String} {command : Command} (parsed : Command.parse line = .ok command)
    (rest : List String) : Command.ofLines (line :: rest) = command :: Command.ofLines rest := by
  rw [ofLines, List.filterMap_cons_some (by rw [parsed]; rfl), ofLines]

/-- The lines that loading passes over are those that are refused as commands. -/
theorem isBlankLine_cases (line : String) :
    (isBlankLine line = true ∧ ∃ e, Command.parse line = .error e) ∨
    (isBlankLine line = false ∧ ∃ command, Command.parse line = .ok command) := by
  rcases Grammar.parse_cases line with ⟨blank, -, refused⟩ | ⟨-, c, more, rest, -, parsed⟩
  · exact .inl ⟨List.all_eq_true.mpr blank, _, refused⟩
  · exact .inr ⟨isBlankLine_of_parse parsed, _, parsed⟩

namespace Shell

open Execute

variable {δ : Type} [InputDevice δ] {depth : Nat}

theorem recallLines_cons_blank {line : String} (blank : isBlankLine line = true) (rest : List String)
    (shell : Shell δ) :
    recallLines (recallText depth) (line :: rest) shell = recallLines (recallText depth) rest shell := by
  rw [recallLines, if_pos blank]

/-- Below the limit the commands of the lines are dispatched in order, and counted. -/
theorem recallLines_eq (below : depth < recallLimit) (lines : List String) (shell : Shell δ) :
    recallLines (recallText depth) lines shell =
      .ok (Command.ofLines lines).length
        ((Command.ofLines lines).foldl (fun shell command => shell.dispatch command (depth + 1)) shell) := by
  induction lines generalizing shell with
  | nil => rfl
  | cons line rest ih =>
      rcases isBlankLine_cases line with ⟨blank, e, refused⟩ | ⟨-, command, parsed⟩
      · rw [recallLines_cons_blank blank, ih, Command.ofLines_cons_error refused]
      · rw [recallLines_cons below parsed, ShellM.bind_ok (ih _), Command.ofLines_cons_ok parsed]
        rfl

/-- At the limit the first line that is not blank is refused, and the lines after it with it. -/
theorem recallLines_limit (limit : recallLimit ≤ depth) {lines : List String}
    (solid : ∃ line ∈ lines, isBlankLine line = false) (shell : Shell δ) :
    recallLines (recallText depth) lines shell = .error (.recallDepth recallLimit) shell := by
  induction lines with
  | nil =>
      obtain ⟨line, member, -⟩ := solid
      cases member
  | cons line rest ih =>
      rcases isBlankLine_cases line with ⟨blank, -⟩ | ⟨-, command, parsed⟩
      · rw [recallLines_cons_blank blank]
        obtain ⟨other, member, kept⟩ := solid
        rcases List.mem_cons.mp member with rfl | later
        · cases blank.symm.trans kept
        · exact ih ⟨other, later, kept⟩
      · exact recallLines_refused limit parsed rest shell

/-- A load takes the lines of the file as they are when it begins.  Below the limit it succeeds with the
    number of commands among them, each dispatched one level deeper in the shell that the one before has
    left; no failure, no quit and no change to the file keeps a line from its turn.  At the limit a load
    with anything to run is refused, and so is at every depth a file that cannot be read, with the shell
    as it was. -/
theorem loadFile_runs (path : String) (depth : Nat) (shell : Shell δ) :
    (∀ content, shell.files.read path = .ok content →
      (depth < recallLimit →
        loadFile (recallText depth) path shell =
          .ok (Command.ofLines (Text.lines content)).length
            ((Command.ofLines (Text.lines content)).foldl
              (fun shell command => shell.dispatch command (depth + 1)) shell)) ∧
      (recallLimit ≤ depth → (∃ line ∈ Text.lines content, ∃ c ∈ line.toList, isBlank c = false) →
        loadFile (recallText depth) path shell = .error (.recallDepth recallLimit) shell)) ∧
    ∀ cause, shell.files.read path = .error cause →
      loadFile (recallText depth) path shell = .error (.file path cause) shell := by
  refine ⟨?_, ?_⟩
  · intro content holds
    have loads : loadFile (recallText depth) path shell =
        recallLines (recallText depth) (Text.lines content) shell := by
      rw [loadFile, ShellM.get_bind, holds]
    refine ⟨fun below => loads.trans (recallLines_eq below _ shell), ?_⟩
    rintro limit ⟨line, member, c, inside, solid⟩
    refine loads.trans (recallLines_limit limit ⟨line, member, ?_⟩ shell)
    exact List.all_eq_false.mpr ⟨c, inside, by simpa using solid⟩
  · intro cause missing
    rw [loadFile, ShellM.get_bind, missing]
    rfl

/-- A file that quits, fails, loads itself and replaces itself is run to its end. -/
theorem loadFile_runs_replaced :
    let content := "Q\nM 1\n \t\n< f\n> f\n\nP end\n"
    let shell : Shell VirtualDevice :=
      { device := default, dotfile := "f", hooked := false, files := { entries := [(["f"], .text content)] } }
    shell.files.read "f" = .ok content ∧
    ∃ loaded, loadFile (recallText 254) "f" shell = .ok 5 loaded ∧
      loaded.quit = true ∧ loaded.files.read "f" = .ok loaded.script ∧
      loaded.journal.toList.getLast? = some (.line "end") := by
  intro content shell
  have holds : shell.files.read "f" = .ok content := by decide +kernel
  have counted : (Command.ofLines (Text.lines content)).length = 5 := by decide +kernel
  have runs := ((loadFile_runs "f" 254 shell).1 content holds).1 (by decide)
  rw [counted] at runs
  exact ⟨holds, _, runs, by decide +kernel, by decide +kernel, by decide +kernel⟩

end Shell
end MacroShell
