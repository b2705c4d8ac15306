import MacroShell.Proofs.Rejoining
import MacroShell.Proofs.Slots
import MacroShell.Shell.Script
import MacroShell.Text.Lines

/-! # The lines of a script as commands

A script is taken apart at its line ends into the lines that it was put together from, and every
line of a saved state is read as the command that sets again what the line was written for.
-/

namespace MacroShell

namespace Text

/-! ## Terminated lines -/

theorem linesFrom_cons {c : Char} (other : c ≠ '\n') (reversed rest : List Char) :
    linesFrom reversed (c :: rest) = linesFrom (c :: reversed) rest := by
  rw [linesFrom]
  exact other

theorem linesFrom_append {line : List Char} (unbroken : '\n' ∉ line) (reversed rest : List Char) :
    linesFrom reversed (line ++ '\n' :: rest) =
      closeLine (line.reverse ++ reversed) :: linesFrom [] rest := by
  induction line generalizing reversed with
  | nil => rfl
  | cons c line ih =>
      have other : c ≠ '\n' := (List.ne_of_not_mem_cons unbroken).symm
      rw [List.cons_append, linesFrom_cons other, ih (List.not_mem_of_not_mem_cons unbroken)]
      simp

/-- A line feed separates what stands before it from what stands after it. -/
theorem linesFrom_separated (reversed text rest : List Char) :
    linesFrom reversed (text ++ '\n' :: rest) =
      linesFrom reversed (text ++ ['\n']) ++ linesFrom [] rest := by
  induction text generalizing reversed with
  | nil => rfl
  | cons c text ih =>
      rw [List.cons_append, List.cons_append]
      by_cases newline : c = '\n'
      · subst newline
        rw [linesFrom, linesFrom, ih, List.cons_append]
      · rw [linesFrom_cons newline, linesFrom_cons newline, ih]

/-- A line that does not end in a carriage return is closed as it is. -/
theorem closeLine_reverse {line : List Char} (ends : line.getLast? ≠ some '\r') :
    closeLine line.reverse = line := by
  unfold closeLine
  split
  · rename_i rest same
    rw [← List.head?_reverse, same] at ends
    exact absurd rfl ends
  · exact List.reverse_reverse line

/-- A carriage return that belongs to the line end is not at the front. -/
theorem closeLine_reverse_append (front : List Char) {line : List Char} (nonempty : line ≠ []) :
    closeLine (front ++ line).reverse = front ++ closeLine line.reverse := by
  obtain ⟨c, rest, reversed⟩ := List.exists_cons_of_ne_nil (List.reverse_ne_nil_iff.mpr nonempty)
  rw [List.reverse_append, reversed, List.cons_append]
  by_cases carriage : c = '\r'
  · subst carriage
    simp [closeLine]
  · have closed (text : List Char) : closeLine (c :: text) = (c :: text).reverse := by
      rw [closeLine]
      rintro _ same
      exact carriage (List.cons.inj same).1
    simp [closed]

theorem toList_join_terminated (lines : List String) :
    (String.join (lines.map (· ++ "\n"))).toList = lines.flatMap fun line => line.toList ++ ['\n'] := by
  simp [String.toList_join, List.flatMap_map]

/-- A line without a line feed, which stands between terminated lines of any kind, is found again up to
    a carriage return at its end. -/
theorem lines_between {line : String} (single : '\n' ∉ line.toList) (before after : List String) :
    Text.lines (String.join ((before ++ line :: after).map (· ++ "\n"))) =
      Text.lines (String.join (before.map (· ++ "\n"))) ++
        String.ofList (closeLine line.toList.reverse) ::
          Text.lines (String.join (after.map (· ++ "\n"))) := by
  simp only [Text.lines, toList_join_terminated]
  induction before with
  | nil =>
      rw [List.nil_append, List.flatMap_cons, List.append_assoc, List.singleton_append,
        linesFrom_append single, List.append_nil]
      rfl
  | cons first before ih =>
      simp only [List.cons_append, List.flatMap_cons, List.append_assoc, List.nil_append]
      rw [linesFrom_separated, List.map_append, ih]
      rw [linesFrom_separated [] first.toList (before.flatMap fun line => line.toList ++ ['\n']),
        List.map_append, List.append_assoc]

/-- Lines without line feeds, each of them terminated, are found again up to a carriage return at
    their ends. -/
theorem lines_terminated {lines : List String} (single : ∀ line ∈ lines, '\n' ∉ line.toList) :
    Text.lines (String.join (lines.map (· ++ "\n"))) =
      lines.map fun line => String.ofList (closeLine line.toList.reverse) := by
  induction lines with
  | nil => rfl
  | cons line lines ih =>
      rw [List.forall_mem_cons] at single
      have first := lines_between single.1 [] lines
      rw [List.nil_append, ih single.2] at first
      exact first

/-- A text that can be terminated without a change to where it ends. -/
def Unbroken (text : List Char) : Prop := '\n' ∉ text ∧ text.getLast? ≠ some '\r'

theorem Unbroken.prepend {text : List Char} (unbroken : Unbroken text) {front : List Char}
    (plain : '\n' ∉ front) (ends : front.getLast? ≠ some '\r') : Unbroken (front ++ text) := by
  constructor
  · simp [plain, unbroken.1]
  · rw [List.getLast?_append]
    cases last : text.getLast? with
    | none => exact ends
    | some c => exact fun same => unbroken.2 (last.trans same)

/-- Lines that hold no line end are found again after each of them was terminated. -/
theorem lines_join {lines : List String}
    (whole : ∀ line ∈ lines, Unbroken line.toList) :
    Text.lines (String.join (lines.map (· ++ "\n"))) = lines := by
  rw [lines_terminated fun line member => (whole line member).1]
  conv_rhs => rw [← List.map_id lines]
  apply List.map_congr_left
  intro line member
  rw [closeLine_reverse (whole line member).2, String.ofList_toList]
  rfl

end Text

theorem Words.newline_not_mem_quoteChars {word : List Char} (single : '\n' ∉ word) :
    '\n' ∉ quoteChars word := by
  intro written
  rcases mem_quoteChars written with quote | inside
  · cases quote
  · exact single inside

namespace State

/-! ## The commands of the lines -/

open MacroShell.Text MacroShell.Words

theorem registerLine_toList (slot : Slot .register) (text : String) :
    (registerLine slot text).toList = '@' :: ' ' :: slot.char :: ' ' :: text.toList := by
  change ("@ " ++ String.singleton slot.char ++ " " ++ text).toList = _
  simp

theorem hotkeyLine_toList (slot : Slot .hotkey) (text : String) :
    (hotkeyLine slot text).toList = '&' :: ' ' :: (quoteChars [slot.char] ++ ' ' :: text.toList) := by
  change ("& " ++ String.ofList (quoteChars (String.singleton slot.char).toList) ++ " " ++ text).toList = _
  simp

theorem optionLine_toList (key : OptionKey) (value : String) :
    (optionLine key value).toList =
      '!' :: ' ' :: (key.name.toList ++ ' ' :: quoteChars value.toList) := by
  change ("! " ++ key.name ++ " " ++ String.ofList (quoteChars value.toList)).toList = _
  simp

theorem newline_not_mem_optionLine (key : OptionKey) {value : String} (single : '\n' ∉ value.toList) :
    '\n' ∉ (optionLine key value).toList := by
  have named : '\n' ∉ key.name.toList := by cases key <;> decide
  simp [optionLine_toList, named, newline_not_mem_quoteChars single]

theorem parse_registerLine (slot : Slot .register) (text : String) :
    Command.parse (registerLine slot text) =
      .ok ⟨'@', "@", String.singleton slot.char :: Words.split text⟩ := by
  obtain ⟨other, solid⟩ := Slot.register_char slot
  refine parse_prefixed (by decide) (by decide) (by simpa using other.symm) (by simp [solid]) ?_
  rw [registerLine_toList, String.toList_singleton,
    quoteChars_bare (bare_singleton (ne_space_of_solid solid))]
  rfl

/-- The quote as a trigger is written without a partner, which the text after it must not supply. -/
theorem parse_hotkeyLine (slot : Slot .hotkey) {text : String}
    (alone : slot.char = '"' → '"' ∉ text.toList) :
    Command.parse (hotkeyLine slot text) =
      .ok ⟨'&', "&", String.singleton slot.char :: Words.split text⟩ := by
  by_cases quote : slot.char = '"'
  · have line : (hotkeyLine slot text).toList = "& \"".toList ++ ' ' :: text.toList := by
      rw [hotkeyLine_toList, quote]
      rfl
    refine parse_of_split (by rw [line]; rfl) (by decide) ?_
    have front : splitQuoted "& \"".toList = [['&'], ['"']] := by decide
    rw [Words.split, line, splitQuoted_append_space (.inr (alone quote)), front, quote]
    rfl
  · have solid := Slot.hotkey_char slot
    refine parse_prefixed (by decide) (by decide) (by simpa using Ne.symm quote) ?_ ?_
    · intro bare
      have space : slot.char ≠ ' ' := by simpa [eq_comm] using bare.2
      simpa using solid space
    · rw [hotkeyLine_toList, String.toList_singleton]

theorem parse_option {line text : String} (key : OptionKey)
    (written : line.toList = '!' :: ' ' :: (key.name.toList ++ ' ' :: text.toList)) :
    Command.parse line = .ok ⟨'!', "!", key.name :: Words.split text⟩ := by
  have plain : '"' ∉ key.name.toList ∧ Bare key.name.toList ∧ StartsSolid key.name.toList := by
    cases key <;> decide
  refine parse_prefixed (by decide) (by decide) plain.1 (fun _ => plain.2.2) ?_
  rw [written, quoteChars_bare plain.2.1]

theorem parse_optionLine (key : OptionKey) {value : String} (noQuote : '"' ∉ value.toList)
    (starts : Bare value.toList → StartsSolid value.toList) :
    Command.parse (optionLine key value) = .ok ⟨'!', "!", [key.name, value]⟩ := by
  have found : Words.split (Words.quote value) = [value] := by
    rw [split_eq_map_unwrap, Words.quote, String.toList_ofList, ← reread,
      (reread_eq_self_iff noQuote).mpr starts, List.map_singleton, String.ofList_toList]
  rw [← found]
  refine parse_option key ?_
  rw [optionLine_toList, Words.quote, String.toList_ofList]

end State
end MacroShell
