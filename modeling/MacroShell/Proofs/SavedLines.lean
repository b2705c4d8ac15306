import MacroShell.Proofs.JoinedLines
import MacroShell.Proofs.SavedState

/-! # Which lines of a script set again what they were written for

An option value stands at the end of its line, with quotes around it if it is empty or holds a space.
Quotes within the value pair up with these, a pair around a value that needs none is taken for such
quotes, and a blank at either end may be lost.  The trigger of a hotkey stands in front of the text, and
the quote as a trigger pairs up with the first quote of the text.  For both kinds of lines this module
says exactly when the line is read as the command that was meant.
-/

namespace MacroShell

namespace State

open MacroShell.Text

/-! ## A line in its script -/

/-- A line without a line feed is found again in the script, up to a carriage return at its end. -/
theorem lines_script_of_mem {state : State} {line : String} (member : line ∈ state.scriptLines)
    (single : '\n' ∉ line.toList) :
    ∃ before after, state.script = before ++ (line ++ "\n") ++ after ∧
      Text.lines state.script =
        Text.lines before ++ String.ofList (closeLine line.toList.reverse) :: Text.lines after := by
  obtain ⟨before, after, whole⟩ := List.append_of_mem member
  refine ⟨String.join (before.map (· ++ "\n")), String.join (after.map (· ++ "\n")), ?_, ?_⟩
  · rw [script, whole, List.map_append, List.map_cons, String.join_append, String.join_cons]
    simp only [String.append_assoc]
  · rw [script, whole]
    exact lines_between single before after

theorem optionLine_mem (state : State) (key : OptionKey) :
    optionLine key (state.options.get key) ∈ state.scriptLines := by
  have entry : (key, state.options.get key) ∈ state.options.entries :=
    List.mem_map.mpr ⟨key, OptionKey.mem_all key, rfl⟩
  rw [scriptLines, List.append_assoc, List.mem_append]
  exact .inl (List.mem_map.mpr ⟨_, entry, rfl⟩)

theorem hotkeyLine_mem {state : State} {slot : Slot .hotkey} {text : String}
    (bound : state.hotkeys.get? slot = some text) : hotkeyLine slot text ∈ state.scriptLines := by
  rw [scriptLines, List.mem_append]
  exact .inr (List.mem_map.mpr ⟨_, SlotTable.mem_entries.mpr bound, rfl⟩)

end State

namespace Words

open MacroShell.Text

/-! ## Lines of one piece -/

theorem sublist_intercalate {piece : List Char} {pieces : List (List Char)} (member : piece ∈ pieces) :
    piece.Sublist ([' '].intercalate pieces) := by
  obtain ⟨front, back, rfl⟩ := List.append_of_mem member
  cases front with
  | nil =>
      rw [List.nil_append, intercalate_space_cons]
      exact List.sublist_append_left piece _
  | cons first front =>
      rw [List.cons_append, intercalate_space_cons, List.flatMap_append, List.flatMap_cons]
      refine List.Sublist.trans ?_ (List.sublist_append_right _ _)
      refine List.Sublist.trans ?_ (List.sublist_append_right _ _)
      exact (List.sublist_cons_self ' ' piece).trans (List.sublist_append_left _ _)

theorem length_le_of_mem_splitQuoted {line piece : List Char} (found : piece ∈ splitQuoted line) :
    piece.length ≤ line.length :=
  ((sublist_intercalate found).trans (intercalate_splitFrom false [] line).1).length_le

/-- A text is one piece exactly if all of its spaces lie between quotes. -/
theorem splitQuoted_eq_singleton_iff {text : List Char} (nonempty : text ≠ []) (solid : StartsSolid text) :
    splitQuoted text = [text] ↔
      ∀ position, text[position]? = some ' ' → Grammar.Inside text position := by
  constructor
  · intro whole position space
    by_contra outside
    obtain ⟨bound, same⟩ := List.getElem?_eq_some_iff.mp space
    have after : text.drop position = ' ' :: text.drop (position + 1) := by
      rw [List.drop_eq_getElem_cons bound, same]
    have cut : text = text.take position ++ ' ' :: text.drop (position + 1) := by
      rw [← after, List.take_append_drop]
    have closed : (text.take position).count '"' % 2 = 0 ∨ '"' ∉ text.drop (position + 1) := by
      rw [Grammar.Inside, after] at outside
      by_cases later : '"' ∈ text.drop (position + 1)
      · exact .inl (by simp only [List.mem_cons, later, or_true, and_true] at outside; omega)
      · exact .inr later
    -- Neither side of the space is long enough for the whole text.
    have parts := splitQuoted_append_space closed
    rw [← cut, whole] at parts
    have member : text ∈ splitQuoted (text.take position) ++ splitQuoted (text.drop (position + 1)) :=
      parts ▸ List.mem_singleton_self text
    rcases List.mem_append.mp member with early | late
    · have length := length_le_of_mem_splitQuoted early
      rw [List.length_take] at length
      omega
    · have length := length_le_of_mem_splitQuoted late
      rw [List.length_drop] at length
      omega
  · intro inside
    have uncut : Grammar.cuttings text = [text] := by
      have none : ∀ entry ∈ text.zipIdx, Grammar.cutsAt text entry = false := by
        rintro ⟨c, position⟩ member
        have here := List.mem_zipIdx_iff_getElem?.mp member
        by_cases space : c = ' '
        · simp [Grammar.cutsAt, inside position (space ▸ here)]
        · simp [Grammar.cutsAt, space]
      rw [Grammar.cuttings, List.splitOnP_eq_singleton none]
      simp
    rw [Grammar.splitQuoted_eq_pieces, Grammar.pieces, uncut, Grammar.tidy_cons,
      (dropBlankStart_eq_self_iff text).mpr solid, asWord_of_ne_nil nonempty]
    rfl

/-! ## Values at the end of a line -/

/-- A pair of quotes stands around the text. -/
def Wrapped (text : List Char) : Prop :=
  2 ≤ text.length ∧ text.head? = some '"' ∧ text.getLast? = some '"'

instance (text : List Char) : Decidable (Wrapped text) := inferInstanceAs (Decidable (_ ∧ _))

theorem length_unwrap_le (piece : List Char) : (unwrap piece).length ≤ piece.length := by
  rcases unwrap_cases piece with whole | wrapped
  · rw [whole]
  · have length := congrArg List.length wrapped
    simp only [List.length_cons, List.length_append, List.length_nil] at length
    omega

theorem unwrap_eq_self_iff (text : List Char) : unwrap text = text ↔ ¬ Wrapped text := by
  rw [Grammar.unwrap_eq_stripQuotes, Grammar.stripQuotes, Wrapped]
  split
  · rename_i wrapped
    refine iff_of_false ?_ (not_not_intro wrapped)
    intro same
    have length := congrArg List.length same
    rw [List.length_dropLast, List.length_tail] at length
    omega
  · rename_i plain
    exact iff_of_true rfl plain

/-- A value that is found again after it was written at the end of a line: if it stands there without
    quotes around it, no blank is dropped in front of it, no carriage return goes with the line feed
    and no pair of quotes is taken for quotes around it; and every space in it has an even number of
    quotes before it, so that the value between quotes is one piece. -/
def Restorable (value : List Char) : Prop :=
  (Bare value → StartsSolid value ∧ value.getLast? ≠ some '\r' ∧ ¬ Wrapped value) ∧
    ∀ position < value.length, value[position]? = some ' ' → (value.take position).count '"' % 2 = 0

instance (value : List Char) : Decidable (Restorable value) := inferInstanceAs (Decidable (_ ∧ _))

theorem splitQuoted_between_iff (value : List Char) :
    splitQuoted ('"' :: (value ++ ['"'])) = ['"' :: (value ++ ['"'])] ↔
      ∀ position < value.length, value[position]? = some ' ' → (value.take position).count '"' % 2 = 0 := by
  rw [splitQuoted_eq_singleton_iff (List.cons_ne_nil _ _) (by simp [isBlank_quote])]
  have inside {position : Nat} (bound : position < value.length) :
      Grammar.Inside ('"' :: (value ++ ['"'])) (position + 1) ↔ (value.take position).count '"' % 2 = 0 := by
    have closes : '"' ∈ (value ++ ['"']).drop position := by
      rw [List.drop_append_of_le_length bound.le]
      simp
    rw [Grammar.Inside, List.take_succ_cons, List.drop_succ_cons, List.take_append_of_le_length bound.le,
      List.count_cons_self]
    simp only [closes, and_true]
    omega
  constructor
  · intro all position bound space
    refine (inside bound).mp (all (position + 1) ?_)
    rw [List.getElem?_cons_succ, List.getElem?_append_left bound, space]
  · intro even position space
    cases position with
    | zero => cases space
    | succ position =>
        rw [List.getElem?_cons_succ] at space
        by_cases bound : position < value.length
        · rw [List.getElem?_append_left bound] at space
          exact (inside bound).mpr (even position bound space)
        · rw [List.getElem?_append_right (Nat.le_of_not_lt bound), List.getElem?_singleton] at space
          split at space <;> cases space

/-- The word of a piece that was written between quotes is the one that was written only if the piece
    is all that was written. -/
theorem map_unwrap_between_iff (value : List Char) :
    (splitQuoted ('"' :: (value ++ ['"']))).map unwrap = [value] ↔
      splitQuoted ('"' :: (value ++ ['"'])) = ['"' :: (value ++ ['"'])] := by
  constructor
  · intro found
    obtain ⟨piece, single, same⟩ := List.map_eq_singleton_iff.mp found
    have quotes := (intercalate_splitFrom false [] ('"' :: (value ++ ['"']))).2
    rw [← splitQuoted, single] at quotes
    rcases unwrap_cases piece with whole | wrapped
    · rw [← whole, same] at quotes
      simp only [List.flatten_singleton, List.reverse_nil, List.nil_append, List.count_cons_self,
        List.count_append, List.count_nil] at quotes
      omega
    · rw [single, wrapped, same]
  · intro whole
    rw [whole, List.map_singleton, unwrap_quoted]

theorem map_unwrap_bare_iff {value : List Char} (bare : Bare value) :
    (splitQuoted value).map unwrap = [value] ↔ StartsSolid value ∧ ¬ Wrapped value := by
  rw [splitQuoted_bare bare.2, ← dropBlankStart_eq_self_iff, ← unwrap_eq_self_iff]
  constructor
  · intro found
    obtain ⟨piece, single, same⟩ := List.map_eq_singleton_iff.mp found
    obtain rfl : piece = dropBlankStart value := mem_asWord (by simp [single])
    have shorter := length_unwrap_le (dropBlankStart value)
    rw [same] at shorter
    have whole : dropBlankStart value = value := (List.dropWhile_sublist _).eq_of_length_le shorter
    exact ⟨whole, by rwa [whole] at same⟩
  · rintro ⟨whole, same⟩
    rw [whole, asWord_of_ne_nil bare.1, List.map_singleton, same]

/-- Reading the end of a line gives back exactly the restorable values. -/
theorem map_unwrap_closed_iff (value : List Char) :
    (splitQuoted (closeLine (quoteChars value).reverse)).map unwrap = [value] ↔ Restorable value := by
  unfold Restorable
  by_cases bare : Bare value
  · have noSpace : ∀ position < value.length, value[position]? = some ' ' →
        (value.take position).count '"' % 2 = 0 := fun position _ space =>
      absurd (List.mem_of_getElem? space) bare.2
    rw [quoteChars_bare bare]
    by_cases ends : value.getLast? = some '\r'
    · refine iff_of_false ?_ fun restorable => (restorable.1 bare).2.1 ends
      intro found
      obtain ⟨front, rfl⟩ := List.getLast?_eq_some_iff.mp ends
      obtain ⟨piece, single, same⟩ := List.map_eq_singleton_iff.mp found
      have closed : closeLine (front ++ ['\r']).reverse = front := by simp [closeLine]
      rw [closed] at single
      have length := length_le_of_mem_splitQuoted (single ▸ List.mem_singleton_self piece)
      have shorter := length_unwrap_le piece
      rw [same, List.length_append, List.length_singleton] at shorter
      omega
    · rw [closeLine_reverse ends, map_unwrap_bare_iff bare, and_iff_left noSpace]
      simp [bare, ends]
  · have ends : (quoteChars value).getLast? ≠ some '\r' := by
      rw [getLast?_quoteChars bare]
      decide
    rw [closeLine_reverse ends, quoteChars_quoted bare, map_unwrap_between_iff, splitQuoted_between_iff]
    simp [bare]

end Words

namespace State

open MacroShell.Text MacroShell.Words

theorem parse_closed_optionLine (key : OptionKey) (value : String) :
    Command.parse (String.ofList (closeLine (optionLine key value).toList.reverse)) =
      .ok ⟨'!', "!", key.name :: split (String.ofList (closeLine (quoteChars value.toList).reverse))⟩ := by
  refine parse_option key ?_
  have front : (optionLine key value).toList =
      ('!' :: ' ' :: (key.name.toList ++ [' '])) ++ quoteChars value.toList := by
    simp [optionLine_toList]
  rw [String.toList_ofList, String.toList_ofList, front, closeLine_reverse_append _ (quoteChars_ne_nil _)]
  simp

theorem split_closed_iff (value : String) :
    split (String.ofList (closeLine (quoteChars value.toList).reverse)) = [value] ↔
      Restorable value.toList := by
  rw [split_eq_map_unwrap, map_ofList_eq_iff, String.toList_ofList]
  exact map_unwrap_closed_iff value.toList

end State

namespace Shell

open MacroShell.Text MacroShell.Words

variable {δ : Type} [InputDevice δ]

/-- The command that sets an option needs exactly one value.  Without one it prints the option, and
    with more it is refused. -/
theorem options_dispatch_option (key : OptionKey) (head : String) (values : List String) (depth : Nat)
    (shell : Shell δ) :
    (shell.dispatch ⟨'!', head, key.name :: values⟩ depth).options =
      match values with
      | [value] => shell.options.set key value
      | _ => shell.options := by
  unfold dispatch
  match values with
  | [] =>
      have selected : selection '!' = some (.option, .between 0 2) := by decide
      have named : shell.options.getNamed key.name = .ok (shell.options.get key) := by
        simp [OptionTable.getNamed]
      rw [dispatchWith_selected selected (by rfl), Execute.run, Execute.option, ShellM.get_bind,
        show (shell.log _).options = shell.options from rfl, named]
      rfl
  | [value] =>
      rw [dispatchWith_option, notice_eq]
  | first :: second :: rest =>
      obtain ⟨entry, found, arity⟩ : ∃ entry, Registry.builtin.lookup '!' = some entry ∧
          entry.arity = .between 0 2 := by decide
      have refused : entry.arity.accepts (key.name :: first :: second :: rest).length = false := by
        simp [arity, Arity.accepts]
      rw [dispatchWith_refused found refused, conclude, notice_eq]
      rfl

end Shell

/-- The line of an option in the script of a state, as it is found in the file, is read as the command
    that sets the option to its value exactly if the value is restorable.  Recalled at any depth below the
    limit, the line then sets the option and does nothing else, and otherwise it does not give the option
    this value. -/
theorem option_restored_iff {state : State} {key : OptionKey}
    (single : '\n' ∉ (state.options.get key).toList) :
    let value := state.options.get key
    let line := String.ofList (Text.closeLine (State.optionLine key value).toList.reverse)
    (∃ before after, state.script = before ++ (State.optionLine key value ++ "\n") ++ after ∧
      Text.lines state.script = Text.lines before ++ line :: Text.lines after) ∧
    (Command.parse line = .ok ⟨'!', "!", [key.name, value]⟩ ↔ Words.Restorable value.toList) ∧
    ∀ {δ : Type} [InputDevice δ] (shell : Shell δ) (depth : Nat), depth < Shell.recallLimit →
      ∃ after, Shell.recallText depth line shell = .ok () after ∧
        (Words.Restorable value.toList →
          ∃ journal, after = { shell with options := shell.options.set key value, journal }) ∧
        (shell.options.get key ≠ value → (after.options.get key = value ↔ Words.Restorable value.toList)) := by
  intro value line
  have unbroken := State.newline_not_mem_optionLine key single
  have parsed := State.parse_closed_optionLine key value
  have restorable := State.split_closed_iff value
  refine ⟨State.lines_script_of_mem (State.optionLine_mem state key) unbroken, ?_, ?_⟩
  · rw [parsed, ← restorable]
    simp
  · intro δ _ shell depth below
    refine ⟨_, Shell.recallText_of_parse below parsed shell, ?_, ?_⟩
    · intro kept
      rw [restorable.mpr kept, Shell.dispatch, Shell.dispatchWith_option, Shell.notice_eq]
      exact ⟨_, rfl⟩
    · intro other
      rw [← restorable, Shell.options_dispatch_option]
      split
      · rename_i found same
        rw [same, OptionTable.get_set, if_pos rfl, List.singleton_inj]
      · rename_i none
        exact iff_of_false other fun same => none value same

/-- A value with a pair of quotes before its space, recalled at the last depth below the limit by a shell
    in which the option has another value. -/
theorem option_restored_iff_paired :
    let state : State := { options := { leader := "\"a\"b\t c\"d" } }
    let shell : Shell VirtualDevice := { device := default, dotfile := "rc" }
    let line := "! leader \"\"a\"b\t c\"d\""
    Words.Restorable state.options.leader.toList ∧
      Command.parse line = .ok ⟨'!', "!", ["leader", state.options.leader]⟩ ∧
      ∃ after, Shell.recallText 255 line shell = .ok () after ∧
        after.options.get .leader = state.options.leader := by
  intro state shell line
  have restorable : Words.Restorable state.options.leader.toList := by decide +kernel
  have found : String.ofList (Text.closeLine
      (State.optionLine .leader (state.options.get .leader)).toList.reverse) = line := by decide +kernel
  obtain ⟨-, read, replayed⟩ := @option_restored_iff state .leader (by decide +kernel)
  rw [found] at read replayed
  obtain ⟨after, ran, -, set⟩ := replayed shell 255 (by decide)
  exact ⟨restorable, read.mpr restorable, after, ran, (set (by decide +kernel)).mpr restorable⟩

/-- A value with a space between its own quotes makes a line that is refused, and the option keeps the
    value that it has.  A tab at the start of a value, a pair of quotes around it and a carriage return at
    its end are lost. -/
theorem option_restored_altered :
    let restored (value : String) : String :=
      let shell : Shell VirtualDevice := { device := default, dotfile := "rc" }
      let lines := Text.lines (State.optionLine .leader value ++ "\n")
      (lines.foldl (fun shell line => shell.executeLine line) shell).options.leader
    ["a\"b c\"d", "\tx", "\"y\"", "z\r"].map restored = ["", "x", "y", "z"] := by
  decide +kernel

/-! ## Triggers -/

namespace Words

open MacroShell.Text

theorem count_dropBlankEnd (text : List Char) : (dropBlankEnd text).count '"' = text.count '"' := by
  have blank : (text.reverse.takeWhile isBlank).count '"' = 0 := by
    refine List.count_eq_zero.mpr fun quote => ?_
    exact ne_quote_of_isBlank (List.mem_takeWhile_imp quote) rfl
  have parts := congrArg (List.count '"') (List.takeWhile_append_dropWhile (p := isBlank) (l := text.reverse))
  rw [List.count_append, blank, List.count_reverse] at parts
  rw [dropBlankEnd, List.count_reverse, ← parts, Nat.zero_add]

/-- Quotes come and go in pairs when the words of pieces are written again. -/
theorem count_joinChars_map_unwrap (pieces : List (List Char)) :
    (joinChars (pieces.map unwrap)).count '"' % 2 = pieces.flatten.count '"' % 2 := by
  rw [joinChars_map_unwrap, count_dropBlankEnd, count_intercalate_space]
  induction pieces with
  | nil => rfl
  | cons piece pieces ih =>
      have first : (requote piece).count '"' % 2 = piece.count '"' % 2 := by
        rcases requote_cases piece with same | ⟨-, quoted⟩ | ⟨-, unquoted⟩
        · rw [same]
        · simp only [quoted, List.count_cons_self, List.count_append, List.count_nil]
          omega
        · have count := congrArg (List.count '"') unquoted
          simp only [List.count_cons_self, List.count_append, List.count_nil] at count
          omega
      simp only [List.map_cons, List.flatten_cons, List.count_append]
      omega

/-- Behind a quote without a partner of its own, the words of a text with paired quotes are not found
    again: either an odd number of quotes is left behind the first piece, or none. -/
theorem joinChars_after_quote_ne {text piece : List Char} {pieces : List (List Char)}
    (even : text.count '"' % 2 = 0) (quoted : '"' ∈ text)
    (found : splitQuoted ('"' :: ' ' :: text) = piece :: pieces) : joinChars (pieces.map unwrap) ≠ text := by
  intro same
  have total := count_flatten_splitQuoted ('"' :: ' ' :: text)
  have pairs := pairwise_splitQuoted ('"' :: ' ' :: text)
  have parity := count_joinChars_map_unwrap pieces
  rw [found] at total pairs
  rw [same] at parity
  simp only [List.flatten_cons, List.count_append, List.count_cons_self,
    List.count_cons_of_ne (show ' ' ≠ '"' by decide)] at total
  have odd : piece.count '"' % 2 = 1 := by omega
  have none : ∀ later ∈ pieces, '"' ∉ later := fun later member => List.rel_of_pairwise_cons pairs member odd
  have plain : pieces.map requote = pieces := by
    refine (List.map_congr_left fun later member => ?_).trans (List.map_id pieces)
    have here : later ∈ splitQuoted ('"' :: ' ' :: text) := found ▸ List.mem_cons_of_mem piece member
    have bare : Bare later :=
      ⟨ne_nil_of_mem_splitQuoted here, fun space => none later member (quote_mem_of_space_mem here space)⟩
    rw [requote, unwrap_of_noQuote (none later member), quoteChars_bare bare, id]
  have count : text.count '"' = pieces.flatten.count '"' := by
    rw [← same, joinChars_map_unwrap, plain, count_dropBlankEnd, count_intercalate_space]
  have unquoted : '"' ∉ pieces.flatten := by simpa using none
  rw [List.count_eq_zero.mpr unquoted] at count
  exact List.count_eq_zero.mp count quoted

/-- Rejoinable words without quotes are joined to a text with paired quotes, and with none at all exactly
    if every word is bare. -/
theorem quotes_joinChars {words : List (List Char)} (noQuote : ∀ word ∈ words, '"' ∉ word)
    (rejoinable : Rejoinable words) :
    (joinChars words).count '"' % 2 = 0 ∧ ('"' ∉ joinChars words ↔ ∀ word ∈ words, Bare word) := by
  have count : (joinChars words).count '"' = (words.map quoteChars).flatten.count '"' := by
    rw [joinChars_of_rejoinable rejoinable, count_intercalate_space]
  constructor
  · rw [count]
    clear rejoinable count
    induction words with
    | nil => rfl
    | cons word words ih =>
        rw [List.forall_mem_cons] at noQuote
        have first := count_quoteChars noQuote.1
        have later := ih noQuote.2
        simp only [List.map_cons, List.flatten_cons, List.count_append]
        omega
  · rw [← List.count_eq_zero, count, List.count_eq_zero]
    simp only [List.mem_flatten, List.mem_map, exists_exists_and_eq_and, not_exists, not_and]
    refine forall₂_congr fun word member => ?_
    by_cases bare : Bare word
    · simp [quoteChars_bare bare, noQuote word member, bare]
    · simp [quoteChars_quoted bare, bare]

end Words

/-- Behind the quote as a trigger, a text with paired quotes is read as words that make another text. -/
theorem State.parse_hotkeyLine_quote {slot : Slot .hotkey} (quote : slot.char = '"') {text : String}
    (even : text.toList.count '"' % 2 = 0) (quoted : '"' ∈ text.toList) :
    ∃ key words, Command.parse (State.hotkeyLine slot text) = .ok ⟨'&', "&", key :: words⟩ ∧
      Words.join words ≠ text := by
  obtain ⟨more, pieces, found⟩ := Words.splitQuoted_solid (' ' :: text.toList) Words.isBlank_quote
  have line : (State.hotkeyLine slot text).toList = ['&'] ++ ' ' :: '"' :: ' ' :: text.toList := by
    rw [State.hotkeyLine_toList, quote]
    rfl
  have front : Words.splitQuoted ['&'] = [['&']] := by decide
  have words : Words.split (State.hotkeyLine slot text) = "&" :: String.ofList (Words.unwrap ('"' :: more)) ::
      (pieces.map Words.unwrap).map String.ofList := by
    rw [Words.split_eq_map_unwrap, line, Words.splitQuoted_append_space (.inl (by decide)), front, found]
    rfl
  refine ⟨_, _, Words.parse_of_split (by rw [line]; rfl) (by decide) words, ?_⟩
  intro same
  refine Words.joinChars_after_quote_ne even quoted found ?_
  rw [← same, Words.join, Words.map_toList_ofList, String.toList_ofList]

namespace Shell

variable {δ : Type} [InputDevice δ]

/-- Binding sets one hotkey to the text of the words behind the trigger, unless it is refused. -/
theorem hotkeys_dispatch_bind (head key : String) (words : List String) (depth : Nat) (shell : Shell δ) :
    (shell.dispatch ⟨'&', head, key :: words⟩ depth).hotkeys = shell.hotkeys ∨
      ∃ slot, (shell.dispatch ⟨'&', head, key :: words⟩ depth).hotkeys =
        shell.hotkeys.set slot (Words.join words) := by
  unfold dispatch
  by_cases nonempty : words = []
  · subst nonempty
    obtain ⟨entry, found, arity⟩ : ∃ entry, Registry.builtin.lookup '&' = some entry ∧
        entry.arity = .atLeast 2 := by decide
    have refused : entry.arity.accepts [key].length = false := by simp [arity, Arity.accepts]
    left
    rw [dispatchWith_refused found refused, conclude, notice_eq]
    rfl
  · cases named : Slot.parse .hotkey key with
    | ok slot =>
        right
        refine ⟨slot, ?_⟩
        rw [dispatchWith_bind named nonempty, notice_eq]
        rfl
    | error e =>
        have selected : selection '&' = some (.bind, .atLeast 2) := by decide
        left
        rw [dispatchWith_selected selected (accepts_atLeast_two nonempty)]
        simp only [Execute.run, Execute.bind, named]
        change (Shell.notice _ _).hotkeys = _
        rw [notice_eq]
        rfl

/-- A text that is not that of the words behind the trigger is not bound anew. -/
theorem get?_dispatch_bind_ne {slot : Slot .hotkey} {text : String} {words : List String} {shell : Shell δ}
    (other : Words.join words ≠ text) (unbound : shell.hotkeys.get? slot ≠ some text) (head key : String)
    (depth : Nat) : (shell.dispatch ⟨'&', head, key :: words⟩ depth).hotkeys.get? slot ≠ some text := by
  rcases hotkeys_dispatch_bind head key words depth shell with same | ⟨set, changed⟩
  · rw [same]
    exact unbound
  · rw [changed, SlotTable.get?_set]
    split
    · exact fun same => other (Option.some.inj same)
    · exact unbound

end Shell

/-- The line of a hotkey with a text of clean words, as it is found in the file, is read as the command
    that binds the trigger to these words, except that the quote as a trigger needs words that are written
    without quotes.  Recalled at any depth below the limit, the line then binds the trigger to the text and
    does nothing else, and otherwise it does not bind the trigger to this text. -/
theorem hotkey_restored_iff {state : State} {slot : Slot .hotkey} {words : List String}
    (clean : CleanWords words) (bound : state.hotkeys.get? slot = some (Words.join words)) :
    let line := State.hotkeyLine slot (Words.join words)
    let fits := slot.char = '"' → ∀ word ∈ words, Words.Bare word.toList
    (∃ before after, state.script = before ++ (line ++ "\n") ++ after ∧
      Text.lines state.script = Text.lines before ++ line :: Text.lines after) ∧
    (Command.parse line = .ok ⟨'&', "&", String.singleton slot.char :: words⟩ ↔ fits) ∧
    ∀ {δ : Type} [InputDevice δ] (shell : Shell δ) (depth : Nat), depth < Shell.recallLimit →
      ∃ after, Shell.recallText depth line shell = .ok () after ∧
        (fits → ∃ journal, after =
          { shell with hotkeys := shell.hotkeys.set slot (Words.join words), journal }) ∧
        (shell.hotkeys.get? slot ≠ some (Words.join words) →
          (after.hotkeys.get? slot = some (Words.join words) ↔ fits)) := by
  intro line fits
  have unbroken := State.unbroken_hotkeyLine slot clean.unbroken_join
  have placed := State.lines_script_of_mem (State.hotkeyLine_mem bound) unbroken.1
  rw [Text.closeLine_reverse unbroken.2, String.ofList_toList] at placed
  refine ⟨placed, ?_⟩
  have noQuote : ∀ word ∈ words.map String.toList, '"' ∉ word := List.forall_mem_map.mpr clean.noQuote
  obtain ⟨even, unquoted⟩ := Words.quotes_joinChars noQuote clean.rejoinable
  rw [List.forall_mem_map] at unquoted
  have text : (Words.join words).toList = Words.joinChars (words.map String.toList) := String.toList_ofList
  rw [← text] at even unquoted
  by_cases fit : fits
  · have found := (Words.split_join_eq_iff clean.noQuote).mpr clean.rejoinable
    have parsed := State.parse_hotkeyLine slot fun quote => unquoted.mpr (fit quote)
    rw [found] at parsed
    refine ⟨iff_of_true parsed fit, fun shell depth below => ?_⟩
    have set : shell.dispatch ⟨'&', "&", String.singleton slot.char :: words⟩ (depth + 1) = _ :=
      (Shell.dispatchWith_bind (Slot.parse_char slot) clean.nonempty _ _ _ shell).trans (Shell.notice_eq _ _)
    refine ⟨_, Shell.recallText_of_parse below parsed shell, fun _ => ⟨_, set⟩,
      fun _ => iff_of_true ?_ fit⟩
    rw [set]
    exact (SlotTable.get?_set _ _ _ _).trans (if_pos rfl)
  · obtain ⟨quote, quoted⟩ : slot.char = '"' ∧ ¬ ∀ word ∈ words, Words.Bare word.toList := by
      simpa [fits] using fit
    obtain ⟨key, found, parsed, other⟩ :=
      State.parse_hotkeyLine_quote quote even (not_not.mp (mt unquoted.mp quoted))
    refine ⟨iff_of_false ?_ fit, fun shell depth below => ?_⟩
    · rw [parsed]
      intro same
      have operands := congrArg Command.operands (Except.ok.inj same)
      exact other (congrArg Words.join (List.cons.inj operands).2)
    · refine ⟨_, Shell.recallText_of_parse below parsed shell, fun fit' => absurd fit' fit, ?_⟩
      exact fun unbound => iff_of_false (Shell.get?_dispatch_bind_ne other unbound "&" key (depth + 1)) fit

/-- The space as a trigger in front of words that need quotes, and the quote as a trigger in front of words
    that need none. -/
theorem hotkey_restored_iff_triggers :
    let space : Slot .hotkey := ⟨0, by decide⟩
    let quote : Slot .hotkey := ⟨2, by decide⟩
    let state : State :=
      { hotkeys := (SlotTable.empty.set space (Words.join ["P", "a b", ""])).set quote
          (Words.join ["K", "x"]) }
    let shell : Shell VirtualDevice := { device := default, dotfile := "rc" }
    state.hotkeys.get? space = some (Words.join ["P", "a b", ""]) ∧
      state.hotkeys.get? quote = some (Words.join ["K", "x"]) ∧
      Command.parse "& \" \" P \"a b\" \"\"" = .ok ⟨'&', "&", [" ", "P", "a b", ""]⟩ ∧
      Command.parse "& \" K x" = .ok ⟨'&', "&", ["\"", "K", "x"]⟩ ∧
      ∃ after, Shell.recallText 255 "& \" K x" shell = .ok () after ∧
        after.hotkeys.get? quote = some "K x" := by
  intro space quote state shell
  have spaced : State.hotkeyLine space (Words.join ["P", "a b", ""]) = "& \" \" P \"a b\" \"\"" := by
    decide +kernel
  have quoted : State.hotkeyLine quote (Words.join ["K", "x"]) = "& \" K x" := by decide +kernel
  have text : Words.join ["K", "x"] = "K x" := by decide +kernel
  have boundSpace : state.hotkeys.get? space = some (Words.join ["P", "a b", ""]) := by decide +kernel
  have boundQuote : state.hotkeys.get? quote = some (Words.join ["K", "x"]) := by decide +kernel
  have read := (hotkey_restored_iff ⟨by decide, by decide, by decide, by decide⟩ boundSpace).2.1
  obtain ⟨-, readQuote, replayed⟩ :=
    hotkey_restored_iff ⟨by decide, by decide, by decide, by decide⟩ boundQuote
  rw [spaced] at read
  rw [quoted] at readQuote replayed
  obtain ⟨after, ran, -, set⟩ := replayed shell 255 (by decide)
  have fits : quote.char = '"' → ∀ word ∈ ["K", "x"], Words.Bare word.toList := by decide
  rw [text] at set
  exact ⟨boundSpace, boundQuote, read.mpr (by decide), readQuote.mpr fits, after, ran,
    (set (by decide +kernel)).mpr fits⟩

/-- Behind the quote as a trigger, a word with a space leaves its last part to be bound, an empty word
    makes the space the trigger, and an empty word alone leaves nothing to be bound. -/
theorem hotkey_restored_altered :
    let space : Slot .hotkey := ⟨0, by decide⟩
    let quote : Slot .hotkey := ⟨2, by decide⟩
    let restored (words : List String) : Option String × Option String :=
      let shell : Shell VirtualDevice := { device := default, dotfile := "rc" }
      let after := shell.executeLine (State.hotkeyLine quote (Words.join words))
      (after.hotkeys.get? space, after.hotkeys.get? quote)
    [["P", "a b"], ["P", "", "x"], [""]].map restored =
      [(none, some "b\""), (some "x", none), (none, none)] := by
  decide +kernel

end MacroShell
