import MacroShell.Device.Virtual
import MacroShell.Proofs.History
import MacroShell.Proofs.ScriptLines
import MacroShell.Proofs.WordGrammar

/-! # Recording a recorded text again

A saved register is recorded again from the text that it held.  That text was joined from words, and it
is split and joined once more.  It stays as it is exactly if its pieces stand one space apart and have
quotes around them only where these are needed.  The text that is recorded first need not be of this
kind: quotes may keep a tab at the start of a word, or further quotes, and joining does not put them back.
-/

namespace MacroShell

namespace Words

open MacroShell.Text

/-! ## A piece and its word, written again -/

/-- A piece of a line after its word was found and written again. -/
def requote (piece : List Char) : List Char := quoteChars (unwrap piece)

/-- What can become of a piece: nothing, or it gets quotes that it did not have, or it loses quotes that
    it does not need. -/
theorem requote_cases (piece : List Char) :
    requote piece = piece ∨
    (¬ Bare piece ∧ requote piece = '"' :: (piece ++ ['"'])) ∨
    (Bare (requote piece) ∧ piece = '"' :: (requote piece ++ ['"'])) := by
  unfold requote
  rcases unwrap_cases piece with whole | wrapped
  · rw [whole]
    by_cases bare : Bare piece
    · exact .inl (quoteChars_bare bare)
    · exact .inr (.inl ⟨bare, quoteChars_quoted bare⟩)
  · by_cases bare : Bare (unwrap piece)
    · rw [quoteChars_bare bare]
      exact .inr (.inr ⟨bare, wrapped⟩)
    · rw [quoteChars_quoted bare]
      exact .inl wrapped.symm

/-- Quotes stand around a piece exactly if its word needs them. -/
theorem requote_eq_self_iff (piece : List Char) :
    requote piece = piece ↔ (unwrap piece = piece ↔ Bare (unwrap piece)) := by
  have longer (text : List Char) : '"' :: (text ++ ['"']) ≠ text := by
    intro same
    have length := congrArg List.length same
    simp only [List.length_cons, List.length_append, List.length_nil] at length
    omega
  unfold requote
  rcases unwrap_cases piece with whole | wrapped
  · rw [whole]
    by_cases bare : Bare piece
    · simp [quoteChars_bare bare, bare]
    · simp [quoteChars_quoted bare, bare, longer]
  · have other : unwrap piece ≠ piece := fun same => longer piece (by rw [same] at wrapped; exact wrapped.symm)
    by_cases bare : Bare (unwrap piece)
    · simp [quoteChars_bare bare, bare, other]
    · simp [quoteChars_quoted bare, bare, other, ← wrapped]

/-- Only quotes come and go. -/
theorem length_requote (piece : List Char) :
    (requote piece).length + piece.count '"' = piece.length + (requote piece).count '"' := by
  rcases requote_cases piece with same | ⟨-, quoted⟩ | ⟨-, unquoted⟩
  · rw [same]
  · rw [quoted]
    simp only [List.length_cons, List.length_append, List.length_nil, List.count_cons_self, List.count_append,
      List.count_nil]
    omega
  · have length := congrArg List.length unquoted
    have count := congrArg (List.count '"') unquoted
    simp only [List.length_cons, List.length_append, List.length_nil, List.count_cons_self, List.count_append,
      List.count_nil] at length count
    omega

theorem eq_of_shifted {c : Char} {text u v : List Char} (shifted : text ++ u = c :: (text ++ v)) :
    (∀ d ∈ text, d = c) ∧ u = c :: v := by
  induction text with
  | nil => exact ⟨by simp, shifted⟩
  | cons d text ih =>
      obtain ⟨rfl, later⟩ : d = c ∧ text ++ u = d :: (text ++ v) := List.cons_eq_cons.mp shifted
      obtain ⟨all, rest⟩ := ih later
      exact ⟨List.forall_mem_cons.mpr ⟨rfl, all⟩, rest⟩

/-! ## Pieces one space apart -/

theorem intercalate_space_cons (piece : List Char) (pieces : List (List Char)) :
    [' '].intercalate (piece :: pieces) = piece ++ pieces.flatMap (' ' :: ·) := by
  induction pieces generalizing piece with
  | nil => simp
  | cons next pieces ih =>
      rw [List.intercalate_cons_cons, ih, List.flatMap_cons]
      simp

theorem flatMap_space_sublist (pieces : List (List Char)) :
    (pieces.flatMap (' ' :: ·)).Sublist (' ' :: [' '].intercalate pieces) := by
  cases pieces with
  | nil => exact List.nil_sublist _
  | cons piece pieces =>
      rw [intercalate_space_cons]
      exact List.Sublist.refl _

theorem count_intercalate_space (pieces : List (List Char)) :
    ([' '].intercalate pieces).count '"' = pieces.flatten.count '"' := by
  have spaced : (pieces.flatMap (' ' :: ·)).count '"' = pieces.flatten.count '"' := by
    induction pieces with
    | nil => rfl
    | cons piece pieces ih => simp [ih]
  cases pieces with
  | nil => rfl
  | cons piece pieces =>
      rw [intercalate_space_cons]
      simpa using spaced

theorem length_intercalate_requote (pieces : List (List Char)) :
    ([' '].intercalate (pieces.map requote)).length + ([' '].intercalate pieces).count '"' =
      ([' '].intercalate pieces).length + ([' '].intercalate (pieces.map requote)).count '"' := by
  have spaced : ((pieces.map requote).flatMap (' ' :: ·)).length + (pieces.flatMap (' ' :: ·)).count '"' =
      (pieces.flatMap (' ' :: ·)).length + ((pieces.map requote).flatMap (' ' :: ·)).count '"' := by
    induction pieces with
    | nil => rfl
    | cons piece pieces ih =>
        have first := length_requote piece
        simp only [List.map_cons, List.flatMap_cons, List.length_append, List.count_append, List.length_cons,
          List.count_cons]
        omega
  cases pieces with
  | nil => rfl
  | cons piece pieces =>
      simp only [List.map_cons, List.flatMap_cons, List.cons_append, List.length_cons, List.count_cons] at spaced
      rw [List.map_cons, intercalate_space_cons, intercalate_space_cons]
      omega

/-- Splitting drops blanks and nothing else, and it leaves a space between two pieces. -/
theorem intercalate_splitFrom (inside : Bool) (reversed rest : List Char) :
    ([' '].intercalate (splitFrom inside reversed rest)).Sublist (reversed.reverse ++ rest) ∧
      (splitFrom inside reversed rest).flatten.count '"' = (reversed.reverse ++ rest).count '"' := by
  induction rest generalizing inside reversed with
  | nil =>
      rw [splitFrom_nil]
      cases reversed with
      | nil => simp
      | cons c reversed => simp [asWord]
  | cons c rest ih =>
      rcases splitFrom_cons_cases inside reversed c rest with
        ⟨after, step, -⟩ | ⟨-, rfl, step⟩ | ⟨-, rfl, blank, step⟩
      · rw [step]
        simpa using ih after (c :: reversed)
      · obtain ⟨sublist, count⟩ := ih false []
        rw [step, splitQuoted]
        cases reversed with
        | nil => exact ⟨sublist.cons ' ', count⟩
        | cons d reversed =>
            rw [asWord_of_ne_nil (by simp), List.singleton_append, intercalate_space_cons]
            refine ⟨((flatMap_space_sublist _).trans (sublist.cons_cons ' ')).append_left _, ?_⟩
            simpa [List.count_cons] using count
      · obtain ⟨sublist, count⟩ := ih false []
        rw [step, splitQuoted]
        refine ⟨sublist.cons c, ?_⟩
        simpa [ne_quote_of_isBlank blank] using count

theorem count_flatten_splitQuoted (line : List Char) : (splitQuoted line).flatten.count '"' = line.count '"' :=
  (intercalate_splitFrom false [] line).2

theorem ne_nil_of_mem_splitQuoted {line piece : List Char} (member : piece ∈ splitQuoted line) : piece ≠ [] := by
  rw [Grammar.splitQuoted_eq_pieces] at member
  simpa using List.of_mem_filter member

/-! ## Texts that stay as they are -/

/-- The pieces of the text stand one space apart, and quotes stand around a piece exactly if its word
    needs them. -/
def Settled (text : List Char) : Prop :=
  [' '].intercalate (splitQuoted text) = text ∧
    ∀ piece ∈ splitQuoted text, (unwrap piece = piece ↔ Bare (unwrap piece))

instance (text : List Char) : Decidable (Settled text) := inferInstanceAs (Decidable (_ ∧ _))

theorem joinChars_map_unwrap (pieces : List (List Char)) :
    joinChars (pieces.map unwrap) = dropBlankEnd ([' '].intercalate (pieces.map requote)) := by
  rw [joinChars, List.map_map]
  rfl

theorem requote_eq_of_append {piece u v : List Char} (nonempty : piece ≠ [])
    (ends : ∀ c ∈ v.head?, c = ' ') (same : piece ++ u = requote piece ++ v) : requote piece = piece := by
  rcases requote_cases piece with same | ⟨quoted, added⟩ | ⟨-, removed⟩
  · exact same
  · have space : ' ' ∈ piece := Classical.not_not.mp fun none => quoted ⟨nonempty, none⟩
    rw [added] at same
    obtain ⟨all, -⟩ := eq_of_shifted (v := '"' :: v) (by simpa using same)
    exact absurd (all ' ' space) (by decide)
  · have shifted : requote piece ++ v = '"' :: (requote piece ++ '"' :: u) := by
      rw [← same]
      nth_rewrite 1 [removed]
      simp
    obtain ⟨-, rfl⟩ := eq_of_shifted shifted
    exact absurd (ends '"' rfl) (by decide)

/-- Nothing has become of the first piece, as it would not stand in front of a space then; and so on. -/
theorem requote_eq_of_prefix {pieces : List (List Char)} (nonempty : ∀ piece ∈ pieces, piece ≠ [])
    (begins : [' '].intercalate pieces <+: [' '].intercalate (pieces.map requote)) :
    ∀ piece ∈ pieces, requote piece = piece := by
  induction pieces with
  | nil => simp
  | cons piece pieces ih =>
      rw [List.forall_mem_cons] at nonempty ⊢
      rw [List.map_cons, intercalate_space_cons, intercalate_space_cons] at begins
      have first : requote piece = piece := by
        obtain ⟨rest, same⟩ := begins
        rw [List.append_assoc] at same
        refine requote_eq_of_append nonempty.1 ?_ same
        cases pieces <;> simp
      refine ⟨first, ih nonempty.2 ?_⟩
      rw [first, List.prefix_append_right_inj] at begins
      cases pieces with
      | nil => exact List.prefix_rfl
      | cons next pieces =>
          rw [List.map_cons, intercalate_space_cons, intercalate_space_cons]
          simpa using begins

/-- Writing the words of a text again gives the same text exactly if it was settled. -/
theorem joinChars_split_eq_self_iff {text : List Char} (solid : EndsSolid text) :
    joinChars ((splitQuoted text).map unwrap) = text ↔ Settled text := by
  simp only [Settled, ← requote_eq_self_iff]
  rw [joinChars_map_unwrap]
  constructor
  · intro same
    -- Apart from quotes, what is written again has all that the pieces have, and these have nothing that
    -- the text has not.  So the text is no longer than its pieces.
    have begins : text <+: [' '].intercalate ((splitQuoted text).map requote) := by
      nth_rewrite 1 [← same]
      exact List.rdropWhile_prefix isBlank _
    have sublist : ([' '].intercalate (splitQuoted text)).Sublist text :=
      (intercalate_splitFrom false [] text).1
    have whole : [' '].intercalate (splitQuoted text) = text := by
      refine sublist.eq_of_length_le ?_
      have requoted := length_intercalate_requote (splitQuoted text)
      obtain ⟨rest, split⟩ := begins
      have quotes : rest.count '"' ≤ rest.length := List.count_le_length
      have total := congrArg (List.count '"') split
      have length := congrArg List.length split
      rw [count_intercalate_space, count_flatten_splitQuoted] at requoted
      simp only [List.count_append, List.length_append] at total length
      omega
    refine ⟨whole, requote_eq_of_prefix (fun piece => ne_nil_of_mem_splitQuoted) ?_⟩
    rwa [whole]
  · rintro ⟨whole, each⟩
    rw [List.map_congr_left each, List.map_id', whole]
    exact (dropBlankEnd_eq_self_iff text).mpr solid

theorem dropBlankEnd_cons {c : Char} (rest : List Char) (solid : isBlank c = false) :
    dropBlankEnd (c :: rest) = c :: dropBlankEnd rest := by
  have single : dropBlankEnd [c] = [c] := by simp [dropBlankEnd, solid]
  by_cases blank : dropBlankEnd rest = []
  · rw [← List.singleton_append, dropBlankEnd_append_blank _ blank, single, blank]
  · rw [← List.singleton_append, dropBlankEnd_append _ blank, List.singleton_append]

/-- Words that come back from a line, but for blanks at the end of the last one, make the same line
    again. -/
theorem joinChars_rejoin {words : List (List Char)} (nonempty : words ≠ [])
    (noQuote : ∀ word ∈ words, '"' ∉ word) (starts : ∀ word ∈ words, Bare word → StartsSolid word) :
    rejoin words ≠ [] ∧ joinChars (rejoin words) = joinChars words := by
  obtain ⟨front, last, rfl⟩ := words.eq_nil_or_concat'.resolve_left nonempty
  have same : front.flatMap reread = front :=
    flatMap_reread_of_starts (fun word member => noQuote word (by simp [member]))
      fun word member => starts word (by simp [member])
  by_cases bare : Bare last
  · obtain ⟨c, rest, rfl⟩ := List.exists_cons_of_ne_nil bare.1
    have solid : isBlank c = false := by simpa using starts (c :: rest) (by simp) bare
    have trimmed := dropBlankEnd_cons rest solid
    have bareEnd : Bare (dropBlankEnd (c :: rest)) :=
      ⟨by simp [trimmed], fun space => bare.2 ((List.rdropWhile_prefix isBlank _).subset space)⟩
    have found : rereadLast (c :: rest) = [dropBlankEnd (c :: rest)] := by
      rw [rereadLast, if_pos bare, asWord_eq_singleton_iff bareEnd.1, dropBlankStart_eq_self_iff, trimmed]
      simpa using solid
    have ends : EndsSolid (dropBlankEnd (c :: rest)) :=
      (dropBlankEnd_eq_self_iff _).mp (List.rdropWhile_idempotent isBlank _)
    rw [rejoin_concat front noQuote fun _ => bareEnd.1, same, found, joinChars_concat,
      dropBlankEnd_quoteChars _ fun _ => ends, quoteChars_bare bareEnd, joinChars_concat, quoteChars_bare bare,
      dropBlankEnd_append _ bareEnd.1]
    simp
  · have found : rereadLast last = [last] := if_neg bare
    rw [rejoin_concat front noQuote fun bareLast => absurd bareLast bare, same, found]
    simp

theorem map_toList_ofList (words : List (List Char)) : (words.map String.ofList).map String.toList = words := by
  simp [Function.comp_def]

theorem join_split_eq_self_iff {text : String} (solid : EndsSolid text.toList) :
    join (split text) = text ↔ Settled text.toList := by
  rw [← joinChars_split_eq_self_iff solid, ← String.toList_inj, join, String.toList_ofList, split_eq_map_unwrap,
    map_toList_ofList]

theorem join_split_join {texts : List String} (nonempty : texts ≠ [])
    (plain : ∀ text ∈ texts, '"' ∉ text.toList ∧ (Bare text.toList → StartsSolid text.toList)) :
    split (join texts) ≠ [] ∧ join (split (join texts)) = join texts := by
  have nonemptyWords : texts.map String.toList ≠ [] := by simpa using nonempty
  obtain ⟨found, same⟩ := joinChars_rejoin nonemptyWords
    (List.forall_mem_map.mpr fun text member => (plain text member).1)
    (List.forall_mem_map.mpr fun text member => (plain text member).2)
  rw [split_join]
  refine ⟨by simpa using found, ?_⟩
  rw [join, map_toList_ofList, same, join]

/-- A text that does not end in a blank has a word, unless there is nothing in it. -/
theorem split_eq_nil_iff {text : String} (solid : EndsSolid text.toList) : split text = [] ↔ text = "" := by
  constructor
  · intro none
    by_contra nonempty
    obtain ⟨front, last, ends⟩ := text.toList.eq_nil_or_concat'.resolve_left (by simpa using nonempty)
    have lastSolid : isBlank last = false := solid last (by simp [ends])
    cases first : text.toList.find? (!isBlank ·) with
    | none => simp [ends, lastSolid] at first
    | some c =>
        obtain ⟨more, words, found⟩ := splitQuoted_of_find? first
        simp [split, found] at none
  · rintro rfl
    rfl

end Words

namespace Shell

open MacroShell.Text MacroShell.Words

variable {δ : Type} [InputDevice δ]

/-- The command that records the line in the register succeeds, and the register holds the text then. -/
def Records (shell : Shell δ) (slot : Slot .register) (line : String) (depth : Nat) (text : String) : Prop :=
  ∃ command output after, Command.parse (State.registerLine slot line) = .ok command ∧
    shell.outcome? command depth = some (.ok output after) ∧
    (shell.dispatch command depth).registers.get? slot = some text

/-- Recording takes every line that is not blank, and stores its words. -/
theorem records_iff {shell : Shell δ} {slot : Slot .register} {line text : String} {depth : Nat} :
    shell.Records slot line depth text ↔ split line ≠ [] ∧ text = join (split line) := by
  let command : Command := ⟨'@', "@", String.singleton slot.char :: split line⟩
  have parsed : Command.parse (State.registerLine slot line) = .ok command := State.parse_registerLine slot line
  have named := Slot.parse_char slot
  have held (nonempty : split line ≠ []) :
      (shell.dispatch command depth).registers.get? slot = some (join (split line)) := by
    rw [dispatch, dispatchWith_record named nonempty, notice_eq]
    simp [setRegister, SlotTable.get?_set]
  constructor
  · rintro ⟨_, output, after, read, succeeds, stored⟩
    obtain rfl := Except.ok.inj (parsed.symm.trans read)
    have nonempty : split line ≠ [] := by
      intro none
      have refused : shell.outcome? ⟨'@', "@", [String.singleton slot.char]⟩ depth = some (.error _ _) := rfl
      simp only [command, none] at succeeds
      cases succeeds.symm.trans refused
    exact ⟨nonempty, Option.some.inj (stored.symm.trans (held nonempty))⟩
  · rintro ⟨nonempty, rfl⟩
    have selected : selection '@' = some (.record, .atLeast 2) := by decide
    have accepted : (Arity.atLeast 2).accepts (String.singleton slot.char :: split line).length = true :=
      accepts_atLeast_two nonempty
    have came := outcome?_selected selected accepted "@" depth shell
    simp only [Execute.run, Execute.record, Execute.parseRegister, named] at came
    exact ⟨command, _, _, parsed, came, held nonempty⟩

/-- A text that was recorded is recorded again unless it is empty, and what is stored then is its words
    joined.  That is the same text exactly if it is settled.  It is settled whenever no word of the line
    that was recorded first holds a quote, and none that is written bare starts with a blank. -/
theorem records_again_iff {shell : Shell δ} {slot : Slot .register} {line text : String} {depth : Nat}
    (recorded : shell.Records slot line depth text) {ε : Type} [InputDevice ε] (again : Shell ε) (inner : Nat) :
    (∀ stored, again.Records slot text inner stored ↔ text ≠ "" ∧ stored = join (split text)) ∧
    (again.Records slot text inner text ↔ text ≠ "" ∧ Settled text.toList) ∧
    ((∀ word ∈ split line, '"' ∉ word.toList ∧ (Bare word.toList → StartsSolid word.toList)) →
      again.Records slot text inner text) := by
  obtain ⟨nonempty, rfl⟩ := records_iff.mp recorded
  have solid : EndsSolid (join (split line)).toList := by
    rw [join, String.toList_ofList]
    exact endsSolid_joinChars _
  have taken (stored : String) : again.Records slot (join (split line)) inner stored ↔
      join (split line) ≠ "" ∧ stored = join (split (join (split line))) := by
    rw [records_iff, ne_eq, split_eq_nil_iff solid]
  refine ⟨taken, ?_, ?_⟩
  · rw [taken, ← join_split_eq_self_iff solid, eq_comm]
  · intro plain
    obtain ⟨found, same⟩ := join_split_join nonempty plain
    exact records_iff.mpr ⟨found, same.symm⟩

/-- Two words in quotes and quotes within a word: the text is settled, and another shell that loads it
    holds it too. -/
theorem records_again_iff_loaded :
    let slot : Slot .register := ⟨0, by decide⟩
    let shell : Shell VirtualDevice := { device := default, dotfile := "rc" }
    let line := "P  \"two words\"  a\"b c\"d "
    let text := "P \"two words\" \"a\"b c\"d\""
    shell.Records slot line 0 text ∧ Settled text.toList ∧ shell.Records slot text 1 text := by
  intro slot shell line text
  have recorded : shell.Records slot line 0 text := records_iff.mpr (by decide +kernel)
  have settled : Settled text.toList := by decide +kernel
  exact ⟨recorded, settled, ((records_again_iff recorded shell 1).2.1).mpr ⟨by decide, settled⟩⟩

/-- A tab that quotes kept at the start of a word is lost when the text is recorded again, and so is a
    pair of quotes around a word.  A text of which nothing is left is not taken at all, and a shell that
    loads it does not have the register. -/
theorem records_again_altered :
    let shell : Shell VirtualDevice := { device := default, dotfile := "rc" }
    let texts (lines : List String) : List (Option String) :=
      let after := lines.foldl (fun shell line => shell.executeLine line) shell
      [after.registers.get? ⟨0, by decide⟩, after.registers.get? ⟨1, by decide⟩, after.registers.get? ⟨2, by decide⟩]
    texts ["@ a \"\tx\"", "@ b \"\"\"y\"\"\"", "@ c \"\t\""] = [some "\tx", some "\"\"y\"\"", some ""] ∧
      texts ["@ a \tx", "@ b \"\"y\"\"", "@ c "] = [some "x", some "\"y\"", none] := by
  decide +kernel

end Shell

end MacroShell
