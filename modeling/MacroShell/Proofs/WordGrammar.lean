import MacroShell.Proofs.WordSplitting

/-! # What the words of a line are

The one pass that splits a line is compared here with a description by positions: where the line is
cut, what is dropped from each piece, and which quotes go.  The description looks at the whole line
for every position and keeps no state.
-/

namespace MacroShell.Grammar

open MacroShell.Text MacroShell.Words

/-- A position lies between a pair of quotes when an odd number of quotes stand before it and at
    least one stands at it or after it. -/
def Inside (line : List Char) (position : Nat) : Prop :=
  (line.take position).count '"' % 2 = 1 ∧ '"' ∈ line.drop position

instance (line : List Char) (position : Nat) : Decidable (Inside line position) :=
  inferInstanceAs (Decidable (_ ∧ _))

/-- A line is cut at the spaces that do not lie between quotes. -/
def cutsAt (line : List Char) (entry : Char × Nat) : Bool :=
  entry.1 = ' ' && !decide (Inside line entry.2)

/-- The cuttings of a line, without the spaces at which it is cut. -/
def cuttings (line : List Char) : List (List Char) :=
  (line.zipIdx.splitOnP (cutsAt line)).map (·.map Prod.fst)

/-- Drops the blanks at the start of every cutting, and then the cuttings that are empty. -/
def tidy (cuttings : List (List Char)) : List (List Char) :=
  (cuttings.map (·.dropWhile isBlank)).filter (· ≠ [])

/-- The pieces of a line, with their quotes. -/
def pieces (line : List Char) : List (List Char) := tidy (cuttings line)

/-- Removes the first and the last character of a piece if both are there and are quotes. -/
def stripQuotes (piece : List Char) : List Char :=
  if 2 ≤ piece.length ∧ piece.head? = some '"' ∧ piece.getLast? = some '"' then
    piece.tail.dropLast
  else piece

theorem unwrap_eq_stripQuotes (piece : List Char) : unwrap piece = stripQuotes piece := by
  rcases piece with - | ⟨c, rest⟩
  · rfl
  · by_cases quote : c = '"'
    · subst quote
      cases rest with
      | nil => rfl
      | cons d rest => simp [unwrap, stripQuotes, List.getLast?_cons_cons]
    · simp [unwrap_of_head_ne rest quote, stripQuotes, quote]

/-! ## Positions in the course of the pass -/

theorem inside_append (before rest : List Char) :
    Inside (before ++ rest) before.length ↔ before.count '"' % 2 = 1 ∧ '"' ∈ rest := by
  simp [Inside]

theorem inside_after_other (before rest : List Char) {c : Char} (other : c ≠ '"') :
    Inside (before ++ [c] ++ rest) (before ++ [c]).length ↔
      Inside (before ++ c :: rest) before.length := by
  rw [inside_append, inside_append]
  simp [List.count_cons_of_ne other, other.symm]

theorem inside_after_open (before rest : List Char)
    (outside : ¬ Inside (before ++ '"' :: rest) before.length) :
    Inside (before ++ ['"'] ++ rest) (before ++ ['"']).length ↔ '"' ∈ rest := by
  rw [inside_append] at outside ⊢
  simp only [List.mem_cons, true_or, and_true] at outside
  simp only [List.count_append, List.count_singleton_self, and_iff_right_iff_imp]
  omega

theorem inside_after_close (before rest : List Char)
    (inside : Inside (before ++ '"' :: rest) before.length) :
    ¬ Inside (before ++ ['"'] ++ rest) (before ++ ['"']).length := by
  rw [inside_append] at inside ⊢
  simp only [List.count_append, List.count_singleton_self]
  omega

/-! ## The pass finds the pieces -/

/-- A character at the end of a cutting stays, unless only blanks stand before it and it is blank
    itself. -/
theorem dropBlankStart_concat (cutting : List Char) {c : Char}
    (kept : isBlank c = true → dropBlankStart cutting ≠ []) :
    dropBlankStart (cutting ++ [c]) = dropBlankStart cutting ++ [c] := by
  unfold dropBlankStart at kept ⊢
  rw [List.dropWhile_append]
  split
  · rename_i none
    rw [List.isEmpty_iff] at none
    have solid : ¬ isBlank c = true := fun blank => kept blank none
    rw [none, List.dropWhile_cons_of_neg solid, List.nil_append]
  · rfl

theorem dropBlankStart_concat_skip {cutting : List Char} {c : Char} (blank : isBlank c = true)
    (none : dropBlankStart cutting = []) : dropBlankStart (cutting ++ [c]) = [] := by
  unfold dropBlankStart at none ⊢
  rw [List.dropWhile_append, none]
  simp [blank]

theorem tidy_cons (cutting : List Char) (rest : List (List Char)) :
    tidy (cutting :: rest) = asWord (dropBlankStart cutting) ++ tidy rest := by
  rw [dropBlankStart, tidy, List.map_cons]
  cases cutting.dropWhile isBlank with
  | nil => rfl
  | cons c text => rfl

/-- The cuttings of what stands in a line from some position on. -/
def cuttingsFrom (line : List Char) (position : Nat) (rest : List Char) : List (List Char) :=
  ((rest.zipIdx position).splitOnP (cutsAt line)).map (·.map Prod.fst)

theorem cuttingsFrom_nil (line : List Char) (position : Nat) : cuttingsFrom line position [] = [[]] := rfl

theorem cuttingsFrom_cut {line rest : List Char} {position : Nat}
    (outside : ¬ Inside line position) :
    cuttingsFrom line position (' ' :: rest) = [] :: cuttingsFrom line (position + 1) rest := by
  unfold cuttingsFrom
  rw [List.zipIdx_cons, List.splitOnP_cons_eq_if_modifyHead]
  simp [cutsAt, outside]

theorem cuttingsFrom_keep {line rest : List Char} {position : Nat} {c : Char}
    (kept : c ≠ ' ' ∨ Inside line position) :
    cuttingsFrom line position (c :: rest) =
      (cuttingsFrom line (position + 1) rest).modifyHead (c :: ·) := by
  have uncut : cutsAt line (c, position) = false := by
    simp only [cutsAt, Bool.and_eq_false_iff, decide_eq_false_iff_not, Bool.not_eq_false',
      decide_eq_true_eq]
    exact kept
  unfold cuttingsFrom
  rw [List.zipIdx_cons, List.splitOnP_cons_eq_if_modifyHead, uncut]
  cases (rest.zipIdx (position + 1)).splitOnP (cutsAt line) <;> simp

theorem modifyHead_nil_append (cuttings : List (List Char)) :
    cuttings.modifyHead ([] ++ ·) = cuttings := by
  cases cuttings <;> rfl

/-- The invariant of the pass.  Its flag tells whether the position lies between quotes, and its
    current word is the current cutting so far, `seen`, without the blanks at the start.  Between
    quotes the current word is never empty, so a blank there is never skipped. -/
theorem splitFrom_eq_tidy (before rest seen : List Char)
    (begun : Inside (before ++ rest) before.length → dropBlankStart seen ≠ []) :
    splitFrom (decide (Inside (before ++ rest) before.length)) (dropBlankStart seen).reverse rest =
      tidy ((cuttingsFrom (before ++ rest) before.length rest).modifyHead (seen ++ ·)) := by
  induction rest generalizing before seen with
  | nil =>
      rw [splitFrom_nil, cuttingsFrom_nil, List.modifyHead_cons, tidy_cons, List.reverse_reverse,
        List.append_nil]
      simp [tidy]
  | cons c rest ih =>
      have shift : before ++ c :: rest = before ++ [c] ++ rest := by simp
      have next : (before ++ [c]).length = before.length + 1 := by simp
      -- what remains to be shown where the character is added to the current word
      have kept (after : Bool) (solid : isBlank c = true → dropBlankStart seen ≠ [])
          (uncut : c ≠ ' ' ∨ Inside (before ++ c :: rest) before.length)
          (same : after = decide (Inside (before ++ [c] ++ rest) (before ++ [c]).length)) :
          splitFrom after (c :: (dropBlankStart seen).reverse) rest =
            tidy ((cuttingsFrom (before ++ c :: rest) before.length (c :: rest)).modifyHead
              (seen ++ ·)) := by
        have grown := dropBlankStart_concat seen solid
        have step := ih (before ++ [c]) (seen ++ [c]) (fun _ => by simp [grown])
        rw [cuttingsFrom_keep uncut, List.modifyHead_modifyHead, same]
        rw [grown, List.reverse_append, List.reverse_singleton, List.singleton_append] at step
        rw [step, shift, next]
        simp [Function.comp_def]
      by_cases quote : c = '"'
      · subst quote
        have solid : isBlank '"' = true → dropBlankStart seen ≠ [] := by simp [isBlank_quote]
        have uncut : '"' ≠ ' ' ∨ Inside (before ++ '"' :: rest) before.length := .inl (by decide)
        by_cases inside : Inside (before ++ '"' :: rest) before.length
        · rw [decide_eq_true inside, splitFrom_close]
          exact kept false solid uncut (decide_eq_false (inside_after_close before rest inside)).symm
        · have after := inside_after_open before rest inside
          rw [decide_eq_false inside]
          by_cases partner : '"' ∈ rest
          · rw [splitFrom_open _ partner]
            exact kept true solid uncut (decide_eq_true (after.mpr partner)).symm
          · rw [splitFrom_unmatched _ partner]
            exact kept false solid uncut (decide_eq_false (mt after.mp partner)).symm
      · have same := inside_after_other before rest quote
        by_cases inside : Inside (before ++ c :: rest) before.length
        · rw [decide_eq_true inside, splitFrom_keep quote (.inl rfl)]
          exact kept true (fun _ => begun inside) (.inr inside) (decide_eq_true (same.mpr inside)).symm
        · rw [decide_eq_false inside]
          have outside : decide (Inside (before ++ [c] ++ rest) (before ++ [c]).length) = false :=
            decide_eq_false (mt same.mp inside)
          by_cases space : c = ' '
          · subst space
            have step := ih (before ++ [' ']) [] (fun h => absurd (same.mp h) inside)
            rw [outside, next, ← shift, modifyHead_nil_append] at step
            rw [splitFrom_space, cuttingsFrom_cut inside, List.modifyHead_cons, List.append_nil,
              tidy_cons, ← step, List.reverse_reverse]
            rfl
          · by_cases solid : isBlank c = true → dropBlankStart seen ≠ []
            · rw [splitFrom_keep quote (.inr ⟨space, by simpa using solid⟩)]
              exact kept false solid (.inl space) outside.symm
            · obtain ⟨blank, none⟩ : isBlank c = true ∧ dropBlankStart seen = [] := by
                simpa using solid
              have step := ih (before ++ [c]) (seen ++ [c]) (fun h => absurd (same.mp h) inside)
              rw [outside, next, ← shift, dropBlankStart_concat_skip blank none] at step
              rw [none, List.reverse_nil, splitFrom_skip rest blank, cuttingsFrom_keep (.inl space),
                List.modifyHead_modifyHead]
              simpa [Function.comp_def] using step

theorem splitQuoted_eq_pieces (line : List Char) : splitQuoted line = pieces line := by
  have whole := splitFrom_eq_tidy [] line [] (by simp [Inside])
  have start : decide (Inside line 0) = false := decide_eq_false (by simp [Inside])
  rw [modifyHead_nil_append] at whole
  simpa [start, dropBlankStart, splitQuoted, pieces, cuttings, cuttingsFrom] using whole

/-! ## Commands by the grammar -/

/-- Every line is either blank, and then no command, or its pieces say what command it is. -/
theorem parse_cases (line : String) :
    ((∀ c ∈ line.toList, isBlank c = true) ∧ pieces line.toList = [] ∧
      Command.parse line = .error (.parse "empty command")) ∨
    ((∃ c ∈ line.toList, isBlank c = false) ∧ ∃ c more rest, pieces line.toList = (c :: more) :: rest ∧
      Command.parse line = .ok
        { opcode := c
          head := String.ofList (stripQuotes (c :: more))
          operands := rest.map fun piece => String.ofList (stripQuotes piece) }) := by
  simp only [← splitQuoted_eq_pieces, ← unwrap_eq_stripQuotes]
  cases first : line.toList.find? (!isBlank ·) with
  | none =>
      have blank : ∀ c ∈ line.toList, isBlank c = true := by simpa using first
      exact .inl ⟨blank, splitQuoted_blank blank, parse_of_blank blank⟩
  | some c =>
      obtain ⟨more, words, split⟩ := splitQuoted_of_find? first
      have solid : isBlank c = false := by simpa using List.find?_some first
      exact .inr ⟨⟨c, List.mem_of_find?_eq_some first, solid⟩, c, more, words, split,
        parse_of_splitQuoted split⟩

theorem stripQuotes_of_head_ne {c : Char} (more : List Char) (other : c ≠ '"') :
    stripQuotes (c :: more) = c :: more := by
  simp [stripQuotes, other]

/-- A line is refused exactly if it is blank, also when its opcode is known and its words are still
    to be found.  Otherwise its opcode and its words are those of its pieces, and its first word
    starts with the opcode unless that is a quote.  A quote without a partner after a space does not
    keep that space from cutting the line. -/
theorem parse_eq_grammar (line : String) :
    ((∃ e, Command.parse line = .error e) ↔ ∀ c ∈ line.toList, isBlank c = true) ∧
    (∀ e, Command.parse line = .error e → e = .parse "empty command") ∧
    (∀ c, line.toList.find? (!isBlank ·) = some c → Words.split line ≠ []) ∧
    (∀ command, Command.parse line = .ok command →
      (∃ piece rest, pieces line.toList = piece :: rest ∧ piece.head? = some command.opcode) ∧
      command.words.map String.toList = (pieces line.toList).map stripQuotes ∧
      (command.opcode ≠ '"' → command.head.toList.head? = some command.opcode)) ∧
    (∀ before after, line.toList = before ++ ' ' :: after → '"' ∉ after →
      pieces line.toList = pieces before ++ pieces after) := by
  have cases := parse_cases line
  refine ⟨⟨?_, ?_⟩, ?_, ?_, ?_, ?_⟩
  · rintro ⟨e, refused⟩
    rcases cases with ⟨blank, -, -⟩ | ⟨-, c, more, rest, -, parsed⟩
    · exact blank
    · rw [parsed] at refused
      cases refused
  · intro blank
    exact ⟨_, parse_of_blank blank⟩
  · intro e refused
    rcases cases with ⟨-, -, parsed⟩ | ⟨-, c, more, rest, -, parsed⟩
    · rw [parsed] at refused
      exact (Except.error.inj refused).symm
    · rw [parsed] at refused
      cases refused
  · intro c first none
    obtain ⟨more, words, split⟩ := splitQuoted_of_find? first
    simp [Words.split, split] at none
  · intro command parsed
    rcases cases with ⟨-, -, refused⟩ | ⟨-, c, more, rest, found, parsed'⟩
    · rw [refused] at parsed
      cases parsed
    · obtain rfl := Except.ok.inj (parsed'.symm.trans parsed)
      refine ⟨⟨c :: more, rest, found, rfl⟩, ?_, ?_⟩
      · simp [Command.words, found, Function.comp_def]
      · intro other
        rw [stripQuotes_of_head_ne more other, String.toList_ofList]
        rfl
  · intro before after same absent
    simp only [← splitQuoted_eq_pieces, same]
    exact splitQuoted_append_space (.inr absent)

end MacroShell.Grammar
