import MacroShell.Command

/-! # Splitting a line piece by piece

Words are found in one pass that looks ahead for the partner of a quote.  A space that does not lie
between a pair of quotes nevertheless cuts the pass in two: what stands before it and what stands
after it are split independently.  Together with the splitting of a single written word this gives
the words of every line that is put together from written words.
-/

namespace MacroShell.Words

open MacroShell.Text

theorem isBlank_space : isBlank ' ' = true := by decide

theorem isBlank_quote : isBlank '"' = false := by decide

theorem ne_quote_of_isBlank {c : Char} (blank : isBlank c = true) : c ≠ '"' := by
  rintro rfl
  simp [isBlank_quote] at blank

theorem ne_space_of_solid {c : Char} (solid : isBlank c = false) : c ≠ ' ' := by
  rintro rfl
  simp [isBlank_space] at solid

/-- A text as a word; the empty text is none. -/
def asWord (text : List Char) : List (List Char) := if text = [] then [] else [text]

@[simp] theorem asWord_nil : asWord [] = [] := rfl

theorem asWord_of_ne_nil {text : List Char} (nonempty : text ≠ []) : asWord text = [text] :=
  if_neg nonempty

/-! ## One step of the pass -/

@[simp] theorem splitQuoted_nil : splitQuoted [] = [] := rfl

theorem splitFrom_nil (inside : Bool) (reversed : List Char) :
    splitFrom inside reversed [] = asWord reversed.reverse := by
  cases reversed <;> simp [splitFrom, asWord]

theorem splitFrom_close (reversed rest : List Char) :
    splitFrom true reversed ('"' :: rest) = splitFrom false ('"' :: reversed) rest := by
  simp [splitFrom]

theorem splitFrom_open (reversed : List Char) {rest : List Char} (partner : '"' ∈ rest) :
    splitFrom false reversed ('"' :: rest) = splitFrom true ('"' :: reversed) rest := by
  simp [splitFrom, partner]

/-- A quote without a partner is an ordinary character. -/
theorem splitFrom_unmatched (reversed : List Char) {rest : List Char} (alone : '"' ∉ rest) :
    splitFrom false reversed ('"' :: rest) = splitFrom false ('"' :: reversed) rest := by
  simp [splitFrom, alone, isBlank_quote]

theorem splitFrom_space (reversed rest : List Char) :
    splitFrom false reversed (' ' :: rest) = asWord reversed.reverse ++ splitQuoted rest := by
  cases reversed <;> simp [splitFrom, splitQuoted, asWord]

theorem splitFrom_skip {c : Char} (rest : List Char) (blank : isBlank c = true) :
    splitFrom false [] (c :: rest) = splitFrom false [] rest := by
  simp [splitFrom, ne_quote_of_isBlank blank, blank]

/-- Every other character is added to the current word. -/
theorem splitFrom_keep {inside : Bool} {reversed rest : List Char} {c : Char} (other : c ≠ '"')
    (kept : inside = true ∨ c ≠ ' ' ∧ (isBlank c = true → reversed ≠ [])) :
    splitFrom inside reversed (c :: rest) = splitFrom inside (c :: reversed) rest := by
  rcases kept with rfl | ⟨unspaced, begun⟩
  · simp [splitFrom, other]
  · cases reversed <;> simp_all [splitFrom]

/-- What can happen to a character: it is added to the current word, or it is a space that ends
    the current word, or it is a blank in front of a word.  As long as there are quotes ahead, every
    quote turns the flag of the pass over. -/
theorem splitFrom_cons_cases (inside : Bool) (reversed : List Char) (c : Char) (rest : List Char) :
    (∃ after, splitFrom inside reversed (c :: rest) = splitFrom after (c :: reversed) rest ∧
      (after = true → inside = true ∨ c = '"') ∧ (c = ' ' → inside = true) ∧
      ('"' ∈ rest → after = if c = '"' then !inside else inside)) ∨
    (inside = false ∧ c = ' ' ∧
      splitFrom inside reversed (c :: rest) = asWord reversed.reverse ++ splitQuoted rest) ∨
    (inside = false ∧ reversed = [] ∧ isBlank c = true ∧
      splitFrom inside reversed (c :: rest) = splitQuoted rest) := by
  by_cases quote : c = '"'
  · subst quote
    left
    cases inside with
    | true => exact ⟨false, splitFrom_close reversed rest, by simp⟩
    | false =>
        by_cases partner : '"' ∈ rest
        · exact ⟨true, splitFrom_open reversed partner, by simp⟩
        · exact ⟨false, splitFrom_unmatched reversed partner, by simp [partner]⟩
  · cases inside with
    | true => exact .inl ⟨true, splitFrom_keep quote (.inl rfl), by simp [quote]⟩
    | false =>
        by_cases space : c = ' '
        · subst space
          exact .inr (.inl ⟨rfl, rfl, splitFrom_space reversed rest⟩)
        · by_cases begun : isBlank c = true → reversed ≠ []
          · exact .inl ⟨false, splitFrom_keep quote (.inr ⟨space, begun⟩), by simp [space, quote]⟩
          · obtain ⟨blank, rfl⟩ : isBlank c = true ∧ reversed = [] := by simpa using begun
            exact .inr (.inr ⟨rfl, rfl, blank, splitFrom_skip rest blank⟩)

/-! ## Cutting at a space -/

/-- The state of the pass before `s` from which a space between `s` and `t` is sure to end a word:
    either the quotes of `s` close what is open, or no quote stands in `t` and what is open is
    closed in `s`. -/
def ClosedBy (inside : Bool) (s t : List Char) : Prop :=
  s.count '"' % 2 = inside.toNat ∨ '"' ∉ t ∧ (inside = true → '"' ∈ s)

namespace ClosedBy

variable {inside : Bool} {c : Char} {s t : List Char}

theorem nil (closed : ClosedBy inside [] t) : inside = false := by
  cases inside with
  | false => rfl
  | true => rcases closed with even | ⟨-, later⟩ <;> simp_all

theorem afterClose (closed : ClosedBy true ('"' :: s) t) : ClosedBy false s t := by
  rcases closed with even | ⟨absent, -⟩
  · left
    simp only [List.count_cons_self, Bool.toNat_true] at even
    simp only [Bool.toNat_false]
    omega
  · exact .inr ⟨absent, by simp⟩

/-- The partner of a quote that opens in `s` is found in `s` already. -/
theorem partner_mem (closed : ClosedBy false ('"' :: s) t) (partner : '"' ∈ s ++ ' ' :: t) :
    '"' ∈ s := by
  rcases closed with even | ⟨absent, -⟩
  · simp only [List.count_cons_self, Bool.toNat_false] at even
    exact List.count_pos_iff.mp (by omega)
  · simpa [absent] using partner

theorem afterOpen (closed : ClosedBy false ('"' :: s) t) (partner : '"' ∈ s) :
    ClosedBy true s t := by
  rcases closed with even | ⟨absent, -⟩
  · left
    simp only [List.count_cons_self, Bool.toNat_false] at even
    simp only [Bool.toNat_true]
    omega
  · exact .inr ⟨absent, fun _ => partner⟩

theorem of_noQuote (alone : '"' ∉ s) : ClosedBy false s t := by
  left
  simp [List.count_eq_zero.mpr alone]

theorem afterOther (closed : ClosedBy inside (c :: s) t) (other : c ≠ '"') :
    ClosedBy inside s t := by
  rcases closed with even | ⟨absent, later⟩
  · exact .inl (by rwa [List.count_cons_of_ne other] at even)
  · exact .inr ⟨absent, fun h => by simpa [other.symm] using later h⟩

end ClosedBy

theorem splitFrom_append_space {inside : Bool} {s t : List Char} (reversed : List Char)
    (closed : ClosedBy inside s t) :
    splitFrom inside reversed (s ++ ' ' :: t) = splitFrom inside reversed s ++ splitQuoted t := by
  induction s generalizing inside reversed with
  | nil => rw [closed.nil, List.nil_append, splitFrom_space, splitFrom_nil]
  | cons c s ih =>
      rw [List.cons_append]
      by_cases quote : c = '"'
      · subst quote
        cases inside with
        | true => rw [splitFrom_close, splitFrom_close, ih _ closed.afterClose]
        | false =>
            by_cases partner : '"' ∈ s ++ ' ' :: t
            · have here := closed.partner_mem partner
              rw [splitFrom_open _ partner, splitFrom_open _ here, ih _ (closed.afterOpen here)]
            · have alone : '"' ∉ s := fun here => partner (List.mem_append_left _ here)
              rw [splitFrom_unmatched _ partner, splitFrom_unmatched _ alone,
                ih _ (.of_noQuote alone)]
      · have closed' := closed.afterOther quote
        cases inside with
        | true => rw [splitFrom_keep quote (.inl rfl), splitFrom_keep quote (.inl rfl), ih _ closed']
        | false =>
            by_cases space : c = ' '
            · subst space
              have tail := ih [] closed'
              simp only [splitFrom_space, splitQuoted] at tail ⊢
              rw [tail, List.append_assoc]
            · by_cases begun : isBlank c = true → reversed ≠ []
              · rw [splitFrom_keep quote (.inr ⟨space, begun⟩),
                  splitFrom_keep quote (.inr ⟨space, begun⟩), ih _ closed']
              · obtain ⟨blank, rfl⟩ : isBlank c = true ∧ reversed = [] := by simpa using begun
                rw [splitFrom_skip _ blank, splitFrom_skip _ blank, ih _ closed']

/-- A space with an even number of quotes before it, or with none after it, separates words. -/
theorem splitQuoted_append_space {s t : List Char}
    (outside : s.count '"' % 2 = 0 ∨ '"' ∉ t) :
    splitQuoted (s ++ ' ' :: t) = splitQuoted s ++ splitQuoted t :=
  splitFrom_append_space [] (outside.imp id fun absent => ⟨absent, by simp⟩)

/-! ## Splitting one written word -/

theorem splitFrom_bare {reversed word : List Char} (inside : Bool) (begun : reversed ≠ [])
    (noSpace : ' ' ∉ word) : splitFrom inside reversed word = [reversed.reverse ++ word] := by
  induction word generalizing inside reversed with
  | nil => rw [splitFrom_nil, asWord_of_ne_nil (by simpa using begun), List.append_nil]
  | cons c word ih =>
      rcases splitFrom_cons_cases inside reversed c word with
        ⟨after, step, -⟩ | ⟨-, space, -⟩ | ⟨-, none, -⟩
      · rw [step, ih after (List.cons_ne_nil c reversed) (List.not_mem_of_not_mem_cons noSpace)]
        simp
      · exact absurd space.symm (List.ne_of_not_mem_cons noSpace)
      · exact absurd none begun

/-- A word without spaces loses the blanks at its start, and is no word at all if nothing is left. -/
theorem splitQuoted_bare {word : List Char} (noSpace : ' ' ∉ word) :
    splitQuoted word = asWord (dropBlankStart word) := by
  unfold splitQuoted dropBlankStart
  induction word with
  | nil => rfl
  | cons c word ih =>
      have noSpaceLater := List.not_mem_of_not_mem_cons noSpace
      cases blank : isBlank c with
      | true => rw [splitFrom_skip _ blank, ih noSpaceLater, List.dropWhile_cons_of_pos blank]
      | false =>
          rw [List.dropWhile_cons_of_neg (by simp [blank]), asWord_of_ne_nil (List.cons_ne_nil c word)]
          rcases splitFrom_cons_cases false [] c word with
            ⟨after, step, -⟩ | ⟨-, space, -⟩ | ⟨-, -, skipped, -⟩
          · rw [step, splitFrom_bare after (List.cons_ne_nil c []) noSpaceLater]
            rfl
          · exact absurd space.symm (List.ne_of_not_mem_cons noSpace)
          · rw [blank] at skipped
            cases skipped

theorem splitFrom_toQuote {reversed word : List Char} (noQuote : '"' ∉ word) :
    splitFrom true reversed (word ++ ['"']) = [reversed.reverse ++ word ++ ['"']] := by
  induction word generalizing reversed with
  | nil => simp [splitFrom_close, splitFrom_nil, asWord]
  | cons c word ih =>
      have quote := List.ne_of_not_mem_cons noQuote
      replace noQuote := List.not_mem_of_not_mem_cons noQuote
      rw [List.cons_append, splitFrom_keep (Ne.symm quote) (.inl rfl), ih noQuote]
      simp

theorem splitQuoted_quoted {word : List Char} (noQuote : '"' ∉ word) :
    splitQuoted ('"' :: (word ++ ['"'])) = ['"' :: (word ++ ['"'])] := by
  rw [splitQuoted, splitFrom_open _ (by simp), splitFrom_toQuote noQuote]
  simp

theorem unwrap_quoted (word : List Char) : unwrap ('"' :: (word ++ ['"'])) = word := by
  simp [unwrap]

theorem unwrap_of_head_ne {c : Char} (more : List Char) (other : c ≠ '"') :
    unwrap (c :: more) = c :: more := by
  unfold unwrap
  split
  · simp_all
  · rfl

theorem unwrap_of_noQuote {word : List Char} (noQuote : '"' ∉ word) : unwrap word = word := by
  cases word with
  | nil => rfl
  | cons c more => exact unwrap_of_head_ne more (List.ne_of_not_mem_cons noQuote).symm

/-- A pair of quotes around a word goes, and nothing else does. -/
theorem unwrap_cases (piece : List Char) : unwrap piece = piece ∨ piece = '"' :: (unwrap piece ++ ['"']) := by
  unfold unwrap
  split
  · rename_i rest
    split
    · rename_i last
      obtain ⟨front, rfl⟩ := List.getLast?_eq_some_iff.mp last
      exact .inr (by simp)
    · exact .inl rfl
  · exact .inl rfl

/-! ## From words to commands -/

/-- A word that has begun stays the first word that the pass finds. -/
theorem splitFrom_begun {reversed : List Char} (inside : Bool) (rest : List Char)
    (begun : reversed ≠ []) :
    ∃ more words, splitFrom inside reversed rest = (reversed.reverse ++ more) :: words := by
  have nonempty : reversed.reverse ≠ [] := by simpa using begun
  induction rest generalizing inside reversed with
  | nil => exact ⟨[], [], by rw [splitFrom_nil, asWord_of_ne_nil nonempty, List.append_nil]⟩
  | cons c rest ih =>
      rcases splitFrom_cons_cases inside reversed c rest with
        ⟨after, step, -⟩ | ⟨-, -, step⟩ | ⟨-, none, -⟩
      · obtain ⟨more, words, found⟩ := ih after (List.cons_ne_nil c reversed) (by simp)
        exact ⟨c :: more, words, by simpa [step] using found⟩
      · exact ⟨[], splitQuoted rest, by rw [step, asWord_of_ne_nil nonempty, List.append_nil]; rfl⟩
      · exact absurd none begun

theorem mem_asWord {text word : List Char} (member : word ∈ asWord text) : word = text := by
  unfold asWord at member
  split at member
  · cases member
  · exact List.mem_singleton.mp member

theorem quote_mem_of_splitFrom {inside : Bool} {reversed rest : List Char}
    (opened : inside = true → '"' ∈ reversed) (spaced : ' ' ∈ reversed → '"' ∈ reversed) :
    ∀ word ∈ splitFrom inside reversed rest, ' ' ∈ word → '"' ∈ word := by
  induction rest generalizing inside reversed with
  | nil =>
      intro word member
      rw [splitFrom_nil] at member
      simpa [mem_asWord member] using spaced
  | cons c rest ih =>
      intro word member
      rcases splitFrom_cons_cases inside reversed c rest with
        ⟨after, step, openedBy, spacedBy, -⟩ | ⟨-, -, step⟩ | ⟨-, -, -, step⟩
      · rw [step] at member
        refine ih ?_ ?_ word member
        · intro isOpen
          rcases openedBy isOpen with before | rfl
          · exact List.mem_cons_of_mem c (opened before)
          · exact List.mem_cons_self
        · intro space
          rcases List.mem_cons.mp space with same | before
          · exact List.mem_cons_of_mem c (opened (spacedBy same.symm))
          · exact List.mem_cons_of_mem c (spaced before)
      · rw [step, List.mem_append] at member
        rcases member with here | later
        · simpa [mem_asWord here] using spaced
        · exact ih (by simp) (by simp) word later
      · rw [step] at member
        exact ih (by simp) (by simp) word member

/-- A space in a word lies between quotes, so the word has a quote too. -/
theorem quote_mem_of_space_mem {line word : List Char} (found : word ∈ splitQuoted line)
    (space : ' ' ∈ word) : '"' ∈ word :=
  quote_mem_of_splitFrom (by simp) (by simp) word found space

theorem splitQuoted_skip {blanks : List Char} (rest : List Char) (blank : ∀ c ∈ blanks, isBlank c = true) :
    splitQuoted (blanks ++ rest) = splitQuoted rest := by
  induction blanks with
  | nil => rfl
  | cons c blanks ih =>
      rw [List.forall_mem_cons] at blank
      rw [List.cons_append, splitQuoted, splitFrom_skip _ blank.1]
      exact ih blank.2

/-- The first word starts with the first character that is not blank. -/
theorem splitQuoted_solid {c : Char} (rest : List Char) (solid : isBlank c = false) :
    ∃ more words, splitQuoted (c :: rest) = (c :: more) :: words := by
  have first (inside : Bool) : ∃ more words, splitFrom inside [c] rest = (c :: more) :: words := by
    simpa using splitFrom_begun inside rest (List.cons_ne_nil c [])
  unfold splitQuoted
  by_cases quote : c = '"'
  · subst quote
    by_cases partner : '"' ∈ rest
    · rw [splitFrom_open _ partner]
      exact first true
    · rw [splitFrom_unmatched _ partner]
      exact first false
  · rw [splitFrom_keep quote (.inr ⟨ne_space_of_solid solid, by simp [solid]⟩)]
    exact first false

theorem splitQuoted_blank {line : List Char} (blank : ∀ c ∈ line, isBlank c = true) :
    splitQuoted line = [] := by
  simpa using splitQuoted_skip [] blank

theorem splitQuoted_of_find? {line : List Char} {c : Char}
    (first : line.find? (!isBlank ·) = some c) :
    ∃ more words, splitQuoted line = (c :: more) :: words := by
  obtain ⟨solid, blanks, rest, rfl, blank⟩ := List.find?_eq_some_iff_append.mp first
  rw [splitQuoted_skip (c :: rest) (by simpa using blank)]
  exact splitQuoted_solid rest (by simpa using solid)

/-- A line with a word is a command, and its opcode is the first character of its first word. -/
theorem parse_of_splitQuoted {line : String} {c : Char} {more : List Char} {words : List (List Char)}
    (split : splitQuoted line.toList = (c :: more) :: words) :
    Command.parse line = .ok
      { opcode := c
        head := String.ofList (unwrap (c :: more))
        operands := words.map fun word => String.ofList (unwrap word) } := by
  have found : line.toList.find? (!isBlank ·) = some c := by
    cases first : line.toList.find? (!isBlank ·) with
    | none =>
        rw [splitQuoted_blank (by simpa using first)] at split
        cases split
    | some d =>
        obtain ⟨_, _, split'⟩ := splitQuoted_of_find? first
        rw [split] at split'
        cases split'
        rfl
  simp [Command.parse, Words.split, found, split]

theorem parse_of_blank {line : String} (blank : ∀ c ∈ line.toList, isBlank c = true) :
    Command.parse line = .error (.parse "empty command") := by
  have none : line.toList.find? (!isBlank ·) = none := by simpa using blank
  simp [Command.parse, none]

theorem parse_eq_ok_iff {line : String} {command : Command} :
    Command.parse line = .ok command ↔
      line.toList.find? (!isBlank ·) = some command.opcode ∧ Words.split line = command.words := by
  unfold Command.parse
  split
  · rename_i opcode head operands first found
    obtain ⟨opcode', head', operands'⟩ := command
    simp [first, found, Command.words]
  · rename_i neither
    constructor
    · intro refused
      cases refused
    · rintro ⟨first, found⟩
      exact absurd found (neither _ _ _ first)

theorem parse_of_split {line : String} {opcode : Char} {head : String} {operands : List String}
    (starts : line.toList.head? = some opcode) (solid : isBlank opcode = false)
    (found : Words.split line = head :: operands) :
    Command.parse line = .ok { opcode, head, operands } := by
  obtain ⟨rest, whole⟩ := List.head?_eq_some_iff.mp starts
  exact parse_eq_ok_iff.mpr ⟨by simp [whole, solid], found⟩

/-- Words are enough for a command. -/
theorem exists_parse_iff {line : String} {words : List String} (nonempty : words ≠ []) :
    (∃ command, Command.parse line = .ok command ∧ command.words = words) ↔ Words.split line = words := by
  constructor
  · rintro ⟨command, parsed, rfl⟩
    exact (parse_eq_ok_iff.mp parsed).2
  · rintro rfl
    cases first : line.toList.find? (!isBlank ·) with
    | none =>
        rw [Words.split, splitQuoted_blank (by simpa using first)] at nonempty
        exact absurd rfl nonempty
    | some c =>
        obtain ⟨head, operands, found⟩ := List.exists_cons_of_ne_nil nonempty
        exact ⟨⟨c, head, operands⟩, parse_eq_ok_iff.mpr ⟨first, found⟩, found.symm⟩

end MacroShell.Words
