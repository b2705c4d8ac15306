import MacroShell.Proofs.WordSplitting
import Mathlib.Data.List.DropRight

/-! # Joining words and splitting them again

Joining writes words with quotes where a space or nothing at all would not be found again, and trims
the end of the line.  Blanks other than the space are not looked at, so words without quotes come
back from the line exactly if no blank stands where splitting or trimming would drop it.
-/

namespace MacroShell.Words

open MacroShell.Text

/-- A word that is written as it is, without quotes around it. -/
def Bare (word : List Char) : Prop := word ≠ [] ∧ ' ' ∉ word

instance (word : List Char) : Decidable (Bare word) := inferInstanceAs (Decidable (_ ∧ _))

def StartsSolid (text : List Char) : Prop := ∀ c ∈ text.head?, isBlank c = false

def EndsSolid (text : List Char) : Prop := ∀ c ∈ text.getLast?, isBlank c = false

-- Named, so that no instance is found that goes through all characters.
instance (text : List Char) : Decidable (StartsSolid text) :=
  Option.decidableForallMem text.head?

instance (text : List Char) : Decidable (EndsSolid text) :=
  Option.decidableForallMem text.getLast?

/-- No blank stands at the start of a bare word, nor at the end of the last word if that is bare. -/
def Rejoinable (words : List (List Char)) : Prop :=
  (∀ word ∈ words, Bare word → StartsSolid word) ∧
    ∀ word ∈ words.getLast?, Bare word → EndsSolid word

instance (words : List (List Char)) : Decidable (Rejoinable words) :=
  inferInstanceAs (Decidable (_ ∧ _))

@[simp] theorem startsSolid_nil : StartsSolid [] := by simp [StartsSolid]

@[simp] theorem startsSolid_cons (c : Char) (text : List Char) :
    StartsSolid (c :: text) ↔ isBlank c = false := by
  simp [StartsSolid]

theorem bare_singleton {c : Char} (other : c ≠ ' ') : Bare [c] := ⟨by simp, by simpa using other.symm⟩

/-! ## Blanks at the ends of a text -/

theorem dropBlankStart_eq_self_iff (text : List Char) :
    dropBlankStart text = text ↔ StartsSolid text := by
  cases text <;> simp [dropBlankStart, List.dropWhile_eq_self_iff]

theorem dropBlankEnd_eq_self_iff (text : List Char) :
    dropBlankEnd text = text ↔ EndsSolid text := by
  rw [dropBlankEnd, List.reverse_eq_iff, EndsSolid, ← List.head?_reverse]
  exact dropBlankStart_eq_self_iff text.reverse

theorem dropBlankEnd_append (front : List Char) {text : List Char} (solid : dropBlankEnd text ≠ []) :
    dropBlankEnd (front ++ text) = front ++ dropBlankEnd text := by
  unfold dropBlankEnd at solid ⊢
  rw [ne_eq, List.reverse_eq_nil_iff, ← List.isEmpty_iff] at solid
  rw [List.reverse_append, List.dropWhile_append, if_neg solid, List.reverse_append, List.reverse_reverse]

theorem dropBlankEnd_append_blank (front : List Char) {text : List Char}
    (blank : dropBlankEnd text = []) : dropBlankEnd (front ++ text) = dropBlankEnd front := by
  unfold dropBlankEnd at blank ⊢
  rw [List.reverse_eq_nil_iff, ← List.isEmpty_iff] at blank
  rw [List.reverse_append, List.dropWhile_append, if_pos blank]

/-- Nothing is dropped at the start of what is left after trimming the end if nothing is dropped at
    all, and the other way round. -/
theorem dropBlank_eq_self_iff (text : List Char) :
    dropBlankStart (dropBlankEnd text) = text ↔
      StartsSolid text ∧ EndsSolid text := by
  rw [← dropBlankStart_eq_self_iff, ← dropBlankEnd_eq_self_iff]
  constructor
  · intro same
    have shorter : text.length ≤ (dropBlankEnd text).length := by
      calc text.length = (dropBlankStart (dropBlankEnd text)).length := by rw [same]
        _ ≤ (dropBlankEnd text).length := List.length_dropWhile_le _ _
    have whole : dropBlankEnd text = text := (List.rdropWhile_prefix isBlank text).eq_of_length_le shorter
    exact ⟨by rwa [whole] at same, whole⟩
  · rintro ⟨start, whole⟩
    rw [whole, start]

/-! ## A word and its written form -/

theorem quoteChars_bare {word : List Char} (bare : Bare word) : quoteChars word = word := by
  simp [quoteChars, bare.1, bare.2]

theorem quoteChars_quoted {word : List Char} (quoted : ¬ Bare word) :
    quoteChars word = '"' :: (word ++ ['"']) := by
  have needed : word.isEmpty ∨ ' ' ∈ word := by
    rw [List.isEmpty_iff]
    exact Classical.or_iff_not_imp_left.mpr fun nonempty =>
      Classical.not_not.mp fun none => quoted ⟨nonempty, none⟩
  rw [quoteChars, if_pos needed]
  rfl

theorem getLast?_quoteChars {word : List Char} (quoted : ¬ Bare word) :
    (quoteChars word).getLast? = some '"' := by
  rw [quoteChars_quoted quoted, ← List.cons_append, List.getLast?_concat]

theorem mem_quoteChars {c : Char} {word : List Char} (written : c ∈ quoteChars word) :
    c = '"' ∨ c ∈ word := by
  by_cases bare : Bare word
  · rw [quoteChars_bare bare] at written
    exact .inr written
  · rw [quoteChars_quoted bare, List.mem_cons, List.mem_append, List.mem_singleton] at written
    rcases written with quote | inWord | quote
    · exact .inl quote
    · exact .inr inWord
    · exact .inl quote

theorem quoteChars_ne_nil (word : List Char) : quoteChars word ≠ [] := by
  by_cases bare : Bare word
  · rw [quoteChars_bare bare]
    exact bare.1
  · rw [quoteChars_quoted bare]
    exact List.cons_ne_nil _ _

/-- Nothing is trimmed after a written word, except from a bare one that ends in blanks. -/
theorem dropBlankEnd_quoteChars (front : List Char) {last : List Char} (ends : Bare last → EndsSolid last) :
    dropBlankEnd (front ++ quoteChars last) = front ++ quoteChars last := by
  have whole : dropBlankEnd (quoteChars last) = quoteChars last := by
    rw [dropBlankEnd_eq_self_iff]
    by_cases bare : Bare last
    · rw [quoteChars_bare bare]
      exact ends bare
    · simp [EndsSolid, getLast?_quoteChars bare, isBlank_quote]
  rw [dropBlankEnd_append front (by rw [whole]; exact quoteChars_ne_nil last), whole]

theorem map_unwrap_asWord {text : List Char} (noQuote : '"' ∉ text) :
    (asWord text).map unwrap = asWord text := by
  unfold asWord
  split
  · rfl
  · rw [List.map_singleton, unwrap_of_noQuote noQuote]

/-- The quotes of a written word are a pair around it. -/
theorem count_quoteChars {word : List Char} (noQuote : '"' ∉ word) :
    (quoteChars word).count '"' % 2 = 0 := by
  have none : word.count '"' = 0 := List.count_eq_zero.mpr noQuote
  by_cases bare : Bare word
  · rw [quoteChars_bare bare, none]
  · simp [quoteChars_quoted bare, none]

/-- The words that are found where one word was written. -/
def reread (word : List Char) : List (List Char) := (splitQuoted (quoteChars word)).map unwrap

theorem reread_bare {word : List Char} (bare : Bare word) (noQuote : '"' ∉ word) :
    reread word = asWord (dropBlankStart word) := by
  have noQuote' : '"' ∉ dropBlankStart word := fun found =>
    noQuote (List.dropWhile_subset _ found)
  rw [reread, quoteChars_bare bare, splitQuoted_bare bare.2, map_unwrap_asWord noQuote']

theorem reread_quoted {word : List Char} (quoted : ¬ Bare word) (noQuote : '"' ∉ word) :
    reread word = [word] := by
  rw [reread, quoteChars_quoted quoted, splitQuoted_quoted noQuote, List.map_singleton, unwrap_quoted]

theorem length_asWord_le (text : List Char) : (asWord text).length ≤ 1 := by
  unfold asWord
  split <;> simp

theorem length_reread_le {word : List Char} (noQuote : '"' ∉ word) : (reread word).length ≤ 1 := by
  by_cases bare : Bare word
  · rw [reread_bare bare noQuote]
    exact length_asWord_le _
  · simp [reread_quoted bare noQuote]

theorem asWord_eq_singleton_iff {text word : List Char} (nonempty : word ≠ []) :
    asWord text = [word] ↔ text = word := by
  by_cases none : text = []
  · simp [none, nonempty.symm]
  · rw [asWord_of_ne_nil none, List.singleton_inj]

/-- A word comes back unless it is bare and starts with a blank. -/
theorem reread_eq_self_iff {word : List Char} (noQuote : '"' ∉ word) :
    reread word = [word] ↔ (Bare word → StartsSolid word) := by
  by_cases bare : Bare word
  · rw [reread_bare bare noQuote, asWord_eq_singleton_iff bare.1, dropBlankStart_eq_self_iff]
    simp only [bare, forall_const]
  · simp [reread_quoted bare noQuote, bare]

/-! ## A line of written words -/

/-- Written words, each with a space after it. -/
def spaced (words : List (List Char)) : List Char := words.flatMap fun word => quoteChars word ++ [' ']

theorem intercalate_quoteChars (front : List (List Char)) (last : List Char) :
    [' '].intercalate ((front ++ [last]).map quoteChars) = spaced front ++ quoteChars last := by
  induction front with
  | nil => simp [spaced]
  | cons word front ih =>
      obtain ⟨next, rest, more⟩ := List.exists_cons_of_ne_nil
        (show (front ++ [last]).map quoteChars ≠ [] by simp)
      rw [more] at ih
      rw [List.cons_append, List.map_cons, more, List.intercalate_cons_cons, ih]
      simp [spaced]

theorem splitQuoted_spaced_append (words : List (List Char)) (rest : List Char)
    (noQuote : ∀ word ∈ words, '"' ∉ word) :
    splitQuoted (spaced words ++ rest) =
      words.flatMap (fun word => splitQuoted (quoteChars word)) ++ splitQuoted rest := by
  induction words with
  | nil => rfl
  | cons word words ih =>
      rw [List.forall_mem_cons] at noQuote
      have cut := splitQuoted_append_space (s := quoteChars word) (t := spaced words ++ rest)
        (.inl (count_quoteChars noQuote.1))
      have unfolded : spaced (word :: words) ++ rest = quoteChars word ++ ' ' :: (spaced words ++ rest) := by
        simp [spaced]
      rw [unfolded, cut, ih noQuote.2, List.flatMap_cons, List.append_assoc]

theorem flatMap_reread_of_starts {words : List (List Char)} (noQuote : ∀ word ∈ words, '"' ∉ word)
    (starts : ∀ word ∈ words, Bare word → StartsSolid word) : words.flatMap reread = words :=
  calc words.flatMap reread = words.flatMap (fun word => [word]) :=
        List.flatMap_congr fun word found => (reread_eq_self_iff (noQuote word found)).mpr (starts word found)
    _ = words := List.flatMap_singleton' words

/-- Words that come back one by one come back in front of any line. -/
theorem split_spaced_append {words : List (List Char)} (rest : List Char)
    (noQuote : ∀ word ∈ words, '"' ∉ word)
    (starts : ∀ word ∈ words, Bare word → StartsSolid word) :
    (splitQuoted (spaced words ++ rest)).map unwrap = words ++ (splitQuoted rest).map unwrap := by
  rw [splitQuoted_spaced_append _ _ noQuote, List.map_append, List.map_flatMap]
  exact congrArg (· ++ _) (flatMap_reread_of_starts noQuote starts)

theorem split_eq_map_unwrap (line : String) :
    split line = ((splitQuoted line.toList).map unwrap).map String.ofList := by
  simp [split]

/-- A command that starts with a verb and a word as it is written. -/
theorem parse_prefixed {line text word : String} {verb : Char} (solid : isBlank verb = false)
    (other : verb ≠ '"') (noQuote : '"' ∉ word.toList)
    (starts : Bare word.toList → StartsSolid word.toList)
    (written : line.toList = verb :: ' ' :: (quoteChars word.toList ++ ' ' :: text.toList)) :
    Command.parse line =
      .ok { opcode := verb, head := String.singleton verb, operands := word :: split text } := by
  have bare : Bare [verb] := bare_singleton (ne_space_of_solid solid)
  have front : line.toList = spaced [[verb], word.toList] ++ text.toList := by
    simp [written, spaced, quoteChars_bare bare]
  have found : (splitQuoted (spaced [[verb], word.toList] ++ text.toList)).map unwrap =
      [[verb], word.toList] ++ (splitQuoted text.toList).map unwrap :=
    split_spaced_append _ (by simp [other.symm, noQuote]) (by simpa [solid] using starts)
  refine parse_of_split (by rw [written]; rfl) solid ?_
  rw [split_eq_map_unwrap, front, found, split_eq_map_unwrap]
  simp

/-! ## Joining and splitting -/

/-- The words that are found in a line that was joined. -/
def rejoin (words : List (List Char)) : List (List Char) := (splitQuoted (joinChars words)).map unwrap

/-- The words that are found where the last word was written and the line was trimmed after it. -/
def rereadLast (last : List Char) : List (List Char) :=
  if Bare last then asWord (dropBlankStart (dropBlankEnd last)) else [last]

theorem joinChars_concat (front : List (List Char)) (last : List Char) :
    joinChars (front ++ [last]) = dropBlankEnd (spaced front ++ quoteChars last) := by
  rw [joinChars, intercalate_quoteChars]

/-- Joining adds spaces and quotes and no other character. -/
theorem mem_joinChars {c : Char} {words : List (List Char)} (written : c ∈ joinChars words) :
    c = ' ' ∨ c = '"' ∨ ∃ word ∈ words, c ∈ word := by
  rcases words.eq_nil_or_concat' with rfl | ⟨front, last, rfl⟩
  · cases written
  · rw [joinChars_concat] at written
    have untrimmed : c ∈ spaced front ++ quoteChars last :=
      (List.rdropWhile_prefix isBlank _).mem written
    rcases List.mem_append.mp untrimmed with inFront | inLast
    · obtain ⟨word, member, found⟩ := List.mem_flatMap.mp inFront
      rcases List.mem_append.mp found with inWord | space
      · exact .inr ((mem_quoteChars inWord).imp_right fun inside => ⟨word, by simp [member], inside⟩)
      · exact .inl (List.mem_singleton.mp space)
    · exact .inr ((mem_quoteChars inLast).imp_right fun inside => ⟨last, by simp, inside⟩)

theorem endsSolid_joinChars (words : List (List Char)) : EndsSolid (joinChars words) :=
  (dropBlankEnd_eq_self_iff _).mp (List.rdropWhile_idempotent isBlank _)

/-- A last word of blanks only goes with the trimming, as does the space before it. -/
theorem joinChars_concat_blank (front : List (List Char)) {last : List Char} (bare : Bare last)
    (blank : dropBlankEnd last = []) : joinChars (front ++ [last]) = joinChars front := by
  rw [joinChars_concat, quoteChars_bare bare, dropBlankEnd_append_blank _ blank]
  rcases front.eq_nil_or_concat' with rfl | ⟨front, word, rfl⟩
  · rfl
  · have space : spaced (front ++ [word]) = spaced front ++ quoteChars word ++ [' '] := by simp [spaced]
    rw [space, dropBlankEnd_append_blank _ (by decide), joinChars_concat]

theorem rejoin_concat (front : List (List Char)) {last : List Char}
    (noQuote : ∀ word ∈ front ++ [last], '"' ∉ word) (solid : Bare last → dropBlankEnd last ≠ []) :
    rejoin (front ++ [last]) = front.flatMap reread ++ rereadLast last := by
  have noQuoteFront : ∀ word ∈ front, '"' ∉ word := fun word found => noQuote word (by simp [found])
  have noQuoteLast : '"' ∉ last := noQuote last (by simp)
  have frontWords : (front.flatMap fun word => splitQuoted (quoteChars word)).map unwrap =
      front.flatMap reread := by
    rw [List.map_flatMap]
    rfl
  rw [rejoin, joinChars_concat]
  by_cases bare : Bare last
  · have noQuoteEnd : '"' ∉ dropBlankEnd last := fun found =>
      noQuoteLast ((List.rdropWhile_prefix isBlank last).subset found)
    have noSpaceEnd : ' ' ∉ dropBlankEnd last := fun found =>
      bare.2 ((List.rdropWhile_prefix isBlank last).subset found)
    have noQuoteWord : '"' ∉ dropBlankStart (dropBlankEnd last) := fun found =>
      noQuoteEnd (List.dropWhile_subset _ found)
    rw [quoteChars_bare bare, dropBlankEnd_append _ (solid bare),
      splitQuoted_spaced_append _ _ noQuoteFront, splitQuoted_bare noSpaceEnd, rereadLast,
      if_pos bare, List.map_append, frontWords, map_unwrap_asWord noQuoteWord]
  · have untrimmed := dropBlankEnd_quoteChars (spaced front) fun bareLast => absurd bareLast bare
    have lastWord : (splitQuoted (quoteChars last)).map unwrap = [last] := reread_quoted bare noQuoteLast
    rw [untrimmed, splitQuoted_spaced_append _ _ noQuoteFront, rereadLast, if_neg bare, List.map_append,
      frontWords, lastWord]

theorem length_rereadLast_le (last : List Char) : (rereadLast last).length ≤ 1 := by
  unfold rereadLast
  split
  · exact length_asWord_le _
  · exact Nat.le_refl 1

theorem length_flatMap_reread_le {words : List (List Char)} (noQuote : ∀ word ∈ words, '"' ∉ word) :
    (words.flatMap reread).length ≤ words.length := by
  induction words with
  | nil => exact Nat.le_refl 0
  | cons word words ih =>
      rw [List.forall_mem_cons] at noQuote
      have one := length_reread_le noQuote.1
      have more := ih noQuote.2
      simp only [List.flatMap_cons, List.length_append, List.length_cons]
      omega

theorem length_rejoin_le {words : List (List Char)} (noQuote : ∀ word ∈ words, '"' ∉ word) :
    (rejoin words).length ≤ words.length := by
  induction words using List.reverseRecOn with
  | nil => exact Nat.le_refl 0
  | append_singleton front last ih =>
      have noQuoteFront : ∀ word ∈ front, '"' ∉ word := fun word found => noQuote word (by simp [found])
      by_cases solid : Bare last → dropBlankEnd last ≠ []
      · have fewer := length_flatMap_reread_le noQuoteFront
        have one := length_rereadLast_le last
        rw [rejoin_concat front noQuote solid]
        simp only [List.length_append, List.length_singleton]
        omega
      · obtain ⟨bare, blank⟩ : Bare last ∧ dropBlankEnd last = [] := by simpa using solid
        have fewer := ih noQuoteFront
        rw [rejoin, joinChars_concat_blank front bare blank]
        simp only [List.length_append, List.length_singleton]
        exact Nat.le_succ_of_le fewer

theorem rereadLast_eq_self_iff (last : List Char) :
    rereadLast last = [last] ↔
      (Bare last → StartsSolid last ∧ EndsSolid last) := by
  unfold rereadLast
  by_cases bare : Bare last
  · rw [if_pos bare, asWord_eq_singleton_iff bare.1, dropBlank_eq_self_iff]
    simp only [bare, forall_const]
  · simp [bare]

/-- If every word yields at most one, the words come back only if each yields itself: one that
    yielded none could not be made up for. -/
theorem flatMap_reread_append_eq_iff {front tail : List (List Char)} (last : List Char)
    (noQuote : ∀ word ∈ front, '"' ∉ word) (short : tail.length ≤ 1) :
    front.flatMap reread ++ tail = front ++ [last] ↔
      (∀ word ∈ front, reread word = [word]) ∧ tail = [last] := by
  induction front with
  | nil => simp
  | cons word front ih =>
      rw [List.forall_mem_cons] at noQuote
      have step := ih noQuote.2
      have fewer := length_flatMap_reread_le noQuote.2
      rw [List.forall_mem_cons, and_assoc, ← step, List.flatMap_cons, List.append_assoc, List.cons_append]
      have one := length_reread_le noQuote.1
      match found : reread word with
      | [] =>
          simp only [List.nil_append, List.nil_eq, reduceCtorEq, false_and, iff_false]
          intro same
          have lengths := congrArg List.length same
          simp only [List.length_append, List.length_cons, List.length_nil] at lengths
          omega
      | [only] => simp
      | _ :: _ :: _ => simp [found] at one

theorem rejoin_eq_self_iff {words : List (List Char)} (noQuote : ∀ word ∈ words, '"' ∉ word) :
    rejoin words = words ↔ Rejoinable words := by
  rcases words.eq_nil_or_concat' with rfl | ⟨front, last, rfl⟩
  · simp [Rejoinable, rejoin, joinChars, dropBlankEnd]
  · have noQuoteFront : ∀ word ∈ front, '"' ∉ word := fun word found => noQuote word (by simp [found])
    by_cases solid : Bare last → dropBlankEnd last ≠ []
    · rw [rejoin_concat front noQuote solid,
        flatMap_reread_append_eq_iff last noQuoteFront (length_rereadLast_le last), rereadLast_eq_self_iff]
      have each : (∀ word ∈ front, reread word = [word]) ↔
          ∀ word ∈ front, Bare word → StartsSolid word :=
        forall₂_congr fun word found => reread_eq_self_iff (noQuoteFront word found)
      rw [each, Rejoinable]
      simp only [List.getLast?_concat, Option.mem_def, Option.some.injEq, forall_eq', List.mem_append,
        List.mem_singleton, or_imp, forall_and, forall_eq]
      tauto
    · obtain ⟨bare, blank⟩ : Bare last ∧ dropBlankEnd last = [] := by simpa using solid
      constructor
      · intro same
        have fewer := length_rejoin_le noQuoteFront
        rw [rejoin, joinChars_concat_blank front bare blank] at same
        have lengths := congrArg List.length same
        rw [List.length_append, List.length_singleton] at lengths
        exact absurd fewer (by rw [rejoin]; omega)
      · intro rejoinable
        have whole := (dropBlankEnd_eq_self_iff last).mpr (rejoinable.2 last (by simp) bare)
        exact absurd (whole.symm.trans blank) bare.1

/-! ## Joined commands -/

theorem split_join (texts : List String) :
    split (join texts) = (rejoin (texts.map String.toList)).map String.ofList := by
  rw [split_eq_map_unwrap, join, String.toList_ofList]
  rfl

theorem map_ofList_eq_iff (words : List (List Char)) (texts : List String) :
    words.map String.ofList = texts ↔ words = texts.map String.toList := by
  constructor
  · rintro rfl
    simp
  · rintro rfl
    simp

theorem split_join_eq_iff {texts : List String} (noQuote : ∀ text ∈ texts, '"' ∉ text.toList) :
    split (join texts) = texts ↔ Rejoinable (texts.map String.toList) := by
  rw [split_join, map_ofList_eq_iff]
  exact rejoin_eq_self_iff (by simpa using noQuote)

/-- Nothing is trimmed from rejoinable words. -/
theorem joinChars_of_rejoinable {words : List (List Char)} (rejoinable : Rejoinable words) :
    joinChars words = [' '].intercalate (words.map quoteChars) := by
  rcases words.eq_nil_or_concat' with rfl | ⟨front, last, rfl⟩
  · rfl
  · rw [joinChars, intercalate_quoteChars]
    exact dropBlankEnd_quoteChars (spaced front) (rejoinable.2 last (by simp))

theorem joinChars_cons_of_rejoinable {word : List Char} {words : List (List Char)}
    (rejoinable : Rejoinable (word :: words)) :
    ∃ rest, joinChars (word :: words) = quoteChars word ++ rest := by
  rw [joinChars_of_rejoinable rejoinable]
  cases words with
  | nil => exact ⟨[], by simp⟩
  | cons next words =>
      rw [List.map_cons, List.map_cons, List.intercalate_cons_cons, List.append_assoc]
      exact ⟨_, rfl⟩

/-- The opcode of a joined command: the first character of its first word, or the quote in front of
    it. -/
def opcodeOf (word : List Char) : Option Char := if Bare word then word.head? else some '"'

theorem find?_joinChars {word : List Char} {words : List (List Char)}
    (rejoinable : Rejoinable (word :: words)) :
    (joinChars (word :: words)).find? (!isBlank ·) = opcodeOf word := by
  obtain ⟨rest, starts⟩ := joinChars_cons_of_rejoinable rejoinable
  rw [starts]
  by_cases bare : Bare word
  · have solid := rejoinable.1 word (by simp) bare
    obtain ⟨c, more, rfl⟩ := List.exists_cons_of_ne_nil bare.1
    simp_all [quoteChars_bare, opcodeOf]
  · simp [quoteChars_quoted bare, opcodeOf, bare, isBlank_quote]

/-! ## Plain words -/

/-- A word without blanks and quotes. -/
structure Plain (word : String) : Prop where
  nonempty : word.toList ≠ []
  solid : ∀ c ∈ word.toList, isBlank c = false
  noQuote : '"' ∉ word.toList

namespace Plain

theorem singleton {c : Char} (solid : isBlank c = false) (other : c ≠ '"') : Plain (String.singleton c) :=
  ⟨by simp, by simpa using solid, by simpa using other.symm⟩

variable {word : String} (plain : Plain word)
include plain

theorem bare : Bare word.toList :=
  ⟨plain.nonempty, fun space => absurd (plain.solid ' ' space) (by decide)⟩

theorem startsSolid : StartsSolid word.toList :=
  fun c first => plain.solid c (List.mem_of_head? first)

theorem endsSolid : EndsSolid word.toList :=
  fun c last => plain.solid c (List.mem_of_getLast? last)

end Plain

/-- Plain words that stand one space apart are the words of a command. -/
theorem parse_intercalate {opcode : Char} {head : String} {operands : List String}
    (plain : ∀ word ∈ head :: operands, Plain word) (first : head.toList.head? = some opcode) :
    Command.parse (" ".intercalate (head :: operands)) = .ok ⟨opcode, head, operands⟩ := by
  let words := head :: operands
  have rejoinable : Rejoinable (words.map String.toList) := by
    refine ⟨?_, ?_⟩
    · rw [List.forall_mem_map]
      exact fun word member _ => (plain word member).startsSolid
    · intro chars last _
      obtain ⟨word, member, rfl⟩ := List.mem_map.mp (List.mem_of_getLast? last)
      exact (plain word member).endsSolid
  have written : " ".intercalate words = join words := by
    have bare : (words.map String.toList).map quoteChars = words.map String.toList := by
      rw [List.map_map]
      exact List.map_congr_left fun word member => quoteChars_bare (plain word member).bare
    rw [join, joinChars_of_rejoinable rejoinable, bare, ← String.toList_singleton, ← String.toList_intercalate,
      String.ofList_toList]
    rfl
  have found : split (" ".intercalate words) = words := by
    rw [written]
    exact (split_join_eq_iff fun word member => (plain word member).noQuote).mpr rejoinable
  refine parse_eq_ok_iff.mpr ⟨?_, found⟩
  have bare : Bare head.toList := (plain head List.mem_cons_self).bare
  rw [written, join, String.toList_ofList]
  exact (find?_joinChars rejoinable).trans ((if_pos bare).trans first)

/-- The exact domain of the round trip: texts without quotes are the words of the command that they
    are joined to if and only if they are rejoinable, and then the first of them gives the opcode. -/
theorem parse_join_iff (texts : List String) (nonempty : texts ≠ [])
    (noQuote : ∀ text ∈ texts, '"' ∉ text.toList) :
    ((∃ command, Command.parse (join texts) = .ok command ∧ command.words = texts) ↔
      Rejoinable (texts.map String.toList)) ∧
    ∀ command, Command.parse (join texts) = .ok command → command.words = texts →
      some command.opcode = opcodeOf command.head.toList := by
  have domain := (exists_parse_iff nonempty).trans (split_join_eq_iff noQuote)
  refine ⟨domain, ?_⟩
  intro command parsed same
  have rejoinable := domain.mp ⟨command, parsed, same⟩
  rw [← (parse_eq_ok_iff.mp parsed).1, join, String.toList_ofList]
  rw [← same] at rejoinable ⊢
  exact find?_joinChars rejoinable

/-- Both sides of the domain: a tab inside a word or at the end of any but the last is kept, a tab
    at the end of the last word is not. -/
theorem parse_join_iff_tabs :
    (∃ command, Command.parse (join ["P\t", "two  words", "", "a\tb"]) = .ok command ∧
      command.words = ["P\t", "two  words", "", "a\tb"]) ∧
    ¬ ∃ command, Command.parse (join ["P", "a\t"]) = .ok command ∧ command.words = ["P", "a\t"] :=
  ⟨(parse_join_iff ["P\t", "two  words", "", "a\tb"] (by decide) (by decide)).1.mpr (by decide),
    fun found => absurd ((parse_join_iff ["P", "a\t"] (by decide) (by decide)).1.mp found) (by decide)⟩

end MacroShell.Words
