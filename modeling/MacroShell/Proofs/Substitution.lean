import Mathlib.Algebra.GroupWithZero.Nat
import MacroShell.Interpolation
import MacroShell.Proofs.Slots

/-! # Substitution in printed text

Expanding a text is one substitution from left to right.  The text falls into pieces, each a character that
is copied or a reference that is replaced, and which pieces these are does not depend on what the registers
hold.  So a text may be cut anywhere and expanded in parts, except between an `@` and its letter.
-/

namespace MacroShell.Interpolation

/-! ## Pieces -/

inductive Piece where
  /-- A character that is copied. -/
  | plain (c : Char)
  /-- An `@` and its letter. -/
  | reference (letter : Char)
deriving DecidableEq, Repr

namespace Piece

def written : Piece → List Char
  | plain c => [c]
  | reference letter => ['@', letter]

/-- What the piece becomes if the letters stand for these texts. -/
def filled (text : Char → List Char) : Piece → List Char
  | plain c => [c]
  | reference letter => text letter

def letter? : Piece → Option Char
  | plain _ => none
  | reference letter => some letter

end Piece

/-- The first text ends, and the second begins, in the middle of a reference. -/
def Cuts (s t : List Char) : Prop := s.getLast? = some '@' ∧ ∃ c, t.head? = some c ∧ c.isAlpha = true

/-- The letters that follow an `@`, in order. -/
def references (cs : List Char) : List Char :=
  (cs.zip cs.tail).filterMap fun (c, next) => if c = '@' ∧ next.isAlpha = true then some next else none

/-- The pieces of a text. -/
def pieces : List Char → List Piece
  | [] => []
  | '@' :: c :: rest =>
    if c.isAlpha then .reference c :: pieces rest else .plain '@' :: pieces (c :: rest)
  | c :: rest => .plain c :: pieces rest

theorem not_cuts_of_ne {c : Char} (other : c ≠ '@') (rest : List Char) : ¬ Cuts [c] rest := by
  rintro ⟨last, -⟩
  exact other (by simpa using last)

theorem ne_at_of_isAlpha {c : Char} (letter : c.isAlpha = true) : c ≠ '@' := by
  rintro rfl
  exact absurd letter (by decide)

/-- Induction along the pieces of a text. -/
@[elab_as_elim]
theorem pieces_induction {motive : List Char → Prop} (nil : motive [])
    (reference : ∀ c rest, c.isAlpha = true → motive rest → motive ('@' :: c :: rest))
    (plain : ∀ c rest, ¬ Cuts [c] rest → motive rest → motive (c :: rest)) (cs : List Char) : motive cs := by
  induction cs using pieces.induct with
  | case1 => exact nil
  | case2 c rest letter ih => exact reference c rest letter ih
  | case3 c rest other ih =>
      refine plain '@' (c :: rest) ?_ ih
      rintro ⟨-, next, first, letter⟩
      cases first
      exact other letter
  | case4 c rest alone ih =>
      refine plain c rest ?_ ih
      rintro ⟨last, next, first, -⟩
      obtain ⟨rest, rfl⟩ := List.head?_eq_some_iff.mp first
      exact alone next rest (by simpa using last) rfl

theorem pieces_reference {c : Char} (letter : c.isAlpha = true) (rest : List Char) :
    pieces ('@' :: c :: rest) = .reference c :: pieces rest := by
  rw [pieces, if_pos letter]

theorem pieces_plain {c : Char} {rest : List Char} (whole : ¬ Cuts [c] rest) :
    pieces (c :: rest) = .plain c :: pieces rest := by
  rw [pieces.eq_def]
  split
  · next found => cases found
  · next next later found =>
      cases found
      rw [if_neg fun letter => whole ⟨rfl, next, rfl, letter⟩]
  · next found =>
      cases found
      rfl

theorem expandChars_eq (text : Char → List Char) (cs : List Char) :
    expandChars text cs = (pieces cs).flatMap (Piece.filled text) := by
  induction cs using pieces.induct with
  | case1 => rfl
  | case2 c rest letter ih => simp [expandChars, pieces, letter, ih, Piece.filled]
  | case3 c rest other ih => simp [expandChars, pieces, other, ih, Piece.filled]
  | case4 c rest alone ih => simp [expandChars, pieces, ih, Piece.filled]

theorem written_pieces (cs : List Char) : (pieces cs).flatMap Piece.written = cs := by
  induction cs using pieces_induction with
  | nil => rfl
  | reference c rest letter ih =>
      rw [pieces_reference letter, List.flatMap_cons, ih]
      rfl
  | plain c rest whole ih =>
      rw [pieces_plain whole, List.flatMap_cons, ih]
      rfl

theorem references_plain {c : Char} {rest : List Char} (whole : ¬ Cuts [c] rest) :
    references (c :: rest) = references rest := by
  cases rest with
  | nil => rfl
  | cons next rest =>
      have other : ¬ (c = '@' ∧ next.isAlpha = true) := by
        rintro ⟨rfl, letter⟩
        exact whole ⟨rfl, next, rfl, letter⟩
      simp [references, other]

theorem references_reference {c : Char} (letter : c.isAlpha = true) (rest : List Char) :
    references ('@' :: c :: rest) = c :: references rest := by
  rw [← references_plain (not_cuts_of_ne (ne_at_of_isAlpha letter) rest)]
  simp [references, letter]

theorem letters_pieces (cs : List Char) : (pieces cs).filterMap Piece.letter? = references cs := by
  induction cs using pieces_induction with
  | nil => rfl
  | reference c rest letter ih =>
      rw [pieces_reference letter, references_reference letter, ← ih]
      rfl
  | plain c rest whole ih =>
      rw [pieces_plain whole, references_plain whole, ← ih]
      rfl

theorem isAlpha_of_mem_references {cs : List Char} {c : Char} (member : c ∈ references cs) :
    c.isAlpha = true := by
  obtain ⟨⟨first, next⟩, -, found⟩ := List.mem_filterMap.mp member
  obtain ⟨⟨-, letter⟩, same⟩ := Option.ite_none_right_eq_some.mp found
  exact Option.some.inj same ▸ letter

/-! ## Where a text is cut -/

theorem cuts_cons {c : Char} {rest t : List Char} (cut : Cuts rest t) : Cuts (c :: rest) t := by
  obtain ⟨last, starts⟩ := cut
  exact ⟨by rw [List.getLast?_cons, last]; rfl, starts⟩

/-- A text may be cut anywhere but inside a reference. -/
theorem pieces_append {s t : List Char} (whole : ¬ Cuts s t) : pieces (s ++ t) = pieces s ++ pieces t := by
  induction s using pieces_induction with
  | nil => rfl
  | reference c rest letter ih =>
      have rest := ih fun cut => whole (cuts_cons (cuts_cons cut))
      simp only [List.cons_append, pieces_reference letter, rest]
  | plain c rest single ih =>
      have later := ih fun cut => whole (cuts_cons cut)
      have stays : ¬ Cuts [c] (rest ++ t) := by
        rcases rest with _ | ⟨next, rest⟩
        · exact whole
        · exact single
      simp only [List.cons_append, pieces_plain single, pieces_plain stays, later]

theorem pieces_around {c : Char} (letter : c.isAlpha = true) (before after : List Char) :
    pieces (before ++ '@' :: c :: after) = pieces before ++ .reference c :: pieces after := by
  have whole : ¬ Cuts before ('@' :: c :: after) := by
    rintro ⟨-, first, starts, alpha⟩
    cases starts
    exact absurd alpha (by decide)
  rw [pieces_append whole, pieces_reference letter]

/-! ## The text that comes out -/

/-- A measure that adds up over a text loses what the references measure and gains what is put in. -/
theorem measure_filled (size : List Char → Nat) (additive : ∀ s t, size (s ++ t) = size s + size t)
    (text : Char → List Char) (pieces : List Piece) :
    size (pieces.flatMap (Piece.filled text)) +
        ((pieces.filterMap Piece.letter?).map fun c => size ['@', c]).sum =
      size (pieces.flatMap Piece.written) +
        ((pieces.filterMap Piece.letter?).map fun c => size (text c)).sum := by
  induction pieces with
  | nil => rfl
  | cons piece pieces ih =>
      cases piece with
      | plain c =>
          simp only [List.flatMap_cons, Piece.filled, Piece.written, additive,
            List.filterMap_cons_none (show Piece.letter? (.plain c) = none from rfl)]
          omega
      | reference c =>
          simp only [List.flatMap_cons, Piece.filled, Piece.written, additive,
            List.filterMap_cons_some (show Piece.letter? (.reference c) = some c from rfl),
            List.map_cons, List.sum_cons]
          omega

variable (lookup : Slot .register → Option String)

theorem expandBy_eq (text : String) :
    expandBy lookup text =
      String.ofList ((pieces text.toList).flatMap (Piece.filled fun c => (registerText lookup c).toList)) := by
  rw [expandBy, expandChars_eq]

theorem expandBy_append {s t : String} (whole : ¬ Cuts s.toList t.toList) :
    expandBy lookup (s ++ t) = expandBy lookup s ++ expandBy lookup t := by
  simp only [expandBy_eq, String.toList_append, pieces_append whole, List.flatMap_append,
    String.ofList_append]

theorem expandBy_reference {c : Char} (letter : c.isAlpha = true) (before after : String) :
    expandBy lookup (before ++ "@" ++ (String.singleton c ++ after)) =
      expandBy lookup before ++ registerText lookup c ++ expandBy lookup after := by
  have around : (before ++ "@" ++ (String.singleton c ++ after)).toList =
      before.toList ++ '@' :: c :: after.toList := by simp
  rw [expandBy_eq, around, pieces_around letter, List.flatMap_append, List.flatMap_cons, String.ofList_append,
    String.ofList_append, ← expandBy_eq, ← expandBy_eq, Piece.filled, String.ofList_toList, String.append_assoc]

/-- What the registers hold matters only where a letter refers to them. -/
theorem expandBy_congr {other : Slot .register → Option String} {text : String}
    (same : ∀ slot : Slot .register, slot.char ∈ references text.toList → lookup slot = other slot) :
    expandBy lookup text = expandBy other text := by
  rw [expandBy_eq, expandBy_eq, List.flatMap_def, List.flatMap_def]
  congr 2
  refine List.map_congr_left fun piece member => ?_
  cases piece with
  | plain c => rfl
  | reference c =>
      have refers : c ∈ references text.toList := by
        rw [← letters_pieces]
        exact List.mem_filterMap.mpr ⟨_, member, rfl⟩
      have found (slot : Slot .register) (named : Slot.ofChar? .register c = some slot) :
          lookup slot = other slot := same slot (Slot.char_of_ofChar? named ▸ refers)
      simp only [Piece.filled, registerText, Option.bind_congr found]

theorem measure_expandBy {measure : String → Nat} (additive : ∀ s t, measure (s ++ t) = measure s + measure t)
    (two : ∀ c, c.isAlpha = true → measure (String.ofList ['@', c]) = 2) (text : String) :
    measure (expandBy lookup text) + 2 * (references text.toList).length =
      measure text + ((references text.toList).map fun c => measure (registerText lookup c)).sum := by
  have law := measure_filled (fun cs => measure (String.ofList cs))
    (fun s t => by simp only [String.ofList_append, additive]) (fun c => (registerText lookup c).toList)
    (pieces text.toList)
  have twos : (references text.toList).map (fun c => measure (String.ofList ['@', c])) =
      List.replicate (references text.toList).length 2 := by
    rw [← List.map_const']
    exact List.map_congr_left fun c member => two c (isAlpha_of_mem_references member)
  simp only [← expandBy_eq, letters_pieces, written_pieces, String.ofList_toList, twos,
    List.sum_replicate_nat] at law
  rw [Nat.mul_comm, law]

/-! ## The law -/

theorem toNat_of_isAlpha {c : Char} (letter : c.isAlpha = true) : 64 < c.toNat ∧ c.toNat < 128 := by
  rcases Slot.isAlpha_iff.mp letter with ⟨first, last⟩ | ⟨first, last⟩
  · have first : 65 ≤ c.toNat := Slot.toNat_le_of_le first
    have last : c.toNat ≤ 90 := Slot.toNat_le_of_le last
    omega
  · have first : 97 ≤ c.toNat := Slot.toNat_le_of_le first
    have last : c.toNat ≤ 122 := Slot.toNat_le_of_le last
    omega

theorem utf8Size_of_isAlpha {c : Char} (letter : c.isAlpha = true) : c.utf8Size = 1 := by
  rw [Char.utf8Size_eq_one_iff, UInt32.le_iff_toNat_le]
  exact Nat.le_of_lt_succ (toNat_of_isAlpha letter).2

theorem isDigit_of_isAlpha {c : Char} (letter : c.isAlpha = true) : c.isDigit = false := by
  rw [Bool.eq_false_iff]
  intro digit
  have above := (toNat_of_isAlpha letter).1
  have below : c.toNat ≤ 57 := Slot.toNat_le_of_le (Slot.isDigit_iff.mp digit).2
  omega

theorem exists_slot_of_isAlpha {c : Char} (letter : c.isAlpha = true) :
    ∃ slot, Slot.ofChar? .register c = some slot := by
  rw [← Option.isSome_iff_exists, Slot.isSome_ofChar?]
  simp [SlotKind.names, Char.isAlphanum, letter]

/-- Expanding is one substitution from left to right, whatever the registers hold.  A text that is cut, but not
    inside a reference, is expanded in its two parts; a reference becomes the text of its register, or nothing
    if that is empty.  So the pieces of a text do not depend on the registers, and what is put in is not looked
    at again.  Only registers whose letter follows an `@` matter, and no digit is among them.  In characters as
    well as in bytes, every reference takes two from the length and adds the length of the text put in. -/
theorem expandBy_substitutes :
    (∀ s t : String, ¬ Cuts s.toList t.toList →
      expandBy lookup (s ++ t) = expandBy lookup s ++ expandBy lookup t) ∧
    (∀ (before after : String) (c : Char), c.isAlpha = true → ∃ slot : Slot .register, slot.char = c ∧
      expandBy lookup (before ++ "@" ++ (String.singleton c ++ after)) =
        expandBy lookup before ++ (lookup slot).getD "" ++ expandBy lookup after) ∧
    ∀ text : String,
      (∃ pieces : List Piece, pieces.flatMap Piece.written = text.toList ∧
        pieces.filterMap Piece.letter? = references text.toList ∧
        ∀ lookup, expandBy lookup text =
          String.ofList (pieces.flatMap (Piece.filled fun c => (registerText lookup c).toList))) ∧
      (∀ other, (∀ slot : Slot .register, slot.char ∈ references text.toList → lookup slot = other slot) →
        expandBy lookup text = expandBy other text) ∧
      (∀ c ∈ references text.toList, c.isDigit = false) ∧
      (expandBy lookup text).length + 2 * (references text.toList).length =
        text.length + ((references text.toList).map fun c => (registerText lookup c).length).sum ∧
      (expandBy lookup text).utf8ByteSize + 2 * (references text.toList).length =
        text.utf8ByteSize + ((references text.toList).map fun c => (registerText lookup c).utf8ByteSize).sum := by
  refine ⟨fun s t => expandBy_append lookup, ?_, fun text => ⟨?_, ?_, ?_, ?_, ?_⟩⟩
  · intro before after c letter
    obtain ⟨slot, named⟩ := exists_slot_of_isAlpha letter
    refine ⟨slot, Slot.char_of_ofChar? named, ?_⟩
    rw [expandBy_reference lookup letter, registerText, named, Option.bind_some]
  · exact ⟨pieces text.toList, written_pieces _, letters_pieces _, fun lookup => expandBy_eq lookup text⟩
  · exact fun other => expandBy_congr lookup
  · intro c member
    exact isDigit_of_isAlpha (isAlpha_of_mem_references member)
  · exact measure_expandBy lookup String.length_append (fun c _ => String.length_ofList) text
  · refine measure_expandBy lookup (fun s t => String.utf8ByteSize_append) (fun c letter => ?_) text
    rw [String.ofList_cons, String.utf8ByteSize_append, ← String.singleton_eq_ofList,
      String.utf8ByteSize_singleton, String.utf8ByteSize_singleton, utf8Size_of_isAlpha letter]
    rfl

/-- The text of register `A` looks like a reference to `B` when it has been put in, and that of the digit is not
    asked for. -/
theorem expandBy_substitutes_once :
    let lookup : Slot .register → Option String := fun slot =>
      if slot.char = 'A' then some "@B" else if slot.char = 'B' then some "b" else none
    let other : Slot .register → Option String := fun slot =>
      if slot.char = '1' then some "one" else lookup slot
    ¬ Cuts "é@@".toList "@A".toList ∧
    expandBy lookup ("é@@" ++ "@A") = expandBy lookup "é@@" ++ expandBy lookup "@A" ∧
    (∃ slot : Slot .register, slot.char = 'A' ∧
      expandBy lookup ("é@" ++ "@" ++ (String.singleton 'A' ++ "@1@Z")) =
        expandBy lookup "é@" ++ (lookup slot).getD "" ++ expandBy lookup "@1@Z") ∧
    expandBy lookup "é@@A@1@Z" = "é@@B@1" ∧ expandBy lookup "é@@A@1@Z" = expandBy other "é@@A@1@Z" ∧
    "é@@B@1".utf8ByteSize + 2 * 2 = "é@@A@1@Z".utf8ByteSize + "@B".utf8ByteSize := by
  intro lookup other
  obtain ⟨appended, referred, whole⟩ := expandBy_substitutes lookup
  obtain ⟨-, depends, -, -, bytes⟩ := whole "é@@A@1@Z"
  have uncut : ¬ Cuts "é@@".toList "@A".toList := by
    rintro ⟨-, c, first, letter⟩
    cases first
    exact absurd letter (by decide)
  have value : expandBy lookup "é@@A@1@Z" = "é@@B@1" := by decide +kernel
  have listed : references "é@@A@1@Z".toList = ['A', 'Z'] := by decide +kernel
  have agree : ∀ slot : Slot .register, slot.char ∈ references "é@@A@1@Z".toList → lookup slot = other slot := by
    intro slot member
    have differs : slot.char ≠ '1' := by
      intro same
      rw [same, listed] at member
      exact absurd member (by decide)
    exact (if_neg differs).symm
  rw [value, listed] at bytes
  exact ⟨uncut, appended _ _ uncut, referred "é@" "@1@Z" 'A' rfl, value, depends other agree, bytes⟩

end MacroShell.Interpolation
