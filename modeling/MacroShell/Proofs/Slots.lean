import MacroShell.Slot.Table
import MacroShell.Text.Blank

/-! # Slots, their names and their tables

A slot and the character that names it determine each other, so a name that is written down is read
as the slot that it was written for.  Putting the entries of one table into another leaves the other
entries of the second table alone.
-/

namespace MacroShell

variable {kind : SlotKind}

/-- The characters that name slots of a kind. -/
def SlotKind.names : SlotKind → Char → Bool
  | register, c => c.isAlphanum
  | hotkey, c => ' ' ≤ c && c ≤ '~'

namespace Slot

/-! ## Names -/

theorem ofChar?_char (slot : Slot kind) : ofChar? kind slot.char = some slot := by
  obtain ⟨index⟩ := slot
  revert index
  cases kind <;> decide

theorem char_inj {slot other : Slot kind} : slot.char = other.char ↔ slot = other := by
  refine ⟨fun same => ?_, congrArg char⟩
  have found := ofChar?_char slot
  rw [same, ofChar?_char] at found
  exact (Option.some.inj found).symm

theorem index_of_ofIndex? {n : Nat} {slot : Slot kind} (found : ofIndex? kind n = some slot) :
    slot.index.val = n := by
  unfold ofIndex? at found
  split at found
  · cases found
    rfl
  · cases found

theorem toNat_le_of_le {a b : Char} (le : a ≤ b) : a.toNat ≤ b.toNat :=
  UInt32.le_iff_toNat_le.mp le

theorem ofNat_add_sub {first c : Char} (le : first ≤ c) :
    Char.ofNat (first.toNat + (c.toNat - first.toNat)) = c := by
  rw [Nat.add_sub_cancel' (toNat_le_of_le le), Char.ofNat_toNat]

theorem char_of_ofChar? {c : Char} {slot : Slot kind} (named : ofChar? kind c = some slot) :
    slot.char = c := by
  obtain ⟨n, numbered, found⟩ := Option.bind_eq_some_iff.mp named
  have index := index_of_ofIndex? found
  unfold char
  rw [index]
  cases kind with
  | register =>
      simp only [indexOf?] at numbered ⊢
      split at numbered
      · rename_i lower
        have last := toNat_le_of_le lower.2
        cases numbered
        rw [if_pos (by simp only [Char.reduceToNat] at *; omega), ofNat_add_sub lower.1]
      · split at numbered
        · rename_i upper
          have last := toNat_le_of_le upper.2
          cases numbered
          rw [if_neg (by omega), if_pos (by simp only [Char.reduceToNat] at *; omega),
            Nat.add_sub_cancel, ofNat_add_sub upper.1]
        · split at numbered
          · rename_i digit
            cases numbered
            rw [if_neg (by omega), if_neg (by omega), Nat.add_sub_cancel, ofNat_add_sub digit.1]
          · cases numbered
  | hotkey =>
      simp only [indexOf?] at numbered ⊢
      split at numbered
      · rename_i printable
        cases numbered
        exact ofNat_add_sub printable.1
      · cases numbered

theorem isAlpha_iff {c : Char} : c.isAlpha = true ↔ 'A' ≤ c ∧ c ≤ 'Z' ∨ 'a' ≤ c ∧ c ≤ 'z' := by
  have ranges : c.isAlpha = (decide ('A' ≤ c ∧ c ≤ 'Z') || decide ('a' ≤ c) && decide (c ≤ 'z')) := rfl
  simp only [ranges, Bool.or_eq_true, Bool.and_eq_true, decide_eq_true_eq]

theorem isDigit_iff {c : Char} : c.isDigit = true ↔ '0' ≤ c ∧ c ≤ '9' := by
  have range : c.isDigit = (decide ('0' ≤ c) && decide (c ≤ '9')) := rfl
  rw [range, Bool.and_eq_true, decide_eq_true_eq, decide_eq_true_eq]

theorem isAlphanum_iff {c : Char} :
    c.isAlphanum = true ↔ ('A' ≤ c ∧ c ≤ 'Z' ∨ 'a' ≤ c ∧ c ≤ 'z') ∨ '0' ≤ c ∧ c ≤ '9' := by
  rw [Char.isAlphanum, Bool.or_eq_true, isAlpha_iff, isDigit_iff]

theorem isSome_indexOf? (c : Char) : (indexOf? kind c).isSome = kind.names c := by
  rw [Bool.eq_iff_iff]
  cases kind with
  | register =>
      rw [SlotKind.names, isAlphanum_iff, indexOf?]
      grind
  | hotkey =>
      rw [SlotKind.names, indexOf?]
      grind

/-- Every number that a character names is the number of a slot. -/
theorem lt_size_of_indexOf? {c : Char} {n : Nat} (numbered : indexOf? kind c = some n) : n < kind.size := by
  have within {first last : Char} (range : first ≤ c ∧ c ≤ last) :
      c.toNat - first.toNat ≤ last.toNat - first.toNat :=
    Nat.sub_le_sub_right (toNat_le_of_le range.2) first.toNat
  cases kind with
  | register =>
      change n < 62
      simp only [indexOf?] at numbered
      split at numbered
      · rename_i lower
        have small : c.toNat - 'a'.toNat ≤ 25 := within lower
        cases numbered
        omega
      · split at numbered
        · rename_i upper
          have small : c.toNat - 'A'.toNat ≤ 25 := within upper
          cases numbered
          omega
        · split at numbered
          · rename_i digit
            have small : c.toNat - '0'.toNat ≤ 9 := within digit
            cases numbered
            omega
          · cases numbered
  | hotkey =>
      change n < 95
      simp only [indexOf?] at numbered
      split at numbered
      · rename_i printable
        have small : c.toNat - ' '.toNat ≤ 94 := within printable
        cases numbered
        omega
      · cases numbered

theorem isSome_ofChar? (c : Char) : (ofChar? kind c).isSome = kind.names c := by
  rw [← isSome_indexOf?, ofChar?]
  cases numbered : indexOf? kind c with
  | none => rfl
  | some n =>
      have found : ofIndex? kind n = some ⟨n, lt_size_of_indexOf? numbered⟩ := dif_pos _
      rw [Option.bind_some, found]
      rfl

theorem parse_char (slot : Slot kind) : Slot.parse kind (String.singleton slot.char) = .ok slot := by
  simp [Slot.parse, ofChar?_char]

/-- No register is named by a quote or a blank. -/
theorem register_char (slot : Slot .register) : slot.char ≠ '"' ∧ Text.isBlank slot.char = false := by
  obtain ⟨index⟩ := slot
  revert index
  decide

/-- The space is the only blank that names a hotkey. -/
theorem hotkey_char (slot : Slot .hotkey) : slot.char ≠ ' ' → Text.isBlank slot.char = false := by
  obtain ⟨index⟩ := slot
  revert index
  decide

theorem newline_ne_char (slot : Slot kind) : '\n' ≠ slot.char := by
  intro same
  have solid : Text.isBlank slot.char = false := by
    cases kind with
    | register => exact (register_char slot).2
    | hotkey => exact hotkey_char slot (same ▸ by decide)
  rw [← same] at solid
  cases solid

theorem mem_all (slot : Slot kind) : slot ∈ Slot.all kind :=
  List.mem_map_of_mem (List.mem_finRange slot.index)

end Slot

namespace SlotTable

/-! ## Entries -/

theorem mem_entries {table : SlotTable kind} {slot : Slot kind} {text : String} :
    (slot, text) ∈ table.entries ↔ table.get? slot = some text := by
  simp [entries, Slot.mem_all]

/-- Puts entries into a table, in order. -/
def putAll (table : SlotTable kind) (entries : List (Slot kind × String)) : SlotTable kind :=
  entries.foldl (fun table entry => table.set entry.1 entry.2) table

/-- Entries that come from one table agree with each other, so their order does not matter. -/
theorem get?_putAll {source : SlotTable kind} {entries : List (Slot kind × String)}
    (agree : ∀ entry ∈ entries, source.get? entry.1 = some entry.2) (target : SlotTable kind)
    (slot : Slot kind) :
    (target.putAll entries).get? slot =
      if slot ∈ entries.map Prod.fst then source.get? slot else target.get? slot := by
  induction entries generalizing target with
  | nil => rfl
  | cons entry entries ih =>
      rw [List.forall_mem_cons] at agree
      have rest := ih agree.2 (target.set entry.1 entry.2)
      rw [putAll, List.foldl_cons, ← putAll, rest, get?_set]
      by_cases later : slot ∈ entries.map Prod.fst
      · simp [later]
      · by_cases here : entry.1 = slot
        · subst here
          simp [later, agree.1]
        · simp [later, here, Ne.symm here]

theorem get?_putAll_entries (target source : SlotTable kind) (slot : Slot kind) :
    (target.putAll source.entries).get? slot = (source.get? slot).or (target.get? slot) := by
  have agree : ∀ entry ∈ source.entries, source.get? entry.1 = some entry.2 := fun _ member =>
    mem_entries.mp member
  rw [get?_putAll agree]
  cases held : source.get? slot with
  | none =>
      have absent : slot ∉ source.entries.map Prod.fst := by
        simp [mem_entries, held]
      rw [if_neg absent, Option.none_or]
  | some text =>
      have present : slot ∈ source.entries.map Prod.fst :=
        List.mem_map_of_mem (f := Prod.fst) (mem_entries.mpr held)
      rw [if_pos present, Option.some_or]

/-- A table without other slots becomes the table that the entries come from. -/
theorem putAll_entries_of_covered {target source : SlotTable kind}
    (covered : ∀ slot, source.get? slot = none → target.get? slot = none) :
    target.putAll source.entries = source := by
  ext1 slot
  rw [get?_putAll_entries]
  cases held : source.get? slot with
  | none => rw [covered slot held, Option.none_or]
  | some text => rw [Option.some_or]

end SlotTable
end MacroShell
