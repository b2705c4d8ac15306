import Mathlib.Data.List.FinRange
import MacroShell.Proofs.Slots
import MacroShell.Shell.Script

/-! # Edited slot tables

A table is a map from characters to texts.  Whoever edits it names a slot by the first character of an
argument, and an argument that names none is rejected.  Whatever edits are made, a slot holds what was last
set there, and the entries of the table, from which a script is made, are all that it holds.
-/

namespace MacroShell

variable {kind : SlotKind}

namespace Slot

theorem parse_eq_ok_iff {arg : String} {slot : Slot kind} :
    Slot.parse kind arg = .ok slot ↔ arg.toList.head? = some slot.char := by
  unfold Slot.parse
  cases arg.toList with
  | nil => simp
  | cons c rest =>
      rw [List.head?_cons, Option.some_inj]
      constructor
      · intro parsed
        cases named : ofChar? kind c with
        | none => simp [named] at parsed
        | some found =>
            simp only [named] at parsed
            cases parsed
            exact (char_of_ofChar? named).symm
      · rintro rfl
        simp only [ofChar?_char]

theorem exists_parse_iff {arg : String} :
    (∃ slot, Slot.parse kind arg = .ok slot) ↔ ∃ c, arg.toList.head? = some c ∧ kind.names c = true := by
  constructor
  · rintro ⟨slot, parsed⟩
    refine ⟨slot.char, parse_eq_ok_iff.mp parsed, ?_⟩
    rw [← isSome_ofChar?, ofChar?_char, Option.isSome_some]
  · rintro ⟨c, first, named⟩
    rw [← isSome_ofChar?, Option.isSome_iff_exists] at named
    obtain ⟨slot, found⟩ := named
    exact ⟨slot, parse_eq_ok_iff.mpr (char_of_ofChar? found ▸ first)⟩

end Slot

/-- A change of a table. -/
inductive SlotEdit where
  | set (arg text : String)
  | clear (arg : String)
deriving DecidableEq, Repr

namespace SlotEdit

def arg : SlotEdit → String
  | set arg _ | clear arg => arg

/-- What the slot holds afterwards. -/
def text? : SlotEdit → Option String
  | set _ text => some text
  | clear _ => none

/-- The argument of the edit names the slot. -/
def addresses (slot : Slot kind) (edit : SlotEdit) : Bool := edit.arg.toList.head? = some slot.char

theorem addresses_iff {slot : Slot kind} {edit : SlotEdit} :
    edit.addresses slot = true ↔ Slot.parse kind edit.arg = .ok slot := by
  rw [addresses, decide_eq_true_eq, Slot.parse_eq_ok_iff]

end SlotEdit

namespace SlotTable

/-- Makes an edit, unless its argument is rejected. -/
def edit (table : SlotTable kind) (edit : SlotEdit) : SlotTable kind :=
  match Slot.parse kind edit.arg with
  | .error _ => table
  | .ok slot =>
    match edit with
    | .set _ text => table.set slot text
    | .clear _ => table.clear slot

def editAll (table : SlotTable kind) (edits : List SlotEdit) : SlotTable kind := edits.foldl SlotTable.edit table

theorem get?_edit (table : SlotTable kind) (edit : SlotEdit) (slot : Slot kind) :
    (table.edit edit).get? slot = if edit.addresses slot then edit.text? else table.get? slot := by
  unfold SlotTable.edit
  cases parsed : Slot.parse kind edit.arg with
  | error e =>
      have other : ¬ edit.addresses slot = true := by
        intro here
        rw [SlotEdit.addresses_iff, parsed] at here
        cases here
      rw [if_neg other]
  | ok named =>
      have same : edit.addresses slot = true ↔ named = slot := by
        rw [SlotEdit.addresses_iff, parsed, Except.ok.injEq]
      cases edit with
      | set arg text => simp [same, get?_set, SlotEdit.text?]
      | clear arg => simp [same, get?_clear, SlotEdit.text?]

/-- What becomes of one slot by itself. -/
theorem get?_editAll (table : SlotTable kind) (edits : List SlotEdit) (slot : Slot kind) :
    (table.editAll edits).get? slot =
      edits.foldl (fun held edit => if edit.addresses slot then edit.text? else held) (table.get? slot) := by
  induction edits generalizing table with
  | nil => rfl
  | cons edit edits ih =>
      rw [List.foldl_cons, ← get?_edit]
      exact ih (table.edit edit)

/-- The edits of other slots, and those that are rejected, do not matter for a slot. -/
theorem get?_editAll_filter (table : SlotTable kind) (edits : List SlotEdit) (slot : Slot kind) :
    (table.editAll (edits.filter (·.addresses slot))).get? slot = (table.editAll edits).get? slot := by
  rw [get?_editAll, get?_editAll, List.foldl_filter]
  congr 1
  funext held edit
  cases edit.addresses slot <;> rfl

/-- The edits set the slot to the text and do not address it any more. -/
def LastSet (edits : List SlotEdit) (slot : Slot kind) (text : String) : Prop :=
  ∃ before arg after, edits = before ++ .set arg text :: after ∧ arg.toList.head? = some slot.char ∧
    ∀ edit ∈ after, edit.addresses slot = false

theorem lastSet_cons {edit : SlotEdit} {edits : List SlotEdit} {slot : Slot kind} {text : String} :
    LastSet (edit :: edits) slot text ↔ LastSet edits slot text ∨
      (∀ later ∈ edits, later.addresses slot = false) ∧ edit.addresses slot = true ∧ edit.text? = some text := by
  constructor
  · rintro ⟨before, arg, after, split, first, untouched⟩
    rcases before with _ | ⟨_, before⟩
    · cases split
      exact .inr ⟨untouched, decide_eq_true first, rfl⟩
    · cases split
      exact .inl ⟨before, arg, after, rfl, first, untouched⟩
  · rintro (⟨before, arg, after, rfl, first, untouched⟩ | ⟨untouched, here, holds⟩)
    · exact ⟨edit :: before, arg, after, rfl, first, untouched⟩
    · cases edit with
      | clear arg => cases holds
      | set arg text =>
          cases holds
          exact ⟨[], arg, edits, rfl, of_decide_eq_true here, untouched⟩

/-- A slot holds what was last set there, or else what it has held before. -/
theorem get?_editAll_eq_some_iff {table : SlotTable kind} {edits : List SlotEdit} {slot : Slot kind}
    {text : String} :
    (table.editAll edits).get? slot = some text ↔ LastSet edits slot text ∨
      (∀ edit ∈ edits, edit.addresses slot = false) ∧ table.get? slot = some text := by
  induction edits generalizing table with
  | nil => simp [LastSet, editAll]
  | cons edit edits ih =>
      have step : table.editAll (edit :: edits) = (table.edit edit).editAll edits := rfl
      rw [step, ih, lastSet_cons, get?_edit, List.forall_mem_cons]
      cases edit.addresses slot with
      | true => simp
      | false => simp

/-! ## Entries -/

theorem pairwise_entries (table : SlotTable kind) :
    table.entries.Pairwise fun entry later => entry.1.index < later.1.index := by
  have increasing : (Slot.all kind).Pairwise fun slot later => slot.index < later.index :=
    List.pairwise_map.mpr (List.pairwise_lt_finRange kind.size)
  refine increasing.filterMap _ fun slot later less entry found entry' found' => ?_
  obtain ⟨text, -, rfl⟩ := Option.map_eq_some_iff.mp found
  obtain ⟨text', -, rfl⟩ := Option.map_eq_some_iff.mp found'
  exact less

end SlotTable

namespace State

/-- The table of a kind. -/
def slots (state : State) : (kind : SlotKind) → SlotTable kind
  | .register => state.registers
  | .hotkey => state.hotkeys

/-- The line of the script that fills a slot. -/
def slotLine : {kind : SlotKind} → Slot kind → String → String
  | .register => registerLine
  | .hotkey => hotkeyLine

/-- The lines for the entries of a table stand together in the script. -/
theorem script_slots (state : State) (kind : SlotKind) :
    ∃ before after, state.script =
      before ++ String.join ((state.slots kind).entries.map fun entry => slotLine entry.1 entry.2 ++ "\n") ++
        after := by
  rw [script, scriptLines, List.map_append, List.map_append, String.join_append, String.join_append,
    List.map_map, List.map_map, List.map_map]
  cases kind with
  | register => exact ⟨_, _, rfl⟩
  | hotkey => exact ⟨_, "", String.append_empty.symm⟩

end State

/-- Slot tables are maps.  An argument names a slot exactly if its first character is one of the names, and two
    arguments name the same slot exactly if they begin with the same character.  After any edits of a new table,
    a slot holds the text that was last set there and not cleared, and only the edits that address it matter.
    The entries are the occupied slots with their texts, in strictly increasing order, and each is found again by
    its own character.  So every occupied slot has its line in the script of a state. -/
theorem SlotTable.edited (kind : SlotKind) (edits : List SlotEdit) :
    let table : SlotTable kind := SlotTable.empty.editAll edits
    (∀ arg, (∃ slot, Slot.parse kind arg = .ok slot) ↔
      ∃ c, arg.toList.head? = some c ∧ kind.names c = true) ∧
    (∀ arg arg' slot slot', Slot.parse kind arg = .ok slot → Slot.parse kind arg' = .ok slot' →
      (slot = slot' ↔ arg.toList.head? = arg'.toList.head?)) ∧
    (∀ slot text, table.get? slot = some text ↔ LastSet edits slot text) ∧
    (∀ slot, table.get? slot = (SlotTable.empty.editAll (edits.filter (·.addresses slot))).get? slot) ∧
    table.entries.Pairwise (fun entry later => entry.1.index < later.1.index) ∧
    (∀ slot text, (slot, text) ∈ table.entries ↔ table.get? slot = some text) ∧
    (∀ entry ∈ table.entries, Slot.parse kind (String.singleton entry.1.char) = .ok entry.1) ∧
    ∀ state : State, state.slots kind = table → ∃ before after, state.script =
      before ++ String.join (table.entries.map fun entry => State.slotLine entry.1 entry.2 ++ "\n") ++ after := by
  intro table
  refine ⟨fun arg => Slot.exists_parse_iff, ?_, ?_, ?_, table.pairwise_entries, ?_, ?_, ?_⟩
  · intro arg arg' slot slot' parsed parsed'
    rw [Slot.parse_eq_ok_iff.mp parsed, Slot.parse_eq_ok_iff.mp parsed', Option.some_inj, Slot.char_inj]
  · intro slot text
    rw [get?_editAll_eq_some_iff, get?_empty]
    simp
  · exact fun slot => (get?_editAll_filter .empty edits slot).symm
  · exact fun slot text => mem_entries
  · exact fun entry _ => Slot.parse_char entry.1
  · rintro state same
    rw [← same]
    exact state.script_slots kind

/-- Register `a` is set, cleared and set again, each time by another argument, and register `B` holds the empty
    text.  Two edits are rejected. -/
theorem SlotTable.edited_again :
    let edits : List SlotEdit := [.set "abc" "P 1", .set "é" "P 2", .set "B" "", .clear "a", .set "a!" "P 3",
      .clear "b", .set "" "P 4"]
    let table : SlotTable .register := SlotTable.empty.editAll edits
    let a : Slot .register := ⟨0, by decide⟩
    let b : Slot .register := ⟨27, by decide⟩
    Slot.parse .register "abc" = .ok a ∧ Slot.parse .register "a!" = .ok a ∧
    "abc".toList.head? = "a!".toList.head? ∧ table.entries = [(a, "P 3"), (b, "")] ∧ LastSet edits a "P 3" ∧
    Slot.parse .register (String.singleton b.char) = .ok b ∧
    ∃ before after, ({ registers := table } : State).script =
      before ++ String.join (table.entries.map fun entry => State.slotLine entry.1 entry.2 ++ "\n") ++ after := by
  intro edits table a b
  obtain ⟨-, same, held, -, -, listed, found, saved⟩ := SlotTable.edited .register edits
  have first : Slot.parse .register "abc" = .ok a := by decide +kernel
  have again : Slot.parse .register "a!" = .ok a := by decide +kernel
  have entries : table.entries = [(a, "P 3"), (b, "")] := by decide +kernel
  have here : (a, "P 3") ∈ table.entries := by rw [entries]; exact .head _
  have there : (b, "") ∈ table.entries := by rw [entries]; exact .tail _ (.head _)
  have last : LastSet edits a "P 3" := (held a "P 3").mp ((listed a "P 3").mp here)
  have back : Slot.parse .register (String.singleton b.char) = .ok b := found (b, "") there
  exact ⟨first, again, (same _ _ a a first again).mp rfl, entries, last, back, saved { registers := table } rfl⟩

end MacroShell
