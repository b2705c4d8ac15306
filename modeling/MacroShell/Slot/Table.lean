import MacroShell.Error

/-! # Slot tables

A table holds at most one text per slot of its kind.
-/

namespace MacroShell

/-- The slot that an argument names by its first character. -/
def Slot.parse (kind : SlotKind) (arg : String) : Except ShellError (Slot kind) :=
  match arg.toList with
  | [] => .error (.invalidKey kind "")
  | c :: _ =>
    match Slot.ofChar? kind c with
    | some slot => .ok slot
    | none => .error (.invalidKey kind (String.singleton c))

/-- The slots that arguments name, or the error of the first that names none. -/
def Slot.parseAll (kind : SlotKind) (args : List String) : Except ShellError (List (Slot kind)) :=
  args.mapM (Slot.parse kind)

structure SlotTable (kind : SlotKind) where
  texts : Vector (Option String) kind.size

namespace SlotTable

variable {kind : SlotKind}

def empty : SlotTable kind := ⟨Vector.replicate kind.size none⟩

instance : Inhabited (SlotTable kind) := ⟨empty⟩

def get? (table : SlotTable kind) (slot : Slot kind) : Option String := table.texts[slot.index]

/-- The text of a slot that has to hold one. -/
def require (table : SlotTable kind) (slot : Slot kind) : Except ShellError String :=
  match table.get? slot with
  | some text => .ok text
  | none => .error (.emptySlot kind slot.char)

def set (table : SlotTable kind) (slot : Slot kind) (text : String) : SlotTable kind :=
  ⟨table.texts.set slot.index (some text) slot.index.isLt⟩

def clear (table : SlotTable kind) (slot : Slot kind) : SlotTable kind :=
  ⟨table.texts.set slot.index none slot.index.isLt⟩

/-- The occupied slots with their texts, in the order of the slots. -/
def entries (table : SlotTable kind) : List (Slot kind × String) :=
  (Slot.all kind).filterMap fun slot => (table.get? slot).map fun text => (slot, text)

def occupied (table : SlotTable kind) : Nat := table.entries.length

@[ext] theorem ext {a b : SlotTable kind} (h : ∀ slot, a.get? slot = b.get? slot) : a = b := by
  cases a; cases b
  congr
  apply Vector.ext
  intro i hi
  exact h ⟨⟨i, hi⟩⟩

@[simp] theorem get?_empty (slot : Slot kind) : (empty : SlotTable kind).get? slot = none := by
  simp [empty, get?]

theorem get?_set (table : SlotTable kind) (slot other : Slot kind) (text : String) :
    (table.set slot text).get? other = if slot = other then some text else table.get? other := by
  obtain ⟨⟨i, hi⟩⟩ := slot
  obtain ⟨⟨j, hj⟩⟩ := other
  simp [set, get?, Vector.getElem_set]

theorem get?_clear (table : SlotTable kind) (slot other : Slot kind) :
    (table.clear slot).get? other = if slot = other then none else table.get? other := by
  obtain ⟨⟨i, hi⟩⟩ := slot
  obtain ⟨⟨j, hj⟩⟩ := other
  simp [clear, get?, Vector.getElem_set]

end SlotTable

end MacroShell
