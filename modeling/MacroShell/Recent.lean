/-! # Bounded queues

A queue that keeps the latest items only: pushing onto a full queue drops its oldest item.
`Recent.toList` is the view, oldest item first.
-/

namespace MacroShell

structure Recent (capacity : Nat) (α : Type) where
  /-- Items in the order of arrival; all of them are older than `newer`. -/
  older : List α
  /-- Items in reverse order of arrival. -/
  newer : List α
  size : Nat
  size_eq : older.length + newer.length = size
  size_le : size ≤ capacity

namespace Recent

variable {capacity : Nat} {α : Type}

def empty : Recent capacity α where
  older := []
  newer := []
  size := 0
  size_eq := rfl
  size_le := Nat.zero_le capacity

instance : Inhabited (Recent capacity α) := ⟨empty⟩

def toList (queue : Recent capacity α) : List α := queue.older ++ queue.newer.reverse

/-- The oldest item and the queue without it. -/
def pop? (queue : Recent capacity α) : Option (α × Recent capacity α) :=
  match h : queue.older, h' : queue.newer.reverse with
  | a :: older, _ => some (a,
      { older, newer := queue.newer, size := queue.size - 1
        size_eq := by have := queue.size_eq; simp [h] at this; omega
        size_le := by have := queue.size_le; omega })
  | [], a :: older => some (a,
      { older, newer := [], size := queue.size - 1
        size_eq := by
          have := queue.size_eq
          have hlen := congrArg List.length h'
          simp [h] at this hlen ⊢
          omega
        size_le := by have := queue.size_le; omega })
  | [], [] => none

theorem length_toList (queue : Recent capacity α) : queue.toList.length = queue.size := by
  simp [toList, ← queue.size_eq]

theorem pop?_eq_none_iff (queue : Recent capacity α) : queue.pop? = none ↔ queue.toList = [] := by
  unfold pop?
  split <;> simp_all [toList]

theorem toList_of_pop? {queue rest : Recent capacity α} {a : α}
    (h : queue.pop? = some (a, rest)) : queue.toList = a :: rest.toList := by
  unfold pop? at h
  split at h <;> simp_all [toList]
  · obtain ⟨rfl, rfl⟩ := h; rfl
  · obtain ⟨rfl, rfl⟩ := h; simp

theorem size_of_pop? {queue rest : Recent capacity α} {a : α}
    (h : queue.pop? = some (a, rest)) : rest.size + 1 = queue.size := by
  rw [← length_toList, ← length_toList, toList_of_pop? h, List.length_cons]

private def append (queue : Recent capacity α) (a : α) (h : queue.size < capacity) :
    Recent capacity α :=
  { older := queue.older, newer := a :: queue.newer, size := queue.size + 1
    size_eq := by have := queue.size_eq; simp; omega
    size_le := h }

/-- Adds the newest item. -/
def push (queue : Recent capacity α) (a : α) : Recent capacity α :=
  if h : queue.size < capacity then queue.append a h
  else
    match h' : queue.pop? with
    | some (_, rest) => rest.append a (by
        have := size_of_pop? h'
        have := queue.size_le
        omega)
    | none => queue

@[simp] theorem toList_empty : (empty : Recent capacity α).toList = [] := rfl

theorem toList_push (queue : Recent capacity α) (a : α) :
    (queue.push a).toList = (queue.toList ++ [a]).drop (queue.size + 1 - capacity) := by
  unfold push
  have hle := queue.size_le
  split
  · next h => simp [append, toList, show queue.size + 1 - capacity = 0 by omega]
  · next h =>
    have hone : queue.size + 1 - capacity = 1 := by omega
    split
    · next b rest h' =>
      rw [hone, toList_of_pop? h']
      simp [append, toList]
    · next h' =>
      have hnil := (pop?_eq_none_iff queue).1 h'
      rw [hone, hnil]
      simp

end Recent

end MacroShell
