import MacroShell.Proofs.DeviceCalls

/-! # The key presses that wait

A device serves the key presses that were injected, oldest first.  At most 256 of them wait, so that a
listener that falls behind loses presses, but in no other way than by an injection into a full queue.

Equal presses can be injected many times.  A press is therefore told by its place among all that were injected.
-/

namespace MacroShell

/-- The key press that a call adds to those that wait. -/
def DeviceCall.injected? : DeviceCall → Option KeyPress
  | inject press => some press
  | _ => none

namespace VirtualDevice

/-- All key presses that calls inject. -/
def injected (calls : List DeviceCall) : List KeyPress := calls.filterMap DeviceCall.injected?

/-- The key press that a call gives back. -/
def returns? (device : VirtualDevice) (request : DeviceCall) : Option KeyPress :=
  match call request device with
  | .ok (.key press?) _ => press?
  | _ => none

/-- The key presses that calls in a row give back. -/
def returned (device : VirtualDevice) : List DeviceCall → List KeyPress
  | [] => []
  | request :: calls => (device.returns? request).toList ++ (device.after request).returned calls

/-- Among the calls there was an injection, right after those `before` it, while 256 presses were unread. -/
def Overflows (start : VirtualDevice) (calls before : List DeviceCall) : Prop :=
  (∃ press, before ++ [.inject press] <+: calls) ∧ (start.run before).pending.toList.length = 256

variable {start : VirtualDevice} {calls before : List DeviceCall} {request : DeviceCall}

theorem injected_concat (calls : List DeviceCall) (request : DeviceCall) :
    injected (calls ++ [request]) = injected calls ++ request.injected?.toList := by
  rw [injected, List.filterMap_append, List.filterMap_cons, List.filterMap_nil]
  cases request.injected? <;> rfl

theorem returned_concat (start : VirtualDevice) (calls : List DeviceCall) (request : DeviceCall) :
    start.returned (calls ++ [request]) =
      start.returned calls ++ ((start.run calls).returns? request).toList := by
  induction calls generalizing start with
  | nil => simp [returned, run]
  | cons first calls ih => simp [returned, run, ih]

theorem overflows_concat :
    start.Overflows (calls ++ [request]) before ↔
      start.Overflows calls before ∨
        before = calls ∧ request.injected?.isSome ∧ (start.run calls).pending.toList.length = 256 := by
  constructor
  · rintro ⟨⟨press, initial⟩, full⟩
    rcases List.prefix_concat_iff.mp initial with last | earlier
    · obtain ⟨rfl, injects⟩ := List.append_inj_left' last rfl, List.append_inj_right' last rfl
      obtain rfl := List.singleton_inj.mp injects
      exact .inr ⟨rfl, rfl, full⟩
    · exact .inl ⟨⟨press, earlier⟩, full⟩
  · rintro (⟨⟨press, initial⟩, full⟩ | ⟨rfl, injects, full⟩)
    · exact ⟨⟨press, initial.trans (List.prefix_append ..)⟩, full⟩
    · cases request with
      | inject press => exact ⟨⟨press, List.prefix_rfl⟩, full⟩
      | _ => cases injects

theorem call_nextKey (device : VirtualDevice) :
    call .nextKey device = .ok (.key device.pending.toList.head?) (device.after .nextKey) := by
  simp only [after, call, KeySource.nextKey]
  cases popped : device.pending.pop? with
  | none => simp [(Recent.pop?_eq_none_iff _).mp popped]
  | some oldest => simp [Recent.toList_of_pop? popped]

theorem pending_nextKey (device : VirtualDevice) :
    (device.after .nextKey).pending.toList = device.pending.toList.tail := by
  rw [after_pending, DeviceCall.pending]
  cases popped : device.pending.pop? with
  | none => simp [(Recent.pop?_eq_none_iff _).mp popped]
  | some oldest => simp [Recent.toList_of_pop? popped]

theorem returns?_nextKey (device : VirtualDevice) :
    device.returns? .nextKey = device.pending.toList.head? := by
  rw [returns?, call_nextKey]

/-- Only the question for a key gives one back. -/
theorem returns?_of_ne (device : VirtualDevice) (other : request ≠ .nextKey) :
    device.returns? request = none := by
  rw [returns?]
  cases request with
  | nextKey => exact absurd rfl other
  | pressKey key | releaseKey key | tapKey key =>
      by_cases has : hasKey key = true
      · simp only [call, InputDevice.tapKey, bind, EStateM.bind, pressKey_of_hasKey has,
          releaseKey_of_hasKey has]
        rfl
      · rw [call_rejected rfl (by simpa using has)]
  | pressButton | releaseButton | click | moveCursor | takeEvents | inject => rfl

/-! ## Where the presses go -/

/-- What has become of the presses that were injected.  The first `gone` of them no longer wait.  Of these, the
    ones at `places` were given back, in this order, and the others were lost. -/
structure Delivery (start : VirtualDevice) (calls : List DeviceCall) (gone : Nat) (places : List Nat) :
    Prop where
  waiting : (start.run calls).pending.toList = (injected calls).drop gone
  gone_le : gone ≤ (injected calls).length
  increasing : places.Pairwise (· < ·)
  read : List.Forall₂ (fun press place => (injected calls)[place]? = some press) (start.returned calls) places
  read_gone : ∀ place ∈ places, place < gone
  /-- A press is lost exactly if it was the oldest of 256 when another came. -/
  lost : ∀ place, place < gone ∧ place ∉ places ↔
    ∃ before, start.Overflows calls before ∧ (start.run before).pending.toList = (injected before).drop place
  whole : (∀ before, ¬ start.Overflows calls before) →
    start.returned calls ++ (start.run calls).pending.toList = injected calls

theorem delivery_ofSize (width height : Int32) : (ofSize width height).Delivery [] 0 [] where
  waiting := rfl
  gone_le := Nat.le_refl 0
  increasing := .nil
  read := .nil
  read_gone := by simp
  lost place := by simp [Overflows]
  whole _ := rfl

namespace Delivery

variable {gone : Nat} {places : List Nat} (delivery : start.Delivery calls gone places)
include delivery

/-- A call that neither adds nor takes a press. -/
theorem keep (adds : request.injected? = none) (gives : (start.run calls).returns? request = none)
    (same : ((start.run calls).after request).pending.toList = (start.run calls).pending.toList) :
    start.Delivery (calls ++ [request]) gone places := by
  have injected : injected (calls ++ [request]) = injected calls := by simp [injected_concat, adds]
  have returned : start.returned (calls ++ [request]) = start.returned calls := by
    simp [returned_concat, gives]
  have overflows (before : List DeviceCall) :
      start.Overflows (calls ++ [request]) before ↔ start.Overflows calls before := by
    simp [overflows_concat, adds]
  refine ⟨?_, ?_, delivery.increasing, ?_, delivery.read_gone, ?_, ?_⟩
  · rw [run_concat, same, injected, delivery.waiting]
  · rw [injected]
    exact delivery.gone_le
  · rw [injected, returned]
    exact delivery.read
  · simpa only [overflows] using delivery.lost
  · simpa only [overflows, returned, run_concat, same, injected] using delivery.whole

/-- The oldest press is given back. -/
theorem take {press : KeyPress} {rest : List KeyPress}
    (waits : (start.run calls).pending.toList = press :: rest) :
    start.Delivery (calls ++ [.nextKey]) (gone + 1) (places ++ [gone]) := by
  have injected : injected (calls ++ [.nextKey]) = injected calls := by
    simp [injected_concat, DeviceCall.injected?]
  have returned : start.returned (calls ++ [.nextKey]) = start.returned calls ++ [press] := by
    simp [returned_concat, returns?_nextKey, waits]
  have left : (start.run (calls ++ [.nextKey])).pending.toList = rest := by
    rw [run_concat, pending_nextKey, waits, List.tail_cons]
  have overflows (before : List DeviceCall) :
      start.Overflows (calls ++ [.nextKey]) before ↔ start.Overflows calls before := by
    simp [overflows_concat, DeviceCall.injected?]
  have oldest : press :: rest = (VirtualDevice.injected calls).drop gone := waits.symm.trans delivery.waiting
  have some : (VirtualDevice.injected calls)[gone]? = some press := by
    rw [← List.head?_drop, ← oldest, List.head?_cons]
  refine ⟨?_, ?_, ?_, ?_, ?_, ?_, ?_⟩
  · rw [left, injected, ← List.tail_drop, ← oldest, List.tail_cons]
  · rw [injected]
    exact (List.getElem?_eq_some_iff.mp some).1
  · exact List.pairwise_append.mpr ⟨delivery.increasing, by simp, by simpa using delivery.read_gone⟩
  · rw [injected, returned]
    exact List.rel_append delivery.read (.cons some .nil)
  · intro place member
    rcases List.mem_append.mp member with earlier | last
    · exact Nat.lt_succ_of_lt (delivery.read_gone place earlier)
    · rw [List.mem_singleton.mp last]
      exact Nat.lt_succ_self gone
  · intro place
    have keeps : place < gone + 1 ∧ place ∉ places ++ [gone] ↔ place < gone ∧ place ∉ places := by
      rw [List.mem_append, List.mem_singleton]
      grind
    simpa only [keeps, overflows] using delivery.lost place
  · intro none
    have whole := delivery.whole (by simpa only [overflows] using none)
    rw [waits] at whole
    rw [returned, left, injected, ← whole, List.append_assoc, List.singleton_append]

theorem waiting_inject (press : KeyPress) :
    (start.run (calls ++ [.inject press])).pending.toList =
      ((injected calls).drop gone ++ [press]).drop ((start.run calls).pending.toList.length + 1 - 256) := by
  rw [run_concat, after_pending, DeviceCall.pending, Recent.toList_push, ← delivery.waiting,
    Recent.length_toList]

/-- What was given back has kept its places. -/
theorem read_inject (press : KeyPress) :
    List.Forall₂ (fun press' place => (injected calls ++ [press])[place]? = some press')
      (start.returned (calls ++ [.inject press])) places := by
  rw [returned_concat, returns?_of_ne _ (by simp), Option.toList_none, List.append_nil]
  refine delivery.read.imp fun press' place found => ?_
  rw [List.getElem?_append_left (List.getElem?_eq_some_iff.mp found).1, found]

/-- A press is added, and all that wait stay. -/
theorem add (press : KeyPress) (room : (start.run calls).pending.toList.length < 256) :
    start.Delivery (calls ++ [.inject press]) gone places := by
  have injected : injected (calls ++ [.inject press]) = injected calls ++ [press] := injected_concat ..
  have overflows (before : List DeviceCall) :
      start.Overflows (calls ++ [.inject press]) before ↔ start.Overflows calls before := by
    simp [overflows_concat, Nat.ne_of_lt room]
  have waiting : (start.run (calls ++ [.inject press])).pending.toList =
      (VirtualDevice.injected calls).drop gone ++ [press] := by
    rw [delivery.waiting_inject, Nat.sub_eq_zero_of_le room, List.drop_zero]
  refine ⟨?_, ?_, delivery.increasing, ?_, delivery.read_gone, ?_, ?_⟩
  · rw [waiting, injected, List.drop_append_of_le_length delivery.gone_le]
  · rw [injected, List.length_append]
    exact Nat.le_add_right_of_le delivery.gone_le
  · rw [injected]
    exact delivery.read_inject press
  · simpa only [overflows] using delivery.lost
  · intro none
    have whole := delivery.whole (by simpa only [overflows] using none)
    rw [returned_concat, returns?_of_ne _ (by simp), Option.toList_none, List.append_nil, waiting, injected,
      ← List.append_assoc, ← delivery.waiting, whole]

/-- A press is added in place of the oldest. -/
theorem replace (press : KeyPress) (full : (start.run calls).pending.toList.length = 256) :
    start.Delivery (calls ++ [.inject press]) (gone + 1) places := by
  have injected : injected (calls ++ [.inject press]) = injected calls ++ [press] := injected_concat ..
  have overflows (before : List DeviceCall) :
      start.Overflows (calls ++ [.inject press]) before ↔ start.Overflows calls before ∨ before = calls := by
    simp [overflows_concat, full, DeviceCall.injected?]
  refine ⟨?_, ?_, delivery.increasing, ?_, ?_, ?_, ?_⟩
  · rw [delivery.waiting_inject, full, injected, ← List.drop_drop,
      List.drop_append_of_le_length delivery.gone_le]
  · rw [injected, List.length_append]
    exact Nat.succ_le_succ delivery.gone_le
  · rw [injected]
    exact delivery.read_inject press
  · exact fun place member => Nat.lt_succ_of_lt (delivery.read_gone place member)
  · intro place
    have size : (VirtualDevice.injected calls).length - gone = 256 := by
      rw [← List.length_drop, ← delivery.waiting, full]
    have oldest :
        (start.run calls).pending.toList = (VirtualDevice.injected calls).drop place ↔ place = gone := by
      constructor
      · intro same
        have size' := congrArg List.length same
        rw [full, List.length_drop] at size'
        omega
      · rintro rfl
        exact delivery.waiting
    have unread : gone ∉ places := fun member => Nat.lt_irrefl gone (delivery.read_gone gone member)
    have split : place < gone + 1 ∧ place ∉ places ↔ (place < gone ∧ place ∉ places) ∨ place = gone := by
      grind
    simp only [split, delivery.lost place, overflows, or_and_right, exists_or, exists_eq_left, oldest]
  · intro none
    exact absurd ((overflows calls).mpr (.inr rfl)) (none calls)

theorem step (request : DeviceCall) : ∃ gone places, start.Delivery (calls ++ [request]) gone places := by
  cases request with
  | inject press =>
      have least : (start.run calls).pending.toList.length ≤ 256 := by
        rw [Recent.length_toList]
        exact (start.run calls).pending.size_le
      rcases Nat.lt_or_eq_of_le least with room | full
      · exact ⟨gone, places, delivery.add press room⟩
      · exact ⟨gone + 1, places, delivery.replace press full⟩
  | nextKey =>
      cases waits : (start.run calls).pending.toList with
      | nil =>
          refine ⟨gone, places, delivery.keep rfl ?_ ?_⟩
          · rw [returns?_nextKey, waits, List.head?_nil]
          · rw [pending_nextKey, waits, List.tail_nil]
      | cons press rest => exact ⟨gone + 1, places ++ [gone], delivery.take waits⟩
  | pressKey | releaseKey | tapKey | pressButton | releaseButton | click | moveCursor | takeEvents =>
      refine ⟨gone, places, delivery.keep rfl (returns?_of_ne _ (by simp)) ?_⟩
      rw [after_pending, DeviceCall.pending]
      all_goals simp

end Delivery

theorem exists_delivery (width height : Int32) (calls : List DeviceCall) :
    ∃ gone places, (ofSize width height).Delivery calls gone places := by
  induction calls using List.reverseRecOn with
  | nil => exact ⟨0, [], delivery_ofSize width height⟩
  | append_singleton calls request ih =>
      obtain ⟨gone, places, delivery⟩ := ih
      exact delivery.step request

/-- Key presses are given back in the order in which they were injected, and only an overflow loses any.  Those
    that wait are the last ones, at most 256.  Those that were given back stood at increasing places, none of
    them waits, and whoever asks for one gets none only if none waits.  The press at a place is neither
    waiting nor given back exactly if at some injection 256 were unread, from this place on.  Without such an
    injection nothing is lost. -/
theorem run_pending (width height : Int32) (calls : List DeviceCall) :
    let start := ofSize width height
    let device := start.run calls
    let waiting := device.pending.toList
    waiting <:+ injected calls ∧ waiting.length ≤ 256 ∧
    (∃ gone places, waiting = (injected calls).drop gone ∧ gone ≤ (injected calls).length ∧
      places.Pairwise (· < ·) ∧
      List.Forall₂ (fun press place => (injected calls)[place]? = some press) (start.returned calls) places ∧
      (∀ place ∈ places, place < gone) ∧
      ∀ place, place < gone ∧ place ∉ places ↔ ∃ before, start.Overflows calls before ∧
        (start.run before).pending.toList = (injected before).drop place) ∧
    ((∃ final, call .nextKey device = .ok (.key none) final) ↔ waiting = []) ∧
    ((∀ before, ¬ start.Overflows calls before) → start.returned calls ++ waiting = injected calls) := by
  intro start device waiting
  obtain ⟨gone, places, delivery⟩ := exists_delivery width height calls
  have drops : waiting = (injected calls).drop gone := delivery.waiting
  have suffix : waiting <:+ injected calls := drops ▸ List.drop_suffix gone _
  have fits : waiting.length ≤ 256 := device.pending.length_toList ▸ device.pending.size_le
  refine ⟨suffix, fits, ⟨gone, places, drops, delivery.gone_le, delivery.increasing, delivery.read,
    delivery.read_gone, delivery.lost⟩, ?_, delivery.whole⟩
  change (∃ final, call .nextKey device = .ok (.key none) final) ↔ device.pending.toList = []
  rw [call_nextKey, ← List.head?_eq_none_iff]
  simp

/-- A press is taken from a full queue just before another comes. -/
theorem run_pending_full :
    let start := ofSize 640 480
    let calls : List DeviceCall :=
      List.replicate 256 (.inject ⟨'a', false⟩) ++ [.nextKey, .inject ⟨'a', true⟩]
    (∀ before, ¬ start.Overflows calls before) ∧
    start.returned calls ++ (start.run calls).pending.toList = injected calls := by
  intro start calls
  obtain ⟨-, -, -, -, whole⟩ := run_pending 640 480 calls
  suffices none : ∀ before, ¬ start.Overflows calls before from ⟨none, whole none⟩
  rintro before ⟨⟨press, initial⟩, full⟩
  have least : 256 ≤ before.length := by
    obtain ⟨gone, places, delivery⟩ := exists_delivery 640 480 before
    have size := congrArg List.length delivery.waiting
    have fewer : (injected before).length ≤ before.length := List.length_filterMap_le ..
    rw [full, List.length_drop] at size
    omega
  have most := initial.length_le
  rw [List.length_append, List.length_singleton, show calls.length = 258 by decide +kernel] at most
  have taken : before ++ [.inject press] = calls.take (before.length + 1) := by
    simpa using List.prefix_iff_eq_take.mp initial
  rcases (by omega : before.length = 256 ∨ before.length = 257) with size | size
  · -- The call that follows the first 256 is no injection.
    have last : (calls.take 257).getLast? = some .nextKey := by decide +kernel
    rw [size] at taken
    rw [← taken, List.getLast?_concat] at last
    cases last
  · obtain rfl : before = calls.take 257 :=
      size ▸ List.prefix_iff_eq_take.mp ((List.prefix_append ..).trans initial)
    have unread : (start.run (calls.take 257)).pending.toList.length = 255 := by decide +kernel
    exact absurd (unread.symm.trans full) (by decide)

end VirtualDevice
end MacroShell
