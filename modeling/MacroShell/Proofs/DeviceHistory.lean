import MacroShell.Proofs.DeviceCalls

/-! # The history of a virtual device

The log of a device is bounded and can be taken away, but the device remembers what its history has come
to.  Where the cursor is and what is held down is settled by all events that were ever recorded, and the
log has the last ones since it was taken.
-/

namespace MacroShell

namespace DeviceEvent

/-- Where the event puts the cursor. -/
def position? : DeviceEvent → Option (Int32 × Int32)
  | cursorMove x y => some (x, y)
  | _ => none

/-- Whether the key goes down or up, if it is an event of that key. -/
def keyDown? (key : Char) : DeviceEvent → Option Bool
  | keyDown other => if other = key then some true else none
  | keyUp other => if other = key then some false else none
  | _ => none

/-- Whether the button goes down or up, if it is an event of that button. -/
def buttonDown? (button : MouseButton) : DeviceEvent → Option Bool
  | buttonDown other => if other = button then some true else none
  | buttonUp other => if other = button then some false else none
  | _ => none

/-- What the latest event tells that tells anything. -/
def latest? {α : Type} (tells : DeviceEvent → Option α) (history : List DeviceEvent) : Option α :=
  history.reverse.findSome? tells

theorem latest?_concat {α : Type} (tells : DeviceEvent → Option α) (history : List DeviceEvent)
    (event : DeviceEvent) : latest? tells (history ++ [event]) = (tells event).or (latest? tells history) := by
  rw [latest?, List.reverse_concat, List.findSome?_cons]
  cases tells event <;> rfl

end DeviceEvent

namespace VirtualDevice

open DeviceEvent

variable {history : List DeviceEvent} {device : VirtualDevice}

/-! ## What is held -/

theorem mem_holdKey {key other : Char} {held : List Char} :
    other ∈ holdKey key held ↔ other = key ∨ other ∈ held := by
  fun_induction holdKey key held with
  | case1 => simp
  | case2 => simp
  | case3 => simp
  | case4 first rest _ _ ih => simp [ih]; tauto

theorem pairwise_holdKey {key : Char} {held : List Char} (increasing : held.Pairwise (· < ·)) :
    (holdKey key held).Pairwise (· < ·) := by
  fun_induction holdKey key held with
  | case1 => simp
  | case2 first rest less =>
      refine List.pairwise_cons.mpr ⟨?_, increasing⟩
      intro other member
      rcases List.mem_cons.mp member with rfl | later
      · exact less
      · exact Char.lt_trans less (List.rel_of_pairwise_cons increasing later)
  | case3 => exact increasing
  | case4 first rest notLess other ih =>
      obtain ⟨before, rest⟩ := List.pairwise_cons.mp increasing
      refine List.pairwise_cons.mpr ⟨?_, ih rest⟩
      intro next member
      rcases mem_holdKey.mp member with rfl | later
      · exact Char.not_le.mp fun le => other (Char.le_antisymm le (Char.not_lt.mp notLess))
      · exact before next later

theorem mem_holdButton {button other : MouseButton} {held : List MouseButton} :
    other ∈ holdButton button held ↔ other = button ∨ other ∈ held := by
  unfold holdButton
  split
  · next member =>
    refine ⟨.inr, ?_⟩
    rintro (rfl | found)
    · exact member
    · exact found
  · rw [List.mem_append, List.mem_singleton, or_comm]

theorem nodup_holdButton {button : MouseButton} {held : List MouseButton} (nodup : held.Nodup) :
    (holdButton button held).Nodup := by
  unfold holdButton
  split
  · exact nodup
  · next absent => exact List.nodup_append.mpr ⟨nodup, by simp, by grind⟩

/-- The button was pressed at this place of the history, for the first time since it was last released. -/
structure PressedAt (history : List DeviceEvent) (button : MouseButton) (place : Nat) : Prop where
  pressed : history[place]? = some (.buttonDown button)
  kept : ∀ later, place ≤ later → history[later]? ≠ some (.buttonUp button)
  first : ∀ earlier, earlier < place → history[earlier]? = some (.buttonDown button) →
    ∃ between, earlier < between ∧ between < place ∧ history[between]? = some (.buttonUp button)

namespace PressedAt

variable {button : MouseButton} {event : DeviceEvent} {place : Nat}

theorem lt_length (at_ : PressedAt history button place) : place < history.length :=
  (List.getElem?_eq_some_iff.mp at_.pressed).1

/-- Other events do not matter, unless the button is released. -/
theorem concat (at_ : PressedAt history button place) (other : event ≠ .buttonUp button) :
    PressedAt (history ++ [event]) button place := by
  have inside := at_.lt_length
  refine ⟨?_, ?_, ?_⟩
  · rw [List.getElem?_append_left inside, at_.pressed]
  · intro later le
    rcases lt_trichotomy later history.length with before | rfl | beyond
    · rw [List.getElem?_append_left before]
      exact at_.kept later le
    · simpa using other
    · rw [List.getElem?_eq_none (by simp; omega)]
      simp
  · intro earlier less found
    rw [List.getElem?_append_left (by omega)] at found
    obtain ⟨between, after, before, released⟩ := at_.first earlier less found
    refine ⟨between, after, before, ?_⟩
    rw [List.getElem?_append_left (by omega), released]

end PressedAt

theorem buttonDown?_eq_false_iff {button : MouseButton} {event : DeviceEvent} :
    buttonDown? button event = some false ↔ event = .buttonUp button := by
  cases event <;> simp [buttonDown?]

/-- A press of a button that is no longer held is followed by a release. -/
theorem released_of_latest {button : MouseButton} {place : Nat}
    (up : latest? (buttonDown? button) history ≠ some true)
    (pressed : history[place]? = some (.buttonDown button)) :
    ∃ later, place < later ∧ history[later]? = some (.buttonUp button) := by
  induction history using List.reverseRecOn with
  | nil => simp at pressed
  | append_singleton history event ih =>
      rw [latest?_concat] at up
      have inside := (List.getElem?_eq_some_iff.mp pressed).1
      rw [List.length_append, List.length_singleton] at inside
      by_cases last : place = history.length
      · subst last
        obtain rfl : event = .buttonDown button := by simpa using pressed
        simp [buttonDown?] at up
      · have before : place < history.length := by omega
        cases tells : buttonDown? button event with
        | none =>
            rw [tells, Option.none_or] at up
            rw [List.getElem?_append_left before] at pressed
            obtain ⟨later, after, found⟩ := ih up pressed
            refine ⟨later, after, ?_⟩
            rw [List.getElem?_append_left (List.getElem?_eq_some_iff.mp found).1, found]
        | some down =>
            rw [tells, Option.some_or] at up
            obtain rfl : down = false := by simpa using up
            have released := buttonDown?_eq_false_iff.mp tells
            exact ⟨history.length, before, by simp [released]⟩

/-- A button that is not held is pressed. -/
theorem PressedAt.last {button : MouseButton} (up : latest? (buttonDown? button) history ≠ some true) :
    PressedAt (history ++ [.buttonDown button]) button history.length := by
  refine ⟨by simp, ?_, ?_⟩
  · intro later le
    rcases Nat.eq_or_lt_of_le le with rfl | beyond
    · simp
    · rw [List.getElem?_eq_none (by simp; omega)]
      simp
  · intro earlier before pressed
    rw [List.getElem?_append_left before] at pressed
    obtain ⟨between, after, released⟩ := released_of_latest up pressed
    have inside := (List.getElem?_eq_some_iff.mp released).1
    refine ⟨between, after, inside, ?_⟩
    rw [List.getElem?_append_left inside, released]

/-! ## The history of the state -/

/-- The device is as its history says. -/
structure Reflects (device : VirtualDevice) (history : List DeviceEvent) : Prop where
  /-- The cursor is where it was put last. -/
  cursor : device.cursor = (latest? position? history).getD (0, 0)
  /-- A key is held exactly if it went down when it was touched last. -/
  keys : ∀ key, key ∈ device.heldKeys ↔ latest? (keyDown? key) history = some true
  increasing : device.heldKeys.Pairwise (· < ·)
  buttons : ∀ button, button ∈ device.heldButtons ↔ latest? (buttonDown? button) history = some true
  nodup : device.heldButtons.Nodup
  /-- The buttons stand in the order in which they were pressed. -/
  order : ∃ places, places.Pairwise (· < ·) ∧ List.Forall₂ (PressedAt history) device.heldButtons places

theorem reflects_ofSize (width height : Int32) : (ofSize width height).Reflects [] where
  cursor := rfl
  keys key := by simp [ofSize, latest?]
  increasing := .nil
  buttons button := by simp [ofSize, latest?]
  nodup := .nil
  order := ⟨[], .nil, .nil⟩

theorem lt_length_of_places {held : List MouseButton} {places : List Nat}
    (pairs : List.Forall₂ (PressedAt history) held places) : ∀ place ∈ places, place < history.length := by
  induction pairs with
  | nil => simp
  | cons pressed _ ih => exact List.forall_mem_cons.mpr ⟨pressed.lt_length, ih⟩

theorem forall₂_filter {α β : Type} {R : α → β → Prop} {as : List α} {bs : List β} (keeps : α → Bool)
    (pairs : List.Forall₂ R as bs) :
    ∃ kept, kept.Sublist bs ∧ List.Forall₂ (fun a b => R a b ∧ keeps a = true) (as.filter keeps) kept := by
  induction pairs with
  | nil => exact ⟨[], .slnil, .nil⟩
  | @cons a b as bs related _ ih =>
      obtain ⟨kept, sublist, pairs⟩ := ih
      by_cases stays : keeps a = true
      · rw [List.filter_cons_of_pos stays]
        exact ⟨b :: kept, sublist.cons_cons b, .cons ⟨related, stays⟩ pairs⟩
      · rw [List.filter_cons_of_neg stays]
        exact ⟨kept, sublist.cons b, pairs⟩

namespace Reflects

variable (reflects : device.Reflects history)
include reflects

theorem follow_cursor (event : DeviceEvent) :
    (device.follow event).cursor = (latest? position? (history ++ [event])).getD (0, 0) := by
  rw [latest?_concat]
  cases event with
  | cursorMove x y => rfl
  | keyDown | keyUp | buttonDown | buttonUp => exact reflects.cursor

theorem follow_keys (event : DeviceEvent) (key : Char) :
    key ∈ (device.follow event).heldKeys ↔ latest? (keyDown? key) (history ++ [event]) = some true := by
  rw [latest?_concat]
  cases event with
  | keyDown other =>
      by_cases same : key = other
      · simp [follow, record, mem_holdKey, keyDown?, same]
      · simp [follow, record, mem_holdKey, keyDown?, same, Ne.symm same, reflects.keys]
  | keyUp other =>
      by_cases same : key = other
      · simp [follow, record, keyDown?, same]
      · simp [follow, record, keyDown?, same, Ne.symm same, reflects.keys]
  | buttonDown | buttonUp | cursorMove => exact reflects.keys key

theorem follow_increasing (event : DeviceEvent) : (device.follow event).heldKeys.Pairwise (· < ·) := by
  cases event with
  | keyDown key => exact pairwise_holdKey reflects.increasing
  | keyUp key => exact reflects.increasing.filter _
  | buttonDown | buttonUp | cursorMove => exact reflects.increasing

theorem follow_buttons (event : DeviceEvent) (button : MouseButton) :
    button ∈ (device.follow event).heldButtons ↔
      latest? (buttonDown? button) (history ++ [event]) = some true := by
  rw [latest?_concat]
  cases event with
  | buttonDown other =>
      by_cases same : button = other
      · simp [follow, record, mem_holdButton, buttonDown?, same]
      · simp [follow, record, mem_holdButton, buttonDown?, same, Ne.symm same, reflects.buttons]
  | buttonUp other =>
      by_cases same : button = other
      · simp [follow, record, buttonDown?, same]
      · simp [follow, record, buttonDown?, same, Ne.symm same, reflects.buttons]
  | keyDown | keyUp | cursorMove => exact reflects.buttons button

theorem follow_nodup (event : DeviceEvent) : (device.follow event).heldButtons.Nodup := by
  cases event with
  | buttonDown button => exact nodup_holdButton reflects.nodup
  | buttonUp button => exact reflects.nodup.filter _
  | keyDown | keyUp | cursorMove => exact reflects.nodup

/-- The places stay the same.  A button that is pressed anew gets the last place, and one that is released
    gives its place up. -/
theorem follow_order (event : DeviceEvent) :
    ∃ places, places.Pairwise (· < ·) ∧
      List.Forall₂ (PressedAt (history ++ [event])) (device.follow event).heldButtons places := by
  obtain ⟨places, increasing, pairs⟩ := reflects.order
  have stays (other : ∀ button, event ≠ .buttonUp button) :
      List.Forall₂ (PressedAt (history ++ [event])) device.heldButtons places :=
    pairs.imp fun button place pressed => pressed.concat (other button)
  cases event with
  | keyDown | keyUp | cursorMove => exact ⟨places, increasing, stays (by simp)⟩
  | buttonUp button =>
      obtain ⟨kept, sublist, pairs⟩ := forall₂_filter (· ≠ button) pairs
      refine ⟨kept, increasing.sublist sublist, pairs.imp ?_⟩
      rintro other place ⟨pressed, differs⟩
      have differs : other ≠ button := of_decide_eq_true differs
      exact pressed.concat (by simpa using differs.symm)
  | buttonDown button =>
      have stays := stays (by simp)
      by_cases held : button ∈ device.heldButtons
      · refine ⟨places, increasing, ?_⟩
        simpa [follow, record, holdButton, held] using stays
      · have up : latest? (buttonDown? button) history ≠ some true := fun down =>
          held ((reflects.buttons button).mpr down)
        have grown : (device.follow (.buttonDown button)).heldButtons = device.heldButtons ++ [button] := by
          simp [follow, record, holdButton, held]
        have before := lt_length_of_places pairs
        refine ⟨places ++ [history.length], ?_, ?_⟩
        · exact List.pairwise_append.mpr ⟨increasing, by simp, by simpa using before⟩
        · rw [grown]
          exact List.rel_append stays (.cons (.last up) .nil)

theorem follow (event : DeviceEvent) : (device.follow event).Reflects (history ++ [event]) where
  cursor := reflects.follow_cursor event
  keys := reflects.follow_keys event
  increasing := reflects.follow_increasing event
  buttons := reflects.follow_buttons event
  nodup := reflects.follow_nodup event
  order := reflects.follow_order event

/-- The log and the keys that wait do not matter. -/
theorem aside (log : Recent 4096 DeviceEvent) (pending : Recent 256 KeyPress) :
    { device with log, pending }.Reflects history :=
  ⟨reflects.cursor, reflects.keys, reflects.increasing, reflects.buttons, reflects.nodup, reflects.order⟩

/-- On the events that happen. -/
theorem foldl_follow (events : List DeviceEvent) :
    (events.foldl VirtualDevice.follow device).Reflects (history ++ events) := by
  induction events generalizing device history with
  | nil => simpa using reflects
  | cons event events ih =>
      rw [List.append_cons]
      exact ih (reflects.follow event)

end Reflects

/-! ## The edges of the screen -/

theorem toInt_max (a b : Int32) : (max a b).toInt = max a.toInt b.toInt := by
  change (if a ≤ b then b else a).toInt = _
  simp only [Int32.le_iff_toInt_le]
  split <;> omega

theorem toInt_min (a b : Int32) : (min a b).toInt = min a.toInt b.toInt := by
  change (if a ≤ b then a else b).toInt = _
  simp only [Int32.le_iff_toInt_le]
  split <;> omega

theorem one_le_max (n : Int32) : 1 ≤ max n 1 := by
  rw [Int32.le_iff_toInt_le, toInt_max]
  omega

/-- On a screen of at least one point nothing overflows. -/
theorem toInt_last {size : Int32} (positive : 1 ≤ size) : (size - 1).toInt = size.toInt - 1 :=
  Int32.toInt_sub_of_le _ _ (by decide) positive

/-- So the last point is not before the first. -/
theorem zero_le_last {size : Int32} (positive : 1 ≤ size) : 0 ≤ size - 1 := by
  have large := Int32.le_iff_toInt_le.mp positive
  have one : (1 : Int32).toInt = 1 := rfl
  have zero : (0 : Int32).toInt = 0 := rfl
  rw [Int32.le_iff_toInt_le, toInt_last positive]
  omega

theorem toInt_confine {size : Int32} (positive : 1 ≤ size) (n : Int32) :
    (confine size n).toInt = max 0 (min n.toInt (size.toInt - 1)) := by
  rw [confine, toInt_max, toInt_min, toInt_last positive]
  rfl

theorem confine_inside {size : Int32} (positive : 1 ≤ size) (n : Int32) :
    0 ≤ confine size n ∧ confine size n < size := by
  have large := Int32.le_iff_toInt_le.mp positive
  have one : (1 : Int32).toInt = 1 := rfl
  have zero : (0 : Int32).toInt = 0 := rfl
  rw [Int32.le_iff_toInt_le, Int32.lt_iff_toInt_lt, toInt_confine positive]
  omega

theorem confine_of_inside {size n : Int32} (positive : 1 ≤ size) (least : 0 ≤ n) (less : n < size) :
    confine size n = n := by
  have least := Int32.le_iff_toInt_le.mp least
  have less := Int32.lt_iff_toInt_lt.mp less
  have zero : (0 : Int32).toInt = 0 := rfl
  rw [← Int32.toInt_inj, toInt_confine positive]
  omega

/-- The position is one of the screen. -/
def Inside (width height : Int32) (position : Int32 × Int32) : Prop :=
  0 ≤ position.1 ∧ position.1 < width ∧ 0 ≤ position.2 ∧ position.2 < height

/-! ## The history of the log -/

theorem toList_push_of_rtake {capacity : Nat} {α : Type} {queue : Recent capacity α} {items : List α}
    (holds : queue.toList = items.rtake capacity) (a : α) :
    (queue.push a).toList = (items ++ [a]).rtake capacity := by
  have size := queue.length_toList
  rw [holds, List.rtake, List.length_drop] at size
  rw [Recent.toList_push, holds, List.rtake, List.rtake, List.length_append, List.length_singleton]
  rcases Nat.lt_or_ge items.length capacity with small | full
  · rw [show queue.size + 1 - capacity = 0 by omega, show items.length + 1 - capacity = 0 by omega,
      show items.length - capacity = 0 by omega, List.drop_zero, List.drop_zero, List.drop_zero]
  · have cut : (items ++ [a]).drop (items.length - capacity) = items.drop (items.length - capacity) ++ [a] :=
      List.drop_append_of_le_length (by omega)
    rw [show queue.size + 1 - capacity = 1 by omega,
      show items.length + 1 - capacity = (items.length - capacity) + 1 by omega, ← List.drop_drop, cut]

theorem events_foldl_follow {since : List DeviceEvent} (logged : device.events = since.rtake 4096)
    (events : List DeviceEvent) : (events.foldl follow device).events = (since ++ events).rtake 4096 := by
  induction events generalizing device since with
  | nil => simpa using logged
  | cons event events ih =>
      have pushed : (device.follow event).events = (since ++ [event]).rtake 4096 := by
        rw [VirtualDevice.events, follow_log]
        exact toList_push_of_rtake logged event
      rw [List.append_cons]
      exact ih pushed

theorem size_foldl_follow (events : List DeviceEvent) (device : VirtualDevice) :
    (events.foldl follow device).width = device.width ∧ (events.foldl follow device).height = device.height := by
  induction events generalizing device with
  | nil => exact ⟨rfl, rfl⟩
  | cons event events ih =>
      obtain ⟨width, height⟩ := ih (device.follow event)
      exact ⟨width.trans (device.follow_size event).1, height.trans (device.follow_size event).2⟩

/-! ## The history of calls -/

/-- The events that calls record. -/
def recorded (width height : Int32) (calls : List DeviceCall) : List DeviceEvent :=
  calls.flatMap (DeviceCall.events width height)

/-- The device is as the calls have left it. -/
structure Accounts (device : VirtualDevice) (calls : List DeviceCall) : Prop where
  reflects : device.Reflects (recorded device.width device.height calls)
  logged : device.events =
    (recorded device.width device.height (calls.rtakeWhile (· ≠ .takeEvents))).rtake 4096

variable {calls : List DeviceCall}

theorem size_after (device : VirtualDevice) (request : DeviceCall) :
    (device.after request).width = device.width ∧ (device.after request).height = device.height := by
  by_cases taken : request = .takeEvents
  · subst taken
    exact ⟨rfl, rfl⟩
  · rw [after_eq taken]
    exact size_foldl_follow _ device

theorem accounts_ofSize (width height : Int32) : (ofSize width height).Accounts [] where
  reflects := reflects_ofSize width height
  logged := by
    rw [List.rtakeWhile_nil, recorded, List.flatMap_nil, List.rtake_nil]
    rfl

theorem Accounts.after (accounts : device.Accounts calls) (request : DeviceCall) :
    (device.after request).Accounts (calls ++ [request]) := by
  obtain ⟨reflects, logged⟩ := accounts
  have grown (calls : List DeviceCall) : recorded device.width device.height (calls ++ [request]) =
      recorded device.width device.height calls ++ request.events device.width device.height := by
    simp [recorded]
  obtain ⟨width, height⟩ := device.size_after request
  by_cases taken : request = .takeEvents
  · refine ⟨?_, ?_⟩
    · rw [width, height, grown, taken, DeviceCall.events, List.append_nil]
      exact reflects.aside .empty device.pending
    · rw [List.rtakeWhile_concat_neg _ _ _ (by simp [taken]), recorded, List.flatMap_nil, List.rtake_nil,
        taken]
      rfl
  · refine ⟨?_, ?_⟩
    · rw [width, height, grown, after_eq taken]
      exact (reflects.foldl_follow _).aside _ _
    · rw [width, height, List.rtakeWhile_concat_pos _ _ _ (by simp [taken]), grown, after_eq taken]
      exact events_foldl_follow logged _

theorem size_run (calls : List DeviceCall) (device : VirtualDevice) :
    (device.run calls).width = device.width ∧ (device.run calls).height = device.height := by
  induction calls generalizing device with
  | nil => exact ⟨rfl, rfl⟩
  | cons request calls ih =>
      obtain ⟨width, height⟩ := device.size_after request
      rw [← width, ← height]
      exact ih (device.after request)

theorem accounts_run (width height : Int32) (calls : List DeviceCall) :
    ((ofSize width height).run calls).Accounts calls := by
  induction calls using List.reverseRecOn with
  | nil => exact accounts_ofSize width height
  | append_singleton calls request ih =>
      rw [run_concat]
      exact ih.after request

/-! ## What was recorded -/

theorem mem_of_latest? {α : Type} {tells : DeviceEvent → Option α} {a : α}
    (told : latest? tells history = some a) : ∃ event ∈ history, tells event = some a := by
  obtain ⟨event, member, tells⟩ := List.exists_of_findSome?_eq_some told
  exact ⟨event, List.mem_reverse.mp member, tells⟩

/-- A call moves the cursor to a point of the screen only. -/
theorem inside_of_mem_events {width height : Int32} (wide : 1 ≤ width) (high : 1 ≤ height)
    {request : DeviceCall} {x y : Int32} (member : .cursorMove x y ∈ request.events width height) : Inside width height (x, y) := by
  cases request with
  | moveCursor x' y' =>
      obtain ⟨rfl, rfl⟩ : x = confine width x' ∧ y = confine height y' := by
        simpa [DeviceCall.events] using member
      have across := confine_inside wide x'
      have down := confine_inside high y'
      exact ⟨across.1, across.2, down.1, down.2⟩
  | pressKey | releaseKey | tapKey | pressButton | releaseButton | click | takeEvents | inject | nextKey =>
      simp [DeviceCall.events] at member

theorem hasKey_of_mem_events {width height : Int32} {request : DeviceCall} {key : Char}
    (member : .keyDown key ∈ request.events width height) : hasKey key = true := by
  cases request with
  | pressKey other | tapKey other =>
      obtain ⟨has, rfl⟩ : hasKey other = true ∧ key = other := by simpa [DeviceCall.events] using member
      exact has
  | releaseKey | pressButton | releaseButton | click | moveCursor | takeEvents | inject | nextKey =>
      simp [DeviceCall.events] at member

theorem exists_mem_events {width height : Int32} {event : DeviceEvent}
    (member : event ∈ recorded width height calls) : ∃ request ∈ calls, event ∈ request.events width height :=
  List.mem_flatMap.mp member

/-- The cursor never leaves the screen. -/
theorem Reflects.inside {width height : Int32} (wide : 1 ≤ width) (high : 1 ≤ height)
    (reflects : device.Reflects (recorded width height calls)) : Inside width height device.cursor := by
  rw [reflects.cursor]
  cases last : latest? position? (recorded width height calls) with
  | none =>
      have positive {size : Int32} (le : 1 ≤ size) : 0 < size :=
        Int32.lt_of_lt_of_le (by decide) le
      exact ⟨Int32.le_refl 0, positive wide, Int32.le_refl 0, positive high⟩
  | some position =>
      obtain ⟨event, member, puts⟩ := mem_of_latest? last
      obtain ⟨request, -, records⟩ := exists_mem_events member
      cases event with
      | cursorMove x y =>
          cases puts
          exact inside_of_mem_events wide high records
      | keyDown | keyUp | buttonDown | buttonUp => cases puts

theorem inside_run (width height : Int32) (calls : List DeviceCall) :
    Inside (max width 1) (max height 1) ((ofSize width height).run calls).cursor := by
  obtain ⟨wide, high⟩ := size_run calls (ofSize width height)
  have reflects := (accounts_run width height calls).reflects
  rw [wide, high] at reflects
  exact reflects.inside (one_le_max width) (one_le_max height)

/-- Only a key that there is can be held. -/
theorem Reflects.hasKey {width height : Int32} (reflects : device.Reflects (recorded width height calls))
    {key : Char} (held : key ∈ device.heldKeys) : hasKey key = true := by
  obtain ⟨event, member, down⟩ := mem_of_latest? ((reflects.keys key).mp held)
  obtain ⟨request, -, records⟩ := exists_mem_events member
  cases event with
  | keyDown other =>
      obtain rfl : other = key := by simpa [keyDown?] using down
      exact hasKey_of_mem_events records
  | keyUp other => simp [keyDown?] at down
  | buttonDown | buttonUp | cursorMove => cases down

/-- The state of a device is a function of everything that was done with it.  The screen has the size that
    was asked for, or one point where that is less, and keeps it after any calls, so there are always points
    to which a move can confine the cursor.  The rest is as all recorded events say: the cursor is where it
    was put last, and it is on the screen; a key or a button is held if it went down when it was touched
    last, the keys are printable, and the buttons stand in the order in which they were pressed.  The log has
    the last of the events since it was taken.  A call that is rejected records nothing and changes
    nothing. -/
theorem run_history (width height : Int32) (calls : List DeviceCall) :
    let device := (ofSize width height).run calls
    let records := recorded (max width 1) (max height 1)
    (device.width = max width 1 ∧ device.height = max height 1) ∧
    (0 ≤ device.width - 1 ∧ 0 ≤ device.height - 1) ∧
    device.Reflects (records calls) ∧
    Inside (max width 1) (max height 1) device.cursor ∧
    (∀ key ∈ device.heldKeys, ' ' ≤ key ∧ key ≤ '~') ∧
    device.events = (records (calls.rtakeWhile (· ≠ .takeEvents))).rtake 4096 ∧
    ∀ request e final, call request device = .error e final → final = device ∧ records [request] = [] := by
  intro device records
  obtain ⟨wide, high⟩ : device.width = max width 1 ∧ device.height = max height 1 := size_run calls _
  obtain ⟨reflects, logged⟩ : device.Accounts calls := accounts_run width height calls
  rw [wide, high] at reflects logged
  rw [wide, high]
  refine ⟨⟨rfl, rfl⟩, ⟨zero_le_last (one_le_max width), zero_le_last (one_le_max height)⟩, reflects,
    inside_run width height calls, ?_, logged, ?_⟩
  · intro key held
    simpa [VirtualDevice.hasKey] using reflects.hasKey held
  · intro request e final failed
    obtain ⟨same, key, about, lacks, -⟩ := call_eq_error_iff.mp failed
    refine ⟨same, ?_⟩
    have alone : records [request] = request.events _ _ := List.flatMap_singleton ..
    rw [alone, events_of_rejected about lacks]

/-- On a screen of no width, where keys and buttons are pressed twice and released without a press. -/
theorem run_history_narrow :
    let calls : List DeviceCall := [.pressKey 'b', .pressKey 'a', .pressKey 'b', .pressKey 'é', .releaseKey 'c',
      .pressButton .left, .pressButton .right, .moveCursor 7 (-9), .takeEvents, .releaseButton .left,
      .pressButton .right, .pressButton .left, .releaseKey 'b', .moveCursor (-2147483648) 2147483647]
    let device := (ofSize (-5) 3).run calls
    'a' ∈ device.heldKeys ∧
    call (.tapKey 'é') device = .error (.device ("no key produces " ++ Text.quoteChar 'é')) device ∧
    (device.width = 1 ∧ device.height = 3) ∧ (0 ≤ device.width - 1 ∧ 0 ≤ device.height - 1) ∧
    device.Reflects (recorded 1 3 calls) ∧ Inside 1 3 device.cursor ∧ (' ' ≤ 'a' ∧ 'a' ≤ '~') ∧
    device.events = [.buttonUp .left, .buttonDown .right, .buttonDown .left, .keyUp 'b', .cursorMove 0 2] ∧
    recorded 1 3 [.tapKey 'é'] = [] := by
  intro calls device
  obtain ⟨size, last, reflects, inside, printable, logged, rejected⟩ := run_history (-5) 3 calls
  have held : 'a' ∈ device.heldKeys := by decide +kernel
  have failed : call (.tapKey 'é') device = _ := call_rejected rfl rfl device
  exact ⟨held, failed, size, last, reflects, inside, printable 'a' held, logged.trans (by decide +kernel),
    (rejected _ _ _ failed).2⟩

end VirtualDevice
end MacroShell
