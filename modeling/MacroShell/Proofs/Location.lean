import MacroShell.Proofs.DeviceHistory
import MacroShell.Proofs.NearDevices
import MacroShell.Proofs.RecordRecall

/-! # A stored location replays

The verb that stores a location writes a command with the coordinates of the cursor.  Numbers are read as they
were written, so recalling the command moves the cursor to exactly these coordinates, at any time and at any
depth.  On a virtual device that is where the cursor was, as a screen keeps its size and a cursor is always on
it.
-/

namespace MacroShell

/-! ## Numerals that are written and read -/

namespace Text

theorem digitValue_of_isDigit {c : Char} (digit : c.isDigit = true) :
    digitValue c = some (c.toNat - '0'.toNat) ∧ isDigit 10 c = true := by
  have range := Slot.isDigit_iff.mp digit
  have most : c.toNat ≤ '9'.toNat := Slot.toNat_le_of_le range.2
  have value : digitValue c = some (c.toNat - '0'.toNat) := if_pos range
  refine ⟨value, ?_⟩
  rw [isDigit, value]
  simp only [Char.reduceToNat, decide_eq_true_eq] at most ⊢
  omega

theorem ofDigits_eq_ofDigitChars {cs : List Char} (digits : ∀ c ∈ cs, c.isDigit = true) (n : Nat) :
    cs.foldl (fun n c => n * 10 + (digitValue c).getD 0) n = Nat.ofDigitChars 10 cs n := by
  induction cs generalizing n with
  | nil => rfl
  | cons c cs ih =>
      obtain ⟨first, rest⟩ := List.forall_mem_cons.mp digits
      rw [List.foldl_cons, Nat.ofDigitChars_cons, (digitValue_of_isDigit first).1, Option.getD_some, ih rest,
        Nat.mul_comm]

theorem decimal?_toDigits (n : Nat) : decimal? (Nat.toDigits 10 n) = some n := by
  have digits : ∀ c ∈ Nat.toDigits 10 n, c.isDigit = true := fun c member =>
    Nat.isDigit_of_mem_toDigits (by decide) (by decide) member
  have accepted : (!(Nat.toDigits 10 n).isEmpty && (Nat.toDigits 10 n).all (isDigit 10)) = true := by
    have nonempty : Nat.toDigits 10 n ≠ [] := Nat.toDigits_ne_nil
    simp only [Bool.and_eq_true, Bool.not_eq_true', List.isEmpty_eq_false_iff, List.all_eq_true]
    exact ⟨nonempty, fun c member => (digitValue_of_isDigit (digits c member)).2⟩
  rw [decimal?, if_pos accepted, ofDigits, ofDigits_eq_ofDigitChars digits, Nat.ofDigitChars_ten_toDigits]

/-- The digits of a number, behind a sign if it is negative. -/
theorem toList_toString_int (n : Int) :
    (toString n).toList = if 0 ≤ n then Nat.toDigits 10 n.natAbs else '-' :: Nat.toDigits 10 n.natAbs := by
  cases n with
  | ofNat n =>
      change n.repr.toList = _
      simp [Nat.repr_eq_ofList_toDigits]
  | negSucc n =>
      change ("-" ++ (n + 1).repr).toList = _
      simp [Nat.repr_eq_ofList_toDigits, Int.negSucc_not_nonneg]

theorem integer?_toString (n : Int) : integer? (toString n) = some n := by
  rw [integer?, toList_toString_int]
  by_cases positive : 0 ≤ n
  · rw [if_pos positive]
    have unsigned {c : Char} {rest : List Char} (digits : Nat.toDigits 10 n.natAbs = c :: rest) :
        c.isDigit = true :=
      Nat.isDigit_of_mem_toDigits (by decide) (by decide) (digits ▸ List.mem_cons_self)
    split
    · next digits => cases unsigned digits
    · next digits => cases unsigned digits
    · rw [decimal?_toDigits, Option.map_some]
      exact congrArg some (Int.natAbs_of_nonneg positive)
  · rw [if_neg positive]
    change Option.map (- ·) (do return ((← decimal? (Nat.toDigits 10 n.natAbs)) : Int)) = some n
    rw [decimal?_toDigits]
    exact congrArg some (by omega : -(n.natAbs : Int) = n)

theorem int32?_toString (n : Int32) : int32? (toString n.toInt) = some n := by
  rw [int32?, integer?_toString, Option.bind_some, if_pos ⟨n.minValue_le_toInt, n.toInt_le⟩, Int32.ofInt_toInt]

theorem isBlank_of_isDigit {c : Char} (digit : c.isDigit = true) : isBlank c = false := by
  have range : 48 ≤ c.toNat ∧ c.toNat ≤ 57 := by
    simpa [Char.isDigit, UInt32.le_iff_toNat_le] using digit
  simp only [isBlank, Bool.or_eq_false_iff, Bool.and_eq_false_iff, decide_eq_false_iff_not, beq_eq_false_iff_ne]
  omega

theorem plain_toString (n : Int) : Words.Plain (toString n) := by
  have digits : ∀ c ∈ Nat.toDigits 10 n.natAbs, c.isDigit = true := fun c member =>
    Nat.isDigit_of_mem_toDigits (by decide) (by decide) member
  have written : ∀ c ∈ (toString n).toList, c = '-' ∨ c.isDigit = true := by
    rw [toList_toString_int]
    intro c member
    split at member
    · exact .inr (digits c member)
    · rcases List.mem_cons.mp member with sign | member
      · exact .inl sign
      · exact .inr (digits c member)
  refine ⟨?_, fun c member => ?_, fun quote => ?_⟩
  · rw [toList_toString_int]
    split
    · exact Nat.toDigits_ne_nil
    · exact List.cons_ne_nil _ _
  · rcases written c member with rfl | digit
    · rfl
    · exact isBlank_of_isDigit digit
  · rcases written '"' quote with sign | digit
    · cases sign
    · cases digit

end Text

/-! ## Storing a location and moving to it -/

namespace Execute

theorem parse_moveText (x y : Int32) :
    Command.parse (moveText (x, y)) = .ok ⟨'M', "M", [toString x.toInt, toString y.toInt]⟩ := by
  have written : moveText (x, y) = " ".intercalate ["M", toString x.toInt, toString y.toInt] := by
    rw [← String.toList_inj]
    change ("M " ++ toString x.toInt ++ " " ++ toString y.toInt).toList = _
    simp
  rw [written]
  refine Words.parse_intercalate ?_ rfl
  simp only [List.forall_mem_cons]
  have opcode : Words.Plain "M" := .singleton (c := 'M') (by decide) (by decide)
  exact ⟨opcode, Text.plain_toString _, Text.plain_toString _, by simp⟩

theorem parseCoordinate_toString {δ : Type} (n : Int32) (shell : Shell δ) :
    parseCoordinate (toString n.toInt) shell = .ok n shell := by
  rw [parseCoordinate, Text.int32?_toString]
  rfl

end Execute

namespace Shell

section Move

open Execute

variable {δ : Type} [InputDevice δ]

/-- The shell after an attempt to move the cursor. -/
def moved (x y : Int32) (shell : Shell δ) : Shell δ :=
  match InputDevice.moveCursor x y shell.device with
  | .ok _ device => { shell with device }
  | .error e device => { shell with device }.conclude (.error e)

theorem selection_move : selection 'M' = some (.move, .oneOf [0, 2]) := by decide

theorem dispatch_storeLocation {shell : Shell δ} {position : Int32 × Int32} {device : δ}
    (on : shell.options.get .lastLocation = "true")
    (asked : InputDevice.queryCursor shell.device = .ok position device) (head : String) (depth : Nat) :
    shell.dispatch ⟨'M', head, []⟩ depth =
      ({ shell.log (.dispatched depth ⟨'M', head, []⟩) with device }.setRegister Slot.lastLocation
        (moveText position)).notice s!"Recorded command in register 'L': {moveText position}" := by
  let logged := shell.log (.dispatched depth ⟨'M', head, []⟩)
  have isOn : logged.options.isOn .lastLocation = true := decide_eq_true on
  have answered : ShellM.onDevice InputDevice.queryCursor logged = .ok position { logged with device } :=
    ShellM.onDevice_ok asked
  have ran : storeLocation logged = .ok (.notice s!"Recorded command in register 'L': {moveText position}")
      ({ logged with device }.setRegister Slot.lastLocation (moveText position)) := by
    rw [storeLocation, ShellM.get_bind, isOn, if_pos rfl, ShellM.bind_ok answered]
    rfl
  rw [dispatch, dispatchWith_selected selection_move rfl]
  exact congrArg settle ran

theorem settle_moveCursor (x y : Int32) (shell : Shell δ) :
    settle ((do ShellM.onDevice (InputDevice.moveCursor x y); return .none : ShellM δ Output) shell) =
      shell.moved x y := by
  simp only [Bind.bind, EStateM.bind, ShellM.onDevice, moved]
  cases InputDevice.moveCursor x y shell.device <;> rfl

theorem dispatch_moveTo (x y : Int32) (head : String) (depth : Nat) (shell : Shell δ) :
    shell.dispatch ⟨'M', head, [toString x.toInt, toString y.toInt]⟩ depth =
      (shell.log (.dispatched depth ⟨'M', head, [toString x.toInt, toString y.toInt]⟩)).moved x y := by
  let logged := shell.log (.dispatched depth ⟨'M', head, [toString x.toInt, toString y.toInt]⟩)
  have reads : moveTo (toString x.toInt) (toString y.toInt) logged =
      (do ShellM.onDevice (InputDevice.moveCursor x y); return .none : ShellM δ Output) logged := by
    rw [moveTo, ShellM.bind_ok (parseCoordinate_toString x logged),
      ShellM.bind_ok (parseCoordinate_toString y logged)]
  rw [dispatch, dispatchWith_selected selection_move rfl]
  exact (congrArg settle reads).trans (settle_moveCursor x y logged)

theorem stored_location {shell : Shell δ} {position : Int32 × Int32} {device : δ}
    (on : shell.options.get .lastLocation = "true")
    (asked : InputDevice.queryCursor shell.device = .ok position device) (head : String) (depth : Nat) :
    (shell.dispatch ⟨'M', head, []⟩ depth).registers.get? Slot.lastLocation = some (moveText position) := by
  rw [dispatch_storeLocation on asked, notice_eq]
  simp only [setRegister]
  rw [SlotTable.get?_set, if_pos rfl]

/-- The location is recalled by moving the cursor there. -/
theorem dispatch_replay {x y : Int32} {shell : Shell δ}
    (held : shell.registers.get? Slot.lastLocation = some (moveText (x, y))) (head : String) {depth : Nat}
    (below : depth < recallLimit) :
    shell.dispatch ⟨'#', head, ["L"]⟩ depth =
      (((shell.log (.dispatched depth ⟨'#', head, ["L"]⟩)).notice
        s!"Recalling command in register 'L': {moveText (x, y)}").log
          (.dispatched (depth + 1) ⟨'M', "M", [toString x.toInt, toString y.toInt]⟩)).moved x y := by
  have named : Slot.parse .register "L" = .ok Slot.lastLocation := Slot.parse_char Slot.lastLocation
  rw [dispatch_recallAll named (parse_moveText x y) below head held, dispatch_moveTo]
  rfl

end Move

end Shell

/-! ## Virtual devices in a run -/

namespace VirtualDevice

/-- The device is what calls have made of `start`. -/
def Reached (start device : VirtualDevice) : Prop := ∃ calls, device = start.run calls

variable {start device : VirtualDevice}

theorem Reached.after (reached : start.Reached device) (request : DeviceCall) :
    start.Reached (device.after request) := by
  obtain ⟨calls, rfl⟩ := reached
  exact ⟨calls ++ [request], (run_concat ..).symm⟩

theorem Reached.run (reached : start.Reached device) (calls : List DeviceCall) :
    start.Reached (device.run calls) := by
  obtain ⟨before, rfl⟩ := reached
  exact ⟨before ++ calls, (run_append ..).symm⟩

/-- An operation is a call. -/
theorem coupled_of_call (request : DeviceCall) {action : EStateM ShellError VirtualDevice Unit}
    (asks : call request = do action; return .done) (start : VirtualDevice) :
    Coupled (fun d e => d = e ∧ start.Reached d) (· = ·) action action := by
  rintro device _ ⟨rfl, reached⟩
  have comes := reached.after request
  rw [VirtualDevice.after, asks] at comes
  simp only [bind, EStateM.bind] at comes
  generalize action device = result at comes
  cases result with
  | ok _ device => exact .ok rfl ⟨rfl, comes⟩
  | error e device => exact .error ⟨rfl, comes⟩

theorem respects_reached (start : VirtualDevice) : InputDevice.Respects fun d e => d = e ∧ start.Reached d where
  pressKey key := coupled_of_call (.pressKey key) rfl start
  releaseKey key := coupled_of_call (.releaseKey key) rfl start
  pressButton button := coupled_of_call (.pressButton button) rfl start
  releaseButton button := coupled_of_call (.releaseButton button) rfl start
  moveCursor x y := coupled_of_call (.moveCursor x y) rfl start
  queryCursor device _ near := .ok (by rw [near.1]) near

end VirtualDevice

/-- Nothing happens to the device in a step but calls. -/
def Step.ByCalls : Step VirtualDevice → Prop
  | device change => ∃ calls, change = (VirtualDevice.run · calls)
  | execute _ | enter _ | dispatch _ _ | listen _ | sample | advance _ _ | round _ _ | spawn _ | files _ => True

namespace Shell

open VirtualDevice

variable {start : VirtualDevice} {shell : Shell VirtualDevice}

theorem reached_dispatch (reached : start.Reached shell.device) (command : Command) (depth : Nat) :
    start.Reached (shell.dispatch command depth).device := by
  obtain ⟨_, -, -, reached⟩ := dispatch_near (respects_reached start) ⟨rfl, reached⟩ command depth
  exact reached

/-- A shell uses its device by calls only. -/
theorem reached_performAll (reached : start.Reached shell.device) {steps : List (Step VirtualDevice)}
    (byCalls : ∀ step ∈ steps, step.ByCalls) : start.Reached (shell.performAll steps).device := by
  have keys {d e : VirtualDevice} (near : d = e ∧ start.Reached d) :
      Option.Rel (fun a b => a.1 = b.1 ∧ a.2 = b.2 ∧ start.Reached a.2) (KeySource.nextKey d)
        (KeySource.nextKey e) := by
    obtain ⟨rfl, reached⟩ := near
    have comes := reached.after .nextKey
    cases waits : KeySource.nextKey d with
    | none => exact .none
    | some pressed =>
        simp only [VirtualDevice.after, call, waits] at comes
        exact .some ⟨rfl, rfl, comes⟩
  have meanwhile : ∀ step ∈ steps, step.Respects fun d e => d = e ∧ start.Reached d := by
    intro step member
    have byCalls := byCalls step member
    cases step with
    | device change =>
        obtain ⟨calls, rfl⟩ := byCalls
        rintro d _ ⟨rfl, reached⟩
        exact ⟨rfl, reached.run calls⟩
    | execute | enter | dispatch | listen | sample | advance | round | spawn | files => trivial
  obtain ⟨_, -, -, reached⟩ := performAll_near (respects_reached start) ⟨rfl, reached⟩ keys meanwhile
  exact reached

/-- On a device of the same size, a cursor that is moved to where it has been gets there. -/
theorem cursor_moved {width height : Int32} (reached : (ofSize width height).Reached shell.device)
    {device : VirtualDevice} (earlier : (ofSize width height).Reached device) :
    (shell.moved device.cursor.1 device.cursor.2).device.cursor = device.cursor := by
  obtain ⟨calls, same⟩ := reached
  obtain ⟨before, rfl⟩ := earlier
  obtain ⟨wide, high⟩ := size_run calls (ofSize width height)
  obtain ⟨left, right, top, bottom⟩ := inside_run width height before
  change (confine shell.device.width _, confine shell.device.height _) = _
  rw [same, wide, high]
  have across := confine_of_inside (one_le_max width) left right
  have down := confine_of_inside (one_le_max height) top bottom
  exact Prod.ext across down

/-- A stored location replays exactly.  Whatever coordinates a device tells, the text that is stored for them
    is a command, and while the register keeps this text, recalling it asks the device to move the cursor to
    these coordinates, at every depth at which there may be a recall.  On a virtual device of any size the
    cursor is then where it was when the location was stored, whatever has happened in between. -/
theorem location_replays :
    (∀ {δ : Type} [InputDevice δ] (shell : Shell δ) (x y : Int32) (device : δ),
      shell.options.get .lastLocation = "true" → InputDevice.queryCursor shell.device = .ok (x, y) device →
      ∃ text,
        (∀ head depth, (shell.dispatch ⟨'M', head, []⟩ depth).registers.get? Slot.lastLocation = some text) ∧
        Command.parse text = .ok ⟨'M', "M", [toString x.toInt, toString y.toInt]⟩ ∧
        ∀ (later : Shell δ) head depth, later.registers.get? Slot.lastLocation = some text →
          depth < recallLimit →
          later.dispatch ⟨'#', head, ["L"]⟩ depth =
            (((later.log (.dispatched depth ⟨'#', head, ["L"]⟩)).notice
              s!"Recalling command in register 'L': {text}").log
                (.dispatched (depth + 1) ⟨'M', "M", [toString x.toInt, toString y.toInt]⟩)).moved x y) ∧
    ∀ (width height : Int32) (start : Shell VirtualDevice) (before after : List (Step VirtualDevice)),
      start.device = ofSize width height → (∀ step ∈ before ++ after, step.ByCalls) →
      ∀ head depth head' depth',
        let shell := start.performAll before
        let stored := shell.dispatch ⟨'M', head, []⟩ depth
        let later := stored.performAll after
        shell.options.get .lastLocation = "true" →
        later.registers.get? Slot.lastLocation = stored.registers.get? Slot.lastLocation →
        depth' < recallLimit →
        (later.dispatch ⟨'#', head', ["L"]⟩ depth').device.cursor = shell.device.cursor := by
  refine ⟨?_, ?_⟩
  · intro δ _ shell x y device on asked
    refine ⟨Execute.moveText (x, y), stored_location on asked, Execute.parse_moveText x y, ?_⟩
    exact fun later head depth held below => dispatch_replay held head below
  · intro width height start before after fresh byCalls head depth head' depth' shell stored later on kept below
    obtain ⟨first, second⟩ := List.forall_mem_append.mp byCalls
    have begun : (ofSize width height).Reached start.device := ⟨[], fresh⟩
    have earlier : (ofSize width height).Reached shell.device := reached_performAll begun first
    have reached : (ofSize width height).Reached later.device :=
      reached_performAll (reached_dispatch earlier _ depth) second
    have held : later.registers.get? Slot.lastLocation = some (Execute.moveText shell.device.cursor) :=
      kept.trans (stored_location on rfl head depth)
    rw [dispatch_replay held head' below]
    refine cursor_moved ?_ earlier
    rw [notice_eq]
    exact reached

/-- The extreme coordinates, recalled at the last depth at which there may be a recall; and a corner of a
    screen, to which the cursor comes back after it was moved by a command and by somebody else. -/
theorem location_replays_corner :
    (let shell : Shell VirtualDevice :=
      { device := { width := 640, height := 480, cursor := (-2147483648, 2147483647) }, dotfile := "rc"
        options := { lastLocation := "true" } }
    let stored := shell.dispatch ⟨'M', "M", []⟩ 0
    ∃ text, stored.registers.get? Slot.lastLocation = some text ∧
      stored.dispatch ⟨'#', "#", ["L"]⟩ 255 =
        (((stored.log (.dispatched 255 ⟨'#', "#", ["L"]⟩)).notice
          s!"Recalling command in register 'L': {text}").log
            (.dispatched 256 ⟨'M', "M", [toString (-2147483648 : Int32).toInt,
              toString (2147483647 : Int32).toInt]⟩)).moved (-2147483648) 2147483647) ∧
    let start : Shell VirtualDevice :=
      { device := ofSize 640 480, dotfile := "rc", options := { lastLocation := "true" } }
    let before : List (Step VirtualDevice) := [.execute "M 639 479"]
    let after : List (Step VirtualDevice) :=
      [.execute "M 0 0", .device (VirtualDevice.run · [.moveCursor 9 9])]
    (start.performAll before).device.cursor = (639, 479) ∧
      (((start.performAll before).dispatch ⟨'M', "M", []⟩ 0).performAll after).device.cursor = (9, 9) ∧
      ((((start.performAll before).dispatch ⟨'M', "M", []⟩ 0).performAll after).dispatch
        ⟨'#', "#", ["L"]⟩ 0).device.cursor = (start.performAll before).device.cursor := by
  refine ⟨?_, ?_⟩
  · intro shell stored
    obtain ⟨text, stores, -, replays⟩ := location_replays.1 shell (-2147483648) 2147483647 _ rfl rfl
    exact ⟨text, stores "M" 0, replays stored "#" 255 (stores "M" 0) (by decide)⟩
  · intro start before after
    have byCalls : ∀ step ∈ before ++ after, step.ByCalls := by
      simp only [before, after, List.cons_append, List.nil_append, List.forall_mem_cons]
      exact ⟨trivial, trivial, ⟨_, rfl⟩, by simp⟩
    refine ⟨by decide +kernel, by decide +kernel, ?_⟩
    exact location_replays.2 640 480 start before after rfl byCalls "M" 0 "#" 0 (by decide +kernel)
      (by decide +kernel) (by decide)

end Shell
end MacroShell
