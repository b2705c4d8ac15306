import MacroShell.Proofs.DeviceHistory

/-! # Typing a text

A sequence of words is typed key by key, with a space between the words.  The virtual device has keys for the
printable ASCII characters only.  So it types the text up to the first character for which there is no key, each
key pressed and released before the next one, and refuses to go on there.
-/

namespace MacroShell

namespace VirtualDevice

/-- The events of keys that are tapped one after the other. -/
def taps (keys : List Char) : List DeviceEvent := keys.flatMap fun key => [.keyDown key, .keyUp key]

theorem tapKey_of_hasKey {key : Char} (has : hasKey key = true) (device : VirtualDevice) :
    InputDevice.tapKey key device = .ok () ((device.follow (.keyDown key)).follow (.keyUp key)) := by
  simp only [InputDevice.tapKey, bind, EStateM.bind, pressKey_of_hasKey has, releaseKey_of_hasKey has]
  rfl

theorem tapKey_of_not_hasKey {key : Char} (lacks : ¬ hasKey key = true) (device : VirtualDevice) :
    InputDevice.tapKey key device = .error (.device s!"no key produces {Text.quoteChar key}") device := by
  simp only [InputDevice.tapKey, bind, EStateM.bind, pressKey_of_not_hasKey lacks]

/-- A text for which there are keys is typed to its end. -/
theorem typeKeys_of_hasKey {keys : List Char} (has : ∀ key ∈ keys, hasKey key = true) (device : VirtualDevice) :
    InputDevice.typeKeys keys device = .ok () ((taps keys).foldl follow device) := by
  induction keys generalizing device with
  | nil => rfl
  | cons key keys ih =>
      rw [List.forall_mem_cons] at has
      have first := tapKey_of_hasKey has.1 device
      simp only [InputDevice.typeKeys, bind, EStateM.bind, first, ih has.2]
      rfl

theorem typeKeys_of_stop {keys : List Char} (has : ∀ key ∈ keys, hasKey key = true) {key : Char}
    (lacks : ¬ hasKey key = true) (rest : List Char) (device : VirtualDevice) :
    InputDevice.typeKeys (keys ++ key :: rest) device =
      .error (.device s!"no key produces {Text.quoteChar key}") ((taps keys).foldl follow device) := by
  rw [InputDevice.typeKeys_append]
  simp only [bind, EStateM.bind, typeKeys_of_hasKey has, InputDevice.typeKeys, tapKey_of_not_hasKey lacks]

/-- A text is typed up to the first character for which there is no key. -/
theorem typeKeys_cases (text : List Char) (device : VirtualDevice) :
    let typed := text.takeWhile hasKey
    (typed = text ∧ InputDevice.typeKeys text device = .ok () ((taps typed).foldl follow device)) ∨
    ∃ c rest, text = typed ++ c :: rest ∧
      InputDevice.typeKeys text device =
        .error (.device s!"no key produces {Text.quoteChar c}") ((taps typed).foldl follow device) := by
  intro typed
  have has : ∀ key ∈ typed, hasKey key = true := fun key member => List.mem_takeWhile_imp member
  have whole : typed ++ text.dropWhile hasKey = text := List.takeWhile_append_dropWhile
  cases left : text.dropWhile hasKey with
  | nil =>
      rw [left, List.append_nil] at whole
      refine .inl ⟨whole, ?_⟩
      rw [← typeKeys_of_hasKey has, whole]
  | cons c rest =>
      have lacks : ¬ hasKey c = true := by
        have first := List.head?_dropWhile_not hasKey text
        simpa [left] using first
      rw [left] at whole
      refine .inr ⟨c, rest, whole.symm, ?_⟩
      rw [← typeKeys_of_stop has lacks rest, whole]

theorem filter_holdKey (key : Char) (held : List Char) :
    (holdKey key held).filter (· ≠ key) = held.filter (· ≠ key) := by
  fun_induction holdKey key held with
  | case1 => simp
  | case2 => simp
  | case3 => rfl
  | case4 first rest _ _ ih => simp only [List.filter_cons, ih]

/-- Keys that were tapped are not held, and nothing else has changed but the log. -/
theorem foldl_taps (keys : List Char) (device : VirtualDevice) :
    ∃ log, (taps keys).foldl follow device =
      { device with heldKeys := device.heldKeys.filter (· ∉ keys), log } := by
  induction keys generalizing device with
  | nil => exact ⟨device.log, by simp [taps]⟩
  | cons key keys ih =>
      let tapped := (device.follow (.keyDown key)).follow (.keyUp key)
      have held : tapped.heldKeys = device.heldKeys.filter (· ≠ key) := filter_holdKey key device.heldKeys
      have kept : tapped.heldKeys.filter (· ∉ keys) = device.heldKeys.filter (· ∉ key :: keys) := by
        rw [held, List.filter_filter]
        congr 1
        funext other
        simp [Bool.and_comm]
      obtain ⟨log, same⟩ := ih tapped
      refine ⟨log, same.trans ?_⟩
      rw [kept]
      rfl

theorem events_foldl_taps (keys : List Char) (device : VirtualDevice) :
    ((taps keys).foldl follow device).events = (device.events ++ taps keys).rtake 4096 := by
  refine events_foldl_follow ?_ (taps keys)
  have small : device.events.length ≤ 4096 := by
    rw [VirtualDevice.events, Recent.length_toList]
    exact device.log.size_le
  rw [List.rtake, Nat.sub_eq_zero_of_le small, List.drop_zero]

end VirtualDevice

namespace Execute

variable {δ : Type} [InputDevice δ] {words : List String} {shell : Shell δ} {device : δ}

theorem run_sequence_ok (runText : String → ShellM δ Unit)
    (typed : InputDevice.typeKeys (" ".intercalate words).toList shell.device = .ok () device) :
    run runText .sequence words shell = .ok .none { shell with device } := by
  rw [← InputDevice.typeWords_eq] at typed
  exact ShellM.bind_ok (ShellM.onDevice_ok typed)

theorem run_sequence_error (runText : String → ShellM δ Unit) {e : ShellError}
    (stopped : InputDevice.typeKeys (" ".intercalate words).toList shell.device = .error e device) :
    run runText .sequence words shell = .error e { shell with device } := by
  rw [← InputDevice.typeWords_eq] at stopped
  exact ShellM.bind_error (ShellM.onDevice_error stopped)

end Execute

namespace Shell

open VirtualDevice

/-- The verb that types words, on a virtual device in any state.  It taps the keys of the longest beginning of
    the text, the words with a space between them, that has printable ASCII characters only.  So these keys are
    not held afterwards, and nothing else of the device has changed but the log.  The verb succeeds exactly if
    this is the whole text, and otherwise it names the first character for which there is no key. -/
theorem sequence_types {words : List String} (nonempty : words ≠ []) (head : String) (depth : Nat)
    (shell : Shell VirtualDevice) :
    let text := (" ".intercalate words).toList
    let typed := text.takeWhile fun c => ' ' ≤ c && c ≤ '~'
    let events : List DeviceEvent := typed.flatMap fun key => [.keyDown key, .keyUp key]
    let device := events.foldl follow shell.device
    let after := { shell.log (.dispatched depth ⟨'S', head, words⟩) with device }
    ∃ result, shell.outcome? ⟨'S', head, words⟩ depth = some result ∧
      ((∃ output final, result = .ok output final) ↔ typed = text) ∧
      (typed = text → result = .ok .none after) ∧
      (∀ c rest, text = typed ++ c :: rest →
        result = .error (.device s!"no key produces {Text.quoteChar c}") after) ∧
      device.events = (shell.device.events ++ events).rtake 4096 ∧
      ∃ log, device = { shell.device with heldKeys := shell.device.heldKeys.filter (· ∉ typed), log } := by
  intro text typed events device after
  have selected : selection 'S' = some (.sequence, .atLeast 1) := by decide
  have came := outcome?_selected selected (accepts_atLeast_one nonempty) head depth shell
  have logged := events_foldl_taps typed shell.device
  have kept := foldl_taps typed shell.device
  have short {c : Char} {rest : List Char} (stops : text = typed ++ c :: rest) : typed ≠ text := by
    intro whole
    rw [whole] at stops
    exact List.cons_ne_nil c rest (List.self_eq_append_right.mp stops)
  let start := shell.log (.dispatched depth ⟨'S', head, words⟩)
  rcases typeKeys_cases text shell.device with ⟨whole, typing⟩ | ⟨c, rest, stops, typing⟩
  · have ran : Execute.run (recallText depth) .sequence words start = .ok .none after :=
      Execute.run_sequence_ok (recallText depth) typing
    rw [ran] at came
    refine ⟨_, came, iff_of_true ⟨_, _, rfl⟩ whole, fun _ => rfl, ?_, logged, kept⟩
    intro c rest stops
    exact absurd whole (short stops)
  · have failed : Execute.run (recallText depth) .sequence words start =
        .error (.device s!"no key produces {Text.quoteChar c}") after :=
      Execute.run_sequence_error (recallText depth) typing
    rw [failed] at came
    refine ⟨_, came, iff_of_false ?_ (short stops), fun whole => absurd whole (short stops), ?_, logged, kept⟩
    · rintro ⟨output, final, same⟩
      cases same
    · intro c' rest' stops'
      have same : c :: rest = c' :: rest' := List.append_cancel_left (stops.symm.trans stops')
      cases same
      rfl

/-- An empty word, a character without a key, and a key that was held before. -/
theorem sequence_types_held :
    let shell : Shell VirtualDevice :=
      { device := { width := 8, height := 8, heldKeys := ['b', 'x'] }, dotfile := "rc" }
    ["a", "", "bé", "c"] ≠ [] ∧
    ∃ final, shell.outcome? ⟨'S', "S", ["a", "", "bé", "c"]⟩ 0 =
        some (.error (.device ("no key produces " ++ Text.quoteChar 'é')) final) ∧
      final.device.heldKeys = ['x'] := by
  intro shell
  have nonempty : ["a", "", "bé", "c"] ≠ [] := List.cons_ne_nil _ _
  have text : (" ".intercalate ["a", "", "bé", "c"]).toList = ['a', ' ', ' ', 'b', 'é', ' ', 'c'] := by decide +kernel
  obtain ⟨result, came, -, -, stopped, -, log, same⟩ := sequence_types nonempty "S" 0 shell
  rw [text] at stopped same
  rw [stopped 'é' [' ', 'c'] (by decide +kernel)] at came
  have left : ['b', 'x'].filter (· ∉ ['a', ' ', ' ', 'b', 'é', ' ', 'c'].takeWhile fun c => ' ' ≤ c && c ≤ '~') =
      ['x'] := by decide +kernel
  exact ⟨nonempty, _, came, (congrArg VirtualDevice.heldKeys same).trans left⟩

end Shell
end MacroShell
