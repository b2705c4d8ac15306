import MacroShell.Device.Faulty
import MacroShell.Proofs.Failures
import MacroShell.Proofs.NearDevices
import MacroShell.Proofs.RecordRecall

/-! # A hotkey fires as a recall does

A listener takes the oldest key press that waits and runs the text that is bound to its character.  A register
that holds the same text could be recalled instead, and it would do the same.

Recalling takes no key press.  To compare the two in one state, the queue of key presses has to be told from the
rest of a device, which neither reads it nor changes it.
-/

namespace MacroShell

variable {δ : Type}

/-! ## Queues of key presses -/

/-- A device with a queue of key presses.  What a shell does with the device has nothing to do with the
    queue. -/
class KeyQueue (δ : Type) [InputDevice δ] [KeySource δ] where
  waiting : δ → Recent 256 KeyPress
  queue : Recent 256 KeyPress → δ → δ
  waiting_queue : ∀ presses device, waiting (queue presses device) = presses
  queue_waiting : ∀ device, queue (waiting device) device = device
  queue_queue : ∀ presses others device, queue presses (queue others device) = queue presses device
  nextKey : ∀ device, KeySource.nextKey device =
    (waiting device).pop?.map fun (press, rest) => (press, queue rest device)
  respects : ∀ presses others,
    InputDevice.Respects fun d e => waiting d = presses ∧ e = queue others d

instance : KeyQueue VirtualDevice where
  waiting device := device.pending
  queue presses device := { device with pending := presses }
  waiting_queue _ _ := rfl
  queue_waiting _ := rfl
  queue_queue _ _ _ := rfl
  nextKey _ := rfl
  respects presses others := by
    refine ⟨fun key => ?_, fun key => ?_, fun button => ?_, fun button => ?_, fun x y => ?_, ?_⟩
    all_goals rintro device _ ⟨rfl, rfl⟩
    · by_cases has : VirtualDevice.hasKey key = true
      · rw [VirtualDevice.pressKey_of_hasKey has, VirtualDevice.pressKey_of_hasKey has]
        exact .ok rfl ⟨rfl, rfl⟩
      · rw [VirtualDevice.pressKey_of_not_hasKey has, VirtualDevice.pressKey_of_not_hasKey has]
        exact .error ⟨rfl, rfl⟩
    · by_cases has : VirtualDevice.hasKey key = true
      · rw [VirtualDevice.releaseKey_of_hasKey has, VirtualDevice.releaseKey_of_hasKey has]
        exact .ok rfl ⟨rfl, rfl⟩
      · rw [VirtualDevice.releaseKey_of_not_hasKey has, VirtualDevice.releaseKey_of_not_hasKey has]
        exact .error ⟨rfl, rfl⟩
    all_goals exact .ok rfl ⟨rfl, rfl⟩

namespace FaultyDevice

variable [InputDevice δ] [KeySource δ] [KeyQueue δ]

open KeyQueue in
theorem attempt_coupled {α : Type} {presses others : Recent 256 KeyPress} (operation : DeviceOperation)
    {action : EStateM ShellError δ α}
    (acts : Coupled (fun d e => waiting d = presses ∧ e = queue others d) (· = ·) action action) :
    Coupled (fun d e => waiting d.inner = presses ∧ e = { d with inner := queue others d.inner }) (· = ·)
      (attempt operation action) (attempt operation action) := by
  rintro device _ ⟨holds, rfl⟩
  unfold attempt
  dsimp only
  split
  · exact .error ⟨holds, rfl⟩
  · have acted := acts device.inner _ ⟨holds, rfl⟩
    generalize action device.inner = a at acted
    generalize action (queue others device.inner) = b at acted
    cases acted with
    | ok same near =>
        obtain ⟨holds, rfl⟩ := near
        exact .ok same ⟨holds, rfl⟩
    | error near =>
        obtain ⟨holds, rfl⟩ := near
        exact .error ⟨holds, rfl⟩

instance : KeyQueue (FaultyDevice δ) where
  waiting device := KeyQueue.waiting device.inner
  queue presses device := { device with inner := KeyQueue.queue presses device.inner }
  waiting_queue presses device := KeyQueue.waiting_queue presses device.inner
  queue_waiting device := by rw [KeyQueue.queue_waiting]
  queue_queue presses others device := by rw [KeyQueue.queue_queue]
  nextKey device := by
    change (KeySource.nextKey device.inner).map _ = _
    rw [KeyQueue.nextKey, Option.map_map]
    rfl
  respects presses others := by
    have inner := KeyQueue.respects (δ := δ) presses others
    exact ⟨fun key => attempt_coupled _ (inner.pressKey key),
      fun key => attempt_coupled _ (inner.releaseKey key),
      fun button => attempt_coupled _ (inner.pressButton button),
      fun button => attempt_coupled _ (inner.releaseButton button),
      fun x y => attempt_coupled _ (inner.moveCursor x y), attempt_coupled _ inner.queryCursor⟩

end FaultyDevice

namespace Shell

variable [InputDevice δ] [KeySource δ] [KeyQueue δ]

/-- The key presses that wait, oldest first. -/
def keys (shell : Shell δ) : List KeyPress := (KeyQueue.waiting shell.device).toList

/-- The shell with other key presses waiting. -/
def requeue (presses : Recent 256 KeyPress) (shell : Shell δ) : Shell δ :=
  { shell with device := KeyQueue.queue presses shell.device }

/-- A command neither reads the queue nor changes it. -/
theorem dispatch_requeue (presses : Recent 256 KeyPress) (command : Command) (depth : Nat) (shell : Shell δ) :
    (shell.requeue presses).dispatch command depth = (shell.dispatch command depth).requeue presses ∧
      KeyQueue.waiting (shell.dispatch command depth).device = KeyQueue.waiting shell.device := by
  obtain ⟨device, same, kept, rfl⟩ := dispatch_near
    (KeyQueue.respects (KeyQueue.waiting shell.device) presses) ⟨rfl, rfl⟩ command depth
  exact ⟨same, kept⟩

/-! ## What a turn can do -/

/-- A turn of a listener while hotkeys are on: the character that has fired, and the shell after it. -/
inductive Listens (shell : Shell δ) : Option Char → Shell δ → Prop
  | idle (empty : shell.keys = []) : Listens shell none shell
  | unbound {press : KeyPress} {rest : Recent 256 KeyPress} (oldest : shell.keys = press :: rest.toList)
      (free : ∀ slot : Slot .hotkey, slot.char = press.char → shell.hotkeys.get? slot = none) :
      Listens shell none (shell.requeue rest)
  /-- The text is no command. -/
  | refused {press : KeyPress} {rest : Recent 256 KeyPress} {slot : Slot .hotkey} {text : String}
      (oldest : shell.keys = press :: rest.toList) (named : slot.char = press.char)
      (bound : shell.hotkeys.get? slot = some text) {e : ShellError} (garbled : Command.parse text = .error e) :
      Listens shell (some press.char) (shell.requeue rest)
  | fired {press : KeyPress} {rest : Recent 256 KeyPress} {slot : Slot .hotkey} {text : String}
      (oldest : shell.keys = press :: rest.toList) (named : slot.char = press.char)
      (bound : shell.hotkeys.get? slot = some text) {command : Command}
      (parsed : Command.parse text = .ok command) :
      Listens shell (some press.char) ((shell.requeue rest).dispatch command 1)

theorem listens_listen {shell : Shell δ} (on : shell.options.get .hotkeys = "true") (idle : Nat) :
    shell.Listens (shell.listen idle).1 (shell.listen idle).2 := by
  have handled : shell.listen idle = shell.handleKey.getD (none, shell) := by
    simp [listen, OptionTable.isOn, on]
  rw [handled, handleKey, KeyQueue.nextKey]
  cases popped : (KeyQueue.waiting shell.device).pop? with
  | none => exact .idle ((Recent.pop?_eq_none_iff _).mp popped)
  | some next =>
      obtain ⟨press, rest⟩ := next
      have oldest : shell.keys = press :: rest.toList := Recent.toList_of_pop? popped
      simp only [Option.map_some, Option.getD_some]
      cases found : (Slot.ofChar? .hotkey press.char).bind shell.hotkeys.get? with
      | none =>
          refine .unbound oldest fun slot named => ?_
          rwa [← named, Slot.ofChar?_char, Option.bind_some] at found
      | some text =>
          obtain ⟨slot, named, bound⟩ := Option.bind_eq_some_iff.mp found
          have named := Slot.char_of_ofChar? named
          dsimp only
          cases parsed : Command.parse text with
          | error e => exact .refused oldest named bound parsed
          | ok command => exact .fired oldest named bound parsed

theorem keys_requeue (presses : Recent 256 KeyPress) (shell : Shell δ) :
    (shell.requeue presses).keys = presses.toList := by
  rw [keys, requeue, KeyQueue.waiting_queue]

theorem requeue_waiting (shell : Shell δ) : shell.requeue (KeyQueue.waiting shell.device) = shell := by
  rw [requeue, KeyQueue.queue_waiting]

/-- The queue as it was before a command, put in place again. -/
theorem requeue_back (presses : Recent 256 KeyPress) (command : Command) (depth : Nat) (shell : Shell δ) :
    ((shell.dispatch command depth).requeue presses).requeue (KeyQueue.waiting shell.device) =
      shell.dispatch command depth := by
  rw [← (dispatch_requeue presses command depth shell).2]
  conv_rhs => rw [← requeue_waiting (shell.dispatch command depth)]
  simp only [requeue, KeyQueue.queue_queue]

namespace Listens

variable {shell after : Shell δ} {fired : Option Char} (listens : shell.Listens fired after)
include listens

/-- Whatever is run, the queue loses its oldest key press and nothing else. -/
theorem keys_eq : after.keys = shell.keys.tail := by
  cases listens with
  | idle empty => rw [empty, List.tail_nil]
  | unbound oldest | refused oldest => rw [keys_requeue, oldest, List.tail_cons]
  | fired oldest =>
      rw [(dispatch_requeue ..).1, keys_requeue, oldest, List.tail_cons]

theorem fired_iff (c : Char) :
    fired = some c ↔ ∃ press slot text, shell.keys.head? = some press ∧ press.char = c ∧ slot.char = c ∧
      shell.hotkeys.get? slot = some text := by
  cases listens with
  | idle empty => simp [empty]
  | @unbound press rest oldest free =>
      simp only [reduceCtorEq, oldest, List.head?_cons, Option.some.injEq, false_iff]
      rintro ⟨_, slot, text, rfl, rfl, named, bound⟩
      rw [free slot named] at bound
      cases bound
  | @refused press rest slot text oldest named bound | @fired press rest slot text oldest named bound =>
      simp only [oldest, List.head?_cons, Option.some.injEq]
      constructor
      · rintro rfl
        exact ⟨press, slot, text, rfl, rfl, named, bound⟩
      · rintro ⟨_, _, _, rfl, same, -, -⟩
        exact same

theorem eq_requeue_of_none (quiet : fired = none) : after = shell.requeue (KeyQueue.waiting after.device) := by
  cases listens with
  | idle => rw [requeue_waiting]
  | unbound => rw [requeue, requeue, KeyQueue.waiting_queue]
  | refused | fired => cases quiet

/-- What is bound to the character has been run, if it is a command. -/
theorem eq_of_some {slot : Slot .hotkey} {text : String} (named : fired = some slot.char)
    (bound : shell.hotkeys.get? slot = some text) :
    (∀ e, Command.parse text = .error e → after = shell.requeue (KeyQueue.waiting after.device)) ∧
    ∀ command, Command.parse text = .ok command →
      ∃ rest, after = (shell.dispatch command 1).requeue rest := by
  have same {other : Slot .hotkey} {stored : String} (char : other.char = slot.char)
      (held : shell.hotkeys.get? other = some stored) : stored = text := by
    rw [Slot.char_inj.mp char, bound] at held
    exact (Option.some.inj held).symm
  cases listens with
  | idle | unbound => cases named
  | refused oldest other held garbled =>
      obtain rfl := same (other.trans (Option.some.inj named)) held
      refine ⟨fun e _ => by rw [requeue, requeue, KeyQueue.waiting_queue], fun command parsed => ?_⟩
      cases parsed.symm.trans garbled
  | @fired press rest _ _ oldest other held command parsed =>
      obtain rfl := same (other.trans (Option.some.inj named)) held
      refine ⟨fun e garbled => ?_, fun command' parsed' => ?_⟩
      · cases parsed.symm.trans garbled
      · cases parsed.symm.trans parsed'
        exact ⟨rest, (dispatch_requeue ..).1⟩

end Listens

/-- A hotkey fires as a recall does.  While hotkeys are off a listener only sleeps.  While they are on it takes
    the oldest key press, if one waits, and tells the character exactly if something is bound to it.  If nothing
    is, or if the text is no command, then it has done nothing else.  If the text is a command, then entering a
    line that recalls the same text from a register would have done the same, but for the key press, for the
    recall itself and for its notice, which comes first unless the shell is quiet. -/
theorem listen_recalls {shell after : Shell δ} {fired : Option Char} {idle : Nat}
    (ran : shell.listen idle = (fired, after)) :
    (shell.options.get .hotkeys ≠ "true" → fired = none ∧ after = shell.log (.slept idle)) ∧
    (shell.options.get .hotkeys = "true" →
      after.keys = shell.keys.tail ∧
      (∀ c, fired = some c ↔ ∃ press slot text, shell.keys.head? = some press ∧ press.char = c ∧
        slot.char = c ∧ shell.hotkeys.get? slot = some text) ∧
      (fired = none → after = shell.requeue (KeyQueue.waiting after.device)) ∧
      ∀ slot text, fired = some slot.char → shell.hotkeys.get? slot = some text →
        (∀ e, Command.parse text = .error e → after = shell.requeue (KeyQueue.waiting after.device)) ∧
        ∀ command, Command.parse text = .ok command →
          ∃ effects, after.journal = shell.journal ++ effects ∧
            ∀ register, shell.registers.get? register = some text →
              shell.executeLine s!"# {register.char}" =
                { after.requeue (KeyQueue.waiting shell.device) with
                  journal := shell.journal ++ #[.dispatched 0 ⟨'#', "#", [String.singleton register.char]⟩] ++
                    (if shell.options.isOn .quiet then #[]
                      else #[.line s!"Recalling command in register '{register.char}': {text}"]) ++
                    effects }) := by
  refine ⟨fun off => ?_, fun on => ?_⟩
  · have slept : shell.listen idle = (none, shell.log (.slept idle)) := by
      simp [listen, OptionTable.isOn, off]
    cases ran.symm.trans slept
    exact ⟨rfl, rfl⟩
  · have listens : shell.Listens fired after := by
      have turn := listens_listen on idle
      rwa [ran] at turn
    refine ⟨listens.keys_eq, listens.fired_iff, listens.eq_requeue_of_none, fun slot text named bound => ?_⟩
    obtain ⟨refused, runs⟩ := listens.eq_of_some named bound
    refine ⟨refused, fun command parsed => ?_⟩
    obtain ⟨rest, rfl⟩ := runs command parsed
    obtain ⟨effects, same⟩ := dispatch_effects command 1 shell
    have grown : (shell.dispatch command 1).journal = shell.journal ++ effects :=
      congrArg Shell.journal (same shell.journal)
    refine ⟨effects, grown, fun register held => ?_⟩
    obtain ⟨effects', grown', recalled⟩ := executeLine_recall held parsed
    obtain rfl : effects' = effects := Array.append_right_inj shell.journal |>.mp (grown'.symm.trans grown)
    rw [recalled, requeue_back]

/-- A key is pressed with shift, and what is bound to its character recalls a register that moves the cursor. -/
theorem listen_recalls_shifted :
    let shell : Shell VirtualDevice :=
      { device := (VirtualDevice.ofSize 640 480).inject ⟨'1', true⟩ |>.inject ⟨'x', false⟩, dotfile := "rc"
        hotkeys := SlotTable.empty.set ⟨1, by decide⟩ "# b"
        registers := (SlotTable.empty.set ⟨0, by decide⟩ "# b").set ⟨1, by decide⟩ "M 3 4" }
    let after := (shell.listen 0).2
    shell.listen 0 = (some '!', after) ∧ after.keys = [⟨'x', false⟩] ∧ after.device.cursor = (3, 4) ∧
      ∃ effects, after.journal = shell.journal ++ effects ∧
        shell.executeLine "# a" =
          { after.requeue shell.device.pending with
            journal := shell.journal ++ #[.dispatched 0 ⟨'#', "#", ["a"]⟩] ++
              #[.line "Recalling command in register 'a': # b"] ++ effects } := by
  intro shell after
  have fires : shell.listen 0 = (some '!', after) := Prod.ext (by decide +kernel) rfl
  have on : shell.options.get .hotkeys = "true" := rfl
  obtain ⟨taken, -, -, runs⟩ := (listen_recalls fires).2 on
  obtain ⟨effects, grown, recalled⟩ :=
    (runs ⟨1, by decide⟩ "# b" rfl rfl).2 ⟨'#', "#", ["b"]⟩ (by decide)
  refine ⟨fires, taken, by decide +kernel, effects, grown, recalled ⟨0, by decide⟩ rfl⟩

end Shell
end MacroShell
