import Mathlib.Data.Nat.ModEq
import MacroShell.Proofs.Failures
import MacroShell.Proofs.Moments
import MacroShell.Proofs.Slots

/-! # Clicks are counted once

A `C` whose click succeeds adds one to the counter, and no other verb touches it.  A sample takes the
counter down to zero and tells what it was.  So in every run the samples and the counter together account
for the clicks, up to the wrapping of the counter.
-/

namespace MacroShell

variable {δ α β : Type}

/-! ## Verbs that count nothing -/

namespace ShellM

/-- The action leaves the counter as it is, whether it ends well or fails. -/
def KeepsClicks (action : ShellM δ α) : Prop := ∀ shell, (action.after shell).clicks = shell.clicks

namespace KeepsClicks

theorem ofPure (a : α) : KeepsClicks (pure a : ShellM δ α) := fun _ => rfl

theorem bind {action : ShellM δ α} {next : α → ShellM δ β} (first : action.KeepsClicks)
    (second : ∀ a, (next a).KeepsClicks) : (action >>= next).KeepsClicks := by
  intro shell
  have start := first shell
  cases ran : action shell with
  | ok a middle =>
      rw [after_of_ok ran] at start
      rw [after_bind_ok ran, second a middle, start]
  | error e middle =>
      rw [after_of_error ran] at start
      rw [after_bind_error ran, start]

theorem onDevice (action : EStateM ShellError δ α) : KeepsClicks (ShellM.onDevice action) := by
  intro shell
  unfold after ShellM.onDevice
  cases action shell.device <;> rfl

theorem store (path : String) : KeepsClicks (Execute.store path : ShellM δ Unit) := by
  intro shell
  unfold after Execute.store
  cases shell.files.write path shell.script <;> rfl

end KeepsClicks
end ShellM

section Deed

variable [InputDevice δ] {verb : Verb} (other : verb ≠ .button .tap)
include other

theorem Deed.keepsClicks_perform {deed : Deed δ} (fits : deed.Fits (fun _ => True) verb) :
    deed.perform.KeepsClicks := by
  cases deed with
  | refuse | say | list => exact fun _ => rfl
  | make change output => exact fits.2.2
  | act | typing => exact .bind (.onDevice _) fun _ => .ofPure _
  | click button => exact absurd fits other
  | locate output => exact .bind (.onDevice _) fun _ _ => rfl
  | store path output => exact .bind (.store path) fun _ => .ofPure output

theorem Execute.keepsClicks_run (leaf : verb.recalls = false) (runText : String → ShellM δ Unit)
    (operands : List String) : (run runText verb operands).KeepsClicks := by
  intro shell
  obtain ⟨deed, fits, does⟩ := run_eq_perform leaf operands shell
  have kept := Deed.keepsClicks_perform other fits shell
  unfold ShellM.after at kept ⊢
  rw [does runText]
  exact kept

end Deed

/-! ## The verb that counts -/

/-- `C` and only `C` is the opcode of the verb that clicks. -/
theorem Registry.tap_iff_opcode {opcode : Char} {entry : VerbEntry} (found : builtin.lookup opcode = some entry) :
    entry.verb = .button .tap ↔ opcode = 'C' := by
  obtain ⟨listed, owned⟩ := mem_of_lookup found
  have each : ∀ entry ∈ VerbEntry.builtins, entry.aliases.all fun opcode =>
      decide (entry.verb = .button .tap ↔ opcode = 'C') := by decide
  exact of_decide_eq_true (List.all_eq_true.mp (each entry listed) opcode owned)

theorem Shell.clicks_conclude (shell : Shell δ) (result : Except ShellError Output) :
    (shell.conclude result).clicks = shell.clicks := by
  have noticed (shell : Shell δ) (text : String) : (shell.notice text).clicks = shell.clicks := by
    unfold Shell.notice
    split <;> rfl
  rcases result with e | output
  · exact noticed _ _
  · cases output with
    | text | none => rfl
    | notice text => exact noticed _ _
    | quit =>
        unfold Shell.conclude Shell.requestQuit
        dsimp only
        split <;> rfl

theorem Shell.clicks_settle (action : ShellM δ Output) (shell : Shell δ) :
    (settle (action shell)).clicks = (action.after shell).clicks := by
  cases ran : action shell with
  | ok output after =>
      rw [ShellM.after_of_ok ran]
      exact after.clicks_conclude _
  | error e after =>
      rw [ShellM.after_of_error ran]
      exact after.clicks_conclude _

/-- The command is a `C`, and its click, the press and the release, succeeds on the device. -/
def Command.clickSucceeds [InputDevice δ] (command : Command) (device : δ) : Bool :=
  command.opcode = 'C' &&
    match command.operands with
    | [arg] =>
      match MouseButton.parse arg with
      | .ok button =>
        match InputDevice.click button device with
        | .ok _ _ => true
        | .error _ _ => false
      | .error _ => false
    | _ => false

namespace Shell

variable [InputDevice δ]

theorem clicks_strokeButton_tap {arg : String} {command : Command} (clicking : command.opcode = 'C')
    (given : command.operands = [arg]) (shell : Shell δ) :
    ((Execute.strokeButton .tap arg).after shell).clicks =
      shell.clicks + if command.clickSucceeds shell.device then 1 else 0 := by
  cases parsed : MouseButton.parse arg with
  | error e =>
      have rejected : command.clickSucceeds shell.device = false := by simp [Command.clickSucceeds, given, parsed]
      rw [rejected, Execute.strokeButton, parsed]
      exact (UInt64.add_zero _).symm
  | ok button =>
      rw [Execute.strokeButton, ShellM.after_bind_ok (ShellM.check_ok parsed shell)]
      cases clicked : InputDevice.click button shell.device with
      | ok _ device =>
          have counts : command.clickSucceeds shell.device = true := by
            simp [Command.clickSucceeds, clicking, given, parsed, clicked]
          rw [counts, ShellM.after_bind_ok (ShellM.onDevice_ok clicked)]
          rfl
      | error e device =>
          have broken : command.clickSucceeds shell.device = false := by
            simp [Command.clickSucceeds, given, parsed, clicked]
          rw [broken, ShellM.after_bind_error (ShellM.onDevice_error clicked)]
          exact (UInt64.add_zero _).symm

theorem clicks_dispatch_other {command : Command} (leaf : command.recalls = false) (other : command.opcode ≠ 'C')
    (depth : Nat) (shell : Shell δ) : (shell.dispatch command depth).clicks = shell.clicks := by
  unfold dispatch
  cases found : Registry.builtin.lookup command.opcode with
  | none => rw [dispatchWith_unknown found, log]
  | some entry =>
      cases accepted : entry.arity.accepts command.operands.length with
      | false => rw [dispatchWith_refused found accepted, clicks_conclude, log]
      | true =>
          have acts : entry.verb.recalls = false := by simpa [Command.recalls, found] using leaf
          have keeps := Execute.keepsClicks_run (mt (Registry.tap_iff_opcode found).mp other) acts
            (recallText depth : String → ShellM δ Unit) command.operands
          rw [dispatchWith_accepted found accepted, clicks_settle, keeps, log]

theorem clicks_dispatch {command : Command} (leaf : command.recalls = false) (depth : Nat) (shell : Shell δ) :
    (shell.dispatch command depth).clicks =
      shell.clicks + if command.clickSucceeds shell.device then 1 else 0 := by
  by_cases clicking : command.opcode = 'C'
  · obtain ⟨entry, found, same⟩ := Option.map_eq_some_iff.mp
      (by decide : selection 'C' = some (.button .tap, .exactly 1))
    rw [← clicking] at found
    obtain ⟨tap, one⟩ := Prod.mk.inj same
    unfold dispatch
    match given : command.operands with
    | [arg] =>
        have accepted : entry.arity.accepts command.operands.length = true := by rw [one, given]; rfl
        rw [dispatchWith_accepted found accepted, clicks_settle, tap, given, Execute.run,
          clicks_strokeButton_tap clicking given, log]
    | [] | _ :: _ :: _ =>
        have refused : entry.arity.accepts command.operands.length = false := by
          simp [one, given, Arity.accepts]
        have rejected : command.clickSucceeds shell.device = false := by simp [Command.clickSucceeds, given]
        rw [dispatchWith_refused found refused, clicks_conclude, rejected]
        exact (UInt64.add_zero _).symm
  · have other : command.clickSucceeds shell.device = false := by simp [Command.clickSucceeds, clicking]
    rw [clicks_dispatch_other leaf clicking, other]
    exact (UInt64.add_zero _).symm

end Shell

/-! ## The account of a run -/

namespace Moment

/-- The moment is that of a `C` whose click succeeds. -/
def clicked [InputDevice δ] : Moment δ → Bool
  | dispatch shell _ command => command.clickSucceeds shell.device
  | sample _ => false

/-- The count that is returned, if the moment is that of a sample. -/
def counted : Moment δ → Nat
  | dispatch _ _ _ => 0
  | sample shell => shell.sample.1.toNat

variable [InputDevice δ]

theorem clicks_after_dispatch (shell : Shell δ) (depth : Nat) (command : Command) :
    (dispatch shell depth command).after.clicks =
      shell.clicks + if command.clickSucceeds shell.device then 1 else 0 := by
  cases recalls : command.recalls with
  | false => rw [after_leaf recalls, Shell.clicks_dispatch recalls]
  | true =>
      have other : command.clickSucceeds shell.device = false := by
        have notC : command.opcode ≠ 'C' := by
          intro clicking
          rw [Command.recalls, clicking] at recalls
          revert recalls
          decide
        simp [Command.clickSucceeds, notC]
      rw [after_recalls recalls, other]
      exact (UInt64.add_zero _).symm

theorem clicks_after (moment : Moment δ) :
    moment.counted + moment.after.clicks.toNat ≡
      moment.shell.clicks.toNat + (if moment.clicked then 1 else 0) [MOD 2 ^ 64] := by
  cases moment with
  | dispatch shell depth command =>
      rw [clicks_after_dispatch]
      cases succeeds : command.clickSucceeds shell.device with
      | false => simp [counted, clicked, succeeds, Moment.shell]; rfl
      | true =>
          simp only [counted, clicked, succeeds, if_true, Nat.zero_add, UInt64.toNat_add]
          exact Nat.mod_modEq _ _
  | sample shell =>
      have reset : shell.sample.2.clicks = 0 := by
        unfold Shell.sample
        dsimp only
        split <;> rfl
      have told : shell.sample.1 = shell.clicks := by
        unfold Shell.sample
        dsimp only
        split <;> rfl
      simp only [counted, after, clicked, reset, told, Moment.shell]
      rfl

end Moment

theorem Between.clicks {before after : Shell δ} (between : Between before after) : after.clicks = before.clicks := by
  cases between <;> rfl

/-- On the course.  A moment adds what it counts on the one side and whether it clicks on the other. -/
theorem Course.clicks [InputDevice δ] {start shell : Shell δ} {moments : List (Moment δ)}
    (course : Course start moments shell) :
    (moments.map Moment.counted).sum + shell.clicks.toNat ≡
      start.clicks.toNat + moments.countP Moment.clicked [MOD 2 ^ 64] := by
  induction course with
  | refl => simp; rfl
  | between _ change ih =>
      rw [change.clicks]
      exact ih
  | @moment moments moment _ ih =>
      simp only [List.map_append, List.sum_append, List.map_singleton, List.sum_singleton, List.countP_append,
        List.countP_singleton]
      calc (moments.map Moment.counted).sum + moment.counted + moment.after.clicks.toNat
          = (moments.map Moment.counted).sum + (moment.counted + moment.after.clicks.toNat) := by omega
        _ ≡ (moments.map Moment.counted).sum + (moment.shell.clicks.toNat + if moment.clicked then 1 else 0)
            [MOD 2 ^ 64] := moment.clicks_after.add_left _
        _ = (moments.map Moment.counted).sum + moment.shell.clicks.toNat + if moment.clicked then 1 else 0 := by
            omega
        _ ≡ start.clicks.toNat + moments.countP Moment.clicked + if moment.clicked then 1 else 0
            [MOD 2 ^ 64] := ih.add_right _
        _ = start.clicks.toNat + (moments.countP Moment.clicked + if moment.clicked then 1 else 0) := by omega

/-! ## What a sample publishes -/

theorem OptionTable.getNamed_clickRate_iff (options : OptionTable) :
    options.getNamed "enable_cps_register" = .ok "true" ↔ options.isOn .clickRate = true := by
  have key : OptionKey.ofName? "enable_cps_register" = some .clickRate := by decide
  rw [getNamed, key, isOn, decide_eq_true_iff]
  exact ⟨fun same => Except.ok.inj same, fun same => congrArg Except.ok same⟩

theorem Slot.clickRate_eq_iff (slot : Slot .register) : clickRate = slot ↔ slot.char = 'C' := by
  constructor
  · rintro rfl
    decide
  · intro named
    have found := slot.ofChar?_char
    rw [named] at found
    exact Option.some.inj ((by decide : some clickRate = ofChar? .register 'C').trans found)

namespace Shell

theorem registers_sample (shell : Shell δ) :
    shell.sample.2.registers =
      if shell.options.isOn .clickRate then
        shell.registers.set Slot.clickRate (toString shell.sample.1.toNat)
      else shell.registers := by
  unfold sample
  dsimp only
  split <;> rfl

variable [InputDevice δ] [KeySource δ]

/-- A run takes its course from moment to moment, and the commands at these are those that the journal
    shows.  At each of them and at the end, the counts that samples have returned so far and the counter
    together are the clicks that have succeeded so far, and those counted before the run, modulo the range
    of the counter.  The same holds on every course that a shell can take from moment to moment, whatever
    samples fall between the commands that one recall or one load runs.  A sample publishes its count in
    register `C` if the option is exactly `true`, and otherwise leaves all registers as they are. -/
theorem performAll_clicks (start : Shell δ) (steps : List (Step δ)) :
    let moments := start.moments steps
    let after := start.performAll steps
    Course start moments after ∧ start.Dispatches (moments.filterMap Moment.dispatch?) after ∧
    (moments.map Moment.counted).sum + after.clicks.toNat ≡
      start.clicks.toNat + moments.countP Moment.clicked [MOD 2 ^ 64] ∧
    (∀ earlier moment later, moments = earlier ++ moment :: later →
      (earlier.map Moment.counted).sum + moment.shell.clicks.toNat ≡
        start.clicks.toNat + earlier.countP Moment.clicked [MOD 2 ^ 64]) ∧
    (∀ moments shell, Course start moments shell →
      (moments.map Moment.counted).sum + shell.clicks.toNat ≡
        start.clicks.toNat + moments.countP Moment.clicked [MOD 2 ^ 64] ∧
      ∀ earlier moment later, moments = earlier ++ moment :: later →
        (earlier.map Moment.counted).sum + moment.shell.clicks.toNat ≡
          start.clicks.toNat + earlier.countP Moment.clicked [MOD 2 ^ 64]) ∧
    ∀ shell : Shell δ,
      (shell.options.getNamed "enable_cps_register" = .ok "true" → ∀ slot,
        shell.sample.2.registers.get? slot =
          if slot.char = 'C' then some (toString shell.sample.1.toNat) else shell.registers.get? slot) ∧
      (shell.options.getNamed "enable_cps_register" ≠ .ok "true" →
        shell.sample.2.registers = shell.registers) := by
  intro moments after
  have course : Course start moments after := course_performAll steps start
  have reached {moments : List (Moment δ)} {shell : Shell δ} (course : Course start moments shell) :
      ∀ earlier moment later, moments = earlier ++ moment :: later →
        (earlier.map Moment.counted).sum + moment.shell.clicks.toNat ≡
          start.clicks.toNat + earlier.countP Moment.clicked [MOD 2 ^ 64] := by
    rintro earlier moment later rfl
    exact course.reach.clicks
  refine ⟨course, course.dispatches, course.clicks, reached course, ?_, ?_⟩
  · exact fun moments shell other => ⟨other.clicks, reached other⟩
  · intro shell
    rw [Ne, OptionTable.getNamed_clickRate_iff, registers_sample]
    constructor
    · intro on slot
      simp only [on, if_true, SlotTable.get?_set, Slot.clickRate_eq_iff]
    · intro off
      rw [if_neg off]

/-- Register `a` clicks.  It is recalled twice, then a button is named that does not exist, and a sample is
    taken.  A repetition clicks twice more.  Then the device breaks, and a last recall fails.  On another
    course a sample falls between the two clicks of a single recall. -/
theorem performAll_clicks_replayed :
    let start : Shell (FaultyDevice VirtualDevice) :=
      { device := ⟨default, []⟩, dotfile := "rc", options := { clickRate := "true" } }
    let before : List (Step (FaultyDevice VirtualDevice)) :=
      [.execute "@ a C 0", .execute "# a a", .execute "C 9"]
    let steps := before ++ [.sample, .execute "* 2 a", .round false 9,
      .device fun device => { device with broken := [.releaseButton] }, .execute "# a"]
    let shell := start.performAll before
    let recalled : Moment (FaultyDevice VirtualDevice) := .dispatch start 0 ⟨'#', "#", ["a", "a"]⟩
    let first : Moment (FaultyDevice VirtualDevice) := .dispatch recalled.after 1 ⟨'C', "C", ["0"]⟩
    let sampled : Moment (FaultyDevice VirtualDevice) := .sample first.after
    let second : Moment (FaultyDevice VirtualDevice) := .dispatch sampled.after 1 ⟨'C', "C", ["0"]⟩
    let inside := [recalled, first, sampled, second]
    (start.moments steps).length = 11 ∧ (start.moments steps).countP Moment.clicked = 4 ∧
      ((start.moments steps).map Moment.counted).sum = 2 ∧ (start.performAll steps).clicks = 2 ∧
      ((start.moments steps).map Moment.counted).sum + (start.performAll steps).clicks.toNat ≡
        start.clicks.toNat + (start.moments steps).countP Moment.clicked [MOD 2 ^ 64] ∧
      shell.options.getNamed "enable_cps_register" = .ok "true" ∧
      shell.sample.2.registers.get? Slot.clickRate = some (toString shell.sample.1.toNat) ∧
      inside.countP Moment.clicked = 2 ∧ (inside.map Moment.counted).sum = 1 ∧
      (inside.map Moment.counted).sum + second.after.clicks.toNat ≡
        start.clicks.toNat + inside.countP Moment.clicked [MOD 2 ^ 64] := by
  intro start before steps shell recalled first sampled second inside
  obtain ⟨-, -, account, -, courses, published⟩ := performAll_clicks start steps
  have on : shell.options.getNamed "enable_cps_register" = .ok "true" :=
    (OptionTable.getNamed_clickRate_iff _).mpr (by decide +kernel)
  have shown := (published shell).1 on Slot.clickRate
  rw [if_pos (by decide)] at shown
  have course : Course start ([] ++ [recalled] ++ [first] ++ [sampled] ++ [second]) second.after :=
    .moment (.moment (.moment (.moment .refl)))
  exact ⟨by decide +kernel, by decide +kernel, by decide +kernel, by decide +kernel, account, on, shown,
    by decide +kernel, by decide +kernel, (courses _ _ course).1⟩

end Shell
end MacroShell
