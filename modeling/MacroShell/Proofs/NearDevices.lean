import MacroShell.Proofs.History
import MacroShell.Proofs.Runs

/-! # Shells with near devices

A shell knows its device by what the device answers.  Take two devices that are near each other, in any sense
that all operations keep, so that they give the same answers and stay near.  Two shells that have one of them
each, and are the same otherwise, do the same in every run.

With a device compared to itself this says what the device goes through in a run: nothing but its operations.
-/

namespace MacroShell.Shell

variable {δ : Type} [InputDevice δ] {Near : δ → δ → Prop} (respects : InputDevice.Respects Near)
  {shell : Shell δ} {device : δ} (near : Near shell.device device)
include respects near

theorem dispatch_near (command : Command) (depth : Nat) :
    ∃ device', { shell with device }.dispatch command depth =
        { shell.dispatch command depth with device := device' } ∧
      Near (shell.dispatch command depth).device device' := by
  have alike : shell.OutsideLike Near (· = ·) { shell with device } := ⟨device, _, rfl, near, rfl⟩
  have logged {s t : Shell δ} (depth : Nat) (command : Command) (alike : s.OutsideLike Near (· = ·) t) :
      (s.log (.dispatched depth command)).OutsideLike Near (· = ·) (t.log (.dispatched depth command)) := by
    obtain ⟨device, _, rfl, near, rfl⟩ := alike
    exact ⟨device, _, rfl, near, rfl⟩
  obtain ⟨device', _, same, near', rfl⟩ := Coupling.dispatch (C := .ofOutside extensible_eq respects)
    (fun line => .inl ⟨line, trivial⟩) logged (fun _ _ => trivial) depth alike
  exact ⟨device', same, near'⟩

/-- What happens to the devices apart from what the shells do has to keep them near as well, and the same keys
    have to wait at near devices. -/
theorem performAll_near [KeySource δ]
    (keys : ∀ {d e}, Near d e →
      Option.Rel (fun a b => a.1 = b.1 ∧ Near a.2 b.2) (KeySource.nextKey d) (KeySource.nextKey e))
    {steps : List (Step δ)} (meanwhile : ∀ step ∈ steps, step.Respects Near) :
    ∃ device', { shell with device }.performAll steps = { shell.performAll steps with device := device' } ∧
      Near (shell.performAll steps).device device' := by
  have alike : shell.OutsideLike Near (· = ·) { shell with device } := ⟨device, _, rfl, near, rfl⟩
  have lasting : (Coupling.ofOutside extensible_eq respects).Lasting := by
    refine ⟨⟨?_, ?_⟩, keys⟩
    · rintro command s _ depth - ⟨device, _, rfl, near, rfl⟩
      obtain ⟨device', same, near'⟩ := dispatch_near respects near command depth
      exact ⟨device', _, same, near', rfl⟩
    · rintro s _ files ⟨device, journal, rfl, near, same⟩
      exact ⟨device, journal, rfl, near, same⟩
  obtain ⟨device', _, same, near', rfl⟩ := lasting.performAll (fun step _ => step.holds_trivial) meanwhile alike
  exact ⟨device', same, near'⟩

end MacroShell.Shell
