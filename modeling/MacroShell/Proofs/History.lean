import MacroShell.Proofs.Coupling

/-! # What happened before does not matter

The journal of a shell is written and never read, and its device is known by its answers only.  Shells
that differ in nothing else therefore do the same.  In particular a shell with a longer past does the same as
one without: the same outcome, the same state, and the same effects after that past.
-/

namespace MacroShell

variable {δ α : Type}

theorem Shell.notice_eq (shell : Shell δ) (text : String) :
    shell.notice text =
      { shell with
        journal := shell.journal ++ if shell.options.isOn .quiet then #[] else #[.line text] } := by
  unfold notice
  split
  · rw [Array.append_empty]
  · rfl

/-! ## Shells that differ in their devices and journals -/

/-- A relation of journals that lasts while both go on alike.  Dispatches are left out: they are
    logged with their depths, which need not be the same. -/
def Extensible (Like : Array Effect → Array Effect → Prop) : Prop :=
  ∀ j k effect, Like j k → effect.isDispatch = false → Like (j.push effect) (k.push effect)

/-- Shells that differ in nothing but their devices and journals, which are related to each other. -/
def Shell.OutsideLike (Near : δ → δ → Prop) (Like : Array Effect → Array Effect → Prop) (s t : Shell δ) :
    Prop :=
  ∃ device journal, t = { s with device, journal } ∧ Near s.device device ∧ Like s.journal journal

/-- Shells that differ in nothing but their journals, which are related to each other. -/
def Shell.JournalsLike (Like : Array Effect → Array Effect → Prop) (s t : Shell δ) : Prop :=
  ∃ journal, t = { s with journal } ∧ Like s.journal journal

section OutsideLike

variable {Near : δ → δ → Prop} {Like : Array Effect → Array Effect → Prop} (extensible : Extensible Like)
  {s t : Shell δ}

theorem Shell.journalsLike_eq : JournalsLike Like = OutsideLike (δ := δ) (· = ·) Like := by
  funext s t
  apply propext
  constructor
  · rintro ⟨journal, rfl, like⟩
    exact ⟨s.device, journal, rfl, rfl, like⟩
  · rintro ⟨_, journal, rfl, rfl, like⟩
    exact ⟨journal, rfl, like⟩

namespace Shell.OutsideLike

theorem state_eq (alike : s.OutsideLike Near Like t) : s.toState = t.toState := by
  obtain ⟨device, journal, rfl, -⟩ := alike
  rfl

theorem agree (alike : s.OutsideLike Near Like t) : s.AgreeOffDevice t := by
  obtain ⟨device, journal, rfl, -⟩ := alike
  exact ⟨rfl, rfl, fun _ _ => rfl, rfl, rfl, rfl, rfl⟩

theorem near (alike : s.OutsideLike Near Like t) : Near s.device t.device := by
  obtain ⟨device, journal, rfl, near, -⟩ := alike
  exact near

include extensible

theorem log {effect : Effect} (own : effect.isDispatch = false) (alike : s.OutsideLike Near Like t) :
    (s.log effect).OutsideLike Near Like (t.log effect) := by
  obtain ⟨device, journal, rfl, near, like⟩ := alike
  exact ⟨device, journal.push effect, rfl, near, extensible _ _ effect like own⟩

theorem notice (text : String) (alike : s.OutsideLike Near Like t) :
    (s.notice text).OutsideLike Near Like (t.notice text) := by
  unfold Shell.notice
  rw [alike.state_eq]
  split
  · exact alike
  · exact alike.log extensible rfl

theorem requestQuit (alike : s.OutsideLike Near Like t) :
    s.requestQuit.OutsideLike Near Like t.requestQuit := by
  obtain ⟨device, journal, rfl, near, like⟩ := alike
  have quits : OutsideLike Near Like { s with quit := true } { s with quit := true, device, journal } :=
    ⟨device, journal, rfl, near, like⟩
  unfold Shell.requestQuit
  dsimp only
  split
  · exact quits.log extensible rfl
  · exact quits

theorem conclude (result : Except ShellError Output) (alike : s.OutsideLike Near Like t) :
    (s.conclude result).OutsideLike Near Like (t.conclude result) := by
  rcases result with e | output
  · exact (alike.log extensible rfl).notice extensible _
  · cases output with
    | text text => exact alike.log extensible rfl
    | notice text => exact alike.notice extensible text
    | none => exact alike
    | quit => exact alike.requestQuit extensible

theorem make {change : Change δ} (off : change.OffDevice) (alike : s.OutsideLike Near Like t) :
    (s.make change).OutsideLike Near Like (t.make change) := by
  cases change with
  | device => exact off.elim
  | sleep milliseconds => exact alike.log extensible rfl
  | clicks | register | hotkey | option | tasks =>
      obtain ⟨device, journal, rfl, near, like⟩ := alike
      exact ⟨device, journal, rfl, near, like⟩

theorem store (path : String) :
    Coupled (OutsideLike Near Like) (fun _ _ => True) (Execute.store path) (Execute.store path) := by
  rintro s _ ⟨device, journal, rfl, near, like⟩
  unfold Execute.store
  dsimp only
  cases s.files.write path s.script with
  | error e => exact .error ⟨device, journal, rfl, near, like⟩
  | ok files =>
      have written : OutsideLike Near Like { s with files } { s with files, device, journal } :=
        ⟨device, journal, rfl, near, like⟩
      exact .ok trivial (written.log extensible rfl)

end Shell.OutsideLike

namespace Coupling

variable [InputDevice δ]

def ofOutside (respects : InputDevice.Respects Near) : Coupling δ where
  Alike := Shell.OutsideLike Near Like
  Near := Near
  Fine _ := True
  Line := (· = ·)
  Said := (· = ·)
  hereditary := .trivial
  respects := respects
  agree alike := alike.agree
  near alike := alike.near
  holds _ := Shell.holds_trivial _
  change alike _ off := alike.make extensible off
  device := by
    rintro s _ d e ⟨_, journal, rfl, -, like⟩ near
    exact ⟨e, journal, rfl, near, like⟩
  notice text alike := alike.notice extensible text
  fail e alike := alike.conclude extensible (.error e)
  said_refl _ := rfl
  conclude := by
    rintro s t output _ alike rfl
    exact alike.conclude extensible (.ok output)
  said_options alike text := by rw [alike.state_eq]
  store := Shell.OutsideLike.store extensible
  line _ := rfl
  blank same := by rw [same]
  reads := by
    rintro s _ path ⟨device, journal, rfl, -⟩
    dsimp only
    cases s.files.read path with
    | ok content => exact .ok (List.forall₂_same.mpr fun _ _ => rfl)
    | error e => exact .error e

/-- The same coupling, with alike shells described in another way. -/
def redescribe (C : Coupling δ) {Alike : Shell δ → Shell δ → Prop} (same : Alike = C.Alike) : Coupling δ :=
  { C with
    Alike
    agree := same ▸ C.agree
    near := same ▸ C.near
    holds := same ▸ C.holds
    change := same ▸ C.change
    device := same ▸ C.device
    notice := same ▸ C.notice
    fail := same ▸ C.fail
    conclude := same ▸ C.conclude
    said_options := same ▸ C.said_options
    store := same ▸ C.store
    reads := same ▸ C.reads }

def ofJournals : Coupling δ := (ofOutside extensible .refl).redescribe Shell.journalsLike_eq

end Coupling

end OutsideLike

/-! ## An earlier past -/

namespace Shell

/-- The shell with an earlier past. -/
def after (past : Array Effect) (shell : Shell δ) : Shell δ :=
  { shell with journal := past ++ shell.journal }

theorem extensible_eq : Extensible (· = ·) := by
  rintro j _ effect rfl -
  rfl

theorem extensible_append (past : Array Effect) : Extensible fun j k => k = past ++ j := by
  rintro j _ effect rfl -
  exact Array.append_push.symm

variable [InputDevice δ]

theorem after_dispatch (past : Array Effect) (command : Command) (depth : Nat) (shell : Shell δ) :
    (shell.after past).dispatch command depth = (shell.dispatch command depth).after past := by
  let C : Coupling δ := .ofJournals (extensible_append past)
  have logged {s t : Shell δ} (depth : Nat) (command : Command) (alike : C.Alike s t) :
      C.Alike (s.log (.dispatched depth command)) (t.log (.dispatched depth command)) := by
    obtain ⟨_, rfl, rfl⟩ := alike
    exact ⟨_, rfl, Array.append_push.symm⟩
  have alike : C.Alike shell (shell.after past) := ⟨_, rfl, rfl⟩
  obtain ⟨_, same, rfl⟩ := Coupling.dispatch (C := C) (fun line => .inl ⟨line, trivial⟩) logged
    (fun _ _ => trivial) depth alike
  exact same

/-- The effects of a dispatch are the same whatever the journal holds before it, and so is
    everything else that it leaves behind. -/
theorem dispatch_effects (command : Command) (depth : Nat) (shell : Shell δ) :
    ∃ effects, ∀ journal, { shell with journal : Shell δ }.dispatch command depth =
      { shell.dispatch command depth with journal := journal ++ effects } := by
  let bare : Shell δ := { shell with journal := #[] }
  have split (journal : Array Effect) : { shell with journal : Shell δ } = bare.after journal := by
    simp [bare, after]
  refine ⟨(bare.dispatch command depth).journal, fun journal => ?_⟩
  have whole : shell.dispatch command depth = (bare.dispatch command depth).after shell.journal := by
    rw [← after_dispatch, ← split]
  rw [split, after_dispatch, whole]
  rfl

end Shell
end MacroShell
