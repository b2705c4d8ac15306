import MacroShell.Proofs.Coupling

/-! # Invariants

A property of shells that everything a verb does by itself keeps is kept by every command, whatever
it recalls.  This is the coupling that compares a shell to itself.
-/

namespace MacroShell

variable {δ : Type}

/-- A property of shells that verbs keep as long as the texts that they are given are `Fine`. -/
structure Invariant (δ : Type) where
  Inv : Shell δ → Prop
  Fine : String → Prop
  hereditary : Hereditary Fine
  holds : ∀ {s}, Inv s → s.Holds Fine
  change : ∀ {s change}, Inv s → Change.Holds Fine change → Inv (s.make change)
  log : ∀ {s effect}, Inv s → effect.isDispatch = false → (∀ path content, effect ≠ .saved path content) →
    Inv (s.log effect)
  quit : ∀ {s}, Inv s → Inv { s with quit := true }
  save : ∀ {s path files}, Inv s → s.files.write path s.script = .ok files →
    Inv ({ s with files }.log (.saved path s.script))

namespace Invariant

variable (I : Invariant δ)

theorem notice {s : Shell δ} (text : String) (inv : I.Inv s) : I.Inv (s.notice text) := by
  unfold Shell.notice
  split
  · exact inv
  · exact I.log inv rfl (by simp)

theorem conclude {s : Shell δ} (result : Except ShellError Output) (inv : I.Inv s) :
    I.Inv (s.conclude result) := by
  rcases result with e | output
  · exact I.notice _ (I.log inv rfl (by simp))
  · cases output with
    | text text => exact I.log inv rfl (by simp)
    | notice text => exact I.notice text inv
    | none => exact inv
    | quit =>
        have quits := I.quit inv
        unfold Shell.conclude Shell.requestQuit
        dsimp only
        split
        · exact I.log quits rfl (by simp)
        · exact quits

theorem store (path : String) :
    Coupled (fun s t => s = t ∧ I.Inv s) (fun _ _ => True) (Execute.store path) (Execute.store path) := by
  rintro s _ ⟨rfl, inv⟩
  unfold Execute.store
  cases written : s.files.write path s.script with
  | ok files => exact .ok trivial ⟨rfl, I.save inv written⟩
  | error e => exact .error ⟨rfl, inv⟩

def coupling [InputDevice δ] : Coupling δ where
  Alike s t := s = t ∧ I.Inv s
  Near := (· = ·)
  Fine := I.Fine
  Line a b := a = b ∧ I.Fine a
  Said := (· = ·)
  hereditary := I.hereditary
  respects := .refl
  agree := by
    rintro s _ ⟨rfl, -⟩
    exact ⟨rfl, rfl, fun _ _ => rfl, rfl, rfl, rfl, rfl⟩
  near alike := congrArg Shell.device alike.1
  holds alike := I.holds alike.2
  change := by
    rintro s _ change ⟨rfl, inv⟩ fine -
    exact ⟨rfl, I.change inv fine⟩
  device := by
    rintro s _ device _ ⟨rfl, inv⟩ rfl
    have fine : (Change.device device).Holds I.Fine := trivial
    exact ⟨rfl, I.change inv fine⟩
  notice := by
    rintro s _ text ⟨rfl, inv⟩
    exact ⟨rfl, I.notice text inv⟩
  fail := by
    rintro s _ e ⟨rfl, inv⟩
    exact ⟨rfl, I.conclude _ inv⟩
  said_refl _ := rfl
  conclude := by
    rintro s _ output _ ⟨rfl, inv⟩ rfl
    exact ⟨rfl, I.conclude _ inv⟩
  said_options alike text := by rw [alike.1]
  store := I.store
  line fine := ⟨rfl, fine⟩
  blank same := by rw [same.1]
  reads := by
    rintro s _ path ⟨rfl, -⟩
    cases s.files.read path with
    | ok content => exact .ok (List.forall₂_same.mpr fun _ member => ⟨rfl, I.hereditary.lines member⟩)
    | error e => exact .error e

variable [InputDevice δ]

/-- An action that keeps the invariant, whether it ends well or fails. -/
def Keeps {α : Type} (action : ShellM δ α) : Prop :=
  Coupled I.coupling.Alike (fun _ _ => True) action action

variable {s : Shell δ}

theorem dispatchWith {runText : String → ShellM δ Unit} (runs : ∀ text, I.Fine text → I.Keeps (runText text))
    {command : Command} (fine : command.Holds I.Fine) {depth : Nat}
    (inv : I.Inv (s.log (.dispatched depth command))) : I.Inv (s.dispatchWith runText depth command) := by
  have both : ∀ a b, I.coupling.Line a b → Coupled I.coupling.Alike (fun _ _ => True) (runText a) (runText b) := by
    rintro a _ ⟨rfl, fine⟩
    exact runs a fine
  exact (Coupling.dispatchWith (C := I.coupling) both fine ⟨rfl, inv⟩).2

theorem dispatch (logged : ∀ {s} depth command, I.Inv s → I.Inv (s.log (.dispatched depth command)))
    {command : Command} (fine : command.Holds I.Fine) (depth : Nat) (inv : I.Inv s) :
    I.Inv (s.dispatch command depth) := by
  refine (Coupling.dispatch (C := I.coupling) (s := s) (t := s) .inl ?_ fine depth ⟨rfl, inv⟩).2
  rintro s _ depth command ⟨rfl, inv⟩
  exact ⟨rfl, logged depth command inv⟩

end Invariant
end MacroShell
