import MacroShell.Device.Virtual
import MacroShell.Proofs.History
import MacroShell.Proofs.Nesting

/-! # The depth shows only at the limit

How deep a command stands is compared to the limit and otherwise only logged.  A deep run and a run
that starts less deep therefore go on side by side until a recall of the deep one is refused, which
its journal shows.  If that does not happen, the two runs cannot be told apart.

A refused recall is an error like any other: the command that recalled stops, the one above goes on.
So once the runs part nothing relates their shells any more, and what is carried along instead is
that the journal of the deep run shows the refusal.
-/

namespace MacroShell

variable {δ α β : Type}

/-! ## Journals -/

/-- A recall was refused for its depth: a command that recalls was dispatched, and failed before any
    other was. -/
def Overrun (effects : List Effect) : Prop :=
  ∃ early depth command own limit late,
    effects = early ++ .dispatched depth command :: (own ++ .failed (.recallDepth limit) :: late) ∧
    command.recalls = true ∧ ∀ effect ∈ own, effect.isDispatch = false

theorem Overrun.append {effects : List Effect} (overrun : Overrun effects) (more : List Effect) :
    Overrun (effects ++ more) := by
  obtain ⟨early, depth, command, own, limit, late, rfl, shows⟩ := overrun
  exact ⟨early, depth, command, own, limit, late ++ more, by simp, shows⟩

/-- The same effect in a run that starts `n` levels deeper. -/
def Effect.deepen (n : Nat) : Effect → Effect
  | dispatched depth command => dispatched (depth + n) command
  | effect => effect

theorem Effect.deepen_of_own {effect : Effect} (own : effect.isDispatch = false) (n : Nat) :
    effect.deepen n = effect := by
  cases effect with
  | dispatched => cases own
  | failed | line | slept | saved | quitHook => rfl

theorem Effect.isDispatch_deepen (effect : Effect) (n : Nat) :
    (effect.deepen n).isDispatch = effect.isDispatch := by
  cases effect <;> rfl

theorem Effect.lines_map_deepen (effects : List Effect) (n : Nat) :
    Effect.lines (effects.map (Effect.deepen n)) = Effect.lines effects := by
  unfold Effect.lines
  rw [List.filterMap_map]
  congr 1
  funext effect
  cases effect <;> rfl

theorem Overrun.deepen {effects : List Effect} (overrun : Overrun effects) (n : Nat) :
    Overrun (effects.map (Effect.deepen n)) := by
  obtain ⟨early, depth, command, own, limit, late, rfl, recalls, none⟩ := overrun
  refine ⟨early.map (Effect.deepen n), depth + n, command, own.map (Effect.deepen n), limit,
    late.map (Effect.deepen n), by simp [Effect.deepen], recalls, ?_⟩
  rw [List.forall_mem_map]
  intro effect member
  rw [Effect.isDispatch_deepen]
  exact none effect member

/-! ## Once overrun, always overrun -/

def Shell.Overran (past : List Effect) (shell : Shell δ) : Prop :=
  ∃ effects, shell.journal.toList = past ++ effects ∧ Overrun effects

theorem Shell.Overran.log {past : List Effect} {shell : Shell δ} (overran : shell.Overran past)
    (effect : Effect) : (shell.log effect).Overran past := by
  obtain ⟨effects, grown, overrun⟩ := overran
  exact ⟨effects ++ [effect], by simp [Shell.log, grown], overrun.append _⟩

def Invariant.overran (past : List Effect) : Invariant δ where
  Inv := Shell.Overran past
  Fine _ := True
  hereditary := .trivial
  holds _ := Shell.holds_trivial _
  change {s change} overran _ := by
    cases change with
    | device | clicks | register | hotkey | option | tasks => exact overran
    | sleep milliseconds => exact overran.log _
  log overran _ _ := overran.log _
  quit overran := overran
  save {s path files} overran _ := by
    have written : { s with files }.Overran past := overran
    exact written.log _

theorem Invariant.overran_recallText [InputDevice δ] (past : List Effect) (depth : Nat) (text : String) :
    (overran past : Invariant δ).Keeps (Shell.recallText depth text) := by
  refine Coupling.recallWhile (C := (overran past).coupling) .inl ?_ (fun _ _ _ => rfl) _ depth text text
    ⟨rfl, trivial⟩
  rintro s _ depth command ⟨rfl, overran⟩
  exact ⟨rfl, overran.log _⟩

/-! ## Runs that part at a refusal -/

/-- Journals since `past`, of which the first is of the deeper run. -/
def Deeper (past : List Effect) (n : Nat) (j k : Array Effect) : Prop :=
  ∃ effects, k.toList = past ++ effects ∧ j.toList = past ++ effects.map (Effect.deepen n)

theorem extensible_deeper (past : List Effect) (n : Nat) : Extensible (Deeper past n) := by
  rintro j k effect ⟨effects, shallow, deep⟩ own
  refine ⟨effects ++ [effect], by simp [shallow], ?_⟩
  simp [deep, Effect.deepen_of_own own]

section Parting

variable [InputDevice δ]

/-- The same command is about to run in both, the one `n` levels deeper than the other. -/
def Coupling.deeper (past : List Effect) (n : Nat) : Coupling δ := .ofJournals (extensible_deeper past n)

theorem Coupling.deeper_log {past : List Effect} {n : Nat} {s t : Shell δ} (depth : Nat) (command : Command)
    (alike : (deeper past n).Alike s t) :
    (deeper past n).Alike (s.log (.dispatched (depth + n) command)) (t.log (.dispatched depth command)) := by
  obtain ⟨journal, rfl, effects, shallow, deep⟩ := alike
  refine ⟨journal.push (.dispatched depth command), rfl, effects ++ [.dispatched depth command], ?_, ?_⟩
  · simp [shallow]
  · simp [Shell.log, deep, Effect.deepen]

/-- The end of a run in which a recall has been refused, either on the way or just now. -/
def Lost (past : List Effect) (depth : Nat) : EStateM.Result ShellError (Shell δ) α → Prop
  | .ok _ shell => shell.Overran past
  | .error e shell => shell.Overran past ∨ Shell.recallLimit ≤ depth ∧ e = .recallDepth Shell.recallLimit

/-- The actions do the same, unless the first one, which belongs to the deeper run, is refused a
    recall. -/
def Follows (past : List Effect) (n depth : Nat) (Same : α → α → Prop) (x y : ShellM δ α) : Prop :=
  ∀ s t, (Coupling.deeper past n).Alike s t →
    Matched (Coupling.deeper past n).Alike Same (x s) (y t) ∨ Lost past depth (x s)

section Follows

variable {past : List Effect} {n depth : Nat} {Same : α → α → Prop} {Like : β → β → Prop}
  {x y : ShellM δ α} {f g : α → ShellM δ β}

theorem Coupled.follows (coupled : Coupled (Coupling.deeper past n).Alike Same x y) :
    Follows past n depth Same x y :=
  fun s t alike => .inl (coupled s t alike)

theorem Matched.follows_bind {s t : Shell δ}
    (matched : Matched (Coupling.deeper past n).Alike Same (x s) (y t))
    (second : ∀ a b, Same a b → Follows past n depth Like (f a) (g b)) :
    Matched (Coupling.deeper past n).Alike Like ((x >>= f) s) ((y >>= g) t) ∨
      Lost past depth ((x >>= f) s) := by
  simp only [Bind.bind, EStateM.bind]
  generalize x s = r at matched
  generalize y t = r' at matched
  cases matched with
  | ok same alike => exact second _ _ same _ _ alike
  | error alike => exact .inl (.error alike)

theorem Lost.bind {s : Shell δ} (lost : Lost past depth (x s))
    (keeps : ∀ a, (Invariant.overran past).Keeps (f a)) : Lost past depth ((x >>= f) s) := by
  simp only [Bind.bind, EStateM.bind]
  generalize x s = r at lost
  cases r with
  | error e s => exact lost
  | ok a s =>
      have kept := keeps a s s ⟨rfl, lost⟩
      dsimp only
      generalize f a s = after at kept
      cases kept with
      | ok _ alike => exact alike.2
      | error alike => exact .inl alike.2

theorem Coupled.follows_bind (first : Coupled (Coupling.deeper past n).Alike Same x y)
    (second : ∀ a b, Same a b → Follows past n depth Like (f a) (g b)) :
    Follows past n depth Like (x >>= f) (y >>= g) :=
  fun s t alike => (first s t alike).follows_bind second

theorem Follows.bind (first : Follows past n depth Same x y)
    (second : ∀ a b, Same a b → Follows past n depth Like (f a) (g b))
    (keeps : ∀ a, (Invariant.overran past).Keeps (f a)) :
    Follows past n depth Like (x >>= f) (y >>= g) := by
  intro s t alike
  rcases first s t alike with matched | lost
  · exact matched.follows_bind second
  · exact .inr (lost.bind keeps)

end Follows

section Run

variable {past : List Effect} {n depth : Nat} {runText runText' : String → ShellM δ Unit}
  (runs : ∀ text, Follows past n depth (fun _ _ => True) (runText text) (runText' text))
  (keeps : ∀ text, (Invariant.overran past).Keeps (runText text))

include keeps in
theorem keeps_alike (a b : String) (line : (Invariant.overran past : Invariant δ).coupling.Line a b) :
    Coupled (Invariant.overran past).coupling.Alike (fun _ _ => True) (runText a) (runText b) := by
  obtain ⟨rfl, -⟩ := line
  exact keeps a

include runs keeps

theorem follows_recallSlots (slots : List (Slot .register)) :
    Follows past n depth (fun _ _ => True) (Execute.recallSlots runText slots)
      (Execute.recallSlots runText' slots) := by
  let C : Coupling δ := .deeper past n
  induction slots with
  | nil => exact (Coupled.ofPure trivial).follows
  | cons slot rest ih =>
      refine (C.require slot).follows_bind ?_
      rintro text _ ⟨rfl, -⟩
      refine (Coupled.ofModify fun _ _ alike => C.notice _ alike).follows_bind fun _ _ _ => ?_
      refine (runs text).bind (fun _ _ _ => ih) fun _ => ?_
      exact Coupling.recallSlots (C := (Invariant.overran past).coupling) (keeps_alike keeps) rest

theorem follows_recallLines (lines : List String) :
    Follows past n depth (· = ·) (Execute.recallLines runText lines) (Execute.recallLines runText' lines) := by
  induction lines with
  | nil => exact (Coupled.ofPure rfl).follows
  | cons line rest ih =>
      unfold Execute.recallLines
      split
      · exact ih
      · refine (runs line).bind (fun _ _ _ => ih.bind ?_ fun _ => Coupled.ofPure trivial) fun _ => ?_
        · rintro count _ rfl
          exact (Coupled.ofPure rfl).follows
        · have same : List.Forall₂ (Invariant.overran past : Invariant δ).coupling.Line rest rest :=
            List.forall₂_same.mpr fun _ _ => ⟨rfl, trivial⟩
          exact (Coupling.recallLines (keeps_alike keeps) same).bind fun _ _ _ => .ofPure trivial

theorem follows_loadFile (path : String) :
    Follows past n depth (· = ·) (Execute.loadFile runText path) (Execute.loadFile runText' path) := by
  rintro s _ ⟨journal, rfl, like⟩
  rw [Execute.loadFile, ShellM.get_bind, Execute.loadFile, ShellM.get_bind]
  dsimp only
  cases s.files.read path with
  | ok content => exact follows_recallLines runs keeps (Text.lines content) _ _ ⟨journal, rfl, like⟩
  | error e => exact .inl (.error ⟨journal, rfl, like⟩)

theorem follows_run {verb : Verb} (recalls : verb.recalls = true) (operands : List String) :
    Follows past n depth (· = ·) (Execute.run runText verb operands) (Execute.run runText' verb operands) := by
  let C : Coupling δ := .deeper past n
  by_cases loads : verb = .load
  · subst loads
    refine (C.fileOperand operands).follows_bind ?_
    rintro path _ ⟨rfl, -⟩
    refine (follows_loadFile runs keeps path).bind ?_ fun _ => Coupled.ofPure trivial
    rintro count _ rfl
    exact (Coupled.ofPure rfl).follows
  · intro s t alike
    rw [Execute.run_recalls runText s recalls loads, Execute.run_recalls runText' t recalls loads,
      (C.agree alike).registers]
    have chosen : Follows past n depth (· = ·)
        (Execute.recallChosen runText (Execute.targets t.registers verb operands))
        (Execute.recallChosen runText' (Execute.targets t.registers verb operands)) := by
      refine (Coupled.check _).follows_bind ?_
      rintro slots _ ⟨rfl, -⟩
      exact (follows_recallSlots runs keeps slots).bind
        (fun _ _ _ => (Coupled.ofPure rfl).follows) fun _ => Coupled.ofPure trivial
    exact chosen s t alike

end Run

end Parting

/-! ## Dispatching at two depths -/

namespace Shell

/-- The refusal of a command that stands at the limit shows in the journal, as nothing was dispatched
    since the command. -/
theorem overran_of_refused {past effects : List Effect} {s after : Shell δ} {command : Command} {depth : Nat}
    (grown : s.journal.toList = past ++ effects) (recalls : command.recalls = true)
    (own : Own (s.log (.dispatched depth command)) after) (limit : Nat) :
    (after.conclude (.error (.recallDepth limit))).Overran past := by
  obtain ⟨more, grown', none⟩ := own
  have shown : (after.log (.failed (.recallDepth limit))).Overran past := by
    refine ⟨effects ++ .dispatched depth command :: (more ++ [.failed (.recallDepth limit)]), ?_,
      effects, depth, command, more, limit, [], rfl, recalls, none⟩
    simp [log, grown', grown]
  exact (Invariant.overran past).notice _ shown

variable [InputDevice δ]

theorem own_of_failed {depth : Nat} (limit : recallLimit ≤ depth) {verb : Verb} {operands : List String}
    {e : ShellError} {start after : Shell δ}
    (failed : Execute.run (recallText depth) verb operands start = .error e after) : Own start after := by
  have runs (a b : String) (line : (stages depth start).coupling.Line a b) :
      Coupled (stages depth start).coupling.Alike (fun _ _ => True) (recallText depth a) (recallText depth b) := by
    obtain ⟨rfl, -⟩ := line
    exact stages_recallText depth start a
  have reached := Coupling.run runs verb (fun _ (_ : _ ∈ operands) => trivial) start start ⟨rfl, .refl⟩
  rw [failed] at reached
  cases reached with
  | error alike => exact (nested_of_stages alike.2).own limit

theorem overran_settle {past effects : List Effect} {depth : Nat} {command : Command} {verb : Verb} {s : Shell δ}
    (grown : s.journal.toList = past ++ effects) (recalls : command.recalls = true)
    (lost : Lost past depth
      (Execute.run (recallText depth) verb command.operands (s.log (.dispatched depth command)))) :
    (settle (Execute.run (recallText depth) verb command.operands
      (s.log (.dispatched depth command)))).Overran past := by
  cases ran : Execute.run (recallText depth) verb command.operands (s.log (.dispatched depth command)) with
  | ok output after =>
      rw [ran] at lost
      exact (Invariant.overran past).conclude _ lost
  | error e after =>
      rw [ran] at lost
      rcases lost with overran | ⟨limit, rfl⟩
      · exact (Invariant.overran past).conclude _ overran
      · exact overran_of_refused grown recalls (own_of_failed limit ran) recallLimit

theorem recallText_follows {past : List Effect} {n depth : Nat}
    (deeper : depth + n < recallLimit → ∀ (command : Command) {s t : Shell δ},
      (Coupling.deeper past n).Alike s t →
      (Coupling.deeper past n).Alike (s.dispatch command (depth + n + 1)) (t.dispatch command (depth + 1)) ∨
        (s.dispatch command (depth + n + 1)).Overran past) (text : String) :
    Follows past n (depth + n) (fun _ _ => True) (recallText (depth + n) text : ShellM δ Unit)
      (recallText depth text) := by
  intro s t alike
  rcases recallText_cases (depth + n) text s with
    ⟨limit, ran⟩ | ⟨below, e, parsed, ran⟩ | ⟨below, command, parsed, ran⟩
  · rw [ran]
    exact .inr (.inr ⟨limit, rfl⟩)
  · have ran' : recallText depth text t = .error e t :=
      recallText_eq_error_iff.mpr ⟨rfl, .inr ⟨by omega, parsed⟩⟩
    rw [ran, ran']
    exact .inl (.error alike)
  · rw [ran, recallText_of_parse (by omega) parsed]
    rcases deeper below command alike with alike | overran
    · exact .inl (.ok trivial alike)
    · exact .inr overran

theorem dispatch_follows (past : List Effect) (n depth : Nat) (command : Command) {s t : Shell δ}
    (alike : (Coupling.deeper past n).Alike s t) :
    (Coupling.deeper past n).Alike (s.dispatch command (depth + n)) (t.dispatch command depth) ∨
      (s.dispatch command (depth + n)).Overran past := by
  let C : Coupling δ := .deeper past n
  have logged := Coupling.deeper_log depth command alike
  unfold dispatch
  cases found : Registry.builtin.lookup command.opcode with
  | none =>
      rw [dispatchWith_unknown found, dispatchWith_unknown found]
      exact .inl logged
  | some entry =>
      cases accepted : entry.arity.accepts command.operands.length with
      | false =>
          rw [dispatchWith_refused found accepted, dispatchWith_refused found accepted]
          exact .inl (C.fail _ logged)
      | true =>
          rw [dispatchWith_accepted found accepted, dispatchWith_accepted found accepted]
          -- Only a verb that recalls looks at the depth.
          cases recalls : entry.verb.recalls with
          | false => exact .inl (C.settle (C.run_leaf recalls (fun _ _ => trivial) _ _ _ _ logged))
          | true =>
              -- What it recalls has fewer levels left, unless it is refused.
              have inner (_ : depth + n < recallLimit) (command : Command) {s t : Shell δ}
                  (alike : C.Alike s t) := dispatch_follows past n (depth + 1) command alike
              simp only [Nat.add_right_comm depth 1 n] at inner
              have recalling : command.recalls = true := by simp [Command.recalls, found, recalls]
              obtain ⟨_, _, effects, _, grown⟩ := alike
              rcases follows_run (recallText_follows inner) (Invariant.overran_recallText past _) recalls
                command.operands _ _ logged with matched | lost
              · exact .inl (C.settle matched)
              · exact .inr (overran_settle grown recalling lost)
termination_by recallLimit - (depth + n)
decreasing_by omega

/-- Suppose a command runs at some depth and no recall of it, or of a command nested in it, is refused.
    Then at a smaller depth none is refused either, and the command does the same: the same effects but
    for the depths in them, so the same lines in the same order, and the same shell apart from the
    journal. -/
theorem dispatch_shallower {depth depth' : Nat} (le : depth ≤ depth') (command : Command) (shell : Shell δ)
    {deep : List Effect} (ran : (shell.dispatch command depth').journal.toList = shell.journal.toList ++ deep)
    (within : ¬ Overrun deep) :
    ∃ effects,
      (shell.dispatch command depth).journal.toList = shell.journal.toList ++ effects ∧ ¬ Overrun effects ∧
      deep = effects.map (Effect.deepen (depth' - depth)) ∧ Effect.lines effects = Effect.lines deep ∧
      { shell.dispatch command depth with journal := #[] } =
        { shell.dispatch command depth' with journal := #[] } := by
  obtain ⟨n, rfl⟩ := Nat.exists_eq_add_of_le le
  have start : (Coupling.deeper shell.journal.toList n).Alike shell shell :=
    ⟨shell.journal, rfl, [], by simp, by simp⟩
  rcases dispatch_follows shell.journal.toList n depth command start with alike | overran
  · obtain ⟨journal, same, effects, shallow, deepened⟩ := alike
    obtain rfl : deep = effects.map (Effect.deepen n) := List.append_cancel_left (ran.symm.trans deepened)
    refine ⟨effects, by rw [same, shallow], fun overrun => within (overrun.deepen n), ?_, ?_, by rw [same]⟩
    · rw [Nat.add_sub_cancel_left]
    · rw [Effect.lines_map_deepen]
  · obtain ⟨effects, grown, overrun⟩ := overran
    obtain rfl : deep = effects := List.append_cancel_left (ran.symm.trans grown)
    exact absurd overrun within

/-- A recall at the last depth at which there may be one, and the same recall as it is entered. -/
theorem dispatch_shallower_recall :
    let shell : Shell VirtualDevice :=
      { device := default, dotfile := "state.rc", registers := SlotTable.empty.set ⟨0, by decide⟩ "P hi" }
    let command : Command := ⟨'#', "#", ["a"]⟩
    let deep : List Effect :=
      [.dispatched 255 command, .line "Recalling command in register 'a': P hi",
        .dispatched 256 ⟨'P', "P", ["hi"]⟩, .line "hi"]
    (shell.dispatch command 255).journal.toList = shell.journal.toList ++ deep ∧ ¬ Overrun deep ∧
      ∃ effects, (shell.dispatch command 0).journal.toList = shell.journal.toList ++ effects ∧
        deep = effects.map (Effect.deepen 255) := by
  intro shell command deep
  have ran : (shell.dispatch command 255).journal.toList = shell.journal.toList ++ deep := by decide +kernel
  have within : ¬ Overrun deep := by
    rintro ⟨early, depth, command, own, limit, late, split, -⟩
    have member : Effect.failed (.recallDepth limit) ∈ deep := by simp [split]
    simp [deep] at member
  obtain ⟨effects, grown, -, same, -, -⟩ := dispatch_shallower (by decide : 0 ≤ 255) command shell ran within
  exact ⟨ran, within, effects, grown, same⟩

end Shell
end MacroShell
