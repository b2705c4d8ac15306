import Mathlib.Logic.Relation
import MacroShell.Proofs.Invariants

/-! # Nested commands

A command dispatches the text that it recalls one level deeper, and no command is dispatched below
the limit.  Registers may recall themselves and files may load themselves, so the text that is
recalled gives no bound; the levels that are left do.

The recursion is stated in the form in which the depth is compared to the limit at every recall.
That this has a single solution means that it always comes to an end.
-/

namespace MacroShell.Shell

variable {δ : Type}

/-! ## What a journal shows -/

/-- What a command does without dispatching another. -/
def Own (before after : Shell δ) : Prop :=
  ∃ effects, after.journal.toList = before.journal.toList ++ effects ∧
    ∀ effect ∈ effects, effect.isDispatch = false

theorem own_log (shell : Shell δ) {effect : Effect} (own : effect.isDispatch = false) :
    Own shell (shell.log effect) :=
  ⟨[effect], by simp [log], by simpa using own⟩

theorem Own.log {before after : Shell δ} (sofar : Own before after) {effect : Effect}
    (own : effect.isDispatch = false) : Own before (after.log effect) := by
  obtain ⟨effects, grown, none⟩ := sofar
  refine ⟨effects ++ [effect], by simp [Shell.log, grown], ?_⟩
  exact List.forall_mem_append.mpr ⟨none, by simpa using own⟩

theorem own_of_journal {before after : Shell δ} (same : after.journal = before.journal) :
    Own before after :=
  ⟨[], by rw [same, List.append_nil], by simp⟩

/-- The commands that are dispatched on the way from one shell to the other stand below `depth` and
    not below the limit. -/
def Nested (depth : Nat) (before after : Shell δ) : Prop :=
  ∃ effects, after.journal.toList = before.journal.toList ++ effects ∧
    ∀ inner command, .dispatched inner command ∈ effects → depth < inner ∧ inner ≤ recallLimit

theorem Nested.trans {depth : Nat} {a b c : Shell δ} (first : Nested depth a b) (second : Nested depth b c) :
    Nested depth a c := by
  obtain ⟨es, grown, deep⟩ := first
  obtain ⟨fs, grown', deep'⟩ := second
  refine ⟨es ++ fs, by rw [grown', grown, List.append_assoc], ?_⟩
  intro inner command member
  rcases List.mem_append.mp member with early | late
  · exact deep inner command early
  · exact deep' inner command late

theorem Own.nested {before after : Shell δ} (own : Own before after) (depth : Nat) :
    Nested depth before after := by
  obtain ⟨effects, grown, none⟩ := own
  refine ⟨effects, grown, ?_⟩
  intro inner command member
  cases none _ member

theorem own_of_limit {depth : Nat} {effects : List Effect}
    (deep : ∀ inner command, .dispatched inner command ∈ effects → depth < inner ∧ inner ≤ recallLimit)
    (limit : recallLimit ≤ depth) : ∀ effect ∈ effects, effect.isDispatch = false := by
  intro effect member
  cases effect with
  | dispatched inner command =>
      have bounds := deep inner command member
      omega
  | failed | line | slept | saved | quitHook => rfl

theorem Nested.own {depth : Nat} {before after : Shell δ} (nested : Nested depth before after)
    (limit : recallLimit ≤ depth) : Own before after := by
  obtain ⟨effects, grown, deep⟩ := nested
  exact ⟨effects, grown, own_of_limit deep limit⟩

theorem Nested.issued {depth : Nat} (below : depth < recallLimit) {command : Command} {before after : Shell δ}
    (nested : Nested (depth + 1) (before.log (.dispatched (depth + 1) command)) after) :
    Nested depth before after := by
  obtain ⟨effects, grown, deep⟩ := nested
  refine ⟨.dispatched (depth + 1) command :: effects, by simp [grown, log], ?_⟩
  intro inner nestedCommand member
  rcases List.mem_cons.mp member with same | later
  · cases same
    exact ⟨Nat.lt_succ_self depth, below⟩
  · obtain ⟨deeper, bounded⟩ := deep inner nestedCommand later
    exact ⟨by omega, bounded⟩

variable [InputDevice δ]

/-! ## The recursion -/

/-- Recalls a text at `depth`, with `run` for commands: at the limit a recall is refused, otherwise
    the text has to be a command, which is run one level deeper. -/
def recallBy (run : Command → Nat → Shell δ → Shell δ) (depth : Nat) (text : String) : ShellM δ Unit :=
  if recallLimit ≤ depth then throw (.recallDepth recallLimit)
  else do
    let command ← ShellM.check (Command.parse text)
    modify (run command (depth + 1))

/-- Dispatches commands, and recalls text by dispatching. -/
def Unfolds (run : Command → Nat → Shell δ → Shell δ) : Prop :=
  ∀ command depth shell, run command depth shell = dispatchWith (recallBy run depth) depth command shell

/-- The three ends of a recall.  An error of the command that is run is not among them. -/
theorem recallText_cases (depth : Nat) (text : String) (shell : Shell δ) :
    (recallLimit ≤ depth ∧ recallText depth text shell = .error (.recallDepth recallLimit) shell) ∨
    (depth < recallLimit ∧ ∃ e, Command.parse text = .error e ∧
      recallText depth text shell = .error e shell) ∨
    (depth < recallLimit ∧ ∃ command, Command.parse text = .ok command ∧
      recallText depth text shell = .ok () (shell.dispatch command (depth + 1))) := by
  by_cases limit : recallLimit ≤ depth
  · left
    refine ⟨limit, ?_⟩
    rw [recallText, Nat.sub_eq_zero_of_le limit]
    rfl
  · right
    have below : depth < recallLimit := by omega
    cases parsed : Command.parse text with
    | ok command => exact .inr ⟨below, command, rfl, recallText_of_parse below parsed shell⟩
    | error e =>
        obtain ⟨levels, left⟩ : ∃ levels, recallLimit - depth = levels + 1 :=
          Nat.exists_eq_succ_of_ne_zero (by omega)
        refine .inl ⟨below, e, rfl, ?_⟩
        rw [recallText, left]
        simp only [recallWhile, parsed]
        rfl

theorem recallText_eq (depth : Nat) :
    recallText depth = recallBy (fun command depth (shell : Shell δ) => shell.dispatch command depth) depth := by
  funext text shell
  unfold recallBy
  rcases recallText_cases depth text shell with
    ⟨limit, ran⟩ | ⟨below, e, parsed, ran⟩ | ⟨below, command, parsed, ran⟩
  · rw [ran, if_pos limit]
    rfl
  · rw [ran, if_neg (Nat.not_le.mpr below), parsed]
    rfl
  · rw [ran, if_neg (Nat.not_le.mpr below), parsed]
    rfl

theorem unfolds_dispatch : Unfolds fun command depth (shell : Shell δ) => shell.dispatch command depth := by
  intro command depth shell
  rw [← recallText_eq]
  rfl

theorem Unfolds.eq_dispatch {run : Command → Nat → Shell δ → Shell δ} (unfolds : Unfolds run)
    (command : Command) (depth : Nat) (shell : Shell δ) :
    run command depth shell = shell.dispatch command depth := by
  have same : recallBy run depth = recallText depth := by
    rw [recallText_eq]
    funext text
    unfold recallBy
    split
    · rfl
    · have deeper (command : Command) :
          run command (depth + 1) = fun shell => shell.dispatch command (depth + 1) :=
        funext fun shell => unfolds.eq_dispatch command (depth + 1) shell
      simp only [deeper]
  rw [unfolds, same]
  rfl
termination_by recallLimit - depth
decreasing_by omega

theorem recallText_eq_error_iff {depth : Nat} {text : String} {shell after : Shell δ} {e : ShellError} :
    recallText depth text shell = .error e after ↔ after = shell ∧
      (recallLimit ≤ depth ∧ e = .recallDepth recallLimit ∨
        depth < recallLimit ∧ Command.parse text = .error e) := by
  rcases recallText_cases depth text shell with
    ⟨limit, ran⟩ | ⟨below, cause, parsed, ran⟩ | ⟨below, command, parsed, ran⟩
  · rw [ran]
    simp [limit, Nat.not_lt.mpr limit, eq_comm, and_comm]
  · rw [ran]
    simp [below, Nat.not_le.mpr below, parsed, eq_comm, and_comm]
  · rw [ran]
    simp [below, Nat.not_le.mpr below, parsed]

/-! ## Stages of a dispatch -/

/-- A command at `depth` runs recalled text: a command is dispatched one level deeper, and whatever
    becomes of it, the one that recalled it goes on. -/
def Issues (depth : Nat) (before after : Shell δ) : Prop :=
  depth < recallLimit ∧
    ∃ text command, Command.parse text = .ok command ∧ after = before.dispatch command (depth + 1)

def Stage (depth : Nat) (before after : Shell δ) : Prop := Own before after ∨ Issues depth before after

open Relation in
/-- What has been reached from `start` in stages. -/
def stages (depth : Nat) (start : Shell δ) : Invariant δ where
  Inv := ReflTransGen (Stage depth) start
  Fine _ := True
  hereditary := .trivial
  holds _ := holds_trivial _
  change {s change} reached _ := by
    refine reached.tail (.inl ?_)
    cases change with
    | sleep milliseconds => exact own_log s rfl
    | device | clicks | register | hotkey | option | tasks => exact own_of_journal rfl
  log {s effect} reached own _ := reached.tail (.inl (own_log s own))
  quit reached := reached.tail (.inl (own_of_journal rfl))
  save {s path files} reached _ := by
    have written : ReflTransGen (Stage depth) start { s with files } :=
      reached.tail (.inl (own_of_journal rfl))
    exact written.tail (.inl (own_log _ rfl))

theorem stages_recallText (depth : Nat) (start : Shell δ) (text : String) :
    (stages depth start).Keeps (recallText depth text) := by
  rintro s _ ⟨rfl, reached⟩
  rcases recallText_cases depth text s with
    ⟨-, ran⟩ | ⟨-, e, -, ran⟩ | ⟨below, command, parsed, ran⟩
  · rw [ran]
    exact .error ⟨rfl, reached⟩
  · rw [ran]
    exact .error ⟨rfl, reached⟩
  · rw [ran]
    exact .ok trivial ⟨rfl, reached.tail (.inr ⟨below, text, command, parsed, rfl⟩)⟩

theorem dispatch_stages (command : Command) (depth : Nat) (shell : Shell δ) :
    Relation.ReflTransGen (Stage depth) (shell.log (.dispatched depth command))
      (shell.dispatch command depth) :=
  (stages depth (shell.log (.dispatched depth command))).dispatchWith
    (fun text _ => stages_recallText depth _ text) (fun _ _ => trivial) .refl

/-- Along the stages; the commands that are issued have fewer levels left. -/
theorem nested_of_stages {depth : Nat} {start after : Shell δ}
    (reached : Relation.ReflTransGen (Stage depth) start after) : Nested depth start after := by
  induction reached with
  | refl => exact ⟨[], by simp, by simp⟩
  | @tail middle after _ stage nested =>
      apply nested.trans
      rcases stage with own | ⟨below, text, inner, -, rfl⟩
      · exact own.nested depth
      · exact (nested_of_stages (dispatch_stages inner (depth + 1) middle)).issued below
termination_by recallLimit - depth
decreasing_by omega

/-- Dispatching comes to an end: what it does is determined by the recursion.  It goes in stages, in
    each of which the command either does something by itself, or recalls a text at a depth below the
    limit, which is dispatched exactly one level deeper.  So no nested command stands below the
    limit, and a command at the limit has none.  A recall fails only at the limit or for a text that
    is no command, and then nothing has changed. -/
theorem dispatch_bounded (command : Command) (depth : Nat) (shell : Shell δ) :
    (∀ run : Command → Nat → Shell δ → Shell δ,
      Unfolds run ↔ run = fun command depth shell => shell.dispatch command depth) ∧
    Relation.ReflTransGen (Stage depth) (shell.log (.dispatched depth command))
      (shell.dispatch command depth) ∧
    (∃ effects,
      (shell.dispatch command depth).journal.toList =
        shell.journal.toList ++ .dispatched depth command :: effects ∧
      (∀ inner nested, .dispatched inner nested ∈ effects → depth < inner ∧ inner ≤ recallLimit) ∧
      (recallLimit ≤ depth → ∀ effect ∈ effects, effect.isDispatch = false)) ∧
    ∀ text e after, recallText depth text shell = .error e after ↔ after = shell ∧
      (recallLimit ≤ depth ∧ e = .recallDepth recallLimit ∨
        depth < recallLimit ∧ Command.parse text = .error e) := by
  refine ⟨fun run => ⟨fun unfolds => ?_, ?_⟩, dispatch_stages command depth shell, ?_,
    fun _ _ _ => recallText_eq_error_iff⟩
  · funext command depth shell
    exact unfolds.eq_dispatch command depth shell
  · rintro rfl
    exact unfolds_dispatch
  · obtain ⟨effects, grown, deep⟩ := nested_of_stages (dispatch_stages command depth shell)
    exact ⟨effects, by simp [grown, log], deep, own_of_limit deep⟩

end MacroShell.Shell
