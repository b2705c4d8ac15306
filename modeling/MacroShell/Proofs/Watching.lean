import MacroShell.Device.Virtual
import MacroShell.Proofs.Following
import MacroShell.Proofs.Snapshots

/-! # Loops that pause and start over

A loop goes through its body as long as a register holds a value, and looks at the register before each
command.  Where it finds the value gone it idles, and when the value is back it begins with the first
command again.  So the steps of a loop divide into passes, each of which runs a part of the body from the
start.  Between two passes the loop looks whether the shell is about to quit, and only then it ends.
-/

namespace MacroShell

variable {δ : Type}

namespace Act

/-- The step idled, or it dispatched a command.  Other steps only prepare for those. -/
def shows (act : Act δ) : Bool := act.progress.isIdle || !act.commands.isEmpty

/-- The loop ended with the step. -/
def ends (act : Act δ) : Bool := act.progress.next?.isNone

/-- The step dispatches at most one command, and only while the register holds the value; it idles only
    while it does not.  Without a command it leaves the shell as it is. -/
structure Minds (act : Act δ) (slot : Slot .register) (value : String) : Prop where
  single : act.Single
  still : act.commands = [] → act.progress.shell = act.before
  held : act.commands ≠ [] → act.before.registers.get? slot = some value
  idle : act.progress.isIdle = true → act.before.registers.get? slot ≠ some value

variable {act : Act δ} {slot : Slot .register} {value : String}

theorem shows_of_idle (idle : act.progress.isIdle = true) : act.shows = true := by
  simp [shows, idle]

theorem not_shows_of_still (still : act.progress.shell = act.before) (busy : act.progress.isIdle = false) :
    act.shows = false := by
  simp [shows, busy, commands_of_still still]

theorem minds_of_still (still : act.progress.shell = act.before)
    (gone : act.progress.isIdle = true → act.before.registers.get? slot ≠ some value) :
    act.Minds slot value where
  single := .inl (effects_of_still still)
  still _ := still
  held ran := absurd (commands_of_still still) ran
  idle := gone

end Act

/-- A pass of a loop: the steps that dispatched commands, and the one that broke it off, if one did. -/
structure Pass (δ : Type) where
  ran : List (Act δ)
  broken : Option (Act δ)

namespace Pass

def acts (pass : Pass δ) : List (Act δ) := pass.ran ++ pass.broken.toList

/-- The pass ran a part of the body from its start.  If it was broken off, that was before another command
    of the body, by a step that found the value gone and idled. -/
structure Through (pass : Pass δ) (slot : Slot .register) (value : String) (body : List Command) : Prop where
  commands : pass.ran.map Act.commands = (body.take pass.ran.length).map fun command => [command]
  held : ∀ act ∈ pass.ran, act.before.registers.get? slot = some value
  broken : ∀ act ∈ pass.broken, pass.ran.length < body.length ∧ act.progress.isIdle = true ∧
    act.before.registers.get? slot ≠ some value

/-- The pass went to the end of the body or was broken off. -/
def Over (pass : Pass δ) (body : List Command) : Prop :=
  pass.ran.length = body.length ∨ pass.broken.isSome = true

variable {slot : Slot .register} {value : String}

theorem through_unbegun (body : List Command) : (⟨[], none⟩ : Pass δ).Through slot value body where
  commands := by simp
  held := by simp
  broken := by simp

/-- Nothing comes of a pass with nothing to run. -/
theorem Through.acts_eq_nil {pass : Pass δ} (through : pass.Through slot value []) : pass.acts = [] := by
  obtain ⟨ran, broken⟩ := pass
  have none : ran = [] := by simpa using through.commands
  cases broken with
  | none => simp [acts, none]
  | some act =>
      have before := (through.broken act rfl).1
      simp at before

end Pass

/-- The steps of a loop that had `rest` to run in its pass are what came of that pass and of the passes
    after it.  All but the last of them are over, and so is the last if the loop has ended, which it does only
    where the shell is about to quit.  Besides there is one step at the start of each pass after the first, and
    the one in which the loop ends. -/
structure Passes (slot : Slot .register) (value : String) (body rest : List Command) (acts : List (Act δ))
    (first : Pass δ) (passes : List (Pass δ)) : Prop where
  minds : ∀ act ∈ acts, act.Minds slot value
  shown : acts.filter Act.shows = first.acts ++ passes.flatMap Pass.acts
  begun : first.Through slot value rest
  through : ∀ pass ∈ passes, pass.Through slot value body
  closed : passes ≠ [] → first.Over rest
  others : ∀ pass ∈ passes.dropLast, pass.Over body
  ended : (∃ act ∈ acts, act.progress.next? = none) → first.Over rest ∧ ∀ pass ∈ passes, pass.Over body
  quits : ∀ act ∈ acts, act.progress.next? = none → act.before.quit = true
  count : acts.length = (acts.filter Act.shows).length + passes.length + (acts.filter Act.ends).length

namespace Passes

variable {slot : Slot .register} {value : String} {body rest : List Command} {acts : List (Act δ)}
  {first : Pass δ} {passes : List (Pass δ)} {shell : Shell δ}

theorem nothing : Passes slot value body rest ([] : List (Act δ)) ⟨[], none⟩ [] where
  minds := by simp
  shown := rfl
  begun := Pass.through_unbegun rest
  through := by simp
  closed := by simp
  others := by simp
  ended := by simp
  quits := by simp
  count := rfl

/-- Between two passes the loop ends if the shell is about to quit. -/
theorem finish (quits : shell.quit = true) : Passes slot value body [] [⟨shell, .ended shell⟩] ⟨[], none⟩ [] where
  minds := List.forall_mem_singleton.mpr (Act.minds_of_still rfl nofun)
  shown := List.filter_cons_of_neg (by rw [Act.not_shows_of_still rfl rfl]; simp)
  begun := Pass.through_unbegun []
  through := by simp
  closed := by simp
  others := by simp
  ended _ := ⟨.inl rfl, by simp⟩
  quits := List.forall_mem_singleton.mpr fun _ => quits
  count := by
    rw [List.filter_cons_of_neg (by rw [Act.not_shows_of_still rfl rfl]; simp)]
    rfl

/-- Otherwise it begins the next, which has the whole body to run. -/
theorem start (later : Passes slot value body body acts first passes) :
    Passes slot value body [] (⟨shell, .ran (.watching slot value body body) shell⟩ :: acts) ⟨[], none⟩
      (first :: passes) := by
  have silent : Act.shows ⟨shell, .ran (.watching slot value body body) shell⟩ = false :=
    Act.not_shows_of_still rfl rfl
  constructor
  case minds => exact List.forall_mem_cons.mpr ⟨Act.minds_of_still rfl nofun, later.minds⟩
  case shown => rw [List.filter_cons_of_neg (by simp [silent]), later.shown]; rfl
  case begun => exact Pass.through_unbegun []
  case through => exact List.forall_mem_cons.mpr ⟨later.begun, later.through⟩
  case closed => exact fun _ => .inl rfl
  case others =>
    cases passes with
    | nil => simp
    | cons second passes =>
        rw [List.dropLast_cons_cons]
        exact List.forall_mem_cons.mpr ⟨later.closed (by simp), later.others⟩
  case ended =>
    intro last
    exact ⟨.inl rfl, List.forall_mem_cons.mpr (later.ended (Act.last_of_cons rfl last))⟩
  case quits => exact List.forall_mem_cons.mpr ⟨nofun, later.quits⟩
  case count =>
    have counted := later.count
    have goes : Act.ends ⟨shell, .ran (.watching slot value body body) shell⟩ = false := rfl
    rw [List.filter_cons_of_neg (by simp [silent]), List.filter_cons_of_neg (by simp [goes])]
    simp only [List.length_cons]
    omega

/-- Where the value is gone the pass is broken off, and nothing is left to run of it. -/
theorem pause {command : Command} (gone : shell.registers.get? slot ≠ some value)
    (later : Passes slot value body [] acts first passes) :
    let act : Act δ := ⟨shell, .idle (.watching slot value body []) shell⟩
    Passes slot value body (command :: rest) (act :: acts) ⟨[], some act⟩ passes := by
  intro act
  have shows : act.shows = true := Act.shows_of_idle rfl
  constructor
  case minds => exact List.forall_mem_cons.mpr ⟨Act.minds_of_still rfl fun _ => gone, later.minds⟩
  case shown => rw [List.filter_cons_of_pos shows, later.shown, later.begun.acts_eq_nil]; rfl
  case begun => exact ⟨rfl, by simp, by simpa [act] using ⟨rfl, gone⟩⟩
  case through => exact later.through
  case closed => exact fun _ => .inr rfl
  case others => exact later.others
  case ended =>
    intro last
    exact ⟨.inr rfl, (later.ended (Act.last_of_cons rfl last)).2⟩
  case quits => exact List.forall_mem_cons.mpr ⟨nofun, later.quits⟩
  case count =>
    have counted := later.count
    have goes : act.ends = false := rfl
    rw [List.filter_cons_of_pos shows, List.filter_cons_of_neg (by simp [goes])]
    simp only [List.length_cons]
    omega

/-- Where the value is there the next command joins the pass. -/
theorem run [InputDevice δ] {command : Command} (held : shell.registers.get? slot = some value)
    (later : Passes slot value body rest acts first passes) :
    let act : Act δ := ⟨shell, .ran (.watching slot value body rest) (shell.dispatch command 1)⟩
    Passes slot value body (command :: rest) (act :: acts) ⟨act :: first.ran, first.broken⟩ passes := by
  intro act
  have dispatched : act.commands = [command] := Act.commands_of_dispatch rfl
  have shows : act.shows = true := by simp [Act.shows, dispatched]
  have onward : first.Over rest → Pass.Over ⟨act :: first.ran, first.broken⟩ (command :: rest) :=
    Or.imp_left fun same => by simp [same]
  constructor
  case minds =>
    have minds : act.Minds slot value :=
      ⟨Act.single_of_dispatch rfl, by simp [dispatched], fun _ => held, nofun⟩
    exact List.forall_mem_cons.mpr ⟨minds, later.minds⟩
  case shown => rw [List.filter_cons_of_pos shows, later.shown]; rfl
  case begun =>
    constructor
    · simp [dispatched, later.begun.commands]
    · exact List.forall_mem_cons.mpr ⟨held, later.begun.held⟩
    · intro last broken
      obtain ⟨before, idle⟩ := later.begun.broken last broken
      exact ⟨by simpa using before, idle⟩
  case through => exact later.through
  case closed => exact fun more => onward (later.closed more)
  case others => exact later.others
  case ended =>
    intro last
    exact (later.ended (Act.last_of_cons rfl last)).imp_left onward
  case quits => exact List.forall_mem_cons.mpr ⟨nofun, later.quits⟩
  case count =>
    have counted := later.count
    have goes : act.ends = false := rfl
    rw [List.filter_cons_of_pos shows, List.filter_cons_of_neg (by simp [goes])]
    simp only [List.length_cons]
    omega

end Passes

namespace Task

variable [InputDevice δ] [KeySource δ]

theorem follow_watching (slot : Slot .register) (value : String) (body rest : List Command) (shell : Shell δ)
    (turns : List (Turn δ)) :
    ∃ first passes,
      Passes slot value body rest ((watching slot value body rest).follow shell turns) first passes := by
  -- On the turns.  The pass that is begun is a part of one through the body, so the rest to run is general.
  induction turns generalizing rest shell with
  | nil => exact ⟨_, _, .nothing⟩
  | cons turn turns ih =>
      cases turn with
      | other change => exact ih rest (change shell)
      | own tick =>
          match rest with
          | command :: rest =>
              by_cases held : shell.registers.get? slot = some value
              · obtain ⟨first, passes, later⟩ := ih rest (shell.dispatch command 1)
                simp only [follow, step, if_pos held]
                exact ⟨_, _, later.run held⟩
              · obtain ⟨first, passes, later⟩ := ih [] shell
                simp only [follow, step, if_neg held]
                exact ⟨_, _, later.pause held⟩
          | [] =>
              by_cases quits : shell.quit = true
              · simp only [follow, step, if_pos quits]
                exact ⟨_, _, .finish quits⟩
              · obtain ⟨first, passes, later⟩ := ih body shell
                simp only [follow, step, if_neg quits]
                exact ⟨_, _, later.start⟩

/-- The first step of a loop reads its texts. -/
theorem follow_watch (slot : Slot .register) (value : String) {texts : List String} {body : List Command}
    (read : Command.parseAll texts = .ok body) (shell : Shell δ) (turns : List (Turn δ)) :
    (watch slot value texts).follow shell turns = [] ∨
      ∃ now later, (watch slot value texts).follow shell turns =
        ⟨now, .ran (watching slot value body []) now⟩ :: (watching slot value body []).follow now later := by
  induction turns generalizing shell with
  | nil => exact .inl rfl
  | cons turn turns ih =>
      cases turn with
      | other change => exact ih (change shell)
      | own tick =>
          refine .inr ⟨shell, turns, ?_⟩
          simp only [follow, step, read]
          rfl

end Task

namespace Shell

variable [InputDevice δ] [KeySource δ]

/-- A `^` that succeeds starts one task, with copies of what its registers hold.  Suppose that all copies
    are commands.  In whatever way the task then gets its turns, and whatever happens to the register
    meanwhile, it dispatches a command only where the register holds the value, and idles only where it
    does not.  Its steps divide into passes through the commands, each from the first on, and one pass
    follows another only when that has come to the end or was broken off.  The loop ends only where the
    shell is about to quit.  There are no other steps than those in the passes, the one that reads the texts,
    one at the start of each pass, and the one in which the loop ends. -/
theorem dispatch_watch_passes {head condition value : String} {registers : List String} {depth : Nat}
    {shell after : Shell δ} {output : Output}
    (succeeds : shell.outcome? ⟨'^', head, condition :: value :: registers⟩ depth = some (.ok output after)) :
    ∃ slot slots texts, Slot.parse .register condition = .ok slot ∧
      Slot.parseAll .register registers = .ok slots ∧
      List.Forall₂ (fun slot text => shell.registers.get? slot = some text) slots texts ∧
      (shell.dispatch ⟨'^', head, condition :: value :: registers⟩ depth).tasks =
        shell.tasks ++ [.watch slot value texts] ∧
      ∀ body, List.Forall₂ (fun text command => Command.parse text = .ok command) texts body →
        ∀ turns : List (Turn δ),
          let acts := (Task.watch slot value texts).follow
            (shell.dispatch ⟨'^', head, condition :: value :: registers⟩ depth) turns
          (∀ act ∈ acts, act.Minds slot value) ∧
          (∀ act ∈ acts, act.progress.next? = none → act.before.quit = true) ∧
          ∃ passes : List (Pass δ), acts.filter Act.shows = passes.flatMap Pass.acts ∧
            (∀ pass ∈ passes, pass.Through slot value body) ∧
            (∀ pass ∈ passes.dropLast, pass.Over body) ∧
            ((∃ act ∈ acts, act.progress.next? = none) → ∀ pass ∈ passes, pass.Over body) ∧
            acts.length = (acts.filter Act.shows).length + (acts.take 1).length + passes.length +
              (acts.filter Act.ends).length := by
  obtain ⟨slot, slots, texts, named, parsed, held, spawned⟩ := dispatch_watch succeeds
  refine ⟨slot, slots, texts, named, parsed, held, spawned, ?_⟩
  intro body read turns
  rcases Task.follow_watch slot value (Command.parseAll_eq_ok_iff.mpr read)
    (shell.dispatch ⟨'^', head, condition :: value :: registers⟩ depth) turns with none | ⟨now, rest, begun⟩
  · rw [none]
    exact ⟨by simp, by simp, [], by simp⟩
  · obtain ⟨first, passes, later⟩ := Task.follow_watching slot value body [] now rest
    have silent : Act.shows ⟨now, .ran (.watching slot value body []) now⟩ = false :=
      Act.not_shows_of_still rfl rfl
    have goes : Act.ends ⟨now, .ran (.watching slot value body []) now⟩ = false := rfl
    have counted := later.count
    rw [begun]
    dsimp only
    rw [List.filter_cons_of_neg (by simp [silent]), List.filter_cons_of_neg (by simp [goes])]
    refine ⟨List.forall_mem_cons.mpr ⟨Act.minds_of_still rfl nofun, later.minds⟩,
      List.forall_mem_cons.mpr ⟨nofun, later.quits⟩, passes, ?_, later.through, later.others, ?_, ?_⟩
    · rw [later.shown, later.begun.acts_eq_nil, List.nil_append]
    · intro last
      exact (later.ended (Act.last_of_cons rfl last)).2
    · simp only [List.length_cons, List.take_succ_cons, List.take_zero, List.length_nil]
      omega

/-- A loop over registers `a` and `b` while `c` holds `go`, where `a` gives `c` another text and somebody
    puts `go` back.  Two passes are broken off after `a`, so `b` is never run.  A third finds the value gone
    at once.  It idles, and the loop ends only with the next turn, as somebody quits meanwhile. -/
theorem dispatch_watch_passes_restarted :
    let slot : Slot .register := ⟨2, by decide⟩
    let shell : Shell VirtualDevice :=
      { device := default, dotfile := "rc"
        registers := ((SlotTable.empty.set ⟨0, by decide⟩ "@ c stop").set ⟨1, by decide⟩ "P b").set slot "go" }
    let stop : Command := ⟨'@', "@", ["c", "stop"]⟩
    let print : Command := ⟨'P', "P", ["b"]⟩
    let line : Command := ⟨'^', "^", ["c", "go", "a", "b"]⟩
    let own (count : Nat) : List (Turn VirtualDevice) := List.replicate count (.own false)
    let acts := (Task.watch slot "go" ["@ c stop", "P b"]).follow (shell.dispatch line 0)
      (own 4 ++ .other (·.setRegister slot "go") :: own 5 ++ .other ({ · with quit := true }) :: own 3)
    (∃ output after, shell.outcome? line 0 = some (.ok output after)) ∧
      acts.flatMap Act.commands = [stop, stop] ∧ acts.length = 10 ∧ (acts.filter Act.shows).length = 5 ∧
      (acts.filter Act.ends).length = 1 ∧ (∀ act ∈ acts, act.progress.next? = none → act.before.quit = true) ∧
      ∃ passes : List (Pass VirtualDevice), acts.filter Act.shows = passes.flatMap Pass.acts ∧
        (∀ pass ∈ passes, pass.Through slot "go" [stop, print]) ∧
        (∀ pass ∈ passes.dropLast, pass.Over [stop, print]) ∧ passes.length = 3 := by
  intro slot shell stop print line own acts
  have succeeds : shell.outcome? line 0 = some (.ok _ _) := rfl
  have steps : acts.length = 10 := by decide +kernel
  have shows : (acts.filter Act.shows).length = 5 := by decide +kernel
  have ended : (acts.filter Act.ends).length = 1 := by decide +kernel
  refine ⟨⟨_, _, succeeds⟩, by decide +kernel, steps, shows, ended, ?_⟩
  obtain ⟨_, slots, texts, named, -, -, spawned, runs⟩ := dispatch_watch_passes succeeds
  have started : (shell.dispatch line 0).tasks = [.watch slot "go" ["@ c stop", "P b"]] := rfl
  obtain ⟨rfl, rfl⟩ : _ = slot ∧ texts = ["@ c stop", "P b"] := by
    rw [spawned] at started
    simpa [shell] using started
  obtain ⟨-, quits, passes, shown, through, closed, -, count⟩ := runs [stop, print] (.cons rfl (.cons rfl .nil))
    (own 4 ++ .other (·.setRegister slot "go") :: own 5 ++ .other ({ · with quit := true }) :: own 3)
  have first : (acts.take 1).length = 1 := by
    rw [List.length_take, steps]
    rfl
  refine ⟨quits, passes, shown, through, closed, ?_⟩
  change acts.length = (acts.filter Act.shows).length + (acts.take 1).length + passes.length +
    (acts.filter Act.ends).length at count
  omega

end Shell

end MacroShell
