import MacroShell.Device.Virtual
import MacroShell.Proofs.History
import MacroShell.Proofs.Nesting

/-! # The law of recalls

Four verbs recall registers.  They are refused as a whole if an operand that should name a register does
not, or if the register of their condition is empty.  Otherwise they choose registers by their condition
and take them in order.  A register is read when its turn comes, so the commands before it may have filled
or changed it, and the first one that cannot be recalled ends the verb.
-/

namespace MacroShell

/-- A command that recalls registers. -/
inductive Recall where
  | all (names : List String)
  /-- Recalls the registers if the condition register has the value (`true`) or has another (`false`). -/
  | conditional (equal : Bool) (condition value : String) (names : List String)
  /-- Recalls the first register if the condition register has the value, and the second one if not. -/
  | either (condition value first second : String)

namespace Recall

open Execute

def opcode : Recall → Char
  | all _ => '#'
  | conditional true _ _ _ => '='
  | conditional false _ _ _ => '-'
  | either _ _ _ _ => '/'

def operands : Recall → List String
  | all names => names
  | conditional _ condition value names => condition :: value :: names
  | either condition value first second => [condition, value, first, second]

def verb : Recall → Verb
  | all _ => .recallAll
  | conditional equal _ _ _ => .recallWhen equal
  | either _ _ _ _ => .recallEither

/-- The operands that have to name registers. -/
def names : Recall → List String
  | all names => names
  | conditional _ condition _ names => condition :: names
  | either condition _ first second => [condition, first, second]

/-- The condition register and the value that it is compared with. -/
def condition? : Recall → Option (String × String)
  | all _ => none
  | conditional _ condition value _ | either condition value _ _ => some (condition, value)

/-- Tells whether the condition register holds exactly the value. -/
def holds (registers : SlotTable .register) (request : Recall) : Bool :=
  request.condition?.all fun (condition, value) =>
    (Slot.parse .register condition).toOption.bind registers.get? = some value

/-- The names of the registers that are recalled. -/
def chosen (holds : Bool) : Recall → List String
  | all names => names
  | conditional equal _ _ names => if holds = equal then names else []
  | either _ _ first second => [if holds then first else second]

/-- Why a recall is refused before anything is recalled. -/
inductive Refusal (registers : SlotTable .register) (request : Recall) : ShellError → Prop where
  | misnamed {name : String} {e : ShellError} (member : name ∈ request.names)
      (refused : Slot.parse .register name = .error e) : Refusal registers request e
  | empty {condition value : String} {slot : Slot .register}
      (tests : request.condition? = some (condition, value)) (named : Slot.parse .register condition = .ok slot)
      (absent : registers.get? slot = none) : Refusal registers request (.emptySlot .register slot.char)

theorem eq_of_operands {a b : Recall} (opcode : a.opcode = b.opcode) (operands : a.operands = b.operands) :
    a = b := by
  rcases a with names | ⟨_ | _, condition, value, names⟩ | _ <;>
    rcases b with names' | ⟨_ | _, condition', value', names'⟩ | _ <;>
    simp_all [Recall.opcode, Recall.operands]

/-- Every command of the four verbs with a number of operands that its verb takes is a recall. -/
theorem exists_of_accepted {command : Command} {entry : VerbEntry}
    (recalls : command.opcode ∈ ['#', '=', '-', '/'])
    (found : Registry.builtin.lookup command.opcode = some entry)
    (accepted : entry.arity.accepts command.operands.length = true) :
    ∃ request : Recall, request.opcode = command.opcode ∧ request.operands = command.operands ∧
      request.verb = entry.verb := by
  have selected : Shell.selection command.opcode = some (entry.verb, entry.arity) := by
    rw [Shell.selection, found]
    rfl
  obtain ⟨opcode, head, operands⟩ := command
  simp only [List.mem_cons, List.not_mem_nil, or_false] at recalls selected accepted ⊢
  have three {verb : Verb} (known : Shell.selection opcode = some (verb, .atLeast 3)) :
      entry.verb = verb ∧ ∃ condition value names, operands = condition :: value :: names := by
    obtain ⟨rfl, arity⟩ := Prod.mk.inj (Option.some.inj (known.symm.trans selected))
    rw [← arity, Arity.accepts, decide_eq_true_eq] at accepted
    rcases operands with _ | ⟨condition, _ | ⟨value, names⟩⟩
    · simp at accepted
    · simp at accepted
    · exact ⟨rfl, condition, value, names, rfl⟩
  rcases recalls with rfl | rfl | rfl | rfl
  · have known : Shell.selection '#' = some (.recallAll, .atLeast 1) := by decide
    obtain ⟨verb, -⟩ := Prod.mk.inj (Option.some.inj (known.symm.trans selected))
    exact ⟨.all operands, rfl, rfl, verb⟩
  · obtain ⟨verb, condition, value, names, rfl⟩ := three (by decide : _ = some (Verb.recallWhen true, _))
    exact ⟨.conditional true condition value names, rfl, rfl, verb.symm⟩
  · obtain ⟨verb, condition, value, names, rfl⟩ := three (by decide : _ = some (Verb.recallWhen false, _))
    exact ⟨.conditional false condition value names, rfl, rfl, verb.symm⟩
  · have known : Shell.selection '/' = some (.recallEither, .exactly 4) := by decide
    obtain ⟨verb, arity⟩ := Prod.mk.inj (Option.some.inj (known.symm.trans selected))
    rw [← arity, Arity.accepts, decide_eq_true_eq] at accepted
    obtain ⟨condition, value, first, second, rfl⟩ := List.length_eq_four.mp accepted
    exact ⟨.either condition value first second, rfl, rfl, verb⟩

/-! ## The choice -/

section Choice

variable (registers : SlotTable .register)

/-- A condition can be tested exactly if its register has a name and holds a text. -/
theorem holdsValue_cases (condition value : String) :
    (∃ e, holdsValue registers condition value = .error e ∧
      (Slot.parse .register condition = .error e ∨
        ∃ slot, Slot.parse .register condition = .ok slot ∧ registers.get? slot = none ∧
          e = .emptySlot .register slot.char)) ∨
    ∃ slot text, Slot.parse .register condition = .ok slot ∧ registers.get? slot = some text ∧
      holdsValue registers condition value = .ok (decide (text = value)) := by
  unfold holdsValue
  cases named : Slot.parse .register condition with
  | error e => exact .inl ⟨e, rfl, .inl rfl⟩
  | ok slot =>
      change (∃ e, (do return (← registers.require slot) = value : Except ShellError Bool) = .error e ∧ _) ∨
        ∃ _ text, _ ∧ _ ∧ (do return (← registers.require slot) = value : Except ShellError Bool) = _
      cases held : registers.get? slot with
      | none =>
          refine .inl ⟨_, ?_, .inr ⟨slot, rfl, held, rfl⟩⟩
          rw [SlotTable.require, held]
          rfl
      | some text =>
          refine .inr ⟨slot, text, rfl, held, ?_⟩
          rw [SlotTable.require, held]
          rfl

variable {registers} {request : Recall} {condition value : String}

theorem refusal_of_holdsValue {e : ShellError} (tests : request.condition? = some (condition, value))
    (member : condition ∈ request.names) (failed : holdsValue registers condition value = .error e) :
    request.Refusal registers e := by
  rcases holdsValue_cases registers condition value with
    ⟨cause, failed', refused | ⟨slot, named, absent, rfl⟩⟩ | ⟨slot, text, -, -, tested⟩
  · cases failed.symm.trans failed'
    exact .misnamed member refused
  · cases failed.symm.trans failed'
    exact .empty tests named absent
  · cases failed.symm.trans tested

/-- Nothing is wrong with a recall if its condition can be tested and all other names are names. -/
theorem fine_of_holdsValue {holds : Bool} (tests : request.condition? = some (condition, value))
    (tested : holdsValue registers condition value = .ok holds)
    (named : ∀ name ∈ request.names, name = condition ∨ ∃ slot, Slot.parse .register name = .ok slot) :
    request.holds registers = holds ∧ ∀ e, ¬ request.Refusal registers e := by
  rcases holdsValue_cases registers condition value with
    ⟨e, failed, -⟩ | ⟨slot, text, parsed, held, tested'⟩
  · cases failed.symm.trans tested
  · cases tested'.symm.trans tested
    refine ⟨by simp [Recall.holds, tests, parsed, held, Except.toOption], ?_⟩
    rintro e (⟨member, refused⟩ | ⟨tests', parsed', absent⟩)
    · rcases named _ member with rfl | ⟨other, fine⟩
      · cases refused.symm.trans parsed
      · cases refused.symm.trans fine
    · cases tests.symm.trans tests'
      cases parsed.symm.trans parsed'
      cases held.symm.trans absent

variable (registers request)

/-- Either something is wrong with an operand and the choice fails for such a reason, or nothing is
    wrong and the registers are those that the condition selects. -/
theorem targets_cases :
    (∃ e, targets registers request.verb request.operands = .error e ∧ request.Refusal registers e) ∨
    ∃ slots, targets registers request.verb request.operands = .ok slots ∧
      (∀ e, ¬ request.Refusal registers e) ∧
      List.Forall₂ (fun name slot => Slot.parse .register name = .ok slot)
        (request.chosen (request.holds registers)) slots := by
  cases request with
  | all names =>
      rcases mapM_cases (Slot.parse .register) names with
        ⟨e, failed, name, member, refused⟩ | ⟨slots, parsed, named⟩
      · exact .inl ⟨e, failed, .misnamed member refused⟩
      · refine .inr ⟨slots, parsed, ?_, mapM_eq_ok_iff.mp parsed⟩
        rintro e (⟨member, refused⟩ | ⟨tests, -, -⟩)
        · obtain ⟨slot, fine⟩ := named _ member
          cases refused.symm.trans fine
        · cases tests
  | conditional equal condition value names =>
      rw [verb, operands, targets, Slot.parseAll]
      rcases mapM_cases (Slot.parse .register) names with
        ⟨e, failed, name, member, refused⟩ | ⟨slots, parsed, named⟩
      · rw [failed]
        exact .inl ⟨e, rfl, .misnamed (List.mem_cons_of_mem condition member) refused⟩
      · rw [parsed]
        cases tested : holdsValue registers condition value with
        | error e => exact .inl ⟨e, rfl, refusal_of_holdsValue rfl List.mem_cons_self tested⟩
        | ok holds =>
            obtain ⟨same, fine⟩ := fine_of_holdsValue
              (show (conditional equal condition value names).condition? = some (condition, value) from rfl)
              tested (List.forall_mem_cons.mpr ⟨.inl rfl, fun name member => .inr (named name member)⟩)
            refine .inr ⟨if holds = equal then slots else [], rfl, fine, ?_⟩
            rw [same, chosen]
            split
            · exact mapM_eq_ok_iff.mp parsed
            · exact .nil
  | either condition value first second =>
      rw [verb, operands, targets]
      cases parsedFirst : Slot.parse .register first with
      | error e => exact .inl ⟨e, rfl, .misnamed (by simp [names]) parsedFirst⟩
      | ok slot =>
          cases parsedSecond : Slot.parse .register second with
          | error e => exact .inl ⟨e, rfl, .misnamed (by simp [names]) parsedSecond⟩
          | ok other =>
              cases tested : holdsValue registers condition value with
              | error e => exact .inl ⟨e, rfl, refusal_of_holdsValue rfl List.mem_cons_self tested⟩
              | ok holds =>
                  obtain ⟨same, fine⟩ := fine_of_holdsValue
                    (show (either condition value first second).condition? = some (condition, value) from rfl)
                    tested (by simp [names, parsedFirst, parsedSecond])
                  refine .inr ⟨[if holds then slot else other], rfl, fine, ?_⟩
                  rw [same, chosen]
                  cases holds with
                  | true => exact .cons parsedFirst .nil
                  | false => exact .cons parsedSecond .nil

end Choice

end Recall

namespace Execute

variable {δ : Type} {runText : String → ShellM δ Unit} {shell after : Shell δ}

theorem recallSlots_cons_error {slot : Slot .register} {text : String} {e : ShellError}
    (held : shell.registers.get? slot = some text)
    (failed : runText text (shell.notice s!"Recalling command in register '{slot.char}': {text}") =
      .error e after) (rest : List (Slot .register)) :
    recallSlots runText (slot :: rest) shell = .error e after := by
  have ends : (runText text >>= fun _ => recallSlots runText rest)
      (shell.notice s!"Recalling command in register '{slot.char}': {text}") = .error e after :=
    ShellM.bind_error failed
  exact (ShellM.bind_ok (require_ok held)).trans ends

theorem recallChosen_ok (slots : List (Slot .register)) :
    recallChosen runText (.ok slots) = recallSlots runText slots >>= fun _ => pure .none := rfl

theorem recallChosen_error {slots : List (Slot .register)} {e : ShellError}
    (failed : recallSlots runText slots shell = .error e after) :
    recallChosen runText (.ok slots) shell = .error e after := by
  rw [recallChosen_ok, ShellM.bind_error failed]

theorem recallChosen_congr {slots rest : List (Slot .register)}
    (same : recallSlots runText slots shell = recallSlots runText rest after) :
    recallChosen runText (.ok slots) shell = recallChosen runText (.ok rest) after := by
  rw [recallChosen_ok, recallChosen_ok]
  cases ran : recallSlots runText rest after with
  | ok _ final => rw [ShellM.bind_ok ran, ShellM.bind_ok (same.trans ran)]
  | error e final => rw [ShellM.bind_error ran, ShellM.bind_error (same.trans ran)]

end Execute

namespace Shell

variable {δ : Type}

/-! ## Taking the registers in order -/

/-- Tells which register is recalled. -/
def announce (shell : Shell δ) (slot : Slot .register) (text : String) : Shell δ :=
  shell.notice s!"Recalling command in register '{slot.char}': {text}"

variable [InputDevice δ]

/-- Recalls registers in order at `depth`.  Each is recalled with the text that it holds when its turn
    comes, whatever became of the commands before it.  An empty register ends the recall, and so does one
    that is reached at the limit or whose text is no command, after it was announced. -/
inductive Recalls (depth : Nat) : List (Slot .register) → Shell δ → Shell δ → Prop where
  | done (shell : Shell δ) : Recalls depth [] shell shell
  | empty {slot : Slot .register} {shell : Shell δ} (rest : List (Slot .register))
      (absent : shell.registers.get? slot = none) :
      Recalls depth (slot :: rest) shell (shell.conclude (.error (.emptySlot .register slot.char)))
  | deep {slot : Slot .register} {text : String} {shell : Shell δ} (rest : List (Slot .register))
      (held : shell.registers.get? slot = some text) (limit : recallLimit ≤ depth) :
      Recalls depth (slot :: rest) shell
        ((shell.announce slot text).conclude (.error (.recallDepth recallLimit)))
  | unread {slot : Slot .register} {text : String} {shell : Shell δ} {e : ShellError}
      (rest : List (Slot .register)) (held : shell.registers.get? slot = some text)
      (below : depth < recallLimit) (refused : Command.parse text = .error e) :
      Recalls depth (slot :: rest) shell ((shell.announce slot text).conclude (.error e))
  | ran {slot : Slot .register} {text : String} {command : Command} {rest : List (Slot .register)}
      {shell final : Shell δ} (held : shell.registers.get? slot = some text) (below : depth < recallLimit)
      (parsed : Command.parse text = .ok command)
      (later : Recalls depth rest ((shell.announce slot text).dispatch command (depth + 1)) final) :
      Recalls depth (slot :: rest) shell final

theorem Recalls.unique {depth : Nat} {slots : List (Slot .register)} {shell a b : Shell δ}
    (first : Recalls depth slots shell a) (second : Recalls depth slots shell b) : a = b := by
  induction first with
  | done => cases second; rfl
  | empty rest absent =>
      cases second with
      | empty => rfl
      | deep _ held | unread _ held | ran held => cases absent.symm.trans held
  | deep rest held limit =>
      cases second with
      | empty _ absent => cases held.symm.trans absent
      | deep _ held' => cases held.symm.trans held'; rfl
      | unread _ _ below | ran _ below => omega
  | unread rest held below refused =>
      cases second with
      | empty _ absent => cases held.symm.trans absent
      | deep _ _ limit => omega
      | unread _ held' _ refused' =>
          cases held.symm.trans held'
          cases refused.symm.trans refused'
          rfl
      | ran held' _ parsed =>
          cases held.symm.trans held'
          cases refused.symm.trans parsed
  | ran held below parsed _ ih =>
      cases second with
      | empty _ absent => cases held.symm.trans absent
      | deep _ _ limit => omega
      | unread _ held' _ refused =>
          cases held.symm.trans held'
          cases parsed.symm.trans refused
      | ran held' _ parsed' later =>
          cases held.symm.trans held'
          cases parsed.symm.trans parsed'
          exact ih later

/-- What the verbs do with the registers that were chosen. -/
theorem recalls_settle (depth : Nat) (slots : List (Slot .register)) (shell : Shell δ) :
    Recalls depth slots shell (settle (Execute.recallChosen (recallText depth) (.ok slots) shell)) := by
  induction slots generalizing shell with
  | nil => exact .done shell
  | cons slot rest ih =>
      cases held : shell.registers.get? slot with
      | none =>
          rw [Execute.recallChosen_error (ShellM.bind_error (Execute.require_error held))]
          exact .empty rest held
      | some text =>
          rcases recallText_cases depth text (shell.announce slot text) with
            ⟨limit, failed⟩ | ⟨below, e, refused, failed⟩ | ⟨below, command, parsed, ran⟩
          · rw [Execute.recallChosen_error (Execute.recallSlots_cons_error held failed rest)]
            exact .deep rest held limit
          · rw [Execute.recallChosen_error (Execute.recallSlots_cons_error held failed rest)]
            exact .unread rest held below refused
          · rw [Execute.recallChosen_congr (Execute.recallSlots_cons held ran rest)]
            exact .ran held below parsed (ih _)

/-- One law for the four verbs.  A recall is refused as a whole if one of the operands that have to name
    a register does not, or if its condition register is empty; then the diagnostic is all that is seen.
    Otherwise it takes the registers that its condition selects, in order. -/
theorem dispatch_recall {command : Command} {entry : VerbEntry}
    (recalls : command.opcode ∈ ['#', '=', '-', '/'])
    (found : Registry.builtin.lookup command.opcode = some entry)
    (accepted : entry.arity.accepts command.operands.length = true) (depth : Nat) (shell : Shell δ) :
    ∃ request : Recall, request.opcode = command.opcode ∧ request.operands = command.operands ∧
      ((∃ e, request.Refusal shell.registers e) →
        ∃ e, request.Refusal shell.registers e ∧
          shell.dispatch command depth =
            { shell with
              journal := shell.journal ++ #[.dispatched depth command, .failed e] ++
                if shell.options.isOn .quiet then #[] else #[.line e.message] }) ∧
      ((∀ e, ¬ request.Refusal shell.registers e) →
        ∃ slots, List.Forall₂ (fun name slot => Slot.parse .register name = .ok slot)
            (request.chosen (request.holds shell.registers)) slots ∧
          ∀ final, shell.dispatch command depth = final ↔
            Recalls depth slots (shell.log (.dispatched depth command)) final) := by
  obtain ⟨request, opcode, operands, verb⟩ := Recall.exists_of_accepted recalls found accepted
  refine ⟨request, opcode, operands, ?_⟩
  have ran : shell.dispatch command depth = settle (Execute.recallChosen (recallText depth)
      (Execute.targets shell.registers request.verb request.operands)
      (shell.log (.dispatched depth command))) := by
    have recalling : request.verb.recalls = true ∧ request.verb ≠ .load := by
      cases request <;> exact ⟨rfl, by simp [Recall.verb]⟩
    rw [dispatch, dispatchWith_accepted found accepted, ← verb, ← operands,
      Execute.run_recalls _ _ recalling.1 recalling.2]
    rfl
  rcases request.targets_cases shell.registers with ⟨e, failed, refusal⟩ | ⟨slots, chosen, fine, named⟩
  · rw [failed] at ran
    refine ⟨fun _ => ⟨e, refusal, ?_⟩, fun fine => absurd refusal (fine e)⟩
    rw [ran]
    change ((shell.log (.dispatched depth command)).log (.failed e)).notice e.message = _
    rw [notice_eq]
    rfl
  · rw [chosen] at ran
    refine ⟨?_, fun _ => ⟨slots, named, fun final => ?_⟩⟩
    · rintro ⟨e, refusal⟩
      exact absurd refusal (fine e)
    have recalled := recalls_settle depth slots (shell.log (.dispatched depth command))
    rw [← ran] at recalled
    constructor
    · rintro rfl
      exact recalled
    · exact recalled.unique

/-- The first register changes the second, which is recalled with its new text; the third is empty and
    keeps the fourth from being recalled. -/
theorem dispatch_recall_rewritten :
    let a : Slot .register := ⟨0, by decide⟩
    let b : Slot .register := ⟨1, by decide⟩
    let c : Slot .register := ⟨2, by decide⟩
    let d : Slot .register := ⟨3, by decide⟩
    let x : Slot .register := ⟨23, by decide⟩
    let registers := (((SlotTable.empty.set a "@ b P new").set b "P old").set c "P c").set x "go"
    let shell : Shell VirtualDevice := { device := default, dotfile := "rc", registers }
    let command : Command := ⟨'=', "=", ["x", "go", "a", "b", "d", "c"]⟩
    Recalls 255 [a, b, d, c] (shell.log (.dispatched 255 command)) (shell.dispatch command 255) ∧
      Effect.lines (shell.dispatch command 255).journal.toList =
        ["Recalling command in register 'a': @ b P new", "Recorded command in register 'b': P new",
          "Recalling command in register 'b': P new", "new", "no command found in register 'd'"] := by
  intro a b c d x registers shell command
  refine ⟨?_, by decide +kernel⟩
  obtain ⟨entry, found, arity⟩ : ∃ entry, Registry.builtin.lookup '=' = some entry ∧
      entry.arity = .atLeast 3 := by decide
  have accepted : entry.arity.accepts command.operands.length = true := by
    rw [arity]
    decide
  obtain ⟨request, opcode, operands, -, law⟩ := dispatch_recall (by decide) found accepted 255 shell
  obtain rfl : request = .conditional true "x" "go" ["a", "b", "d", "c"] :=
    Recall.eq_of_operands opcode operands
  have names : ∀ name ∈ ["x", "a", "b", "d", "c"], (Slot.parse .register name).isOk = true := by decide
  have held : registers.get? x = some "go" := by decide +kernel
  have fine : ∀ e, ¬ Recall.Refusal registers (.conditional true "x" "go" ["a", "b", "d", "c"]) e := by
    rintro e (⟨member, refused⟩ | ⟨tests, named, absent⟩)
    · have ok := names _ member
      rw [refused] at ok
      cases ok
    · cases tests
      have here : Slot.parse .register "x" = .ok x := by decide
      cases here.symm.trans named
      cases held.symm.trans absent
  obtain ⟨slots, named, recalled⟩ := law fine
  have holds : Recall.holds registers (.conditional true "x" "go" ["a", "b", "d", "c"]) = true := by
    decide +kernel
  have listed : ["a", "b", "d", "c"].mapM (Slot.parse .register) = .ok [a, b, d, c] := by decide
  rw [holds] at named
  obtain rfl : slots = [a, b, d, c] := Except.ok.inj ((mapM_eq_ok_iff.mpr named).symm.trans listed)
  exact (recalled _).mp rfl

end Shell
end MacroShell
