import MacroShell.Proofs.Coupling

/-! # What the loop verbs start

A loop verb that succeeds has copied the texts of its registers and started one task with the copies.
It does nothing else but print its notice.
-/

namespace MacroShell

variable {δ α β : Type}

theorem Command.parseAll_eq_ok_iff {texts : List String} {body : List Command} :
    parseAll texts = .ok body ↔ List.Forall₂ (fun text command => parse text = .ok command) texts body :=
  mapM_eq_ok_iff

/-- As soon as one text is no command, the texts together are none either. -/
theorem Command.parseAll_refused {texts : List String} {text : String} {e : ShellError} (member : text ∈ texts)
    (refused : parse text = .error e) : ∃ e, parseAll texts = .error e := by
  rcases mapM_cases parse texts with ⟨e, failed, -⟩ | ⟨body, -, read⟩
  · exact ⟨e, failed⟩
  · obtain ⟨command, accepted⟩ := read text member
    rw [refused] at accepted
    cases accepted

theorem ShellM.bind_eq_ok {action : ShellM δ α} {next : α → ShellM δ β} {shell after : Shell δ} {b : β}
    (ran : (action >>= next) shell = .ok b after) :
    ∃ a middle, action shell = .ok a middle ∧ next a middle = .ok b after := by
  cases first : action shell with
  | ok a middle => exact ⟨a, middle, rfl, (bind_ok first).symm.trans ran⟩
  | error e middle =>
      rw [bind_error first] at ran
      cases ran

theorem ShellM.check_eq_ok {result : Except ShellError α} {shell after : Shell δ} {a : α}
    (ran : check result shell = .ok a after) : result = .ok a ∧ after = shell := by
  cases result with
  | ok a =>
      cases ran
      exact ⟨rfl, rfl⟩
  | error e => cases ran

namespace Execute

theorem snapshot_eq_ok {slots : List (Slot .register)} {texts : List String} {shell after : Shell δ}
    (ran : snapshot slots shell = .ok texts after) :
    List.Forall₂ (fun slot text => shell.registers.get? slot = some text) slots texts ∧ after = shell := by
  obtain ⟨taken, rfl⟩ := ShellM.check_eq_ok (ran : ShellM.check (slots.mapM shell.registers.require) shell = _)
  exact ⟨(mapM_eq_ok_iff.mp taken).imp fun _ _ found => SlotTable.get?_of_require found, rfl⟩

theorem repetition_eq_ok {count : String} {registers : List String} {output : Output} {shell after : Shell δ}
    (ran : repetition count registers shell = .ok output after) :
    ∃ passes slots texts, Text.natural? UInt64.size count = some passes ∧ 0 < passes ∧
      Slot.parseAll .register registers = .ok slots ∧
      List.Forall₂ (fun slot text => shell.registers.get? slot = some text) slots texts ∧
      after = shell.spawn (.repetition texts passes) ∧ ∃ text, output = .notice text := by
  unfold repetition at ran
  cases counted : (Text.natural? UInt64.size count).filter (0 < ·) with
  | none =>
      rw [counted] at ran
      cases ran
  | some passes =>
      rw [counted] at ran
      obtain ⟨read, positive⟩ := Option.filter_eq_some_iff.mp counted
      obtain ⟨slots, _, named, copies⟩ := ShellM.bind_eq_ok ran
      obtain ⟨parsed, rfl⟩ := ShellM.check_eq_ok named
      obtain ⟨texts, _, taken, spawns⟩ := ShellM.bind_eq_ok copies
      obtain ⟨held, rfl⟩ := snapshot_eq_ok taken
      cases spawns
      exact ⟨passes, slots, texts, read, by simpa using positive, parsed, held, rfl, _, rfl⟩

theorem watch_eq_ok {condition value : String} {registers : List String} {output : Output}
    {shell after : Shell δ} (ran : watch condition value registers shell = .ok output after) :
    ∃ slot slots texts, Slot.parse .register condition = .ok slot ∧
      Slot.parseAll .register registers = .ok slots ∧
      List.Forall₂ (fun slot text => shell.registers.get? slot = some text) slots texts ∧
      after = shell.spawn (.watch slot value texts) ∧ ∃ text, output = .notice text := by
  obtain ⟨slot, _, named, names⟩ := ShellM.bind_eq_ok ran
  obtain ⟨read, rfl⟩ := ShellM.check_eq_ok named
  obtain ⟨slots, _, listed, copies⟩ := ShellM.bind_eq_ok names
  obtain ⟨parsed, rfl⟩ := ShellM.check_eq_ok listed
  obtain ⟨texts, _, taken, spawns⟩ := ShellM.bind_eq_ok copies
  obtain ⟨held, rfl⟩ := snapshot_eq_ok taken
  cases spawns
  exact ⟨slot, slots, texts, read, parsed, held, rfl, _, rfl⟩

end Execute

namespace Shell

@[simp] theorem conclude_notice_tasks (shell : Shell δ) (text : String) :
    (shell.conclude (.ok (.notice text))).tasks = shell.tasks := by
  unfold conclude notice
  dsimp only
  split <;> rfl

variable [InputDevice δ]

theorem run_of_outcome? {opcode : Char} {verb : Verb} {arity : Arity}
    (selected : selection opcode = some (verb, arity)) {head : String} {operands : List String} {depth : Nat}
    {shell after : Shell δ} {output : Output}
    (came : shell.outcome? ⟨opcode, head, operands⟩ depth = some (.ok output after)) :
    Execute.run (recallText depth) verb operands (shell.log (.dispatched depth ⟨opcode, head, operands⟩)) =
      .ok output after := by
  obtain ⟨entry, found, came⟩ := Option.map_eq_some_iff.mp came
  obtain ⟨_, found', same⟩ := Option.map_eq_some_iff.mp selected
  obtain rfl := Option.some.inj (found.symm.trans found')
  obtain ⟨rfl, rfl⟩ := Prod.mk.inj same
  split at came
  · exact came
  · cases came

theorem dispatch_repetition {head count : String} {registers : List String} {depth : Nat}
    {shell after : Shell δ} {output : Output}
    (succeeds : shell.outcome? ⟨'*', head, count :: registers⟩ depth = some (.ok output after)) :
    ∃ passes slots texts, Text.natural? UInt64.size count = some passes ∧ 0 < passes ∧
      Slot.parseAll .register registers = .ok slots ∧
      List.Forall₂ (fun slot text => shell.registers.get? slot = some text) slots texts ∧
      (shell.dispatch ⟨'*', head, count :: registers⟩ depth).tasks =
        shell.tasks ++ [.repetition texts passes] := by
  have selected : selection '*' = some (.repetition, .atLeast 2) := by decide
  obtain ⟨passes, slots, texts, counted, positive, parsed, held, rfl, text, rfl⟩ :=
    Execute.repetition_eq_ok (run_of_outcome? selected succeeds)
  refine ⟨passes, slots, texts, counted, positive, parsed, held, ?_⟩
  rw [dispatch_of_outcome? succeeds, settle, conclude_notice_tasks]
  rfl

theorem dispatch_watch {head condition value : String} {registers : List String} {depth : Nat}
    {shell after : Shell δ} {output : Output}
    (succeeds : shell.outcome? ⟨'^', head, condition :: value :: registers⟩ depth = some (.ok output after)) :
    ∃ slot slots texts, Slot.parse .register condition = .ok slot ∧
      Slot.parseAll .register registers = .ok slots ∧
      List.Forall₂ (fun slot text => shell.registers.get? slot = some text) slots texts ∧
      (shell.dispatch ⟨'^', head, condition :: value :: registers⟩ depth).tasks =
        shell.tasks ++ [.watch slot value texts] := by
  have selected : selection '^' = some (.watch, .atLeast 3) := by decide
  obtain ⟨slot, slots, texts, read, parsed, held, rfl, text, rfl⟩ :=
    Execute.watch_eq_ok (run_of_outcome? selected succeeds)
  refine ⟨slot, slots, texts, read, parsed, held, ?_⟩
  rw [dispatch_of_outcome? succeeds, settle, conclude_notice_tasks]
  rfl

end Shell

end MacroShell
