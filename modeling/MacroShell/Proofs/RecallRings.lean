import MacroShell.Proofs.RecallLaw
import MacroShell.Proofs.RecordRecall

/-! # Rings of recalls

Registers that recall each other in a ring never come to an end by themselves.  The limit cuts such a recall:
at every level one register is announced, and the one that is announced at the limit is refused.  The refusal
is reported where it happens.  The levels above have nothing to say about it.
-/

namespace MacroShell.Shell

variable {δ : Type}

/-- The command that recalls a register. -/
def recallOf (slot : Slot .register) : Command := ⟨'#', "#", [String.singleton slot.char]⟩

/-- Logs effects in order. -/
def logAll (shell : Shell δ) (effects : List Effect) : Shell δ :=
  { shell with journal := shell.journal ++ effects.toArray }

theorem logAll_append (shell : Shell δ) (effects later : List Effect) :
    shell.logAll (effects ++ later) = (shell.logAll effects).logAll later := by
  simp [logAll]

/-- What shows that a register is recalled which recalls the next one. -/
def recallEffects (depth : Nat) (slot next : Slot .register) : List Effect :=
  [.dispatched depth (recallOf slot),
    .line s!"Recalling command in register '{slot.char}': # {next.char}"]

/-- What shows that a recall is refused at the limit. -/
def limitEffects : List Effect :=
  [.failed (.recallDepth recallLimit), .line s!"recall depth limit ({recallLimit}) exceeded"]

theorem announce_loud {shell : Shell δ} (loud : shell.options.isOn .quiet = false) (depth : Nat)
    (slot next : Slot .register) :
    (shell.log (.dispatched depth (recallOf slot))).announce slot (recallLine [next]) =
      shell.logAll (recallEffects depth slot next) := by
  have loud : (shell.log (.dispatched depth (recallOf slot))).options.isOn .quiet = false := loud
  have text : s!"Recalling command in register '{slot.char}': {recallLine [next]}" =
      s!"Recalling command in register '{slot.char}': # {next.char}" := by
    simp [← String.toList_inj, recallLine, toString]
  rw [announce, notice_eq, loud, text]
  rfl

theorem conclude_limit (shell : Shell δ) (loud : shell.options.isOn .quiet = false) :
    shell.conclude (.error (.recallDepth recallLimit)) = shell.logAll limitEffects := by
  have loud : (shell.log (.failed (.recallDepth recallLimit))).options.isOn .quiet = false := loud
  rw [conclude, notice_eq, loud]
  rfl

/-- The registers are recalled one below the other, down to the limit. -/
def chainEffects (order : Nat → Slot .register) (depth count : Nat) : List Effect :=
  (List.range count).flatMap fun n => recallEffects (depth + n) (order n) (order (n + 1))

theorem chainEffects_succ (order : Nat → Slot .register) (depth count : Nat) :
    chainEffects order depth (count + 1) =
      recallEffects depth (order 0) (order 1) ++ chainEffects (fun n => order (n + 1)) (depth + 1) count := by
  rw [chainEffects, List.range_succ_eq_map, List.flatMap_cons, List.flatMap_map]
  congr 2
  funext n
  rw [show depth + n.succ = depth + 1 + n by omega]

theorem lines_chainEffects (order : Nat → Slot .register) (depth count : Nat) :
    Effect.lines (chainEffects order depth count) =
      (List.range count).map fun n =>
        s!"Recalling command in register '{(order n).char}': # {(order (n + 1)).char}" := by
  rw [Effect.lines, chainEffects, List.filterMap_flatMap, List.map_eq_flatMap]
  rfl

variable [InputDevice δ]

theorem dispatch_recallAll_limit {register text : String} {slot : Slot .register}
    (named : Slot.parse .register register = .ok slot) {depth : Nat} (limit : recallLimit ≤ depth) (head : String)
    {shell : Shell δ} (held : shell.registers.get? slot = some text) :
    shell.dispatch ⟨'#', head, [register]⟩ depth =
      ((shell.log (.dispatched depth ⟨'#', head, [register]⟩)).announce slot text).conclude
        (.error (.recallDepth recallLimit)) := by
  have chosen : Slot.parseAll .register [register] = .ok [slot] := mapM_eq_ok_iff.mpr (.cons named .nil)
  have ran : shell.dispatch ⟨'#', head, [register]⟩ depth =
      settle (Execute.recallChosen (recallText depth) (.ok [slot])
        (shell.log (.dispatched depth ⟨'#', head, [register]⟩))) := by
    rw [dispatch, dispatchWith_recallAll (List.cons_ne_nil register []), ← chosen]
    rfl
  rw [ran]
  exact (recalls_settle depth [slot] _).unique (.deep [] held limit)

/-- Each register recalls the next one. -/
theorem dispatch_chain {order : Nat → Slot .register} {shell : Shell δ}
    (held : ∀ n, shell.registers.get? (order n) = some (recallLine [order (n + 1)]))
    (loud : shell.options.isOn .quiet = false) {levels depth : Nat} (left : depth + levels = recallLimit) :
    shell.dispatch (recallOf (order 0)) depth =
      shell.logAll (chainEffects order depth (levels + 1) ++ limitEffects) := by
  induction levels generalizing depth order shell with
  | zero =>
      have limit : recallLimit ≤ depth := left.ge
      rw [recallOf, dispatch_recallAll_limit (Slot.parse_char (order 0)) limit "#" (held 0), ← recallOf,
        announce_loud loud, conclude_limit (shell.logAll _) loud, chainEffects_succ, List.append_assoc,
        logAll_append]
      rfl
  | succ levels ih =>
      have below : depth < recallLimit := by omega
      have next := @ih (fun n => order (n + 1)) (shell.logAll (recallEffects depth (order 0) (order 1)))
        (fun n => held (n + 1)) loud (depth + 1) (by omega)
      rw [recallOf, dispatch_recallAll (Slot.parse_char (order 0)) (parse_recallLine [order 1]) below "#" (held 0),
        ← recallOf, chainEffects_succ, List.append_assoc, logAll_append, ← next, ← announce_loud loud]
      rfl

/-- Take any number of registers in a ring, each of which holds the line that recalls the next one, and recall
    the first one at a depth that is not past the limit.  Then the registers are announced in turn, once at every
    level that is left, the recall is refused once, and nothing else is done or said. -/
theorem dispatch_ring {k : Nat} (positive : 0 < k) (ring : Fin k → Slot .register) {shell : Shell δ}
    (held : ∀ i : Fin k, shell.registers.get? (ring i) =
      some s!"# {(ring ⟨(i + 1) % k, Nat.mod_lt _ positive⟩).char}")
    (loud : shell.options.isOn .quiet = false) {depth : Nat} (within : depth ≤ 256) :
    let order (n : Nat) : Slot .register := ring ⟨n % k, Nat.mod_lt n positive⟩
    let effects := chainEffects order depth (257 - depth) ++ limitEffects
    Command.parse s!"# {(order 0).char}" = .ok (recallOf (order 0)) ∧
    shell.dispatch (recallOf (order 0)) depth = { shell with journal := shell.journal ++ effects.toArray } ∧
    Effect.lines effects =
      (List.range (257 - depth)).map (fun n =>
        s!"Recalling command in register '{(order n).char}': # {(order (n + 1)).char}") ++
      ["recall depth limit (256) exceeded"] := by
  intro order effects
  have next (n : Nat) : shell.registers.get? (order n) = some (recallLine [order (n + 1)]) := by
    have wraps : order (n + 1) = ring ⟨(n % k + 1) % k, Nat.mod_lt _ positive⟩ := by
      simp only [order, Nat.mod_add_mod]
    rw [wraps]
    exact held ⟨n % k, Nat.mod_lt n positive⟩
  refine ⟨parse_recallLine [order 0], ?_, ?_⟩
  · have levels : depth + (256 - depth) = recallLimit := Nat.add_sub_cancel' within
    have count : 256 - depth + 1 = 257 - depth := by omega
    rw [dispatch_chain next loud levels, count]
    rfl
  · simp only [effects, Effect.lines_append, lines_chainEffects]
    rfl

/-- Two registers recall each other, from two levels above the limit. -/
theorem dispatch_ring_pair :
    let a : Slot .register := ⟨0, by decide⟩
    let b : Slot .register := ⟨61, by decide⟩
    let shell : Shell VirtualDevice :=
      { device := default, dotfile := "rc", registers := (SlotTable.empty.set a "# 9").set b "# a" }
    shell.registers.get? a = some "# 9" ∧ shell.registers.get? b = some "# a" ∧
      (∃ journal, shell.dispatch ⟨'#', "#", ["a"]⟩ 254 = { shell with journal }) ∧
      Effect.lines (shell.dispatch ⟨'#', "#", ["a"]⟩ 254).journal.toList =
        ["Recalling command in register 'a': # 9", "Recalling command in register '9': # a",
          "Recalling command in register 'a': # 9", "recall depth limit (256) exceeded"] := by
  intro a b shell
  have first : shell.registers.get? a = some "# 9" := by decide +kernel
  have second : shell.registers.get? b = some "# a" := by decide +kernel
  let ring : Fin 2 → Slot .register := fun i => if i = 0 then a else b
  have held : ∀ i : Fin 2, shell.registers.get? (ring i) =
      some s!"# {(ring ⟨(i + 1) % 2, Nat.mod_lt _ (by decide)⟩).char}" := by decide +kernel
  obtain ⟨-, same, lines⟩ := dispatch_ring (by decide : 0 < 2) ring held rfl (by decide : 254 ≤ 256)
  have named : recallOf (ring ⟨0 % 2, Nat.mod_lt 0 (by decide)⟩) = ⟨'#', "#", ["a"]⟩ := by decide +kernel
  rw [named] at same
  have fresh : shell.journal = #[] := rfl
  refine ⟨first, second, ⟨_, same⟩, ?_⟩
  rw [same, fresh, Array.empty_append, List.toList_toArray]
  exact lines.trans (by decide +kernel)

end MacroShell.Shell
