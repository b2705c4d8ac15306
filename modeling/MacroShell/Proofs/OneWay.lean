import MacroShell.Device.Virtual
import MacroShell.Proofs.Moments

/-! # What is never undone

A register or a hotkey that holds text is never emptied, and the quit flag is never cleared.  There are
verbs that set, and none that unset.
-/

namespace MacroShell

variable {δ : Type}

/-- Slots that hold text before hold text after, and the quit flag stays set. -/
structure Shell.OneWay (before after : Shell δ) : Prop where
  registers : ∀ slot, (before.registers.get? slot).isSome → (after.registers.get? slot).isSome
  hotkeys : ∀ slot, (before.hotkeys.get? slot).isSome → (after.hotkeys.get? slot).isSome
  quit : before.quit = true → after.quit = true

theorem SlotTable.isSome_get?_set {kind : SlotKind} {table : SlotTable kind} {other : Slot kind}
    (held : (table.get? other).isSome) (slot : Slot kind) (text : String) :
    ((table.set slot text).get? other).isSome := by
  rw [get?_set]
  split
  · rfl
  · exact held

namespace Shell.OneWay

variable {a b c : Shell δ}

theorem refl (a : Shell δ) : a.OneWay a := ⟨fun _ held => held, fun _ held => held, fun quits => quits⟩

theorem trans (first : a.OneWay b) (second : b.OneWay c) : a.OneWay c where
  registers slot held := second.registers slot (first.registers slot held)
  hotkeys slot held := second.hotkeys slot (first.hotkeys slot held)
  quit quits := second.quit (first.quit quits)

theorem setRegister (first : a.OneWay b) (slot : Slot .register) (text : String) :
    a.OneWay (b.setRegister slot text) where
  registers other held := SlotTable.isSome_get?_set (first.registers other held) slot text
  hotkeys := first.hotkeys
  quit := first.quit

theorem setHotkey (first : a.OneWay b) (slot : Slot .hotkey) (text : String) :
    a.OneWay (b.setHotkey slot text) where
  registers := first.registers
  hotkeys other held := SlotTable.isSome_get?_set (first.hotkeys other held) slot text
  quit := first.quit

end Shell.OneWay

/-- What can be come to from `start` is no further back than it. -/
def Invariant.oneWay (start : Shell δ) : Invariant δ where
  Inv := start.OneWay
  Fine _ := True
  hereditary := .trivial
  holds _ := Shell.holds_trivial _
  change {s change} sofar _ := by
    cases change with
    | register slot text => exact sofar.setRegister slot text
    | hotkey slot text => exact sofar.setHotkey slot text
    | device | clicks | option | tasks | sleep => exact ⟨sofar.registers, sofar.hotkeys, sofar.quit⟩
  log sofar _ _ := ⟨sofar.registers, sofar.hotkeys, sofar.quit⟩
  quit sofar := ⟨sofar.registers, sofar.hotkeys, fun _ => rfl⟩
  save sofar _ := ⟨sofar.registers, sofar.hotkeys, sofar.quit⟩

theorem Shell.OneWay.log (shell : Shell δ) (effect : Effect) : shell.OneWay (shell.log effect) :=
  ⟨fun _ held => held, fun _ held => held, fun quits => quits⟩

theorem Between.oneWay {before after : Shell δ} (between : Between before after) : before.OneWay after := by
  cases between with
  | log => exact .log before _
  | quit => exact ⟨fun _ held => held, fun _ held => held, fun _ => rfl⟩
  | around => exact ⟨fun _ held => held, fun _ held => held, fun quits => quits⟩

theorem Moment.oneWay [InputDevice δ] (moment : Moment δ) : moment.shell.OneWay moment.after := by
  cases moment with
  | dispatch shell depth command =>
      cases recalls : command.recalls with
      | true =>
          rw [after_recalls recalls]
          exact .log shell _
      | false =>
          rw [after_leaf recalls]
          exact (Invariant.oneWay shell).dispatch (fun depth command sofar => sofar.trans (.log _ _))
            (fun _ _ => trivial) depth (.refl shell)
  | sample shell =>
      have reset : shell.OneWay { shell with clicks := 0 } :=
        ⟨fun _ held => held, fun _ held => held, fun quits => quits⟩
      change shell.OneWay shell.sample.2
      unfold Shell.sample
      dsimp only
      split
      · exact reset.setRegister _ _
      · exact reset

/-! ## Along a run -/

namespace Shell.OneWay

variable {front : List (Shell δ)} {last next : Shell δ}

theorem pairwise_concat_iff :
    (front ++ [last]).Pairwise OneWay ↔ front.Pairwise OneWay ∧ ∀ earlier ∈ front, earlier.OneWay last := by
  simp [List.pairwise_append]

/-- What comes after the last comes after all. -/
theorem of_last (ordered : (front ++ [last]).Pairwise OneWay) (goes : last.OneWay next) :
    ∀ earlier ∈ front ++ [last], earlier.OneWay next := by
  rw [List.forall_mem_append, List.forall_mem_singleton]
  exact ⟨fun earlier member => ((pairwise_concat_iff.mp ordered).2 earlier member).trans goes, goes⟩

end Shell.OneWay

/-- On the course: the moments come in their order, after the start and before what is reached. -/
theorem Course.oneWay [InputDevice δ] {start shell : Shell δ} {moments : List (Moment δ)}
    (course : Course start moments shell) :
    (start :: moments.map Moment.shell ++ [shell]).Pairwise Shell.OneWay := by
  induction course with
  | refl => simp [Shell.OneWay.refl]
  | between _ change ih =>
      have before := Shell.OneWay.of_last ih change.oneWay
      refine Shell.OneWay.pairwise_concat_iff.mpr ⟨(Shell.OneWay.pairwise_concat_iff.mp ih).1, ?_⟩
      exact fun earlier member => before earlier (List.mem_append_left _ member)
  | @moment moments moment _ ih =>
      rw [List.map_append, ← List.cons_append]
      exact Shell.OneWay.pairwise_concat_iff.mpr ⟨ih, Shell.OneWay.of_last ih moment.oneWay⟩

namespace Shell

variable [InputDevice δ] [KeySource δ]

/-- The points of a run: before and after every step, and at every moment within. -/
def points (shell : Shell δ) : List (Step δ) → List (Shell δ)
  | [] => [shell]
  | step :: steps => (shell :: (shell.stepMoments step).map Moment.shell) ++ (shell.perform step).points steps

theorem points_pairwise (steps : List (Step δ)) (shell : Shell δ) :
    (shell.points steps).Pairwise OneWay ∧ ∀ point ∈ shell.points steps, shell.OneWay point := by
  induction steps generalizing shell with
  | nil => simp [points, OneWay.refl]
  | cons step steps ih =>
      obtain ⟨later, reached⟩ := ih (shell.perform step)
      have here := (course_perform step shell).oneWay
      obtain ⟨within, goes⟩ := OneWay.pairwise_concat_iff.mp here
      have all : (shell.points (step :: steps)).Pairwise OneWay := by
        refine List.pairwise_append.mpr ⟨within, later, ?_⟩
        exact fun point member after found => (goes point member).trans (reached after found)
      refine ⟨all, ?_⟩
      rw [points, List.cons_append, List.forall_mem_cons]
      exact ⟨.refl shell, (List.pairwise_cons.mp all).1⟩

theorem getLast?_points (steps : List (Step δ)) (shell : Shell δ) :
    (shell.points steps).getLast? = some (shell.performAll steps) := by
  induction steps generalizing shell with
  | nil => rfl
  | cons step steps ih =>
      rw [points, List.getLast?_append, ih, Option.some_or, performAll, performAll, List.foldl_cons]

end Shell

theorem OptionKey.name_of_ofName? {name : String} {key : OptionKey} (found : ofName? name = some key) :
    key.name = name := by
  unfold ofName? at found
  simpa using List.find?_some found

/-- What can be asked for by name are the values that the table has for its keys. -/
theorem OptionTable.getNamed_eq_ok_iff {options : OptionTable} {name value : String} :
    options.getNamed name = .ok value ↔
      (name, value) ∈ options.entries.map fun entry => (entry.1.name, entry.2) := by
  simp only [entries, List.map_map, List.mem_map, Function.comp_apply, Prod.mk.injEq]
  constructor
  · intro got
    unfold getNamed at got
    split at got
    · rename_i key found
      cases got
      exact ⟨key, key.mem_all, OptionKey.name_of_ofName? found, rfl⟩
    · cases got
  · rintro ⟨key, -, rfl, rfl⟩
    rw [getNamed, OptionKey.ofName?_name]

namespace Shell

variable [InputDevice δ] [KeySource δ]

/-- From each point of a run to every later one, slots that hold text go on to hold some text and the quit
    flag stays set.  That is so within the dispatch of a command too, whatever its depth.  At every point each
    of the five options has one value, at the place where it is defined, and these are all that can be asked
    for. -/
theorem points_oneWay (start : Shell δ) (steps : List (Step δ)) :
    (start.points steps).Pairwise OneWay ∧ (start.points steps).getLast? = some (start.performAll steps) ∧
    ∀ shell ∈ start.points steps,
      (∀ command depth,
        (shell :: (shell.dispatchMoments command depth).map Moment.shell ++ [shell.dispatch command depth]).Pairwise
          OneWay) ∧
      shell.options.entries.map (fun entry => entry.1.name) =
        ["quiet", "leader", "enable_cps_register", "enable_last_location_register", "enable_hotkey"] ∧
      (∀ key, shell.options.entries[OptionKey.all.idxOf key]? = some (key, shell.options.get key)) ∧
      ∀ name value, shell.options.getNamed name = .ok value ↔
        (name, value) ∈ shell.options.entries.map fun entry => (entry.1.name, entry.2) := by
  refine ⟨(points_pairwise steps start).1, getLast?_points steps start, fun shell _ => ⟨?_, rfl, ?_, ?_⟩⟩
  · exact fun command depth => (course_dispatch command depth shell).oneWay
  · intro key
    cases key <;> rfl
  · exact fun name value => OptionTable.getNamed_eq_ok_iff

/-- Register `a` is told to quit, and a key to recall it.  When the key is pressed, the flag is set. -/
theorem points_oneWay_pressed :
    let start : Shell VirtualDevice := { device := default, dotfile := "rc" }
    let steps : List (Step VirtualDevice) :=
      [.execute "@ a Q", .execute "& q # a", .device fun device => device.inject ⟨'q', false⟩, .listen 0]
    let after := start.performAll steps
    (start.points steps).Pairwise OneWay ∧ (start.points steps).length = 9 ∧ start ∈ start.points steps ∧
      start.options.entries[OptionKey.all.idxOf .hotkeys]? = some (.hotkeys, "true") ∧
      after.registers.get? ⟨0, by decide⟩ = some "Q" ∧ after.quit = true := by
  intro start steps after
  have member : start ∈ start.points steps := List.mem_cons_self
  obtain ⟨ordered, -, each⟩ := points_oneWay start steps
  exact ⟨ordered, by decide +kernel, member, (each start member).2.2.1 .hotkeys, by decide +kernel,
    by decide +kernel⟩

end Shell
end MacroShell
