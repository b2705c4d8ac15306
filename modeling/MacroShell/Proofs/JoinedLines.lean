import MacroShell.Proofs.Rerecording

/-! # Two texts joined by a space

A text that is put behind another one is split as it would be alone, if the quotes of the first are paired.
Otherwise the last quote of the first text finds a partner in the second, as soon as there is one, and the
space between them no longer separates anything.  The fronts that matter are verbs with their first operand:
they do not change what is recorded behind them.
-/

namespace MacroShell

namespace Words

open MacroShell.Text

/-! ## Pieces with unpaired quotes -/

theorem pairwise_asWord (R : List Char → List Char → Prop) (text : List Char) : (asWord text).Pairwise R := by
  unfold asWord
  split <;> simp

/-- A piece with an odd number of quotes holds the last quote of the line.  The flag of the pass tells
    whether the current piece has an odd number of quotes so far, as long as there are quotes ahead. -/
theorem pairwise_splitFrom {inside : Bool} {reversed rest : List Char}
    (paired : '"' ∈ rest → reversed.count '"' % 2 = inside.toNat) :
    (splitFrom inside reversed rest).Pairwise fun piece later => piece.count '"' % 2 = 1 → '"' ∉ later := by
  induction rest generalizing inside reversed with
  | nil =>
      rw [splitFrom_nil]
      exact pairwise_asWord _ _
  | cons c rest ih =>
      have anew : (splitQuoted rest).Pairwise fun piece later => piece.count '"' % 2 = 1 → '"' ∉ later :=
        ih (by simp)
      rcases splitFrom_cons_cases inside reversed c rest with
        ⟨after, step, -, -, turned⟩ | ⟨rfl, rfl, step⟩ | ⟨-, -, -, step⟩
      · rw [step]
        refine ih fun ahead => ?_
        have before := paired (List.mem_cons_of_mem c ahead)
        rw [turned ahead]
        by_cases quote : c = '"'
        · subst quote
          have flipped : (!inside).toNat = 1 - inside.toNat := by cases inside <;> rfl
          rw [List.count_cons_self, if_pos rfl, flipped, ← before]
          omega
        · rw [List.count_cons_of_ne quote, if_neg quote, before]
      · rw [step, List.pairwise_append]
        refine ⟨pairwise_asWord _ _, anew, fun piece here later member odd => ?_⟩
        rw [mem_asWord here, List.count_reverse] at odd
        -- The piece ends here with an odd number of quotes, so there was none ahead.
        have none : '"' ∉ rest := by
          intro ahead
          have even := paired (List.mem_cons_of_mem ' ' ahead)
          rw [odd] at even
          cases even
        have count := count_flatten_splitQuoted rest
        rw [List.count_eq_zero.mpr none, List.count_eq_zero] at count
        exact fun quote => count (List.mem_flatten_of_mem member quote)
      · rw [step]
        exact anew

theorem pairwise_splitQuoted (line : List Char) :
    (splitQuoted line).Pairwise fun piece later => piece.count '"' % 2 = 1 → '"' ∉ later :=
  pairwise_splitFrom (by simp)

theorem exists_odd_of_flatten {pieces : List (List Char)} (odd : pieces.flatten.count '"' % 2 = 1) :
    ∃ piece ∈ pieces, piece.count '"' % 2 = 1 := by
  induction pieces with
  | nil => cases odd
  | cons piece pieces ih =>
      rw [List.flatten_cons, List.count_append] at odd
      by_cases here : piece.count '"' % 2 = 1
      · exact ⟨piece, List.mem_cons_self, here⟩
      · obtain ⟨later, member, oddLater⟩ := ih (by omega)
        exact ⟨later, List.mem_cons_of_mem piece member, oddLater⟩

/-! ## The space between two texts -/

/-- The space separates the two texts in no other case: one piece of the first would have an odd number of
    quotes, and another quote would come behind it. -/
theorem splitQuoted_append_space_iff {s t : List Char} :
    splitQuoted (s ++ ' ' :: t) = splitQuoted s ++ splitQuoted t ↔ s.count '"' % 2 = 0 ∨ '"' ∉ t := by
  refine ⟨fun same => ?_, splitQuoted_append_space⟩
  by_contra unpaired
  obtain ⟨odd, quoted⟩ : s.count '"' % 2 = 1 ∧ '"' ∈ t := by
    rw [not_or, Classical.not_not] at unpaired
    exact ⟨by omega, unpaired.2⟩
  obtain ⟨piece, before, oddPiece⟩ : ∃ piece ∈ splitQuoted s, piece.count '"' % 2 = 1 :=
    exists_odd_of_flatten (by rw [count_flatten_splitQuoted, odd])
  obtain ⟨later, behind, quote⟩ : ∃ later ∈ splitQuoted t, '"' ∈ later := by
    rw [← List.mem_flatten, ← List.count_pos_iff, count_flatten_splitQuoted]
    exact List.count_pos_iff.mpr quoted
  have pairs := pairwise_splitQuoted (s ++ ' ' :: t)
  rw [same, List.pairwise_append] at pairs
  exact pairs.2.2 piece before later behind oddPiece quote

theorem toList_append_space (s t : String) : (s ++ " " ++ t).toList = s.toList ++ ' ' :: t.toList := by
  simp

theorem split_append_space {s : String} (balanced : s.toList.count '"' % 2 = 0) (t : String) :
    split (s ++ " " ++ t) = split s ++ split t := by
  rw [split, toList_append_space, splitQuoted_append_space (.inl balanced), List.map_append]
  rfl

/-- A command with paired quotes takes the words of the text behind it as further operands. -/
theorem parse_append_space {s : String} (balanced : s.toList.count '"' % 2 = 0) {command : Command}
    (parsed : Command.parse s = .ok command) (t : String) :
    Command.parse (s ++ " " ++ t) = .ok { command with operands := command.operands ++ split t } := by
  obtain ⟨first, words⟩ := parse_eq_ok_iff.mp parsed
  refine parse_eq_ok_iff.mpr ⟨?_, ?_⟩
  · rw [toList_append_space, List.find?_append, first, Option.some_or]
  · rw [split_append_space balanced, words]
    rfl

end Words

namespace Shell

open MacroShell.Words

/-- A space splits a line into two lines exactly if the quotes before it are paired or none comes behind it.
    So a command with paired quotes, or none, leaves the text behind it as it is split alone, however its
    quotes and blanks stand, and takes its words as further operands.  What is recorded in a register or bound
    to a hotkey by such a front, a verb with its first operand, is made from just these words. -/
theorem split_behind_front (s t : String) :
    (splitQuoted (s ++ " " ++ t).toList = splitQuoted s.toList ++ splitQuoted t.toList ↔
      s.toList.count '"' % 2 = 0 ∨ '"' ∉ t.toList) ∧
    (s.toList.count '"' % 2 = 0 →
      (∀ command, Command.parse s = .ok command →
        Command.parse (s ++ " " ++ t) = .ok { command with operands := command.operands ++ split t }) ∧
      ∀ {δ : Type} [InputDevice δ] (shell : Shell δ) (head name : String), split t ≠ [] →
        (∀ slot, Command.parse s = .ok ⟨'@', head, [name]⟩ → Slot.parse .register name = .ok slot →
          (shell.executeLine (s ++ " " ++ t)).registers = shell.registers.set slot (join (split t))) ∧
        (∀ slot, Command.parse s = .ok ⟨'&', head, [name]⟩ → Slot.parse .hotkey name = .ok slot →
          (shell.executeLine (s ++ " " ++ t)).hotkeys = shell.hotkeys.set slot (join (split t)))) := by
  refine ⟨by rw [toList_append_space, splitQuoted_append_space_iff], fun balanced => ?_⟩
  refine ⟨fun command parsed => parse_append_space balanced parsed t, fun shell head name nonempty => ⟨?_, ?_⟩⟩
  · intro slot parsed named
    rw [executeLine, parse_append_space balanced parsed t]
    change (shell.dispatch ⟨'@', head, name :: split t⟩ 0).registers = _
    rw [dispatch, dispatchWith_record named nonempty, notice_eq]
    rfl
  · intro slot parsed named
    rw [executeLine, parse_append_space balanced parsed t]
    change (shell.dispatch ⟨'&', head, name :: split t⟩ 0).hotkeys = _
    rw [dispatch, dispatchWith_bind named nonempty, notice_eq]
    rfl

/-- The text has a quote without a partner and a tab in front of a word.  Two fronts, one of them with quotes of
    its own, leave its words as they are, and a front with an unpaired quote does not. -/
theorem split_behind_front_tab :
    let t := "P \"a  b\"  \tit\"s"
    let words := ["P", "a  b", "it\"s"]
    let shell : Shell VirtualDevice := { device := default, dotfile := "rc" }
    let q : Slot .register := ⟨16, by decide⟩
    let space : Slot .hotkey := ⟨0, by decide⟩
    split t = words ∧
    Command.parse ("@ q" ++ " " ++ t) = .ok ⟨'@', "@", ["q"] ++ words⟩ ∧
    (shell.executeLine ("@ q" ++ " " ++ t)).registers = shell.registers.set q (join words) ∧
    (shell.executeLine ("& \" \"" ++ " " ++ t)).hotkeys = shell.hotkeys.set space (join words) ∧
    splitQuoted ("& \"" ++ " " ++ t).toList ≠ splitQuoted "& \"".toList ++ splitQuoted t.toList := by
  intro t words shell q space
  have found : split t = words := by decide
  have nonempty : split t ≠ [] := by rw [found]; exact List.cons_ne_nil _ _
  have record : Command.parse "@ q" = .ok ⟨'@', "@", ["q"]⟩ := by decide
  have bind : Command.parse "& \" \"" = .ok ⟨'&', "&", [" "]⟩ := by decide
  obtain ⟨taken, stored⟩ := (split_behind_front "@ q" t).2 (by decide)
  obtain ⟨-, bound⟩ := (split_behind_front "& \" \"" t).2 (by decide)
  refine ⟨found, ?_, ?_, ?_, ?_⟩
  · rw [taken _ record, found]
  · rw [← found]
    exact (stored shell "@" "q" nonempty).1 q record (by decide)
  · rw [← found]
    exact (bound shell "&" " " nonempty).2 space bind (by decide)
  · exact mt (split_behind_front "& \"" t).1.mp (by decide)

end Shell

end MacroShell
