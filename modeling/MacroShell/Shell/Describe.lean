import MacroShell.Shell.Basic
import MacroShell.Text.Escaped

/-! # Descriptions

One-line descriptions of tables and shells for debugging. They show how many slots are occupied,
not what is in them.
-/

namespace MacroShell

def SlotKind.title : SlotKind → String
  | register => "Register"
  | hotkey => "Hotkey"

def SlotTable.describe {kind : SlotKind} (table : SlotTable kind) : String :=
  s!"SlotTable \x7b kind: {kind.title}, occupied: {table.occupied} \x7d"

def OptionTable.describe (table : OptionTable) : String :=
  let values := ", ".intercalate (table.entries.map fun entry => Text.quoteString entry.2)
  s!"OptionTable \x7b values: RwLock \x7b data: [{values}] \x7d \x7d"

def State.describe (state : State) : String :=
  s!"ShellState \x7b registers: {state.registers.describe}, hotkeys: {state.hotkeys.describe}, " ++
    s!"options: {state.options.describe}, clicks: {state.clicks.toNat}, quit: {state.quit} \x7d"

def Shell.describe {δ : Type} (shell : Shell δ) : String :=
  s!"Shell \x7b state: {shell.toState.describe}, dotfile: {Text.quoteString shell.dotfile}, .. \x7d"

end MacroShell
