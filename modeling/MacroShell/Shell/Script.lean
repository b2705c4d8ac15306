import MacroShell.Shell.Basic

/-! # The script of a state

A saved state is an ordinary script: one command per option, per occupied register and per bound
hotkey. Running it sets what the state held.
-/

namespace MacroShell.State

def optionLine (key : OptionKey) (value : String) : String :=
  s!"! {key.name} {Words.quote value}"

def registerLine (slot : Slot .register) (text : String) : String :=
  s!"@ {slot.char} {text}"

def hotkeyLine (slot : Slot .hotkey) (text : String) : String :=
  s!"& {Words.quote (String.singleton slot.char)} {text}"

def scriptLines (state : State) : List String :=
  state.options.entries.map (fun entry => optionLine entry.1 entry.2) ++
    state.registers.entries.map (fun entry => registerLine entry.1 entry.2) ++
    state.hotkeys.entries.map (fun entry => hotkeyLine entry.1 entry.2)

/-- The script, every line of it terminated. -/
def script (state : State) : String := String.join (state.scriptLines.map (· ++ "\n"))

end MacroShell.State
