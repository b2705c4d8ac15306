import MacroShell.FileTree
import MacroShell.Toml.Document

/-! # Startup configuration

What a program is told before its shell starts, from a TOML document with a fixed set of keys. The
options in it seed the option table; their names are checked there.
-/

namespace MacroShell

structure Startup where
  /-- The file for save and load, if it is not the default one. -/
  dotfile : Option String := none
  /-- Run the dotfile before anything else. -/
  autoload : Bool := false
  /-- The milliseconds that a listener waits for a key. -/
  hotkeyPoll : Nat := 50
  /-- The milliseconds that a listener sleeps while hotkeys are off. -/
  hotkeyIdle : Nat := 100
  /-- The milliseconds between two samples. -/
  sampleInterval : Nat := 1000
  /-- Option settings, ordered by name. -/
  options : List (String × String) := []
deriving DecidableEq, Repr

/-- The dotfile of a home directory. -/
def defaultDotfile (home : String) : String := Path.join home ".clickerrc"

namespace Startup

/-- The name under which a point in time is the one entry of a table. -/
def dateTimeName : String := "$__toml_private_datetime"

def text? : Toml.Value → Option String
  | .text text => some text
  | _ => none

def boolean? : Toml.Value → Option Bool
  | .boolean b => some b
  | _ => none

def milliseconds? : Toml.Value → Option Nat
  | .integer n => if 0 ≤ n then some n.toNat else none
  | _ => none

/-- The settings of a table, ordered by name. -/
def settings? : Toml.Value → Option (List (String × String))
  | .table _ entries => do
    let settings ← entries.mapM fun entry => do return (entry.1, ← text? entry.2)
    return settings.mergeSort fun a b => a.1 ≤ b.1
  | .dateTime d => some [(dateTimeName, d.render)]
  | _ => none

/-- Sets the field that a key names. -/
def setField (startup : Startup) (entry : String × Toml.Value) : Option Startup :=
  match entry.1 with
  | "dotfile" => do return { startup with dotfile := some (← text? entry.2) }
  | "autoload" => do return { startup with autoload := ← boolean? entry.2 }
  | "hotkey_poll_ms" => do return { startup with hotkeyPoll := ← milliseconds? entry.2 }
  | "hotkey_idle_ms" => do return { startup with hotkeyIdle := ← milliseconds? entry.2 }
  | "sample_interval_ms" => do return { startup with sampleInterval := ← milliseconds? entry.2 }
  | "options" => do return { startup with options := ← settings? entry.2 }
  | _ => none

def parse (text : String) : Except ShellError Startup :=
  match (Toml.parse text).bind (·.foldlM setField {}) with
  | none => .error .toml
  | some startup =>
    if startup.sampleInterval = 0 then
      .error (.config "sample_interval_ms must be greater than zero")
    else .ok startup

/-- The configuration in a file, or the default one if no file is given. -/
def load (files : FileTree) : Option String → Except ShellError Startup
  | none => .ok {}
  | some path =>
    match files.read path with
    | .ok text => parse text
    | .error e => .error (.config s!"{path}: {e.message}")

def dotfilePath (startup : Startup) (home : String) : String :=
  startup.dotfile.getD (defaultDotfile home)

end Startup

end MacroShell
