import MacroShell.Error

/-! # Options

Five named options, each of which always has a value. A switch is on when its value is exactly
`true`.
-/

namespace MacroShell

inductive OptionKey where
  /-- Suppresses confirmations and diagnostics. -/
  | quiet
  /-- The prompt, removed from the front of an input line. -/
  | leader
  /-- Publishes the click rate in a register. -/
  | clickRate
  /-- Lets the cursor position be stored in a register. -/
  | lastLocation
  /-- Lets key presses run what is bound to them. -/
  | hotkeys
deriving DecidableEq, Repr

namespace OptionKey

def all : List OptionKey := [quiet, leader, clickRate, lastLocation, hotkeys]

theorem mem_all (key : OptionKey) : key ∈ all := by cases key <;> simp [all]

def name : OptionKey → String
  | quiet => "quiet"
  | leader => "leader"
  | clickRate => "enable_cps_register"
  | lastLocation => "enable_last_location_register"
  | hotkeys => "enable_hotkey"

def default : OptionKey → String
  | quiet => "false"
  | leader => ""
  | clickRate => "false"
  | lastLocation => "false"
  | hotkeys => "true"

def ofName? (name : String) : Option OptionKey := all.find? (·.name = name)

@[simp] theorem ofName?_name (key : OptionKey) : ofName? key.name = some key := by
  cases key <;> decide

end OptionKey

structure OptionTable where
  quiet : String := OptionKey.quiet.default
  leader : String := OptionKey.leader.default
  clickRate : String := OptionKey.clickRate.default
  lastLocation : String := OptionKey.lastLocation.default
  hotkeys : String := OptionKey.hotkeys.default
deriving DecidableEq, Repr, Inhabited

namespace OptionTable

def get (table : OptionTable) : OptionKey → String
  | .quiet => table.quiet
  | .leader => table.leader
  | .clickRate => table.clickRate
  | .lastLocation => table.lastLocation
  | .hotkeys => table.hotkeys

def set (table : OptionTable) (key : OptionKey) (value : String) : OptionTable :=
  match key with
  | .quiet => { table with quiet := value }
  | .leader => { table with leader := value }
  | .clickRate => { table with clickRate := value }
  | .lastLocation => { table with lastLocation := value }
  | .hotkeys => { table with hotkeys := value }

def isOn (table : OptionTable) (key : OptionKey) : Bool := table.get key = "true"

/-- Every option with its value, in the order of the keys. -/
def entries (table : OptionTable) : List (OptionKey × String) :=
  OptionKey.all.map fun key => (key, table.get key)

/-- The value of the option called `name`. -/
def getNamed (table : OptionTable) (name : String) : Except ShellError String :=
  match OptionKey.ofName? name with
  | some key => .ok (table.get key)
  | none => .error (.unknownOption name)

def setNamed (table : OptionTable) (name value : String) : Except ShellError OptionTable :=
  match OptionKey.ofName? name with
  | some key => .ok (table.set key value)
  | none => .error (.unknownOption name)

/-- Applies settings in order and stops at the first unknown name. -/
def setAll (table : OptionTable) (settings : List (String × String)) :
    Except ShellError OptionTable :=
  settings.foldlM (fun table setting => table.setNamed setting.1 setting.2) table

theorem get_set (table : OptionTable) (key other : OptionKey) (value : String) :
    (table.set key value).get other = if key = other then value else table.get other := by
  cases key <;> cases other <;> rfl

end OptionTable

end MacroShell
