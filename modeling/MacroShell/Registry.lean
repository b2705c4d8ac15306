import MacroShell.Verb

/-! # The verb registry

Verbs in the order of their registration, with an index from opcodes to positions. A verb that is
registered later takes over the opcodes that it shares with earlier ones.
-/

namespace MacroShell

structure Registry where
  entries : Array VerbEntry := #[]
  /-- The position of the verb that an opcode selects; the latest owner of an opcode comes
  first. -/
  owners : List (Char × Nat) := []

namespace Registry

def empty : Registry := {}

def register (registry : Registry) (entry : VerbEntry) : Registry where
  entries := registry.entries.push entry
  owners := entry.aliases.map (·, registry.entries.size) ++ registry.owners

def registerAll (registry : Registry) (entries : List VerbEntry) : Registry :=
  entries.foldl register registry

/-- The verb that an opcode selects. -/
def lookup (registry : Registry) (opcode : Char) : Option VerbEntry :=
  (registry.owners.lookup opcode).bind (registry.entries[·]?)

def builtin : Registry := empty.registerAll VerbEntry.builtins

/-- One line for every verb. -/
def help (registry : Registry) : String :=
  "\n".intercalate (registry.entries.toList.map VerbEntry.helpLine)

end Registry

end MacroShell
