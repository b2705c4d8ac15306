import MacroShell.Error
import MacroShell.Words

/-! # Commands

A command is a line taken apart: its opcode is its first character that is not blank, its operands
are the words after the first.
-/

namespace MacroShell

structure Command where
  opcode : Char
  /-- The word that contains the opcode. -/
  head : String
  operands : List String
deriving DecidableEq, Repr

namespace Command

/-- All words of the command. -/
def words (command : Command) : List String := command.head :: command.operands

def parse (line : String) : Except ShellError Command :=
  match line.toList.find? (!Text.isBlank ·), Words.split line with
  | some opcode, head :: operands => .ok { opcode, head, operands }
  | _, _ => .error (.parse "empty command")

/-- The commands of several lines, or the error of the first that is none. -/
def parseAll (lines : List String) : Except ShellError (List Command) := lines.mapM parse

end Command

/-- Removes the prompt `leader` from the front of an input line, once. -/
def stripLeader (line leader : String) : String :=
  if leader.toList.isPrefixOf line.toList then
    String.ofList (line.toList.drop leader.toList.length)
  else line

end MacroShell
