/-! # Verbs

The verbs of the command language, each with the opcodes that select it, its texts for help and
diagnostics, and the numbers of operands that it takes.
-/

namespace MacroShell

/-- The numbers of operands that a verb takes. -/
inductive Arity where
  | exactly (n : Nat)
  | atLeast (n : Nat)
  /-- Both ends are included. -/
  | between (least greatest : Nat)
  | oneOf (counts : List Nat)
deriving DecidableEq, Repr

def Arity.accepts (n : Nat) : Arity → Bool
  | exactly k => n = k
  | atLeast k => k ≤ n
  | between least greatest => least ≤ n && n ≤ greatest
  | oneOf counts => counts.contains n

/-- What is done with a key or a button. -/
inductive Stroke where
  | tap
  | down
  | up
deriving DecidableEq, Repr

inductive Verb where
  | help
  | bind
  | record
  | clone
  | recallAll
  /-- Recalls if the condition register has the given value (`true`) or has not (`false`). -/
  | recallWhen (equal : Bool)
  | recallEither
  | repetition
  | watch
  | option
  | save
  | load
  | move
  | button (stroke : Stroke)
  | key (stroke : Stroke)
  | sequence
  | delay
  | print
  | quit
deriving DecidableEq, Repr

/-- A verb as it is registered. -/
structure VerbEntry where
  verb : Verb
  aliases : List Char
  name : String
  usage : String
  description : String
  arity : Arity
deriving DecidableEq, Repr

namespace VerbEntry

def helpLine (entry : VerbEntry) : String :=
  s!"{String.ofList entry.aliases} - {entry.usage} - {entry.description}"

/-- The verbs on registers and hotkeys. -/
def slotVerbs : List VerbEntry := [
  { verb := .bind, aliases := ['&'], name := "HOTKEY"
    usage := "HOTKEY <key> <command> ..."
    description := "Binds a command to a hotkey"
    arity := .atLeast 2 },
  { verb := .record, aliases := ['@'], name := "RECORD"
    usage := "RECORD <register> <command> ..."
    description := "Records a command to a register"
    arity := .atLeast 2 },
  { verb := .clone, aliases := [':'], name := "CLONE"
    usage := "CLONE <from> <to>"
    description := "Copies one register into another"
    arity := .exactly 2 },
  { verb := .recallAll, aliases := ['#'], name := "RECALL"
    usage := "RECALL <register> [register] ..."
    description := "Recalls the commands in every listed register, in order"
    arity := .atLeast 1 },
  { verb := .recallWhen true, aliases := ['='], name := "RECALL_IF"
    usage := "RECALL_IF <condition> <value> <register> [register] ..."
    description := "Recalls the listed registers if the condition register equals value"
    arity := .atLeast 3 },
  { verb := .recallWhen false, aliases := ['-'], name := "RECALL_IF_NOT"
    usage := "RECALL_IF_NOT <condition> <value> <register> [register] ..."
    description := "Recalls the listed registers unless the condition register equals value"
    arity := .atLeast 3 },
  { verb := .recallEither, aliases := ['/'], name := "RECALL_IF_ELSE"
    usage := "RECALL_IF_ELSE <condition> <value> <then> <else>"
    description := "Recalls one of two registers depending on the condition register"
    arity := .exactly 4 }]

/-- The verbs that start background tasks. -/
def loopVerbs : List VerbEntry := [
  { verb := .repetition, aliases := ['*'], name := "REPEAT"
    usage := "REPEAT <count> <register> [register] ..."
    description := "Runs the listed registers count times in the background"
    arity := .atLeast 2 },
  { verb := .watch, aliases := ['^'], name := "WHILE"
    usage := "WHILE <condition> <value> <register> [register] ..."
    description := "Runs the listed registers in the background whenever the condition register " ++
      "equals value"
    arity := .atLeast 3 }]

/-- The verbs on options and files. -/
def stateVerbs : List VerbEntry := [
  { verb := .option, aliases := ['!'], name := "OPT"
    usage := "OPT [option] [value]"
    description := "Lists, prints or sets options"
    arity := .between 0 2 },
  { verb := .save, aliases := ['>'], name := "SAVE"
    usage := "SAVE [file]"
    description := "Saves options, registers and hotkeys to a file, ~/.clickerrc by default"
    arity := .between 0 1 },
  { verb := .load, aliases := ['<'], name := "LOAD"
    usage := "LOAD [file]"
    description := "Runs every command in a file, ~/.clickerrc by default"
    arity := .between 0 1 }]

/-- The verbs on the device. -/
def deviceVerbs : List VerbEntry := [
  { verb := .move, aliases := ['M'], name := "MOVE"
    usage := "MOVE [x] [y]"
    description := "Moves the mouse, or stores its position in register L when given no coordinates"
    arity := .oneOf [0, 2] },
  { verb := .button .tap, aliases := ['C'], name := "CLICK"
    usage := "CLICK <button>"
    description := "Clicks a mouse button (0 left, 1 right, 2 middle)"
    arity := .exactly 1 },
  { verb := .button .down, aliases := ['\x7d'], name := "CLICK_DOWN"
    usage := "CLICK_DOWN <button>"
    description := "Presses and holds a mouse button"
    arity := .exactly 1 },
  { verb := .button .up, aliases := ['\x7b'], name := "CLICK_UP"
    usage := "CLICK_UP <button>"
    description := "Releases a mouse button"
    arity := .exactly 1 },
  { verb := .key .tap, aliases := ['K'], name := "KEY"
    usage := "KEY <key>"
    description := "Presses and releases a key"
    arity := .exactly 1 },
  { verb := .key .down, aliases := [']'], name := "KEY_DOWN"
    usage := "KEY_DOWN <key>"
    description := "Presses and holds a key"
    arity := .exactly 1 },
  { verb := .key .up, aliases := ['['], name := "KEY_UP"
    usage := "KEY_UP <key>"
    description := "Releases a key"
    arity := .exactly 1 },
  { verb := .sequence, aliases := ['S'], name := "SEQUENCE"
    usage := "SEQUENCE <keys> [keys] ..."
    description := "Types every character, with a space between arguments"
    arity := .atLeast 1 },
  { verb := .delay, aliases := ['W'], name := "DELAY"
    usage := "DELAY <ms>"
    description := "Waits for the given number of milliseconds"
    arity := .exactly 1 }]

/-- Every verb, in the order in which help lists them. -/
def builtins : List VerbEntry :=
  [{ verb := .help, aliases := ['?'], name := "HELP"
     usage := "HELP"
     description := "Shows helptext"
     arity := .exactly 0 }] ++
  slotVerbs ++ loopVerbs ++ stateVerbs ++ deviceVerbs ++
  [{ verb := .print, aliases := ['P'], name := "PRINT"
     usage := "PRINT <text> [text] ..."
     description := "Prints text, expanding @<register> references"
     arity := .atLeast 1 },
   { verb := .quit, aliases := ['Q'], name := "QUIT"
     usage := "QUIT"
     description := "Quits the program"
     arity := .exactly 0 }]

end VerbEntry

end MacroShell
