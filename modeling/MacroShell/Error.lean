import MacroShell.Slot.Basic

/-! # Errors

The causes for which a command, a file or the startup configuration is refused, and the wording
of each.
-/

namespace MacroShell

/-- Why a file cannot be read or written. -/
inductive FileError where
  | notFound
  | notDirectory
  | isDirectory
  | nameTooLong
  /-- The bytes of the file are not text. -/
  | notText
  /-- The path contains the null character. -/
  | nullInName
  | other (text : String)
deriving DecidableEq, Repr

def FileError.message : FileError → String
  | notFound => "No such file or directory (os error 2)"
  | notDirectory => "Not a directory (os error 20)"
  | isDirectory => "Is a directory (os error 21)"
  | nameTooLong => "File name too long (os error 36)"
  | notText => "stream did not contain valid UTF-8"
  | nullInName => "file name contained an unexpected NUL byte"
  | other text => text

inductive ShellError where
  | parse (detail : String)
  | arity (verb usage : String)
  /-- A slot name that is no character of its kind; empty if none was given. -/
  | invalidKey (kind : SlotKind) (key : String)
  | emptySlot (kind : SlotKind) (key : Char)
  | unknownOption (name : String)
  | invalidArgument (detail : String)
  | recallDepth (limit : Nat)
  | device (detail : String)
  | config (detail : String)
  /-- The startup configuration is no document of the expected form. -/
  | toml
  | file (path : String) (cause : FileError)
  | io (detail : String)
deriving DecidableEq, Repr

namespace ShellError

def message : ShellError → String
  | parse detail => s!"parse error: {detail}"
  | arity verb usage => s!"invalid number of arguments for {verb}, usage: {usage}"
  | invalidKey kind key => s!"invalid {kind.name} name '{key}'"
  | emptySlot kind key => s!"no command found in {kind.name} '{key}'"
  | unknownOption name => s!"option {name} not found"
  | invalidArgument detail => s!"invalid argument: {detail}"
  | recallDepth limit => s!"recall depth limit ({limit}) exceeded"
  | device detail => s!"device error: {detail}"
  | config detail => s!"config error: {detail}"
  | toml => "TOML parse error"
  | file path cause => s!"failed to open file {path}: {cause.message}"
  | io detail => s!"I/O error: {detail}"

end ShellError

end MacroShell
