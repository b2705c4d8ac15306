import MacroShell.Session

/-! # The program

Reads commands from standard input, one per line, and runs them on a virtual device. The first
argument, or else the variable `CLICKER_CONFIG`, names the startup configuration.
-/

namespace MacroShell.Program

/-- What is at a path. -/
def probe (path : String) : IO (Option FileEntry) := do
  try
    let bytes ← IO.FS.readBinFile path
    match String.fromUTF8? bytes with
    | some text => return some (.text text)
    | none => return some .binary
  catch
    | .inappropriateType _ 21 _ => return some .directory
    | _ => return none

/-- The path and the directories on its way, outermost first. -/
def ancestors (path : String) : List String :=
  let parsed := Path.parse path
  let start := if parsed.absolute then "/" else ""
  (List.range parsed.names.length).map fun n =>
    start ++ "/".intercalate (parsed.names.take (n + 1))

/-- The files that a line of commands may save to or load from: the words after an opcode for
files, wherever it stands. -/
def fileNames (line : String) : List String :=
  let words := Words.split line
  (words.zip words.tail).filterMap fun (word, name) =>
    match word.toList with
    | '<' :: _ | '>' :: _ => some name
    | _ => none

/-- Takes the named files into the tree, and those that their lines name. -/
partial def fetch (files : FileTree) (seen : List String) : List String → IO FileTree
  | [] => return files
  | name :: names => do
    if seen.contains name then fetch files seen names
    else
      let mut files := files
      let mut found := []
      for path in ancestors name do
        if let some entry ← probe path then
          files := files.place path entry
          if let .text text := entry then found := (Text.lines text).flatMap fileNames
      fetch files (name :: seen) (found ++ names)

/-- The files that the next line may touch. -/
def fetchFor (shell : Shell VirtualDevice) (line : String) : IO FileTree :=
  let stored := shell.registers.entries.map (·.2) ++ shell.hotkeys.entries.map (·.2)
  fetch .empty [] (shell.dotfile :: (line :: stored).flatMap fileNames)

/-- Carries out an effect. -/
def perform : Effect → IO Unit
  | .line text => do
    let stdout ← IO.getStdout
    stdout.putStrLn text
    stdout.flush
  | .slept milliseconds => IO.sleep (min milliseconds (UInt32.size - 1)).toUInt32
  | .saved path content => IO.FS.writeFile path content
  | _ => return ()

/-- Prompts for lines until there are no more of them; `sampled` is the time of the last sample. -/
partial def prompt (session : Session) (sampled : Nat) : IO Unit := do
  let stdout ← IO.getStdout
  stdout.putStr session.leader
  stdout.flush
  let line ← try (← IO.getStdin).getLine catch _ => pure ""
  if line.isEmpty then return
  let line := ((Text.lines line).head?).getD ""
  let files ← fetchFor session.shell line
  let now ← IO.monoMsNow
  let tick := session.startup.sampleInterval ≤ now - sampled
  let session := { session with files, effects := [] }.enter tick line
  session.effects.forM perform
  if session.ended then return
  prompt session (if tick then now else sampled)

end MacroShell.Program

open MacroShell MacroShell.Program in
def main (arguments : List String) : IO UInt32 := do
  let configFile := arguments.head?.or (← IO.getEnv "CLICKER_CONFIG")
  let home := (← IO.getEnv "HOME").getD ""
  let files ← fetch .empty [] configFile.toList
  let dotfile := (Startup.load files configFile).toOption.map (·.dotfilePath home)
  let files ← fetch files configFile.toList dotfile.toList
  match Session.start { configFile, home, files } with
  | .error e =>
    IO.eprintln (Session.failureText e)
    return 1
  | .ok session =>
    session.effects.forM perform
    unless session.ended do
      prompt session (← IO.monoMsNow)
    return 0
