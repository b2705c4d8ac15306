import MacroShell.Device.Virtual
import MacroShell.Shell.Background
import MacroShell.Startup

/-! # Sessions

A whole run of the program: it starts a shell on a virtual device, runs the dotfile if it is told
to, and then prompts for one line after the other until the input ends or a command quits. Quitting
ends the program on the spot, so of the effects of a command only those before it show.
-/

namespace MacroShell

/-- What the program is started with. -/
structure Invocation where
  /-- The file with the startup configuration. -/
  configFile : Option String
  home : String
  files : FileTree

structure Session where
  startup : Startup
  shell : Shell VirtualDevice
  /-- The effects that show. -/
  effects : List Effect := []
  /-- What was written to the console. -/
  output : String := ""
  files : FileTree
  ended : Bool := false

namespace Session

/-- The effects that show of a program that its quit hook ends. -/
def visible (effects : List Effect) : List Effect := effects.takeWhile (· ≠ .quitHook)

/-- Every line with its end. -/
def outputOf (effects : List Effect) : String :=
  String.join ((Effect.lines effects).map (· ++ "\n"))

/-- The files after the given effects. -/
def filesAfter (files : FileTree) (effects : List Effect) : FileTree :=
  effects.foldl (fun files effect =>
    match effect with
    | .saved path content => (files.write path content).toOption.getD files
    | _ => files) files

/-- Lets the shell act, and shows what comes of it. -/
def act (session : Session) (action : Shell VirtualDevice → Shell VirtualDevice) : Session :=
  let shell := action { session.shell with journal := #[], files := session.files }
  let effects := shell.journal.toList
  let shown := visible effects
  { session with
    shell
    effects := session.effects ++ shown
    output := session.output ++ outputOf shown
    files := filesAfter session.files shown
    ended := session.ended || shown.length < effects.length }

/-- Runs a line; what would follow after a command that quits is not recalled. -/
def executeLine (session : Session) (line : String) : Session :=
  session.act fun shell =>
    match Command.parse line with
    | .ok command => shell.dispatchWith (Shell.recallWhile (!·.quit) Shell.recallLimit 0) 0 command
    | .error e => shell.conclude (.error e)

/-- Starts a shell. -/
def start (invocation : Invocation) : Except ShellError Session := do
  let startup ← Startup.load invocation.files invocation.configFile
  let dotfile := startup.dotfilePath invocation.home
  let shell ← Shell.build (default : VirtualDevice) dotfile startup.options
  let session : Session := { startup, shell, files := invocation.files }
  let session :=
    if startup.autoload && session.files.contains dotfile then
      session.executeLine (Words.join ["<", dotfile])
    else session
  return { session with shell := (session.shell.spawn .listener).spawn .sampler }

/-- The prompt before the next line. -/
def leader (session : Session) : String := session.shell.options.get .leader

/-- A line as it is typed may end in carriage returns. -/
def dropReturns (line : String) : String :=
  String.ofList (line.toList.reverse.dropWhile (· = '\r')).reverse

/-- The steps that the tasks in the background make between two lines. -/
def taskSteps : Nat := 10000

/-- Runs a line that was typed, then gives the tasks in the background their turn; `tick` tells
whether the time of a sample has come. -/
def enter (session : Session) (tick : Bool) (line : String) : Session :=
  let session := session.executeLine (stripLeader (dropReturns line) session.leader)
  if session.ended then session else session.act (Shell.round tick taskSteps)

/-- Prompts for lines until there are no more of them. -/
def enterLines (session : Session) (lines : List String) : Session :=
  let session := { session with output := session.output ++ session.leader }
  match lines with
  | [] => session
  | line :: rest =>
    let session := session.enter false line
    if session.ended then session else session.enterLines rest

/-- Runs the program on input lines. -/
def run (invocation : Invocation) (lines : List String) : Except ShellError Session := do
  let session ← start invocation
  return if session.ended then session else session.enterLines lines

/-- How the program says that it cannot start. -/
def failureText (e : ShellError) : String := s!"Error: {e.message}"

/-- The lines of an input of bytes, up to the first that is not text; `reversed` holds the bytes of
the current line, last one first. -/
def inputLines (reversed : List UInt8) : List UInt8 → List String
  | [] => if reversed.isEmpty then [] else (String.fromUTF8? ⟨reversed.reverse.toArray⟩).toList
  | byte :: rest =>
    if byte = 10 then
      match String.fromUTF8? ⟨reversed.reverse.toArray⟩ with
      | some line => line :: inputLines [] rest
      | none => []
    else inputLines (byte :: reversed) rest

end Session

end MacroShell
