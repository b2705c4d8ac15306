import MacroShell.Error

/-! # File trees

The files that the shell can reach, below and around its working directory, and the rules by which
a path names one of them. A path is read name by name: every name but the last has to lead into a
directory.
-/

namespace MacroShell

/-- A place in the tree: the names that lead there from the working directory, `..` in front for
each level above it, or `/` in front of an absolute place. -/
abbrev Location := List String

inductive FileEntry where
  | text (content : String)
  /-- A file whose bytes are not text. -/
  | binary
  | directory
deriving DecidableEq, Repr

structure FileTree where
  entries : List (Location × FileEntry) := []
deriving Repr

namespace Location

def parent (location : Location) : Location :=
  if location = ["/"] then location
  else if location.all (· = "..") then location ++ [".."]
  else location.dropLast

end Location

/-- A path taken apart. -/
structure Path where
  absolute : Bool
  names : List String
  /-- The path ends in a slash, so it can only name a directory. -/
  directoryOnly : Bool

namespace Path

/-- The names between slashes, without the empty ones. -/
def splitNames (reversed : List Char) : List Char → List (List Char)
  | [] => if reversed.isEmpty then [] else [reversed.reverse]
  | '/' :: rest =>
    if reversed.isEmpty then splitNames [] rest else reversed.reverse :: splitNames [] rest
  | c :: rest => splitNames (c :: reversed) rest

def parse (path : String) : Path where
  absolute := path.toList.head? = some '/'
  names := (splitNames [] path.toList).map String.ofList
  directoryOnly := path.toList.getLast? = some '/'

/-- Where a path starts. -/
def start (path : Path) : Location := if path.absolute then ["/"] else []

/-- Where a path leads if all its directories are there. -/
def location (path : Path) : Location :=
  path.names.foldl (fun location name =>
    if name = "." then location
    else if name = ".." then location.parent
    else location ++ [name]) path.start

/-- `name` inside the directory `directory`. -/
def join (directory name : String) : String :=
  if directory = "" ∨ directory.toList.getLast? = some '/' then directory ++ name
  else directory ++ "/" ++ name

/-- The most bytes of one name. -/
def nameLimit : Nat := 255

/-- A path has fewer bytes than this. -/
def pathLimit : Nat := 4096

end Path

namespace FileTree

def empty : FileTree := {}

instance : Inhabited FileTree := ⟨empty⟩

def find? (tree : FileTree) (location : Location) : Option FileEntry :=
  tree.entries.lookup location

def insert (tree : FileTree) (location : Location) (entry : FileEntry) : FileTree :=
  ⟨(location, entry) :: tree.entries.filter (·.1 ≠ location)⟩

/-- The entry called `name` in a directory. -/
def child (tree : FileTree) (directory : Location) (name : String) : Except FileError FileEntry :=
  if name.utf8ByteSize > Path.nameLimit then .error .nameTooLong
  else
    match tree.find? (directory ++ [name]) with
    | some entry => .ok entry
    | none => .error .notFound

/-- Goes from a directory to the one that `name` leads to. -/
def enter (tree : FileTree) (directory : Location) (name : String) : Except FileError Location :=
  if name = "." then .ok directory
  else if name = ".." then .ok directory.parent
  else
    match tree.child directory name with
    | .ok .directory => .ok (directory ++ [name])
    | .ok _ => .error .notDirectory
    | .error e => .error e

/-- Where a path leads: a directory and a name in it, or no name if the path names the directory
itself. -/
def locate (tree : FileTree) (path : String) : Except FileError (Location × Option String) :=
  if '\x00' ∈ path.toList then .error .nullInName
  else if path = "" then .error .notFound
  else if path.utf8ByteSize ≥ Path.pathLimit then .error .nameTooLong
  else do
    let parsed := Path.parse path
    match parsed.names.getLast? with
    | none => return (parsed.start, none)
    | some last =>
      let directory ← parsed.names.dropLast.foldlM tree.enter parsed.start
      if last = "." then return (directory, none)
      else if last = ".." then return (Location.parent directory, none)
      else return (directory, some last)

/-- The text of a file. -/
def read (tree : FileTree) (path : String) : Except FileError String := do
  match ← tree.locate path with
  | (_, none) => throw .isDirectory
  | (directory, some name) =>
    match ← tree.child directory name with
    | .directory => throw .isDirectory
    | .text content => if (Path.parse path).directoryOnly then throw .notDirectory else return content
    | .binary => if (Path.parse path).directoryOnly then throw .notDirectory else throw .notText

/-- Makes a file with the given text, in place of a file that is there. -/
def write (tree : FileTree) (path content : String) : Except FileError FileTree := do
  match ← tree.locate path with
  | (_, none) => throw .isDirectory
  | (directory, some name) =>
    if (Path.parse path).directoryOnly then throw .isDirectory
    match tree.child directory name with
    | .ok .directory => throw .isDirectory
    | .ok _ | .error .notFound => return tree.insert (directory ++ [name]) (.text content)
    | .error e => throw e

/-- Tells whether a path leads to a file or a directory. -/
def contains (tree : FileTree) (path : String) : Bool :=
  match tree.locate path with
  | .error _ => false
  | .ok (_, none) => true
  | .ok (directory, some name) =>
    match tree.child directory name with
    | .error _ => false
    | .ok .directory => true
    | .ok _ => !(Path.parse path).directoryOnly

/-- Puts an entry at a path, with the directories that lead to it. -/
def place (tree : FileTree) (path : String) (entry : FileEntry) : FileTree :=
  let location := (Path.parse path).location
  let tree := (List.range location.length).foldl
    (fun tree n => if n = 0 then tree else tree.insert (location.take n) .directory) tree
  tree.insert location entry

end FileTree

end MacroShell
