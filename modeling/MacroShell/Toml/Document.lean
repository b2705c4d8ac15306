import MacroShell.Toml.Reader

/-! # TOML documents

A document is a list of statements, each of which opens a table or gives a key its value. No key
gets two values, and no table is opened twice.
-/

namespace MacroShell.Toml

namespace Entries

/-- Puts a value in the place of the one that a key has. -/
def replace (key : String) (value : Value) (entries : Entries) : Entries :=
  entries.map fun entry => if entry.1 = key then (key, value) else entry

/-- Gives a key its value, below the tables named by `path`. Those tables have to stem from dotted
keys, and the key has to be new. -/
def assign (key : String) (value : Value) : (path : List String) → Entries → Option Entries
  | [], entries =>
    match entries.lookup key with
    | none => some (entries ++ [(key, value)])
    | some _ => none
  | name :: path, entries =>
    match entries.lookup name with
    | none => do return entries ++ [(name, .table .dotted (← assign key value path []))]
    | some (.table .dotted inner) => do
      return replace name (.table .dotted (← assign key value path inner)) entries
    | some _ => none

/-- Opens a table under a header; `implied` tables that only led to other tables may still be
opened. -/
def openTable : (path : List String) → Entries → Option Entries
  | [], _ => none
  | [name], entries =>
    match entries.lookup name with
    | none => some (entries ++ [(name, .table .header [])])
    | some (.table .implied inner) => some (replace name (.table .header inner) entries)
    | some _ => none
  | name :: path, entries =>
    match entries.lookup name with
    | none => do return entries ++ [(name, .table .implied (← openTable path []))]
    | some (.table origin inner) =>
      if origin = .inline then none
      else do return replace name (.table origin (← openTable path inner)) entries
    | some (.tables elements) =>
      match elements.getLast? with
      | some inner => do
        return replace name (.tables (elements.dropLast ++ [← openTable path inner])) entries
      | none => none
    | some _ => none

/-- Adds a table to an array of tables. -/
def openElement : (path : List String) → Entries → Option Entries
  | [], _ => none
  | [name], entries =>
    match entries.lookup name with
    | none => some (entries ++ [(name, .tables [[]])])
    | some (.tables elements) => some (replace name (.tables (elements ++ [[]])) entries)
    | some _ => none
  | name :: path, entries =>
    match entries.lookup name with
    | none => do return entries ++ [(name, .table .implied (← openElement path []))]
    | some (.table origin inner) =>
      if origin = .inline then none
      else do return replace name (.table origin (← openElement path inner)) entries
    | some (.tables elements) =>
      match elements.getLast? with
      | some inner => do
        return replace name (.tables (elements.dropLast ++ [← openElement path inner])) entries
      | none => none
    | some _ => none

/-- Changes the open table at `path`. -/
def within (change : Entries → Option Entries) : (path : List String) → Entries → Option Entries
  | [], entries => change entries
  | name :: path, entries =>
    match entries.lookup name with
    | some (.table origin inner) => do
      return replace name (.table origin (← within change path inner)) entries
    | some (.tables elements) =>
      match elements.getLast? with
      | some inner => do
        return replace name (.tables (elements.dropLast ++ [← within change path inner])) entries
      | none => none
    | _ => none

/-- A key with the names of its tables in front, and its value. -/
abbrev Assignment := List String × Value

/-- Carries out an assignment in the table that is open. -/
def assignKey (entries : Entries) (assignment : Assignment) : Option Entries :=
  match assignment.1.getLast? with
  | some key => assign key assignment.2 assignment.1.dropLast entries
  | none => none

end Entries

namespace Reader

/-- The blanks, lines and comments between the items of an array. -/
def arrayGap : Reader Unit := do
  blanks
  discard (many (do
    (comment <|> pure ())
    newline
    blanks))

def assignment (value : Reader Value) : Reader Entries.Assignment := do
  let path ← key
  char '='
  blanks
  return (path, ← value)

/-- A comma may follow the last item. -/
def array (value : Reader Value) : Reader Value := do
  char '['
  arrayGap
  let item : Reader Value := do let v ← value; arrayGap; return v
  let items ← separated item (do char ','; arrayGap) <|> return []
  ((do char ','; arrayGap) <|> pure ())
  char ']'
  return .array items

def inlineTable (value : Reader Value) : Reader Value := do
  char '\x7b'
  blanks
  let item : Reader Entries.Assignment := do let a ← assignment value; blanks; return a
  let items ← separated item (char ',') <|> return []
  char '\x7d'
  match items.foldlM Entries.assignKey [] with
  | some entries => return .table .inline entries
  | none => failure

/-- A value that nests at most `depth` levels. -/
def value : (depth : Nat) → Reader Value
  | 0 => failure
  | depth + 1 => do
    match ← peek with
    | some '"' | some '\x27' => return .text (← string)
    | some '[' => array (value depth)
    | some '\x7b' => inlineTable (value depth)
    | some 't' => token "true"; return .boolean true
    | some 'f' => token "false"; return .boolean false
    | _ =>
      (do return .dateTime (← dateTime)) <|> (do return .float (← float)) <|>
        (do return .integer (← integer))

end Reader

inductive Statement where
  | assignment (assignment : Entries.Assignment)
  | header (path : List String)
  | elementHeader (path : List String)
  | empty

def Reader.statement (depth : Nat) : Reader Statement := do
  blanks
  let statement ← match ← peek with
    | some '#' | some '\n' | some '\r' | none => pure .empty
    | some '[' =>
      (do
        token "[["
        let path ← key
        token "]]"
        return .elementHeader path) <|>
      (do
        char '['
        let path ← key
        char ']'
        return .header path)
    | some _ => pure (.assignment (← assignment (value depth)))
  lineEnd
  return statement

/-- A document in the making: its entries, and the path of the table that is open. -/
structure Draft where
  entries : Entries := []
  path : List String := []

def Draft.add (draft : Draft) : Statement → Option Draft
  | .assignment assignment => do
    return { draft with entries := ← draft.entries.within (·.assignKey assignment) draft.path }
  | .header path => do return { entries := ← draft.entries.openTable path, path }
  | .elementHeader path => do return { entries := ← draft.entries.openElement path, path }
  | .empty => some draft

/-- Takes the mark off the front that some editors put there. -/
def dropByteOrderMark : List Char → List Char
  | '\ufeff' :: rest => rest
  | cs => cs

def statements (fuel depth : Nat) (input : List Char) : Option (List Statement) :=
  match fuel, input with
  | _, [] => some []
  | 0, _ => none
  | fuel + 1, input => do
    let (statement, rest) ← (Reader.statement depth).run input
    return statement :: (← statements fuel depth rest)

/-- The entries of a document. -/
def parse (text : String) : Option Entries := do
  let input := dropByteOrderMark text.toList
  let statements ← statements input.length input.length input
  let draft ← statements.foldlM Draft.add {}
  return draft.entries

end MacroShell.Toml
