import ProfileControls.Toml.Key
import ProfileControls.Toml.Node
import ProfileControls.Toml.Scalar

/-!
# Reading TOML

A document is read line by line into statements, which then build the tree. A statement opens a
table, opens one more table of an array, or gives a value to a key. Arrays and inline tables may
nest only so deep, and that depth is what the reader of values recurses on.
-/

namespace ProfileControls.Toml

/-- The items of an array from behind its bracket; the last one may be followed by a comma. -/
def items? (value : Scan Node) : Nat → Scan (List Node)
  | 0, _ => none
  | fuel + 1, s =>
    match skipLines false s with
    | ']' :: s => some ([], s)
    | s => do
      let (v, s) ← value s
      match skipLines false s with
      | ',' :: s => (items? value fuel s).map (·.map (v :: ·) id)
      | ']' :: s => some ([v], s)
      | _ => none

/-- The entries of an inline table up to its brace, added to those before them. -/
def pairs? (value : Scan Node) : Nat → Entries → Scan Entries
  | 0, _, _ => none
  | fuel + 1, t, s => do
    let (path, s) ← key? s
    let s ← mark? '=' s
    let (v, s) ← value (skipBlanks s)
    let t ← t.assign v path
    match skipBlanks s with
    | ',' :: s => pairs? value fuel t s
    | '\x7d' :: s => some (t, s)
    | _ => none

/-- An inline table from behind its brace. -/
def inline? (value : Scan Node) (s : List Char) : Option (Entries × List Char) :=
  match skipBlanks s with
  | '\x7d' :: s => some ([], s)
  | s => pairs? value s.length [] s

/-- A value inside which arrays and inline tables nest at most `room` deep. -/
def value? (room : Nat) (s : List Char) : Option (Node × List Char) :=
  match s, room with
  | '"' :: _, _ | '\'' :: _, _ => (text? s).map (·.map .text id)
  | '[' :: s, room + 1 =>
    (items? (fun s => value? room s) (s.length + 1) s).map (·.map .array id)
  | '\x7b' :: s, room + 1 =>
    (inline? (fun s => value? room s) s).map (·.map (.table .inline) id)
  | s, _ => (scalarEnd? s).map (.scalar, ·)

/-- Arrays and inline tables nest at most this deep. -/
def nestingLimit : Nat := 79

/-- A statement of a document. -/
inductive Statement where
  | table (path : List String)
  | element (path : List String)
  | assign (path : List String) (value : Node)

/-- A statement at the front of a line, and what follows its line. -/
def statement? : Scan Statement
  | '[' :: '[' :: s => do
    let (path, s) ← key? s
    let s ← mark? ']' s >>= mark? ']' >>= endLine?
    some (.element path, s)
  | '[' :: s => do
    let (path, s) ← key? s
    let s ← mark? ']' s >>= endLine?
    some (.table path, s)
  | s => do
    let (path, s) ← key? s
    let s ← mark? '=' s
    let (v, s) ← value? nestingLimit (skipBlanks s)
    let s ← endLine? s
    some (.assign path v, s)

/-- The statements of the lines that are left; `fuel` bounds their number. -/
def statements? : Nat → List Char → Option (List Statement)
  | 0, _ => none
  | fuel + 1, s =>
    match skipBlanks s with
    | [] => some []
    | c :: s =>
      if c == '#' || c == '\n' || c == '\r' then
        endLine? (c :: s) >>= statements? fuel
      else do
        let (statement, s) ← statement? (c :: s)
        (statements? fuel s).map (statement :: ·)

/-- A document under construction: its tree, and the path to the table that is open. -/
structure Draft where
  root : Entries := []
  path : List String := []

/-- The document with one more statement. -/
def Draft.add (d : Draft) : Statement → Option Draft
  | .table path => do
    let key ← path.getLast?
    let root ← d.root.under (Entries.openTable key) path.dropLast
    some ⟨root, path⟩
  | .element path => do
    let key ← path.getLast?
    let root ← d.root.under (Entries.openElement key) path.dropLast
    some ⟨root, path⟩
  | .assign path v => do
    let root ← d.root.under (Entries.assign v path) d.path
    some { d with root := root }

/-- The text without a byte order mark. -/
def skipMark : List Char → List Char
  | '\uFEFF' :: s => s
  | s => s

/-- The table that a document writes. -/
def parse? (text : String) : Option Entries := do
  let s := skipMark text.toList
  let statements ← statements? (s.length + 1) s
  let d ← statements.foldlM Draft.add {}
  some d.root

end ProfileControls.Toml
