/-!
# TOML documents as trees

A document is a table of named nodes. What may still be added to a table depends on how it came
about, so each table remembers its `Making`: a table that a header opened takes no second header
and no dotted keys from outside, one that a longer header implied may get its own header later, one
that dotted keys made is extended by dotted keys only, and an inline table is closed.
-/

namespace ProfileControls.Toml

/-- How a table came about. -/
inductive Making where
  | header
  | implied
  | dotted
  | inline
deriving DecidableEq, Repr

/-- A node. Numbers, truth values and dates are told apart only when they are read. -/
inductive Node where
  | text (s : String)
  | scalar
  | array (items : List Node)
  | table (making : Making) (entries : List (String × Node))
  /-- an array of tables, the last of which is the one that is still open -/
  | tables (earlier : List (List (String × Node))) (last : List (String × Node))
deriving Repr

/-- The entries of a table in the order of their making. -/
abbrev Entries := List (String × Node)

namespace Entries

/-- The entries with another node under a name that is already taken. -/
def replace (t : Entries) (key : String) (n : Node) : Entries :=
  t.map fun (k, m) => if k = key then (k, n) else (k, m)

/-- The entries with a new name. -/
def add (t : Entries) (key : String) (n : Node) : Entries :=
  t ++ [(key, n)]

/--
The entries after `f` has changed the table at the end of a path of headers. Tables missing on the
way are implied; in an array of tables the way leads through the last one.
-/
def under (f : Entries → Option Entries) : List String → Entries → Option Entries
  | [], t => f t
  | key :: path, t =>
    match t.lookup key with
    | none => (under f path []).map fun inner => t.add key (.table .implied inner)
    | some (.table .inline _) => none
    | some (.table making inner) => (under f path inner).map (t.replace key <| .table making ·)
    | some (.tables earlier last) => (under f path last).map (t.replace key <| .tables earlier ·)
    | some _ => none

/-- The table opened by a header whose last key is `key`. -/
def openTable (key : String) (t : Entries) : Option Entries :=
  match t.lookup key with
  | none => some (t.add key (.table .header []))
  | some (.table .implied inner) => some (t.replace key (.table .header inner))
  | some _ => none

/-- One more table in the array of tables under `key`. -/
def openElement (key : String) (t : Entries) : Option Entries :=
  match t.lookup key with
  | none => some (t.add key (.tables [] []))
  | some (.tables earlier last) => some (t.replace key (.tables (earlier ++ [last]) []))
  | some _ => none

/--
The entries after a value is given to a dotted key. The table that takes the value has to be made
by dotted keys alone, except where the key has a single part.
-/
def assign (n : Node) : List String → Entries → Option Entries
  | [], _ => none
  | [key], t => if (t.lookup key).isSome then none else some (t.add key n)
  | key :: next :: path, t =>
    match t.lookup key with
    | none => (assign n (next :: path) []).map fun inner => t.add key (.table .dotted inner)
    | some (.table .dotted inner) =>
      (assign n (next :: path) inner).map (t.replace key <| .table .dotted ·)
    | some (.table .implied inner) =>
      if path.isEmpty then none
      else (assign n (next :: path) inner).map (t.replace key <| .table .implied ·)
    | some (.tables earlier last) =>
      if path.isEmpty then none
      else (assign n (next :: path) last).map (t.replace key <| .tables earlier ·)
    | some _ => none

end Entries

end ProfileControls.Toml
