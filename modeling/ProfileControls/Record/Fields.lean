import ProfileControls.Json.Plain

/-!
# Records in JSON

A record is written as an object of its fields, in any order and with any unknown members in
between, or as an array of its fields in their declared order, from which fields may be missing at
the end. Either way it amounts to `Fields`: which known keys are given, and with what value. A
known key that is given twice makes the record unusable; an unknown one may repeat.

A tagged value has two members, the tag and the content that goes with it.
-/

namespace ProfileControls.Record

open Json (Value)

/-- The known fields that a record gives. -/
abbrev Fields := List (String × Value)

/-- The members of an object whose keys are known, if no known key repeats. -/
def ofMembers? (keys : List String) (members : List (String × Value)) : Option Fields :=
  let known := members.filter fun (key, _) => keys.contains key
  if (known.map (·.1)).Nodup then some known else none

/-- The items of an array under the keys that they stand for, if there are not too many. -/
def ofItems? (keys : List String) (items : List Value) : Option Fields :=
  if items.length ≤ keys.length then some (keys.zip items) else none

/-- The fields that a value gives to a record with the given keys. -/
def fields? (keys : List String) : Value → Option Fields
  | .object members => ofMembers? keys members
  | .array items => ofItems? keys items
  | _ => none

namespace Fields

/-- A field that has to be given. -/
def required {α : Type} (fs : Fields) (key : String) (read : Value → Option α) : Option α :=
  fs.lookup key >>= read

/-- A field that has a default. -/
def orDefault {α : Type} (fs : Fields) (key : String) (default : α) (read : Value → Option α) :
    Option α :=
  match fs.lookup key with
  | none => some default
  | some v => read v

/-- A field whose value may be missing, which `null` expresses too. -/
def optional {α : Type} (fs : Fields) (key : String) (read : Value → Option α) :
    Option (Option α) :=
  match fs.lookup key with
  | none | some .null => some none
  | some v => (read v).map some

/-- A truth value, false if it is not given. -/
def flag (fs : Fields) (key : String) : Option Bool :=
  fs.orDefault key false Value.bool?

end Fields

/-- A tag, and the content that goes with it, if any is given. -/
structure Tagged where
  tag : Value
  content : Option Value

/--
The tagged value that a JSON value writes. Content that comes before its tag has to be set aside,
and so has to be plain and to nest at most `room` deep. An array has both items, and its tag is a
string.
-/
def tagged? (tagKey contentKey : String) (room : Nat) : Value → Option Tagged
  | .object members =>
    match members.filter fun (key, _) => [tagKey, contentKey].contains key with
    | [(k, tag)] => if k = tagKey then some ⟨tag, none⟩ else none
    | [(k, a), (k', b)] =>
      if k = tagKey ∧ k' = contentKey then some ⟨a, some b⟩
      else if k = contentKey ∧ k' = tagKey ∧ a.isPlain room then some ⟨b, some a⟩
      else none
    | _ => none
  | .array [.string tag, content] => some ⟨.string tag, some content⟩
  | _ => none

/-- The content of a tag that goes without one: nothing at all, or `null`. -/
def noContent? : Option Value → Option Unit
  | none | some .null => some ()
  | some _ => none

/--
The name that a value writes: as a string, or as the only key of an object, with `null` for its
value.
-/
def name? : Value → Option String
  | .string s => some s
  | .object [(s, .null)] => some s
  | _ => none

/-- The constant with the name that a value writes. -/
def named? {α : Type} (all : List α) (name : α → String) (v : Value) : Option α := do
  let s ← name? v
  all.find? (name · == s)

end ProfileControls.Record
