import ProfileControls.Command
import ProfileControls.CommandLine.Word

/-!
# Invocations

The words of an invocation are options and, once, the name of a command. Two options stand before
or after the name, the others only after it. Anything else, and anything given twice in one place,
makes the invocation wrong.
-/

namespace ProfileControls.CommandLine

/-- The settings up to the first plain word, and the words from there on. -/
def settings? (allowed : List Opt) : List String → Option (List Setting × List String)
  | [] => some ([], [])
  | w :: ws =>
    match Word.read allowed w with
    | .plain => some ([], w :: ws)
    | .endOfOptions => if ws.isEmpty then some ([], []) else none
    | .wrong => none
    | .settings ss => (settings? allowed ws).map (·.map (ss ++ ·) id)
    | .unfinished ss opt =>
      match ws with
      | [] => none
      | value :: ws =>
        if Word.read allowed value = .plain then
          (settings? allowed ws).map (·.map (ss ++ ⟨opt, value⟩ :: ·) id)
        else none

/-- No option is given twice, and none that takes a value has an empty one. -/
def areProper (ss : List Setting) : Bool :=
  (ss.map (·.opt)).Nodup && ss.all fun s => !(s.opt.takesValue && s.value.isEmpty)

/-- The value of an option, if it is given. -/
def value? (ss : List Setting) (opt : Opt) : Option String :=
  (ss.find? (·.opt == opt)).map (·.value)

/-- A well-formed invocation. -/
structure Invocation where
  verbose : Bool
  config : String
  view : View
  account : String
  relationship : Option String
  session : Option String
  hidden : Bool
deriving DecidableEq, Repr

/-- The configuration file that is used unless another is given. -/
def standardConfigFile : String := "roost.toml"

/-- The view that a command shows, as far as its settings name one. -/
def view? (command : String) (ss : List Setting) : Option View :=
  match command, value? ss .defaultAction with
  | "decide", _ => some .decision
  | "row", none => some (.row .follow)
  | "row", some s => (RowDefault.all.find? (·.name == s)).map .row
  | _, _ => none

/-- The options that may follow the name of a command. -/
def optionsOf? : String → Option (List Opt)
  | "decide" => some Opt.ofDecide
  | "row" => some Opt.ofRow
  | _ => none

/-- The invocation that a row of words writes. A setting behind the command's name wins. -/
def parse? (words : List String) : Option Invocation := do
  let (before, rest) ← settings? Opt.everywhere words
  match rest with
  | [] => none
  | command :: words =>
    let allowed ← optionsOf? command
    let (after, rest) ← settings? allowed words
    if rest.isEmpty && areProper before && areProper after then
      let view ← view? command after
      let account ← value? after .account
      let ss := after ++ before
      some {
        verbose := (value? ss .verbose).isSome
        config := (value? ss .config).getD standardConfigFile
        view := view
        account := account
        relationship := value? after .relationship
        session := value? after .session
        hidden := (value? after .hidden).isSome }
    else none

end ProfileControls.CommandLine
