import ProfileControls.CommandLine.Opt

/-!
# Words of the command line

A word that begins with a dash gives options; any other word, and a single dash, is plain. The
value of an option stands in the word that follows, or behind an equals sign, or directly behind
the option's letter.
-/

namespace ProfileControls.CommandLine

/-- An option that is given, with its value, which is empty for options that take none. -/
structure Setting where
  opt : Opt
  value : String
deriving DecidableEq, Repr

/-- What a word of an invocation is. -/
inductive Word where
  /-- the name of a command, or a value -/
  | plain
  /-- the mark that ends the options -/
  | endOfOptions
  | settings (ss : List Setting)
  /-- settings whose last option has its value in the next word -/
  | unfinished (ss : List Setting) (opt : Opt)
  | wrong
deriving DecidableEq, Repr

namespace Word

/-- The word with one more setting in front. -/
def withFlag (opt : Opt) : Word → Word
  | .settings ss => .settings (⟨opt, ""⟩ :: ss)
  | .unfinished ss last => .unfinished (⟨opt, ""⟩ :: ss) last
  | w => w

/-- The option letters behind a dash. The first that takes a value takes all that follows it. -/
def ofLetters (allowed : List Opt) : List Char → Word
  | [] => .settings []
  | c :: cs =>
    match allowed.find? (·.letter == some c) with
    | none => .wrong
    | some opt =>
      if opt.takesValue then
        match cs with
        | [] => .unfinished [] opt
        | '=' :: value => .settings [⟨opt, String.ofList value⟩]
        | value => .settings [⟨opt, String.ofList value⟩]
      else withFlag opt (ofLetters allowed cs)

/-- The option name behind two dashes, perhaps with a value. -/
def ofName (allowed : List Opt) (cs : List Char) : Word :=
  match allowed.find? (·.name.toList == cs.takeWhile (· != '=')) with
  | none => .wrong
  | some opt =>
    match cs.dropWhile (· != '='), opt.takesValue with
    | [], true => .unfinished [] opt
    | [], false => .settings [⟨opt, ""⟩]
    | _ :: value, true => .settings [⟨opt, String.ofList value⟩]
    | _ :: _, false => .wrong

/-- What a word is where the given options may stand. -/
def read (allowed : List Opt) (w : String) : Word :=
  match w.toList with
  | ['-'] => .plain
  | ['-', '-'] => .endOfOptions
  | '-' :: '-' :: cs => ofName allowed cs
  | '-' :: cs => ofLetters allowed cs
  | _ => .plain

end Word

end ProfileControls.CommandLine
