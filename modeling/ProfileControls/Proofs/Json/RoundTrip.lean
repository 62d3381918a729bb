import Mathlib.Tactic.Lemma
import ProfileControls.Json.Reader
import ProfileControls.Proofs.Json.Literals

/-!
# What is printed is read back

The tokens of a value (`Value.tokens`) stand between printing and reading. On one side, the
characters that are printed spell these tokens, in every layout that breaks its lines with blanks
(`Value.spells`). On the other side, the reader reaches the value by them (`Value.reaches`). Either
is shown by one induction on the value, along with its further items and members. Together they
give back every value from its text (`parse?_text`), so that no two values share one
(`text_injective`).

What is spelled depends on what follows, since a number has no mark at its end. A comma, a closing
bracket, a blank and the end of the text all end a number.
-/

namespace ProfileControls.Json

/-- All that a layout adds between tokens is blanks. -/
structure Layout.Blank (layout : Layout) : Prop where
  lineBreak : ∀ depth, ∀ c ∈ layout.lineBreak depth, isSpace c
  colon : ∃ blanks, layout.colon = ':' :: blanks ∧ ∀ c ∈ blanks, isSpace c

mutual

/-- The tokens that write a value. -/
def Value.tokens : Value → List Token
  | .null => [.null]
  | .bool b => [.bool b]
  | .number n => [.number n]
  | .string s => [.text (some s)]
  | .array [] => [.openArray, .closeArray]
  | .array (v :: vs) => .openArray :: (v.tokens ++ Value.moreItemTokens vs ++ [.closeArray])
  | .object [] => [.openObject, .closeObject]
  | .object ((key, v) :: ms) =>
    .openObject :: .text (some key) :: .colon ::
      (v.tokens ++ Value.moreMemberTokens ms ++ [.closeObject])
  | .unreadable => [.text none]

/-- The tokens of the items of an array behind its first. -/
def Value.moreItemTokens : List Value → List Token
  | [] => []
  | v :: vs => .comma :: (v.tokens ++ Value.moreItemTokens vs)

/-- The tokens of the members of an object behind its first. -/
def Value.moreMemberTokens : List (String × Value) → List Token
  | [] => []
  | (key, v) :: ms =>
    .comma :: .text (some key) :: .colon :: (v.tokens ++ Value.moreMemberTokens ms)

end

/-- Before `rest`, the characters are read as the tokens. -/
def Spells (cs : List Char) (ts : List Token) (rest : List Char) : Prop :=
  tokens? (cs ++ rest) = (tokens? rest).map (ts ++ ·)

/-- The reading after some more tokens. -/
def Reading.Reaches (r : Reading) (ts : List Token) (r' : Reading) : Prop :=
  ts.foldlM next r = some r'

variable {cs cs' rest s : List Char} {ts ts' : List Token} {c : Char} {t : Token}

/-! ## Characters and tokens -/

/-- A blank before the tokens is skipped. -/
lemma tokens?_blank (blank : isSpace c) : tokens? (c :: s) = tokens? s := by
  rw [tokens?, if_pos blank]

/-- A character that is no blank begins a token. -/
lemma tokens?_token (start : isSpace c = false) (scanned : scanToken c s = some (t, rest)) :
    tokens? (c :: s) = (tokens? rest).map (t :: ·) := by
  rw [tokens?, if_neg (by simp [start])]
  split
  case h_1 missing =>
    rw [scanned] at missing
    cases missing
  case h_2 found =>
    rw [scanned] at found
    cases found
    rfl

namespace Spells

/-- Characters in a row spell their tokens in a row. -/
lemma append (first : Spells cs ts (cs' ++ rest)) (second : Spells cs' ts' rest) :
    Spells (cs ++ cs') (ts ++ ts') rest := by
  rw [Spells, List.append_assoc, first, second, Option.map_map]
  exact congrArg (Option.map · _) (funext fun ts'' => (List.append_assoc ts ts' ts'').symm)

/-- Blanks spell nothing. -/
lemma blanks (blank : ∀ c ∈ cs, isSpace c) : Spells cs [] rest := by
  induction cs with
  | nil => exact Option.map_id'.symm
  | cons c cs ih =>
    rw [List.forall_mem_cons] at blank
    exact (tokens?_blank blank.1).trans (ih blank.2)

/-- Blanks may stand before what is spelled. -/
lemma afterBlanks (more : Spells cs' ts rest) (blank : ∀ c ∈ cs, isSpace c) :
    Spells (cs ++ cs') ts rest :=
  append (blanks blank) more

/-- Blanks may stand behind what is spelled. -/
lemma thenBlanks (first : Spells cs ts (cs' ++ rest)) (blank : ∀ c ∈ cs', isSpace c) :
    Spells (cs ++ cs') ts rest :=
  List.append_nil ts ▸ first.append (blanks blank)

/-- Characters that are scanned as a token spell it. -/
lemma token (start : isSpace c = false) (scanned : scanToken c (cs ++ rest) = some (t, rest)) :
    Spells (c :: cs) [t] rest :=
  tokens?_token start scanned

/-- A mark spells a token by itself, whatever follows. -/
lemma mark (start : isSpace c = false) (scanned : ∀ s, scanToken c s = some (t, s))
    (more : Spells cs ts rest) : Spells (c :: cs) (t :: ts) rest := by
  have first : Spells [c] [t] (cs ++ rest) := token start (scanned _)
  exact first.append more

/-- The literal of a text spells that text. -/
lemma text (s : String) (rest : List Char) : Spells (textLiteral s) [.text (some s)] rest :=
  token rfl (scanToken_text s rest)

/-- The literal of a number spells that number, if what follows does not go on with it. -/
lemma number (n : Number) (ends : EndsNumber rest) : Spells n.text [.number n] rest := by
  obtain ⟨c, s, written, start, scanned⟩ := n.scanToken_text ends
  rw [written]
  exact token start scanned

/-- A key on its line, with the colon behind it. -/
lemma key {layout : Layout} (blank : layout.Blank) (key : String) (depth : Nat)
    (rest : List Char) :
    Spells (layout.lineBreak depth ++ textLiteral key ++ layout.colon) [.text (some key), .colon]
      rest := by
  obtain ⟨cs, written, behind⟩ := blank.colon
  have colon : Spells layout.colon [.colon] rest := by
    rw [written]
    exact mark rfl (fun _ => rfl) (blanks behind)
  exact ((text key _).afterBlanks (blank.lineBreak depth)).append colon

end Spells

/-- Only digits, points and the letter of a power go on with a number. -/
lemma EndsNumber.cons (ends : c.isDigit = false ∧ c ≠ '.' ∧ c ≠ 'e' ∧ c ≠ 'E') :
    EndsNumber (c :: rest) := by
  rintro _ ⟨⟩
  exact ends

/-- Blanks end a number, if there are any. -/
lemma EndsNumber.blanks (blank : ∀ c ∈ cs, isSpace c) (ends : EndsNumber rest) :
    EndsNumber (cs ++ rest) := by
  cases cs with
  | nil => exact ends
  | cons c cs =>
    have space := eq_of_isSpace (blank c List.mem_cons_self)
    obtain rfl | rfl | rfl | rfl := space <;> exact .cons (by decide)

namespace Value

variable {layout : Layout}

/-- Further items do not go on with a number before them. -/
lemma endsNumber_moreItems (layout : Layout) (vs : List Value) (depth : Nat)
    (ends : EndsNumber rest) : EndsNumber (moreItems layout depth vs ++ rest) := by
  cases vs with
  | nil => exact ends
  | cons v vs => exact .cons (by decide)

/-- Further members do not go on with a number before them. -/
lemma endsNumber_moreMembers (layout : Layout) (ms : List (String × Value)) (depth : Nat)
    (ends : EndsNumber rest) : EndsNumber (moreMembers layout depth ms ++ rest) := by
  cases ms with
  | nil => exact ends
  | cons m ms => exact .cons (by decide)

mutual

/-- What is printed for a value spells its tokens. -/
lemma spells (blank : layout.Blank) (v : Value) (depth : Nat) {rest : List Char}
    (ends : EndsNumber rest) : Spells (v.characters layout depth) v.tokens rest := by
  match v with
  | .null => exact .token rfl rfl
  | .bool true => exact .token rfl rfl
  | .bool false => exact .token rfl rfl
  | .number n => exact .number n ends
  | .string s => exact .text s rest
  | .array [] => exact .mark rfl (fun _ => rfl) (.token rfl rfl)
  | .array (v :: vs) =>
    have ends : EndsNumber (layout.lineBreak depth ++ ([']'] ++ rest)) :=
      .blanks (blank.lineBreak depth) (.cons (by decide))
    have first := spells blank v (depth + 1) (endsNumber_moreItems layout vs (depth + 1) ends)
    have more := spells_moreItems blank vs (depth + 1) ends
    have close : Spells [']'] [.closeArray] rest := .token rfl rfl
    refine .mark rfl (fun _ => rfl) ?_
    exact (((first.afterBlanks (blank.lineBreak _)).append more).thenBlanks
      (blank.lineBreak depth)).append close
  | .object [] => exact .mark rfl (fun _ => rfl) (.token rfl rfl)
  | .object ((key, v) :: ms) =>
    have ends : EndsNumber (layout.lineBreak depth ++ (['\x7d'] ++ rest)) :=
      .blanks (blank.lineBreak depth) (.cons (by decide))
    have first := spells blank v (depth + 1) (endsNumber_moreMembers layout ms (depth + 1) ends)
    have more := spells_moreMembers blank ms (depth + 1) ends
    have close : Spells ['\x7d'] [.closeObject] rest := .token rfl rfl
    refine .mark rfl (fun _ => rfl) ?_
    exact ((((Spells.key blank key _ _).append first).append more).thenBlanks
      (blank.lineBreak depth)).append close
  | .unreadable => exact .token rfl rfl

/-- What is printed for further items spells their tokens. -/
lemma spells_moreItems (blank : layout.Blank) (vs : List Value) (depth : Nat) {rest : List Char}
    (ends : EndsNumber rest) : Spells (moreItems layout depth vs) (moreItemTokens vs) rest := by
  match vs with
  | [] => exact .blanks (List.forall_mem_nil _)
  | v :: vs =>
    have first := spells blank v depth (endsNumber_moreItems layout vs depth ends)
    have more := spells_moreItems blank vs depth ends
    exact .mark rfl (fun _ => rfl) ((first.afterBlanks (blank.lineBreak _)).append more)

/-- What is printed for further members spells their tokens. -/
lemma spells_moreMembers (blank : layout.Blank) (ms : List (String × Value)) (depth : Nat)
    {rest : List Char} (ends : EndsNumber rest) :
    Spells (moreMembers layout depth ms) (moreMemberTokens ms) rest := by
  match ms with
  | [] => exact .blanks (List.forall_mem_nil _)
  | (key, v) :: ms =>
    have first := spells blank v depth (endsNumber_moreMembers layout ms depth ends)
    have more := spells_moreMembers blank ms depth ends
    exact .mark rfl (fun _ => rfl) (((Spells.key blank key _ _).append first).append more)

end

end Value

/-! ## Tokens and values -/

/-- Members whose keys all stand for texts. -/
def keyed (ms : List (String × Value)) : List (Key × Value) :=
  ms.map fun (key, v) => (some key, v)

/-- Members whose keys all stand for texts make an object. -/
lemma objectOf_keyed (ms : List (String × Value)) : objectOf (keyed ms) = .object ms := by
  have texts : (keyed ms).mapM (fun m => m.1.map (·, m.2)) = some ms := by
    induction ms with
    | nil => rfl
    | cons m ms ih =>
      rw [keyed, List.map_cons, ← keyed, List.mapM_cons, ih]
      rfl
  unfold objectOf
  split
  case h_1 members read => rw [Option.some.inj (texts.symm.trans read)]
  case h_2 read => exact nomatch texts.symm.trans read

namespace Reading

variable {r r' r'' : Reading} {frames : List Frame}

/-- Tokens may be read in two parts. -/
lemma Reaches.append (first : r.Reaches ts r') (second : r'.Reaches ts' r'') :
    r.Reaches (ts ++ ts') r'' := by
  rw [Reaches, List.foldlM_append, first]
  exact second

/-- Tokens may be read one at a time. -/
lemma Reaches.cons (step : r.next t = some r') (more : r'.Reaches ts r'') :
    r.Reaches (t :: ts) r'' := by
  rw [Reaches, List.foldlM_cons, step]
  exact more

/-- No value begins with the end of an array, so one may be read where an array has just begun. -/
lemma Reaches.firstItem {v : Value} (reached : (value (.items [] :: frames)).Reaches v.tokens r) :
    (firstItem frames).Reaches v.tokens r := by
  unfold Value.tokens at *
  split at reached <;> exact reached

end Reading

namespace Value

open Reading (Reaches)

mutual

/-- By its tokens a value is reached, wherever one is expected. -/
lemma reaches (v : Value) (frames : List Frame) :
    (Reading.value frames).Reaches v.tokens (.complete v frames) := by
  match v with
  | .null | .bool _ | .number _ | .string _ | .unreadable => rfl
  | .array [] => rfl
  | .array (v :: vs) =>
    have first := (reaches v (.items [] :: frames)).firstItem
    have more := reaches_moreItems vs v [] frames
    rw [tokens, List.append_assoc]
    exact .cons rfl (first.append more)
  | .object [] => rfl
  | .object ((key, v) :: ms) =>
    have first := reaches v (.member [] (some key) :: frames)
    have more := reaches_moreMembers ms key v [] frames
    rw [tokens, List.append_assoc]
    exact .cons rfl (.cons rfl (.cons rfl (first.append more)))

/-- By the tokens of further items the array around them is reached. -/
lemma reaches_moreItems (vs : List Value) (v : Value) (before : List Value) (frames : List Frame) :
    (Reading.complete v (.items before :: frames)).Reaches (moreItemTokens vs ++ [.closeArray])
      (.complete (.array (before.reverse ++ v :: vs)) frames) := by
  match vs with
  | [] =>
    rw [← List.reverse_cons]
    rfl
  | w :: vs =>
    have first := reaches w (.items (v :: before) :: frames)
    have more := reaches_moreItems vs w (v :: before) frames
    rw [List.reverse_cons, List.append_assoc] at more
    rw [moreItemTokens, List.cons_append, List.append_assoc]
    exact .cons rfl (first.append more)

/-- By the tokens of further members the object around them is reached. -/
lemma reaches_moreMembers (ms : List (String × Value)) (key : String) (v : Value)
    (before : List (String × Value)) (frames : List Frame) :
    (Reading.complete v (.member (keyed before) (some key) :: frames)).Reaches
      (moreMemberTokens ms ++ [.closeObject])
      (.complete (.object (before.reverse ++ (key, v) :: ms)) frames) := by
  match ms with
  | [] =>
    have object := objectOf_keyed ((key, v) :: before).reverse
    rw [keyed, List.map_reverse] at object
    rw [← List.reverse_cons, ← object]
    rfl
  | (key', w) :: ms =>
    have first := reaches w (.member (keyed ((key, v) :: before)) (some key') :: frames)
    have more := reaches_moreMembers ms key' w ((key, v) :: before) frames
    rw [List.reverse_cons, List.append_assoc] at more
    rw [moreMemberTokens, List.cons_append, List.cons_append, List.cons_append, List.append_assoc]
    exact .cons rfl (.cons rfl (.cons rfl (first.append more)))

end

end Value

/-! ## Texts and values -/

/-- The layout with one member per line adds blanks only. -/
lemma Layout.pretty_blank : pretty.Blank where
  lineBreak depth := by
    rw [pretty, List.forall_mem_cons]
    refine ⟨rfl, fun c indent => ?_⟩
    rw [List.eq_of_mem_replicate indent]
    rfl
  colon := ⟨[' '], rfl, List.forall_mem_singleton.2 rfl⟩

/-- Every value is read back from its text. -/
theorem parse?_text {layout : Layout} (blank : layout.Blank) (v : Value) :
    parse? (v.text layout) = some v := by
  have nothing : EndsNumber [] := nofun
  have spelled : tokens? (v.characters layout 0) = some v.tokens := by
    have spelled := v.spells blank 0 nothing
    rw [Spells, List.append_nil, tokens?, Option.map_some, List.append_nil] at spelled
    exact spelled
  rw [parse?, Value.text, String.toList_ofList, spelled, Option.bind_eq_bind, Option.bind_some,
    ofTokens?, v.reaches []]

/-- No two values share a text. -/
theorem text_injective {layout : Layout} (blank : layout.Blank) {v w : Value}
    (same : v.text layout = w.text layout) : v = w := by
  have read := parse?_text blank w
  rw [← same, parse?_text blank v] at read
  exact Option.some.inj read

end ProfileControls.Json
