import TextArt.Text.Blank
import TextArt.Text.Newline

/-!
# Files of assignments

A settings file holds one assignment to a line, `NAME=value`. Lines may be empty, start with the
word `export`, and end with a comment. A value between quotes keeps its blanks and may go over
several lines; one without quotes ends before a comment. A line that cannot be read is left out.

A value may refer to other ones as `${NAME}`, or as `${NAME:-text}` with a text for the case that
there is no such value.
-/

namespace TextArt.EnvFile

open Text (isBlank)

/-! ## Blanks -/

/-- A blank that does not end a line. -/
def isInnerBlank (c : CodePoint) : Bool := isBlank c && c != '\n'

/-- Text without leading blanks of the line. -/
def skipInner (s : List CodePoint) : List CodePoint := s.dropWhile isInnerBlank

/-- What follows the current line. -/
def afterLine (s : List CodePoint) : List CodePoint := (s.dropWhile (· ≠ .char '\n')).drop 1

/-- Text without the word `export` and the blanks after it, if both stand at the start. -/
def skipExport (s : List CodePoint) : List CodePoint :=
  let rest := s.drop 6
  if ("export" : Text).toList.isPrefixOf s && (rest.head?.map isInnerBlank).getD false then
    skipInner rest
  else s

/-! ## Quotes -/

/-- The text up to a closing quote, and what follows the quote. A quote after a backslash does not
close the text unless no other one does. -/
def quoted? (quote : CodePoint) : List CodePoint → Option (List CodePoint × List CodePoint)
  | [] => none
  | .char '\\' :: c :: rest =>
    if c = quote then
      match quoted? quote rest with
      | some (body, after) => some ('\\' :: quote :: body, after)
      | none => some (['\\'], rest)
    else (quoted? quote (c :: rest)).map fun (body, after) ↦ ('\\' :: body, after)
  | c :: rest =>
    if c = quote then some ([], rest)
    else (quoted? quote rest).map fun (body, after) ↦ (c :: body, after)

/-- What an escaped character stands for between double quotes. -/
def doubleEscapes : List (CodePoint × CodePoint) :=
  [('\\', '\\'), ('\'', '\''), ('"', '"'), ('a', '\x07'), ('b', '\x08'), ('f', '\x0c'),
    ('n', '\n'), ('r', '\r'), ('t', '\t'), ('v', '\x0b')]

/-- What an escaped character stands for between single quotes. -/
def singleEscapes : List (CodePoint × CodePoint) := [('\\', '\\'), ('\'', '\'')]

/-- Text with its escapes resolved; a backslash before any other character stays. -/
def unescape (escapes : List (CodePoint × CodePoint)) : List CodePoint → List CodePoint
  | .char '\\' :: c :: rest =>
    match escapes.lookup c with
    | some d => d :: unescape escapes rest
    | none => '\\' :: unescape escapes (c :: rest)
  | c :: rest => c :: unescape escapes rest
  | [] => []

/-! ## Assignments -/

/-- The part of a line before its comment, which starts with a number sign after a blank. -/
def beforeComment : List CodePoint → List CodePoint
  | c :: .char '#' :: rest => if isBlank c then [] else c :: beforeComment ('#' :: rest)
  | c :: rest => c :: beforeComment rest
  | [] => []

/-- The value at the start of a text, and what follows it. -/
def value? (s : List CodePoint) : Option (List CodePoint × List CodePoint) :=
  match s with
  | .char '\'' :: rest =>
    (quoted? '\'' rest).map fun (body, after) ↦ (unescape singleEscapes body, after)
  | .char '"' :: rest =>
    (quoted? '"' rest).map fun (body, after) ↦ (unescape doubleEscapes body, after)
  | s =>
    let line := s.takeWhile (· ≠ .char '\n')
    let body := ((beforeComment line).reverse.dropWhile isBlank).reverse
    some (body, s.drop line.length)

/-- The name at the start of a text, and what follows it. -/
def name? (s : List CodePoint) : Option (List CodePoint × List CodePoint) :=
  match s with
  | .char '\'' :: rest =>
    let (name, after) := rest.span (· ≠ .char '\'')
    if name.isEmpty || after.isEmpty then none else some (name, after.drop 1)
  | s =>
    let (name, after) := s.span fun c ↦ c ≠ .char '=' && c ≠ .char '#' && !isBlank c
    if name.isEmpty then none else some (name, after)

/-- What follows the end of a line, before which only a comment may stand. -/
def lineEnd? (s : List CodePoint) : Option (List CodePoint) :=
  let s := match skipInner s with
    | .char '#' :: rest => rest.dropWhile (· ≠ .char '\n')
    | _ => s
  match skipInner s with
  | [] => some []
  | .char '\n' :: rest => some rest
  | _ => none

/-- An assignment, if a line holds one; a name may stand there without a value. -/
abbrev Assignment := List CodePoint × Option (List CodePoint)

/-- Reads a line that is not empty: its assignment, if there is one, and what follows the line. -/
def line (s : List CodePoint) : Option Assignment × List CodePoint :=
  let s := skipExport s
  if s.head? = some '#' then (none, afterLine s)
  else
    match name? s with
    | none => (none, afterLine s)
    | some (name, rest) =>
      let rest := skipInner rest
      if rest.head? = some '=' then
        let rest := skipInner (rest.drop 1)
        match value? rest with
        | none => (none, afterLine rest)
        | some (value, rest) =>
          match lineEnd? rest with
          | some after => (some (name, some value), after)
          | none => (none, afterLine rest)
      else
        match lineEnd? rest with
        | some after => (some (name, none), after)
        | none => (none, afterLine rest)

/-- Reads the lines of a text, each of which uses up a character. -/
def lines : Nat → List CodePoint → List Assignment
  | 0, _ => []
  | fuel + 1, s =>
    match s.dropWhile isBlank with
    | [] => []
    | s =>
      let (a, rest) := line s
      a.toList ++ lines fuel rest

/-! ## References -/

/-- Values by name; a name may be known without a value. -/
abbrev Bindings := List (Text × Option Text)

/-- The reference at the start of a text after its dollar sign and opening brace: its name, the text
for the case that there is no value, and what follows the reference. -/
def reference? (s : List CodePoint) : Option (List CodePoint × List CodePoint × List CodePoint) :=
  let (name, rest) := s.span fun c ↦ c ≠ .char '\x7d' && c ≠ .char ':'
  match rest with
  | .char '\x7d' :: after => some (name, [], after)
  | .char ':' :: .char '-' :: rest =>
    let (fallback, rest) := rest.span (· ≠ .char '\x7d')
    match rest with
    | .char '\x7d' :: after => some (name, fallback, after)
    | _ => none
  | _ => none

/-- Text with its references replaced. Every step uses up a character. -/
def resolve (known : Bindings) : Nat → List CodePoint → List CodePoint
  | fuel + 1, .char '$' :: .char '\x7b' :: rest =>
    match reference? rest with
    | some (name, fallback, after) =>
      let found := match known.lookup (Text.ofList name) with
        | some v => (v.getD ("" : Text)).toList
        | none => fallback
      found ++ resolve known fuel after
    | none => '$' :: resolve known fuel ('\x7b' :: rest)
  | fuel + 1, c :: rest => c :: resolve known fuel rest
  | _, _ => []

/-- The values of assignments in order, each of which may refer to the ones before it and, where
they have no such name, to some that are known from elsewhere. -/
def settle (known : Bindings) : List Assignment → Bindings
  | [] => []
  | (name, value) :: rest =>
    let value := value.map fun v ↦ Text.ofList (resolve known v.length v)
    let binding := (Text.ofList name, value)
    binding :: settle (binding :: known) rest

/-- The values that a file assigns, in the order of its lines. -/
def read (known : Bindings) (text : Text) : Bindings :=
  let s := Text.unifyNewlines text.toList
  settle known (lines s.length s)

end TextArt.EnvFile
