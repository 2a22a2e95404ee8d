import TextArt.Number.Reading

/-!
# Words of a command line

The words after the name of a command are options and operands, in any order. An option is a long
name after two dashes or a letter after one; letters may share a dash. Its value, if it takes one,
is attached to it or is the next word, whatever that word looks like. After two dashes alone, all
words are operands. A single dash is an operand.
-/

namespace TextArt.CommandLine

/-- An option that a command knows. -/
structure Switch where
  /-- The long name, without dashes. -/
  name : Text
  /-- The letter. -/
  letter : Option CodePoint
  /-- Whether it takes a value. -/
  takesValue : Bool
  deriving Repr

/-- An option as it is given, by its long name; the value is empty if it takes none. -/
abbrev Given := Text × Text

/-- The options and operands of a command line, each in order. -/
structure Words where
  /-- The options. -/
  options : List Given
  /-- The operands. -/
  operands : List Text
  deriving Repr

/-! ## Reading -/

/-- The options that a word gives, and the name of one that takes the next word as its value. -/
abbrev Reading := List Given × Option Text

/-- Reads the letters of a word with one dash. Letters after one that takes a value are the
value. -/
def letters? (switches : List Switch) : List CodePoint → Option Reading
  | [] => some ([], none)
  | c :: rest =>
    match switches.find? fun s ↦ s.letter == some c with
    | none => none
    | some s =>
      if s.takesValue then
        if rest.isEmpty then some ([], some s.name)
        else some ([(s.name, Text.ofList rest)], none)
      else (letters? switches rest).map fun (given, open?) ↦ ((s.name, "") :: given, open?)

/-- Reads a word that starts with a dash. -/
def option? (switches : List Switch) (word : List CodePoint) : Option Reading :=
  let (spelling, tail) := word.span (· ≠ .char '=')
  match switches.find? fun s ↦ ("--" ++ s.name : Text).toList == spelling with
  | some s =>
    match tail, s.takesValue with
    | [], true => some ([], some s.name)
    | [], false => some ([(s.name, "")], none)
    | _ :: value, true => some ([(s.name, Text.ofList value)], none)
    | _ :: _, false => none
  | none => if ("--" : Text).toList.isPrefixOf word then none else letters? switches (word.drop 1)

/-- Whether a word is an option. -/
def isOption (word : Text) : Bool := word.toList.head? == some (.char '-') && word != "-"

/-- Reads words; nothing if an option is not known, lacks its value or has one that it does not
take. -/
def Words.read? (switches : List Switch) : List Text → Option Words
  | [] => some ⟨[], []⟩
  | word :: rest =>
    if word = "--" then some ⟨[], rest⟩
    else if isOption word then
      match option? switches word.toList with
      | none => none
      | some (given, none) =>
        (Words.read? switches rest).map fun w ↦ { w with options := given ++ w.options }
      | some (given, some name) =>
        match rest with
        | [] => none
        | value :: rest =>
          (Words.read? switches rest).map fun w ↦
            { w with options := given ++ (name, value) :: w.options }
    else (Words.read? switches rest).map fun w ↦ { w with operands := word :: w.operands }

/-! ## Asking -/

namespace Words

/-- All values of an option. -/
def values (w : Words) (name : Text) : List Text :=
  (w.options.filter fun o ↦ o.1 == name).map Prod.snd

/-- The value of an option; the last one counts. -/
def value? (w : Words) (name : Text) : Option Text := (w.values name).getLast?

/-- Whether an option is given. -/
def has (w : Words) (name : Text) : Bool := !(w.values name).isEmpty

/-- The whole number that an option stands for, if it is given; nothing if its value is none. -/
def whole? (w : Words) (name : Text) : Option (Option Int) :=
  match w.value? name with
  | none => some none
  | some s =>
    match readWhole s.toList with
    | .number n => some (some n)
    | _ => none

end Words

end TextArt.CommandLine
