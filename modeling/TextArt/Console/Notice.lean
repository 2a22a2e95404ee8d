import TextArt.Console.Screen
import TextArt.Text.Blank
import TextArt.Text.LetterCase

/-!
# Notices on a console

A notice is written in a markup in which a word between brackets is the name of a style, which is
not shown, and one after a slash ends a style. A backslash before a bracket takes this meaning away.
Notices are broken at blanks where they would pass the last column.
-/

namespace TextArt.Console

open Text (isBlank trimBy)

/-! ## Markup -/

/-- Whether a character can start the name of a style. -/
def startsTag (c : CodePoint) : Bool :=
  decide ('a' ≤ c ∧ c ≤ 'z') || c == '#' || c == '/' || c == '@'

/-- The tag after an opening bracket, and what follows its closing bracket. -/
def tag? (s : List CodePoint) : Option (List CodePoint × List CodePoint) :=
  if (s.head?.map startsTag).getD false then
    let (body, rest) := s.span fun c ↦ c ≠ .char '[' && c ≠ .char ']'
    match rest with
    | .char ']' :: after => some (body, after)
    | _ => none
  else none

/-- The name of a style in its usual form. -/
def styleName (s : List CodePoint) : Text := Text.lower (Text.ofList (trimBy isBlank s))

/-- The open styles after a tag, the innermost first; nothing if the tag ends a style that is not
open. -/
def openStyles? (styles : List Text) (tag : List CodePoint) : Option (List Text) :=
  match tag with
  | .char '/' :: name =>
    let name := styleName name
    if name.isEmpty then styles.tail?
    else if styles.contains name then some (styles.erase name)
    else none
  | _ => some (styleName (tag.takeWhile (· ≠ .char '=')) :: styles)

/-- The text that markup stands for; nothing if it ends a style that is not open. Every step uses up
a character. -/
def markedFrom? (styles : List Text) : Nat → List CodePoint → Option (List CodePoint)
  | 0, _ => some []
  | _, [] => some []
  | fuel + 1, c :: rest =>
    let slashes := (c :: rest).takeWhile (· = .char '\\')
    let after := (c :: rest).drop slashes.length
    match after with
    | .char '[' :: inner =>
      match tag? inner with
      | some (tag, tail) =>
        let kept := List.replicate (slashes.length / 2) (CodePoint.char '\\')
        if slashes.length % 2 = 1 then
          (markedFrom? styles fuel tail).map fun s ↦ kept ++ .char '[' :: tag ++ .char ']' :: s
        else
          match openStyles? styles tag with
          | some styles => (markedFrom? styles fuel tail).map (kept ++ ·)
          | none => none
      | none => (markedFrom? styles fuel inner).map fun s ↦ slashes.drop 1 ++ .char '[' :: s
    | _ =>
      if slashes.isEmpty then (markedFrom? styles fuel rest).map (c :: ·)
      else (markedFrom? styles fuel after).map (slashes ++ ·)

/-- The text that markup stands for. -/
def marked? (markup : Text) : Option Text :=
  (markedFrom? [] markup.length markup.toList).map Text.ofList

/-- Text as markup that shows it: a backslash goes before what would be a tag, and the backslashes
before it are doubled; a single backslash at the end is doubled, too. Every step uses up a
character. -/
def escapeFrom : Nat → List CodePoint → List CodePoint
  | 0, _ => []
  | _, [] => []
  | fuel + 1, c :: rest =>
    let slashes := (c :: rest).takeWhile (· = .char '\\')
    let after := (c :: rest).drop slashes.length
    match after with
    | .char '[' :: inner =>
      match tag? inner with
      | some (tag, tail) =>
        slashes ++ slashes ++ .char '\\' :: .char '[' :: tag ++ .char ']' :: escapeFrom fuel tail
      | none => slashes ++ .char '[' :: escapeFrom fuel inner
    | [] => if slashes.length = 1 then ['\\', '\\'] else slashes
    | _ => if slashes.isEmpty then c :: escapeFrom fuel rest else slashes ++ escapeFrom fuel after

/-- Text as markup. -/
def escape (s : Text) : Text := Text.ofList (escapeFrom s.length s.toList)

/-- What a console shows of a text in markup; nothing if the markup ends a style that is not open.
-/
def notice? (markup : Text) : Option Text := (marked? markup).map shown

/-! ## Lines -/

/-- The number of columns of a console. -/
def columns : Nat := 80

/-- The words of a line, each with the blanks after it, the first one also with those before it. -/
def words : Nat → List CodePoint → List (List CodePoint)
  | 0, _ => []
  | fuel + 1, s =>
    let before := s.takeWhile isBlank
    let tail := s.drop before.length
    let body := tail.takeWhile fun c ↦ !isBlank c
    let after := (tail.drop body.length).takeWhile isBlank
    if body.isEmpty then (if before.isEmpty then [] else [before])
    else (before ++ body ++ after) :: words fuel (tail.drop (body.length + after.length))

/-- Text without the blanks at its end. -/
def trimEnd (s : List CodePoint) : List CodePoint := (s.reverse.dropWhile isBlank).reverse

/-- Text cut into pieces of the given length. -/
def pieces (length : Nat) : Nat → List CodePoint → List (List CodePoint)
  | 0, _ => []
  | _, [] => []
  | fuel + 1, s => s.take length :: pieces length fuel (s.drop length)

/-- The lines that words are set in, after a line that has been begun. A word that is longer than a
line is cut. -/
def setWords (width : Nat) (line : List CodePoint) : List (List CodePoint) → List (List CodePoint)
  | [] => [line]
  | word :: rest =>
    let length := (trimEnd word).length
    if line.length + length ≤ width then setWords width (line ++ word) rest
    else
      let begun := if line.isEmpty then [] else [line]
      if width < length then
        let cut := pieces width word.length word
        begun ++ cut.dropLast ++ setWords width (cut.getLast?.getD []) rest
      else begun ++ setWords width word rest

/-- A line without the blanks at its end that pass the last column. -/
def cropEnd (width : Nat) (line : List CodePoint) : List CodePoint :=
  let blanks := line.length - (trimEnd line).length
  line.take (line.length - min blanks (line.length - width))

/-- The lines that a text is set in. -/
def wrap (width : Nat) (s : Text) : List Text :=
  (s.toList.splitOn (.char '\n')).flatMap fun line ↦
    (setWords width [] (words line.length line)).map fun l ↦ Text.ofList (cropEnd width l)

end TextArt.Console
