import TextArt.Text.Basic

/-!
# Paths

A path is a list of names, read from text with slashes between the names. Reading a path settles how
it is written: empty names and names that are a single dot say nothing and are dropped, so
`a//b/./c/` and `a/b/c` are the same path. A name that is two dots stays, since what it leads to
depends on the files.

A path starts from the current directory or from the root. Two slashes at the start, and neither one
nor three, are a root of their own.
-/

namespace TextArt

/-- Where a path starts. -/
inductive Path.Start where
  /-- At the current directory. -/
  | here
  /-- At the root. -/
  | root
  /-- At the root written with two slashes. -/
  | doubleRoot
  deriving DecidableEq, Repr

/-- A path. -/
structure Path where
  /-- Where the path starts. -/
  start : Path.Start
  /-- The names that lead from there on. -/
  names : List Text
  deriving DecidableEq, Repr

namespace Path

/-! ## Reading and writing -/

/-- The slashes that a path starts with. -/
def Start.text : Start → Text
  | here => ""
  | root => "/"
  | doubleRoot => "//"

/-- Where the path of a text starts. -/
def startOf : List CodePoint → Start
  | .char '/' :: .char '/' :: .char '/' :: _ => .root
  | .char '/' :: .char '/' :: _ => .doubleRoot
  | .char '/' :: _ => .root
  | _ => .here

/-- Whether a name says something. -/
def isName (name : List CodePoint) : Bool := name != [] && name != [.char '.']

/-- The names of a text. -/
def namesOf (s : List CodePoint) : List Text :=
  ((s.splitOn (.char '/')).filter isName).map Text.ofList

/-- The path of a text. -/
def ofText (s : Text) : Path := ⟨startOf s.toList, namesOf s.toList⟩

/-- A path as it is written; the current directory is a single dot. -/
def text (p : Path) : Text :=
  if p.start = .here ∧ p.names = [] then "."
  else p.start.text ++ Text.intercalate "/" p.names

/-! ## Parts -/

/-- The current directory. -/
def here : Path := ⟨.here, []⟩

/-- The path without its last name; the start of a path is its own parent. -/
def parent (p : Path) : Path := { p with names := p.names.dropLast }

/-- The last name, empty if there is none. -/
def name (p : Path) : Text := p.names.getLast?.getD ""

/-- Whether a path is a bare name: nothing but the current directory leads to it. -/
def isBare (p : Path) : Bool := p.parent == here

/-- The path that leads on from a path; one that starts at the root does not depend on it. -/
def join (p q : Path) : Path :=
  if q.start = .here then { p with names := p.names ++ q.names } else q

/-- Whether a name has an extension: something follows its last dot, and something stands before
it. -/
def hasExtension (name : Text) : Bool :=
  let s := name.toList
  let tail := s.reverse.takeWhile (· ≠ .char '.')
  !tail.isEmpty && decide (tail.length + 1 < s.length)

end Path

end TextArt
