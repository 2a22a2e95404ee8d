import TextArt.Path
import TextArt.Text.Quoted
import TextArt.Text.Utf

/-!
# Stores of files

A store holds directories and files, each at its location: the list of names that leads to it from
the root, where a name is its bytes. Paths are followed name by name, every directory on the way has
to be there and to be open to the user, and two dots lead back to the directory above.
`FileStore.lookup?` is the view through which the operations are described.

Links, devices, locks and full disks are left out.
-/

namespace TextArt

/-- What a location of a store holds. -/
inductive Entry where
  /-- A file with its bytes. -/
  | file (content : List UInt8)
  /-- A directory. -/
  | directory
  deriving DecidableEq, Repr

/-- The names that lead to a place from the root on, each by its bytes. -/
abbrev Location := List (List UInt8)

/-- The location that some names lead to from the root on. -/
def Location.of (names : List Text) : Location := names.map Text.encodeName

/-- What a user may do with what is at a location. -/
inductive Right where
  /-- Reading a file, or listing a directory. -/
  | read
  /-- Writing a file, or making something in a directory. -/
  | write
  /-- Following a path through a directory. -/
  | pass
  deriving DecidableEq, Repr

/-- Directories and files. -/
structure FileStore where
  /-- What is there; no location occurs twice, and the root is left out. -/
  entries : List (Location × Entry)
  /-- The current directory. -/
  current : Location
  /-- The rights that the user does not have. -/
  denied : List (Location × Right)
  deriving DecidableEq, Repr

/-- Why an operation on a store fails. -/
inductive Obstacle where
  /-- Nothing is there. -/
  | missing
  /-- The user does not have the right. -/
  | denied
  /-- Something is there already. -/
  | taken
  /-- A file stands in the place of a directory. -/
  | notDirectory
  /-- A directory stands in the place of a file. -/
  | isDirectory
  /-- A name or the whole path has more bytes than a store takes. -/
  | tooLong
  /-- No path holds a NUL. -/
  | nul
  /-- The path has a code point that stands for no bytes. -/
  | unencodable
  deriving DecidableEq, Repr

/-- The number and the words by which an obstacle is known. -/
def Obstacle.text : Obstacle → Text
  | missing => "[Errno 2] No such file or directory"
  | denied => "[Errno 13] Permission denied"
  | taken => "[Errno 17] File exists"
  | notDirectory => "[Errno 20] Not a directory"
  | isDirectory => "[Errno 21] Is a directory"
  | tooLong => "[Errno 36] File name too long"
  | nul => "embedded null byte"
  | unencodable => "surrogates not allowed"

/-- An obstacle on a path, in words. -/
def Obstacle.message (o : Obstacle) (p : Path) : Text :=
  o.text ++ ": " ++ Text.Quoted.encode p.text

namespace FileStore

/-! ## Locations -/

/-- A store without files, in a directory of the given location, where the user may do anything. -/
def empty (current : Location) : FileStore where
  entries := (List.range current.length).map fun n ↦ (current.take (n + 1), .directory)
  current := current
  denied := []

/-- Whether the user has a right at a location. -/
def allows (s : FileStore) (l : Location) (r : Right) : Bool := !s.denied.contains (l, r)

/-- What is at a location. -/
def lookup? (s : FileStore) (l : Location) : Option Entry :=
  if l = [] then some .directory else s.entries.lookup l

/-- Puts an entry at a location, in the place of what is there. -/
def putEntry (entries : List (Location × Entry)) (l : Location) (e : Entry) :
    List (Location × Entry) :=
  match entries with
  | [] => [(l, e)]
  | (m, old) :: rest => if m = l then (l, e) :: rest else (m, old) :: putEntry rest l e

/-- The store with an entry at a location. -/
def put (s : FileStore) (l : Location) (e : Entry) : FileStore :=
  { s with entries := putEntry s.entries l e }

private theorem lookup_cons_eq (l m : Location) (e : Entry) (rest : List (Location × Entry)) :
    ((l, e) :: rest).lookup m = if m = l then some e else rest.lookup m := by
  by_cases h : m = l
  · simp [h]
  · simp [List.lookup_cons, beq_eq_false_iff_ne.2 h, h]

theorem lookup_putEntry (entries : List (Location × Entry)) (l m : Location) (e : Entry) :
    (putEntry entries l e).lookup m = if m = l then some e else entries.lookup m := by
  induction entries with
  | nil => simp [putEntry, lookup_cons_eq]
  | cons entry rest ih =>
    obtain ⟨n, old⟩ := entry
    by_cases hn : n = l
    · simp only [putEntry, hn, if_true, lookup_cons_eq]
      split <;> rfl
    · simp only [putEntry, hn, if_false, lookup_cons_eq, ih]
      split
      · next h => rw [if_neg (h ▸ hn)]
      · rfl

theorem lookup?_put (s : FileStore) {l : Location} (hl : l ≠ []) (e : Entry) (m : Location) :
    (s.put l e).lookup? m = if m = l then some e else s.lookup? m := by
  unfold lookup? put
  by_cases hm : m = []
  · subst hm
    simp [Ne.symm hl]
  · simp [hm, lookup_putEntry]

/-! ## Following paths -/

/-- The most bytes of a name. -/
def nameLimit : Nat := 255

/-- The most bytes of a path. -/
def pathLimit : Nat := 4095

/-- Follows names from a location. The last name need not lead to anything. -/
def follow (s : FileStore) (l : Location) : List Text → Except Obstacle Location
  | [] => .ok l
  | name :: rest =>
    match s.lookup? l with
    | none => .error .missing
    | some (.file _) => .error .notDirectory
    | some .directory =>
      if !s.allows l .pass then .error .denied
      else if name = ".." then s.follow l.dropLast rest
      else if nameLimit < (Text.encodeName name).length then .error .tooLong
      else s.follow (l ++ [Text.encodeName name]) rest

/-- The location that a path leads to. -/
def locate (s : FileStore) (p : Path) : Except Obstacle Location :=
  if !p.text.isFileName then .error .unencodable
  else if p.text.contains (.char '\x00') then .error .nul
  else if pathLimit < (Text.encodeName p.text).length then .error .tooLong
  else s.follow (if p.start = .here then s.current else []) p.names

/-- What a path leads to. -/
def find (s : FileStore) (p : Path) : Except Obstacle Entry := do
  let l ← s.locate p
  match s.lookup? l with
  | some e => .ok e
  | none => .error .missing

/-- The bytes of a file. -/
def read (s : FileStore) (p : Path) : Except Obstacle (List UInt8) := do
  let l ← s.locate p
  match s.lookup? l with
  | none => .error .missing
  | some e =>
    if !s.allows l .read then .error .denied
    else
      match e with
      | .file content => .ok content
      | .directory => .error .isDirectory

/-! ## Writing -/

/-- Puts an entry at a location where nothing is. -/
def add (s : FileStore) (l : Location) (e : Entry) : Except Obstacle FileStore :=
  if s.allows l.dropLast .write then .ok (s.put l e) else .error .denied

/-- Writes a file, in the place of one that is there. -/
def write (s : FileStore) (p : Path) (content : List UInt8) : Except Obstacle FileStore := do
  let l ← s.locate p
  match s.lookup? l with
  | some .directory => .error .isDirectory
  | some (.file _) => if s.allows l .write then .ok (s.put l (.file content)) else .error .denied
  | none => s.add l (.file content)

/-- Makes a directory. -/
def makeDirectory (s : FileStore) (p : Path) : Except Obstacle FileStore := do
  let l ← s.locate p
  match s.lookup? l with
  | some _ => .error .taken
  | none => s.add l .directory

/-- Makes a directory unless there is one. -/
def ensureDirectory (s : FileStore) (p : Path) : Except Obstacle FileStore :=
  match s.makeDirectory p with
  | .ok s => .ok s
  | .error o => if s.find p matches .ok .directory then .ok s else .error o

/-- Makes a directory and all directories that lead to it, unless they are there. The names are
given from the last one back. A failure comes with the path that it is about and with the
directories that were made before it. -/
def ensurePath (s : FileStore) (start : Path.Start) :
    List Text → Except (Obstacle × Path × FileStore) FileStore
  | [] => (s.ensureDirectory ⟨start, []⟩).mapError fun o ↦ (o, ⟨start, []⟩, s)
  | name :: before => do
    let p : Path := ⟨start, (name :: before).reverse⟩
    match s.ensureDirectory p with
    | .ok s => .ok s
    | .error .missing =>
      let s ← s.ensurePath start before
      (s.ensureDirectory p).mapError fun o ↦ (o, p, s)
    | .error o => .error (o, p, s)

/-- Makes the directory of a path and all that lead to it, unless they are there. -/
def ensureDirectories (s : FileStore) (p : Path) :
    Except (Obstacle × Path × FileStore) FileStore :=
  s.ensurePath p.start p.names.reverse

/-- The store with a file at a path and the directories that lead to it, as far as nothing is in
the way. -/
def place (s : FileStore) (p : Path) (content : List UInt8) : FileStore :=
  match s.ensureDirectories p.parent with
  | .ok made => (made.write p content).toOption.getD made
  | .error (_, _, made) => made

/-! ## Listing -/

/-- Whether one list of names comes before another, or is the same. -/
def precedes : Location → Location → Bool
  | [], _ => true
  | _ :: _, [] => false
  | a :: as, b :: bs => if a = b then precedes as bs else decide (a < b)

/-- The files below the current directory by their names from there on, in order. -/
def listing (s : FileStore) : List (Location × List UInt8) :=
  (s.entries.filterMap fun (l, e) ↦
    match e with
    | .file content =>
      if s.current.isPrefixOf l then some (l.drop s.current.length, content) else none
    | .directory => none).mergeSort fun a b ↦ precedes a.1 b.1

/-- The files below the current directory that another store does not have as they are here. -/
def listingSince (s old : FileStore) : List (Location × List UInt8) :=
  s.listing.filter fun (names, content) ↦ old.listing.lookup names ≠ some content

end FileStore

end TextArt
