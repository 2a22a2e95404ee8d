import TextArt.Failure
import TextArt.Grid.Basic
import TextArt.Number.Rounding

/-!
# Streams of rows

A grid is shown row by row: one event for every row, then one that says that all have been shown.
A stream that is under way reads each row at the moment it is asked for it.
-/

namespace TextArt

/-- What a stream of rows reports. -/
inductive StreamEvent where
  /-- A row: its number, its text and the number of all rows. -/
  | row (index : Nat) (text : Text) (total : Nat)
  /-- All rows have been shown. -/
  | complete (total : Nat)
  deriving DecidableEq, Repr

/-- The part of the rows that have been shown. -/
def StreamEvent.progress : StreamEvent → Float
  | row index _ total => floatOfRatio (index + 1 : Nat) total
  | complete _ => 1

/-- The event for a row. -/
def Grid.rowEvent (g : Grid) (total index : Nat) : StreamEvent :=
  .row index (if index < g.height then g.rowText index else "") total

/-- All events of a grid that does not change. -/
def Grid.stream (g : Grid) : List StreamEvent :=
  (List.range g.height).map (g.rowEvent g.height) ++ [.complete g.height]

/-- A stream between two events. -/
inductive StreamState where
  /-- Nothing has been asked for. -/
  | fresh
  /-- So many rows have been shown, of so many. -/
  | under (shown total : Nat)
  /-- The stream has ended. -/
  | ended
  deriving DecidableEq, Repr

/-- The next event, none at the end, and the stream after it. -/
def StreamState.next (g : Grid) : StreamState → Option StreamEvent × StreamState
  | fresh => advance g 0 g.height
  | under shown total => advance g shown total
  | ended => (none, ended)
where
  /-- The next event of a stream that has shown some rows. -/
  advance (g : Grid) (shown total : Nat) : Option StreamEvent × StreamState :=
    if shown < total then (some (g.rowEvent total shown), .under (shown + 1) total)
    else (some (.complete total), .ended)

/-! ## Streams that pause -/

/-- What a stream that pauses between rows does next. -/
inductive PacedStep where
  /-- It waits for so many seconds. -/
  | pause (seconds : Float)
  /-- It reports something. -/
  | report (event : StreamEvent)

namespace PacedStep

/-- What a step reports. -/
def event? : PacedStep → Option StreamEvent
  | pause _ => none
  | report e => some e

/-- A pause of the given length. A whole number that is too large for a double is no length, and an
infinite pause is never over. A pause of a NaN is over at once. -/
def wait (delay : Number) : Outcome PacedStep :=
  match delay.toFloat? with
  | some x => if x.isInf then .error .endless else .ok (pause x)
  | none => .error .overflow

/-- The first reports, as many as are asked for. No step is taken after the last of them. -/
def collect : Nat → List (Outcome PacedStep) → Outcome (List StreamEvent)
  | 0, _ => .ok []
  | _ + 1, [] => .ok []
  | count + 1, step :: rest => do
    match ← step with
    | pause _ => collect (count + 1) rest
    | report e =>
      let more ← collect count rest
      .ok (e :: more)

end PacedStep

/-- The steps of a stream that pauses before every row but the first. -/
def Grid.pacedSteps (g : Grid) (delay : Number) : List (Outcome PacedStep) :=
  ((List.range g.height).flatMap fun row ↦
    (if 0 < row then [PacedStep.wait delay] else []) ++
      [.ok (.report (g.rowEvent g.height row))]) ++
    [.ok (.report (.complete g.height))]

/-- The first events of a stream that pauses between rows, as many as are asked for. The pause has
to be a number that is not negative. -/
def Grid.delayedStream (g : Grid) (delay : Value) (count : Nat) : Outcome (List StreamEvent) :=
  match delay.number? with
  | none => .error .wrongType
  | some n =>
    if n.lt (.whole 0) then .error (.negativeDelay delay)
    else PacedStep.collect count (g.pacedSteps n)

end TextArt
