import Mathlib.Data.List.Basic
import TextArt.Proofs.Outcome
import TextArt.Proofs.Text.Parts
import TextArt.Stream

/-!
# What streams of rows show

The events of a stream are numbered, and `Grid.event?` says which one comes when: the rows from the
top, each as it looks at that moment, then the completion, then nothing. A stream under way is told
by the number of events it has shown (`StreamState.shown`), so that one step of it is one step in
that count (`next_shown`). The total is settled with the first event; the count goes on being right
because the height of a grid never changes.

Pauses do not show, unless they cannot be made: a stream that pauses between rows reports what one
without pauses does, and no more than the first row if its pauses overflow or are never over.
-/

namespace TextArt

variable {g : Grid} {delay : Value}

/-- The event of a grid with the given number, counted from zero. -/
def Grid.event? (g : Grid) (n : Nat) : Option StreamEvent :=
  if n < g.height then some (.row n (g.rowText n) g.height)
  else if n = g.height then some (.complete g.height)
  else none

/-- The text of a row that an event shows. -/
def StreamEvent.text? : StreamEvent → Option Text
  | row _ text _ => some text
  | complete _ => none

namespace StreamState

/-- A stream of so many rows that has shown so many events. -/
def shown (total n : Nat) : StreamState :=
  if n = 0 then fresh else if n ≤ total then under n total else ended

/-- The answers of a stream that is asked so many times for the next event of the same grid. -/
def ask (g : Grid) : Nat → StreamState → List (Option StreamEvent)
  | 0, _ => []
  | n + 1, s => (s.next g).1 :: ask g n (s.next g).2

/-- **One step.** The next event is the one whose number is the count of those before. -/
theorem next_shown (g : Grid) (n : Nat) :
    (shown g.height n).next g = (g.event? n, shown g.height (n + 1)) := by
  have hpos := g.height_pos
  have hadvance : n ≤ g.height → next.advance g n g.height =
      (g.event? n, shown g.height (n + 1)) := by
    intro hn
    unfold next.advance Grid.event? shown
    rw [if_neg (Nat.succ_ne_zero n)]
    by_cases hrow : n < g.height
    · rw [if_pos hrow, if_pos hrow, if_pos (Nat.succ_le_of_lt hrow), Grid.rowEvent, if_pos hrow]
    · rw [if_neg hrow, if_neg hrow, if_pos (by omega), if_neg (by omega)]
  by_cases hfresh : n = 0
  · subst hfresh
    exact hadvance (Nat.zero_le _)
  by_cases hunder : n ≤ g.height
  · rw [shown, if_neg hfresh, if_pos hunder]
    exact hadvance hunder
  · rw [shown, if_neg hfresh, if_neg hunder, next, Grid.event?, if_neg (by omega),
      if_neg (by omega), shown, if_neg (Nat.succ_ne_zero n), if_neg (by omega)]

private theorem ask_shown (g : Grid) (count n : Nat) :
    ask g count (shown g.height n) = (List.range' n count).map g.event? := by
  induction count generalizing n with
  | zero => rfl
  | succ count ih => rw [ask, next_shown, ih, List.range'_succ, List.map_cons]

end StreamState

namespace Grid

private theorem map_event?_range (g : Grid) :
    (List.range (g.height + 1)).map g.event? = g.stream.map some := by
  have hrows : (List.range g.height).map g.event? =
      (List.range g.height).map (some ∘ g.rowEvent g.height) := by
    refine List.map_congr_left fun row hrow ↦ ?_
    rw [List.mem_range] at hrow
    rw [event?, if_pos hrow, Function.comp_apply, rowEvent, if_pos hrow]
  have hlast : g.event? g.height = some (.complete g.height) := by
    rw [event?, if_neg (Nat.lt_irrefl _), if_pos rfl]
  rw [List.range_succ, List.map_append, hrows, stream, List.map_append, List.map_map,
    List.map_singleton, List.map_singleton, hlast]

/-- A stream of a grid that stays as it is shows all events of the grid and then nothing more. -/
theorem ask_fresh (g : Grid) (more : Nat) :
    StreamState.fresh.ask g (g.height + 1 + more) =
      g.stream.map some ++ List.replicate more none := by
  have hafter : (List.range' (g.height + 1) more).map g.event? = List.replicate more none := by
    rw [List.eq_replicate_iff, List.length_map, List.length_range']
    refine ⟨rfl, fun e he ↦ ?_⟩
    obtain ⟨n, hn, rfl⟩ := List.mem_map.1 he
    have hle := (List.mem_range'_1.1 hn).1
    rw [event?, if_neg (by omega), if_neg (by omega)]
  have hstart : StreamState.fresh = .shown g.height 0 := rfl
  rw [hstart, StreamState.ask_shown, ← List.range'_append_1, List.map_append, Nat.zero_add, hafter,
    ← List.range_eq_range', map_event?_range]

/-- The rows of a stream are the lines of the text of its grid. -/
theorem filterMap_text?_stream (g : Grid) : g.stream.filterMap StreamEvent.text? = g.lines := by
  have hrow : ∀ row ∈ List.range g.height,
      (StreamEvent.text? ∘ g.rowEvent g.height) row = some (g.rowText row) := by
    intro row hrow
    rw [Function.comp_apply, rowEvent, if_pos (List.mem_range.1 hrow), StreamEvent.text?]
  rw [stream, List.filterMap_append, List.filterMap_map, List.filterMap_congr hrow,
    List.filterMap_eq_map']
  exact List.append_nil _

end Grid

/-- What showing an event writes to a console. -/
def StreamEvent.line (e : StreamEvent) : Text :=
  (e.text?.map fun text : Text ↦ text ++ "\n").getD ""

namespace Grid

private theorem join_lines (events : List StreamEvent) :
    Text.join (events.map StreamEvent.line) =
      Text.join ((events.filterMap StreamEvent.text?).map fun text ↦ text ++ "\n") := by
  induction events with
  | nil => rfl
  | cons e rest ih =>
    cases e with
    | row index text total =>
      rw [List.map_cons, Text.join_cons, ih, ← Text.join_cons]
      rfl
    | complete total =>
      rw [List.map_cons, Text.join_cons, ih]
      exact Text.empty_append

private theorem join_ended {lines : List Text} (hne : lines ≠ []) :
    Text.join (lines.map fun line ↦ line ++ "\n") = Text.intercalate "\n" lines ++ "\n" := by
  induction lines with
  | nil => exact absurd rfl hne
  | cons l rest ih =>
    cases rest with
    | nil => simp [Text.join_cons, Text.join_nil, Text.intercalate_singleton]
    | cons m rest =>
      rw [List.map_cons, Text.join_cons, ih (List.cons_ne_nil _ _), Text.intercalate_cons_cons]
      simp only [Text.append_assoc]

/-- The lines of all events are the text of the grid and the end of its last line. -/
theorem join_stream (g : Grid) :
    Text.join (g.stream.map StreamEvent.line) = g.toText ++ "\n" := by
  rw [join_lines, g.filterMap_text?_stream, join_ended g.lines_ne_nil, toText]

theorem isEncodable_of_mem_stream {g : Grid} (h : g.toText.isEncodable = true) {e : StreamEvent}
    (he : e ∈ g.stream) {text : Text} (htext : e.text? = some text) : text.isEncodable = true := by
  have hline : text ∈ g.lines := by
    rw [← g.filterMap_text?_stream]
    exact List.mem_filterMap.2 ⟨e, he, htext⟩
  refine List.all_eq_true.2 fun c hc ↦ List.all_eq_true.1 h c ?_
  rw [toText, Text.toList_intercalate]
  exact Text.mem_intercalate_of_mem (List.mem_map_of_mem hline) hc

end Grid

/-! ## Pauses -/

namespace PacedStep

theorem collect_map_ok (count : Nat) (steps : List PacedStep) :
    collect count (steps.map .ok) = .ok ((steps.filterMap event?).take count) := by
  induction steps generalizing count with
  | nil => cases count <;> rfl
  | cons step rest ih =>
    cases count with
    | zero => rfl
    | succ count =>
      rw [List.map_cons, collect, ok_bind]
      cases step with
      | pause x => exact ih (count + 1)
      | report e =>
        dsimp only
        rw [ih count]
        rfl

theorem wait_of_toFloat? {n : Number} {x : Float} (hx : n.toFloat? = some x)
    (hinf : x.isInf = false) : wait n = .ok (pause x) := by
  rw [wait, hx]
  dsimp only
  rw [hinf, if_neg Bool.false_ne_true]

private theorem pause_of_wait {n : Number} {step : PacedStep} (h : wait n = .ok step) :
    ∃ x, step = pause x := by
  unfold wait at h
  split at h
  · next x _ =>
    split at h
    · cases h
    · exact ⟨x, (Except.ok.inj h).symm⟩
  · cases h

end PacedStep

namespace Grid

variable {n : Number}

private theorem pacedSteps_of_one_lt (h : 1 < g.height) (n : Number) : ∃ rest,
    g.pacedSteps n =
      .ok (.report (g.rowEvent g.height 0)) :: PacedStep.wait n :: rest := by
  obtain ⟨more, hmore⟩ : ∃ more, g.height = more + 2 := ⟨g.height - 2, by omega⟩
  have hrows : List.range g.height = 0 :: 1 :: (List.range more).map (· + 2) := by
    rw [hmore, List.range_succ_eq_map, List.range_succ_eq_map, List.map_cons, List.map_map]
    rfl
  rw [pacedSteps, hrows]
  exact ⟨_, rfl⟩

private theorem pacedSteps_of_height_eq_one (h : g.height = 1) (n : Number) :
    g.pacedSteps n = (g.stream.map PacedStep.report).map .ok := by
  rw [pacedSteps, stream, h]
  rfl

private theorem collect_pacedSteps_of_height_eq_one (h : g.height = 1) (n : Number) (count : Nat) :
    PacedStep.collect count (g.pacedSteps n) = .ok (g.stream.take count) := by
  have hevents : (PacedStep.event? ∘ PacedStep.report) = some := rfl
  rw [pacedSteps_of_height_eq_one h, PacedStep.collect_map_ok, List.filterMap_map, hevents,
    List.filterMap_some]

private theorem collect_pacedSteps_of_wait {x : Float} (hwait : PacedStep.wait n = .ok (.pause x))
    (count : Nat) : PacedStep.collect count (g.pacedSteps n) = .ok (g.stream.take count) := by
  -- the same steps with nothing that fails among them
  let rowSteps (row : Nat) : List PacedStep :=
    (if 0 < row then [.pause x] else []) ++ [.report (g.rowEvent g.height row)]
  have hsteps : g.pacedSteps n = ((List.range g.height).flatMap rowSteps ++
      [PacedStep.report (.complete g.height)]).map .ok := by
    rw [pacedSteps, hwait, List.map_append, List.map_flatMap]
    refine congrArg (· ++ _) (List.flatMap_congr fun row _ ↦ ?_)
    dsimp only [rowSteps]
    split <;> rfl
  have hevents : ((List.range g.height).flatMap rowSteps ++
      [PacedStep.report (.complete g.height)]).filterMap PacedStep.event? = g.stream := by
    have hrow : ∀ row, (rowSteps row).filterMap PacedStep.event? = [g.rowEvent g.height row] := by
      intro row
      dsimp only [rowSteps]
      split <;> rfl
    rw [List.filterMap_append, List.filterMap_flatMap]
    simp only [hrow]
    rw [← List.map_eq_flatMap]
    rfl
  rw [hsteps, PacedStep.collect_map_ok, hevents]

private theorem collect_pacedSteps_of_wait_error {f : Failure} (hwait : PacedStep.wait n = .error f)
    (count : Nat) : PacedStep.collect count (g.pacedSteps n) =
      if g.height = 1 ∨ count ≤ 1 then .ok (g.stream.take count) else .error f := by
  by_cases hheight : g.height = 1
  · rw [if_pos (.inl hheight), collect_pacedSteps_of_height_eq_one hheight]
  have hpos := g.height_pos
  obtain ⟨rest, hsteps⟩ := pacedSteps_of_one_lt (g := g) (by omega) n
  obtain ⟨more, hmore⟩ : ∃ more, g.height = more + 1 := ⟨g.height - 1, by omega⟩
  have hrows : List.range g.height = 0 :: (List.range more).map (· + 1) := by
    rw [hmore, List.range_succ_eq_map]
  have hfirst : g.stream.take 1 = [g.rowEvent g.height 0] := by
    rw [stream, hrows]
    rfl
  rw [hsteps, hwait]
  match count with
  | 0 =>
    rw [if_pos (.inr (Nat.zero_le 1))]
    rfl
  | 1 =>
    rw [if_pos (.inr (Nat.le_refl 1)), hfirst]
    rfl
  | count + 2 =>
    rw [if_neg (by omega)]
    rfl

/-- **Pauses.** A stream with pauses shows the events of the one without; a pause that cannot be
made ends it after the first row, if more is asked for and there is another row. -/
theorem delayedStream_eq (g : Grid) (hnumber : delay.number? = some n) (count : Nat) :
    g.delayedStream delay count =
      if n.lt (.whole 0) then .error (.negativeDelay delay)
      else match PacedStep.wait n with
        | .ok _ => .ok (g.stream.take count)
        | .error f =>
          if g.height = 1 ∨ count ≤ 1 then .ok (g.stream.take count) else .error f := by
  rw [delayedStream, hnumber]
  dsimp only
  refine if_congr Iff.rfl rfl ?_
  cases hwait : PacedStep.wait n with
  | error f => exact collect_pacedSteps_of_wait_error hwait count
  | ok step =>
    obtain ⟨x, rfl⟩ := PacedStep.pause_of_wait hwait
    exact collect_pacedSteps_of_wait hwait count

end Grid

end TextArt
