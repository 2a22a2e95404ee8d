import TextArt.Proofs.Fields
import TextArt.Proofs.Number
import TextArt.Proofs.Script.Sizes
import TextArt.Proofs.Stream

/-!
# Streams under way

A stream stays under way while other commands work on its piece, and several streams may share a
piece. A command opens one stream or asks one stream or leaves all streams as they are
(`lookup_streams_step`). So the state of a stream is known from the number of times that it has been
asked (`Streaming`): the step lemmas are `Streaming.ask` and `Streaming.other`, the run is
`Streaming.after`. Sizes stay, so the total that was settled with the first event is right to the
end, and the rows are those of the piece at the moment.
-/

namespace TextArt.Script

open Workspace

variable {context : Context} {w : Workspace} {c : Command} {x : Text} {i h n : Nat} {p : Piece}

/-- The name under which a command opens a stream. -/
def Command.opens? (c : Command) : Option Text :=
  if c.action = "stream_open" then some (c.name.getD "") else none

/-- The name of the stream that a command asks for its next event. -/
def Command.asks? (c : Command) : Option Text :=
  if c.action = "stream_next" then (c.arguments.lookup ("stream" : Text)).bind Value.text? else none

/-- A stream of the `i`-th piece, whose height is `h`, has been asked `n` times. -/
structure Streaming (w : Workspace) (x : Text) (i h n : Nat) : Prop where
  /-- The stream has shown as many events, if there were any left. -/
  stream : w.streams.lookup x = some (i, .shown h n)
  /-- The piece is there. -/
  piece : ∃ p, w.pieces[i]? = some p ∧ p.grid.height = h

/-! ## One command -/

@[simp] theorem Workspace.streams_bind (w : Workspace) (name : Option Text) (i : Nat) :
    (w.bind name i).streams = w.streams := by
  cases name <;> rfl

@[simp] theorem Workspace.streams_add (w : Workspace) (name : Option Text) (p : Piece) :
    (w.add name p).streams = w.streams := by
  rw [add, streams_bind]

private theorem lookup_streams_nextEvent (haction : c.action = "stream_next")
    (hasks : c.asks? ≠ some x) :
    (nextEvent w c.arguments).2.streams.lookup x = w.streams.lookup x := by
  unfold nextEvent
  split
  · next name hname =>
    have hother : name ≠ x := by
      rintro rfl
      exact hasks (by rw [Command.asks?, if_pos haction, hname]; rfl)
    split
    · exact lookup_cons_of_ne _ _ hother
    · rfl
  · rfl

private theorem lookup_streams_act (hopens : c.opens? ≠ some x) :
    (act context w i p c).2.streams.lookup x = w.streams.lookup x := by
  unfold act
  split
  · rfl
  · rfl
  · rw [streams_add]
  · rw [streams_bind]
    rfl
  · next hperform =>
    cases keeps_of_perform hperform with
    | start haction =>
      refine lookup_cons_of_ne _ _ fun hname ↦ hopens ?_
      rw [Command.opens?, if_pos haction, hname]

/-- A stream is not touched by a command that neither asks it nor opens another one in its
place. -/
theorem lookup_streams_step (context : Context) (w : Workspace) (hopens : c.opens? ≠ some x)
    (hasks : c.asks? ≠ some x) :
    (step context w c).2.streams.lookup x = w.streams.lookup x := by
  unfold step
  split
  · rfl
  · rw [streams_add]
  · split
    · next haction => exact lookup_streams_nextEvent haction hasks
    · split
      · rfl
      · exact lookup_streams_act hopens

private theorem streaming_of_opens (context : Context) (hopens : c.opens? = some x)
    (htarget : c.target.bind w.find? = some (i, p)) :
    Streaming (step context w c).2 x i p.grid.height 0 := by
  have haction : c.action = "stream_open" := by
    by_contra hother
    rw [Command.opens?, if_neg hother] at hopens
    cases hopens
  have hname : c.name.getD "" = x := by
    rw [Command.opens?, if_pos haction] at hopens
    exact Option.some.inj hopens
  have hstep : step context w c =
      (.ok (.value .null), { w with streams := (c.name.getD "", i, .fresh) :: w.streams }) := by
    have hperform : perform context w p "stream_open" c.arguments = .ok .start := rfl
    rw [step_of_target (by rw [haction]; rfl) (by rw [haction]; decide) htarget, act, haction,
      hperform]
  rw [hstep]
  exact ⟨by rw [hname, List.lookup_cons_self]; rfl, p, getElem?_of_target htarget, rfl⟩

/-- **The stream is asked.** It answers with the event whose number is the count of those before, of
the piece as it looks now. -/
theorem Streaming.ask (hw : Streaming w x i h n) (hasks : c.asks? = some x)
    (hp : w.pieces[i]? = some p) :
    (step context w c).1 = .ok (.event (p.grid.event? n)) ∧
      Streaming (step context w c).2 x i h (n + 1) := by
  obtain ⟨hstream, q, hq, rfl⟩ := hw
  obtain rfl := Option.some.inj (hp.symm.trans hq)
  have haction : c.action = "stream_next" := by
    by_contra hother
    rw [Command.asks?, if_neg hother] at hasks
    cases hasks
  have hname : c.arguments.lookup ("stream" : Text) = some (.str x) := by
    rw [Command.asks?, if_pos haction] at hasks
    obtain ⟨v, hv, htext⟩ := Option.bind_eq_some_iff.1 hasks
    cases v <;> simp only [Value.text?, reduceCtorEq, Option.some.injEq] at htext
    rw [hv, htext]
  have hstep : step context w c = (.ok (.event (p.grid.event? n)),
      { w with streams := (x, i, .shown p.grid.height (n + 1)) :: w.streams }) := by
    have hconstruct : construct? "stream_next" c.arguments = none := rfl
    rw [step, haction, hconstruct]
    dsimp only
    rw [if_pos rfl, nextEvent, hname]
    dsimp only
    rw [hstream]
    dsimp only
    rw [hp, Option.map_some, Option.getD_some, StreamState.next_shown]
  rw [hstep]
  exact ⟨rfl, List.lookup_cons_self, p, hp, rfl⟩

/-- **Something else is done.** The stream goes on where it was. -/
theorem Streaming.other (hw : Streaming w x i h n) (context : Context) (hopens : c.opens? ≠ some x)
    (hasks : c.asks? ≠ some x) : Streaming (step context w c).2 x i h n := by
  obtain ⟨p, hp, hheight⟩ := hw.piece
  obtain ⟨q, hq, hsize⟩ := size_step context w c hp
  exact ⟨(lookup_streams_step context w hopens hasks).trans hw.stream, q, hq,
    hsize.height.trans hheight⟩

/-! ## Many commands -/

/-- **A run.** Whatever is done in between, the stream has been asked just as often as its name was
in a question. -/
theorem Streaming.after (hw : Streaming w x i h n) (context : Context) {commands : List Command}
    (hopens : ∀ c ∈ commands, c.opens? ≠ some x) :
    Streaming (after context w commands) x i h
      (n + commands.countP fun c ↦ c.asks? = some x) := by
  induction commands generalizing w n context with
  | nil => exact hw
  | cons c rest ih =>
    have hrest : ∀ d ∈ rest, d.opens? ≠ some x := fun d hd ↦ hopens d (List.mem_cons_of_mem _ hd)
    rw [after_cons]
    by_cases hasks : c.asks? = some x
    · obtain ⟨p, hp, -⟩ := hw.piece
      rw [List.countP_cons, if_pos (decide_eq_true hasks), Nat.add_comm _ 1, ← Nat.add_assoc]
      exact ih (hw.ask hasks hp).2 context.later hrest
    · rw [List.countP_cons, decide_eq_false hasks, if_neg Bool.false_ne_true, Nat.add_zero]
      exact ih (hw.other context (hopens c List.mem_cons_self) hasks) context.later hrest

/-- **Streams show the rows of the moment.** A stream may be opened on any piece, and then anything
may be done, also with other streams and whether it succeeds or not: the piece keeps its size, and
when the stream is asked, the answer is the event with the number of the questions before, with the
row that the piece has now. A grid that stays as it is shows the lines of its text, then the
completion, then nothing more; and a pause between the rows makes no difference if its length is a
double and not infinite, and neither does any pause before it is reached. -/
theorem streams_show_rows :
    (∀ (context : Context) (w : Workspace) (opening : Command) (x : Text) (i : Nat) (p : Piece)
        (commands : List Command), opening.opens? = some x →
      opening.target.bind w.find? = some (i, p) → (∀ c ∈ commands, c.opens? ≠ some x) →
      ∃ q, (after context w (opening :: commands)).pieces[i]? = some q ∧
        p.grid.SameSize q.grid ∧
        ∀ ask : Command, ask.asks? = some x →
          (step context (after context w (opening :: commands)) ask).1 =
            .ok (.event (q.grid.event? (commands.countP fun c ↦ c.asks? = some x)))) ∧
    (∀ (g : Grid) (more : Nat), StreamState.fresh.ask g (g.height + 1 + more) =
        g.stream.map some ++ List.replicate more none ∧
      Text.intercalate "\n" (g.stream.filterMap StreamEvent.text?) = g.toText) ∧
    ∀ (g : Grid) (delay : Value) (number : Number) (count : Nat),
      delay.number? = some number → (Number.whole 0).le number = true →
      (∃ seconds, number.toFloat? = some seconds ∧ seconds.isInf = false) ∨
        g.height = 1 ∨ count ≤ 1 →
      g.delayedStream delay count = .ok (g.stream.take count) := by
  refine ⟨fun context w opening x i p commands hopening htarget hopens ↦ ?_, fun g more ↦ ?_,
    fun g delay number count hnumber hle hpause ↦ ?_⟩
  · have hstreaming := (streaming_of_opens context hopening htarget).after context.later hopens
    rw [Nat.zero_add] at hstreaming
    obtain ⟨q, hq, hsize⟩ := size_after context w (opening :: commands) (getElem?_of_target htarget)
    exact ⟨q, hq, hsize, fun ask hask ↦ (hstreaming.ask hask hq).1⟩
  · refine ⟨g.ask_fresh more, ?_⟩
    rw [g.filterMap_text?_stream]
    rfl
  · rw [g.delayedStream_eq hnumber, Number.lt_eq_false_of_le hle, if_neg Bool.false_ne_true]
    cases hwait : PacedStep.wait number with
    | ok step => rfl
    | error f =>
      refine if_pos (hpause.resolve_left ?_)
      rintro ⟨seconds, hseconds, hinf⟩
      rw [PacedStep.wait_of_toFloat? hseconds hinf] at hwait
      cases hwait

/-- Not every pause that is not negative makes no difference: a whole number of seconds that is too
large for a double stops the stream after the first row. -/
theorem not_forall_delayedStream_eq : ¬∀ (g : Grid) (delay : Value) (number : Number) (count : Nat),
    delay.number? = some number → (Number.whole 0).le number = true →
    g.delayedStream delay count = .ok (g.stream.take count) := by
  intro hall
  let g := Grid.blank 1 2 Nat.one_pos Nat.two_pos
  let n : Int := (10 ^ 100) ^ 4
  have hle : (Number.whole 0).le (.whole n) = true := by decide +kernel
  have hlt : (Number.whole n).lt (.whole 0) = false := Number.lt_eq_false_of_le hle
  have hnone : (Number.whole n).toFloat? = none := by
    rw [← Option.not_isSome_iff_eq_none]
    decide +kernel
  have hwait : PacedStep.wait (.whole n) = .error .overflow := by rw [PacedStep.wait, hnone]
  have hstops : g.delayedStream (.int n) 3 = .error .overflow := by
    rw [g.delayedStream_eq rfl, hlt, if_neg Bool.false_ne_true, hwait]
    rfl
  have hshows := hall g (.int n) (.whole n) 3 rfl hle
  rw [hstops] at hshows
  cases hshows

/-- The command that asks a stream. -/
def Command.asking (x : Text) : Command :=
  ⟨"stream_next", none, none, false, [("stream", .str x)]⟩

/-- The command that opens a stream of the grid `g`. -/
def Command.opening (x : Text) : Command := ⟨"stream_open", some "g", some x, false, []⟩

/-- A workspace with a blank grid `g` of two rows. -/
def twoRows : Workspace :=
  after .standard .empty
    [⟨"new", none, some "g", false, [("width", .int 2), ("height", .int 2)]⟩]

/-- Between two questions to a stream another one is opened and asked, a character is set, and a
character that is too long is turned down. -/
def twoStreams : List Command :=
  [.asking "s", .opening "t",
    ⟨"set", some "g", none, false, [("row", .int 1), ("col", .int 0), ("char", .str "#")]⟩,
    ⟨"set", some "g", none, false, [("row", .int 1), ("col", .int 1), ("char", .str "##")]⟩,
    .asking "t"]

theorem twoStreams_show_rows :
    (step .standard (after .standard twoRows (.opening "s" :: twoStreams)) (.asking "s")).1 =
        .ok (.event (some (.row 1 "# " 2))) ∧
      ∀ g : Grid, g.delayedStream (.int 2) 3 = .ok (g.stream.take 3) := by
  constructor
  · obtain ⟨q, hq, -, hask⟩ := streams_show_rows.1 .standard twoRows (.opening "s") "s" 0
      (.plain (.blank 2 2 Nat.two_pos Nat.two_pos)) twoStreams rfl rfl (by decide)
    have hevent : (after .standard twoRows (.opening "s" :: twoStreams)).pieces[0]?.map (fun q ↦
        q.grid.event? (twoStreams.countP fun c ↦ c.asks? = some ("s" : Text))) =
        some (some (.row 1 "# " 2)) := by decide +kernel
    rw [hq, Option.map_some] at hevent
    rw [hask (.asking "s") rfl, Option.some.inj hevent]
  · exact fun g ↦ streams_show_rows.2.2 g (.int 2) (.whole 2) 3 rfl (by decide +kernel)
      (.inl ⟨2, by decide +kernel, by decide +kernel⟩)

end TextArt.Script
