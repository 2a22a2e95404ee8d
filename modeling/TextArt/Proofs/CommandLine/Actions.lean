import TextArt.CommandLine.Run
import TextArt.Proofs.Binary64.Sum
import TextArt.Proofs.Console.Table
import TextArt.Proofs.FileStore
import TextArt.Proofs.Number
import TextArt.Proofs.Settings
import TextArt.Proofs.Stream

/-!
# Parts of a run that are contained

A part of a run changes what has been written and may fail. It is contained if it is, as an outcome,
whatever has been written before. Showing is contained but for text that cannot be encoded; saving
is contained but for the causes of the file store and for a path that makes no notice, and is so on
the store that it starts from, which showing leaves as it is.
-/

namespace TextArt

namespace CommandLine

variable {α β : Type} {escapes : Failure → Prop} {x : Action α} {f : α → Action β}

/-! ## Sequences -/

theorem run_bind_of_ok {s s' : Session} {a : α} (h : x.run.run s = (.ok a, s')) :
    (x >>= f).run.run s = (f a).run.run s' := by
  rw [ExceptT.run_bind, StateT.run_bind, h]
  rfl

theorem run_bind_of_error {s s' : Session} {e : Failure} (h : x.run.run s = (.error e, s')) :
    (x >>= f).run.run s = (.error e, s') := by
  rw [ExceptT.run_bind, StateT.run_bind, h]
  rfl

theorem run_bind_eq_ok {s s'' : Session} {b : β} :
    (x >>= f).run.run s = (.ok b, s'') ↔
      ∃ a s', x.run.run s = (.ok a, s') ∧ (f a).run.run s' = (.ok b, s'') := by
  rcases h : x.run.run s with ⟨outcome, s'⟩
  cases outcome with
  | ok a =>
    rw [run_bind_of_ok h]
    constructor
    · exact fun hrest ↦ ⟨a, s', rfl, hrest⟩
    · rintro ⟨_, _, heq, hrest⟩
      obtain ⟨ha, rfl⟩ := Prod.mk.inj heq
      obtain rfl := Except.ok.inj ha
      exact hrest
  | error e =>
    rw [run_bind_of_error h]
    constructor
    · rintro ⟨⟩
    · rintro ⟨_, _, heq, -⟩
      cases heq

/-- A run of an outcome writes nothing. -/
theorem run_lift (o : Outcome α) (s : Session) : (liftM o : Action α).run.run s = (o, s) := by
  cases o <;> rfl

theorem run_get (s : Session) : (get : Action Session).run.run s = (.ok s, s) := rfl

/-- A loop whose rounds all go through. -/
theorem run_forIn {items : List α} {body : α → PUnit → Action (ForInStep PUnit)}
    (step : Session → α → Session)
    (h : ∀ a ∈ items, ∀ s, (body a ⟨⟩).run.run s = (.ok (.yield ⟨⟩), step s a)) (s : Session) :
    (forIn items ⟨⟩ body).run.run s = (.ok ⟨⟩, items.foldl step s) := by
  induction items generalizing s with
  | nil => rfl
  | cons a rest ih =>
    rw [List.forIn_cons, run_bind_of_ok (h a List.mem_cons_self s), List.foldl_cons]
    exact ih (fun b hb ↦ h b (List.mem_cons_of_mem _ hb)) _

/-! ## Containment -/

/-- A part of a run is contained whatever has been written before. -/
def ContainedAction (escapes : Failure → Prop) (x : Action α) : Prop :=
  ∀ s, Contained escapes (x.run.run s).1

theorem ContainedAction.bind (hx : ContainedAction escapes x)
    (hf : ∀ a, ContainedAction escapes (f a)) : ContainedAction escapes (x >>= f) := by
  intro s
  have hfirst := hx s
  rcases h : x.run.run s with ⟨outcome, s'⟩
  rw [h] at hfirst
  cases outcome with
  | ok a =>
    rw [run_bind_of_ok h]
    exact hf a s'
  | error e =>
    rw [run_bind_of_error h]
    exact contained_error (hfirst e rfl)

theorem containedAction_pure (a : α) : ContainedAction escapes (pure a : Action α) :=
  fun _ ↦ contained_ok a

theorem containedAction_throw {e : Failure} (h : escapes e) :
    ContainedAction escapes (throw e : Action α) := fun _ ↦ contained_escape h

theorem containedAction_lift {o : Outcome α} (ho : Contained escapes o)
    (hf : ∀ a, o = .ok a → ContainedAction escapes (f a)) :
    ContainedAction escapes ((liftM o : Action α) >>= f) := by
  cases o with
  | ok a => exact hf a rfl
  | error e => exact fun _ ↦ contained_error (ho e rfl)

theorem containedAction_forIn {items : List α} {body : α → β → Action (ForInStep β)}
    (h : ∀ a ∈ items, ∀ b, ContainedAction escapes (body a b)) (b : β) :
    ContainedAction escapes (forIn items b body) := by
  induction items generalizing b with
  | nil => exact containedAction_pure b
  | cons a rest ih =>
    rw [List.forIn_cons]
    refine (h a List.mem_cons_self b).bind fun step ↦ ?_
    cases step with
    | done b => exact containedAction_pure b
    | yield b => exact ih (fun a ha ↦ h a (List.mem_cons_of_mem _ ha)) b

/-! ## Files -/

/-- A part of a run is contained whatever has been shown before, if the files are those of a
store. -/
def ContainedOn (store : FileStore) (escapes : Failure → Prop) (x : Action α) : Prop :=
  ∀ s, s.store = store → Contained escapes (x.run.run s).1

/-- A part of a run leaves the files as they are. -/
def KeepsFiles (x : Action α) : Prop := ∀ s, (x.run.run s).2.store = s.store

theorem ContainedAction.on (hx : ContainedAction escapes x) (store : FileStore) :
    ContainedOn store escapes x := fun s _ ↦ hx s

theorem ContainedOn.bind {store : FileStore} (hx : ContainedOn store escapes x)
    (hf : ∀ a, ContainedAction escapes (f a)) : ContainedOn store escapes (x >>= f) := by
  intro s hs
  have hfirst := hx s hs
  rcases h : x.run.run s with ⟨outcome, s'⟩
  rw [h] at hfirst
  cases outcome with
  | ok a =>
    rw [run_bind_of_ok h]
    exact hf a s'
  | error e =>
    rw [run_bind_of_error h]
    exact contained_error (hfirst e rfl)

/-- What comes after a part that leaves the files as they are starts from the same store. -/
theorem ContainedAction.bind_on {store : FileStore} (hx : ContainedAction escapes x)
    (hkeeps : KeepsFiles x) (hf : ∀ a, ContainedOn store escapes (f a)) :
    ContainedOn store escapes (x >>= f) := by
  intro s hs
  have hfirst := hx s
  have hstore := hkeeps s
  rcases h : x.run.run s with ⟨outcome, s'⟩
  rw [h] at hfirst hstore
  cases outcome with
  | ok a =>
    rw [run_bind_of_ok h]
    exact hf a s' (hstore.trans hs)
  | error e =>
    rw [run_bind_of_error h]
    exact contained_error (hfirst e rfl)

theorem containedOn_lift {store : FileStore} {o : Outcome α} (ho : Contained escapes o)
    (hf : ∀ a, o = .ok a → ContainedOn store escapes (f a)) :
    ContainedOn store escapes ((liftM o : Action α) >>= f) := by
  cases o with
  | ok a => exact hf a rfl
  | error e => exact fun _ _ ↦ contained_error (ho e rfl)

theorem KeepsFiles.bind (hx : KeepsFiles x) (hf : ∀ a, KeepsFiles (f a)) :
    KeepsFiles (x >>= f) := by
  intro s
  have hfirst := hx s
  rcases h : x.run.run s with ⟨outcome, s'⟩
  rw [h] at hfirst
  cases outcome with
  | ok a =>
    rw [run_bind_of_ok h]
    exact (hf a s').trans hfirst
  | error e =>
    rw [run_bind_of_error h]
    exact hfirst

theorem keepsFiles_pure (a : α) : KeepsFiles (pure a : Action α) := fun _ ↦ rfl

private theorem keepsFiles_lift (o : Outcome α) : KeepsFiles (liftM o : Action α) := by
  intro s
  rw [run_lift]

private theorem keepsFiles_forIn {items : List α} {body : α → β → Action (ForInStep β)}
    (h : ∀ a b, KeepsFiles (body a b)) (b : β) : KeepsFiles (forIn items b body) := by
  induction items generalizing b with
  | nil => exact keepsFiles_pure b
  | cons a rest ih =>
    rw [List.forIn_cons]
    refine (h a b).bind fun step ↦ ?_
    cases step with
    | done b => exact keepsFiles_pure b
    | yield b => exact ih b

/-! ## Showing -/

theorem showText_run {text : Text} (h : text.isEncodable = true) (s : Session) :
    (showText text).run.run s = (.ok (), { s with output := s.output ++ text ++ "\n" }) := by
  rw [showText, if_pos h]
  rfl

theorem showText_contained {text : Text} (h : text.isEncodable = false → escapes .unencodable) :
    ContainedAction escapes (showText text) := by
  unfold showText
  split
  · exact fun _ ↦ contained_ok ()
  · next hnot => exact containedAction_throw (h (Bool.eq_false_iff.2 hnot))

theorem keepsFiles_showText (text : Text) : KeepsFiles (showText text) := by
  unfold showText
  split <;> exact fun _ ↦ rfl

private theorem note_contained (line : Text) : ContainedAction escapes (note line) :=
  fun _ ↦ contained_ok ()

section Table

variable {env : Environment} (hmarkup : ∀ t, Console.Literal t → env.markup t = some t)
include hmarkup

private theorem shownText_of_literal {t : Text} (h : Console.Literal t) :
    env.shownText t = .ok t := by
  rw [Environment.shownText, hmarkup t h]

/-- A table of literal texts is shown. -/
theorem showTable_contained {t : Console.Table} (h : t.Literal) :
    ContainedAction escapes (showTable env t) := by
  have hrows : t.rows.mapM (·.mapM env.shownText) = .ok t.rows :=
    mapM_eq_ok_self fun row hrow ↦ mapM_eq_ok_self fun cell hcell ↦
      shownText_of_literal hmarkup (h.cells row hrow cell hcell)
  refine containedAction_lift (contained_of_ok hrows) fun rows hshown ↦ ?_
  obtain rfl : t.rows = rows := Except.ok.inj (hrows.symm.trans hshown)
  refine (containedAction_forIn (fun line hline _ ↦ ?_) _).bind fun _ ↦ containedAction_pure _
  have hline := h.isEncodable_lines line hline
  refine (showText_contained fun hnot ↦ ?_).bind fun _ ↦ containedAction_pure _
  rw [hline] at hnot
  cases hnot

end Table

/-! ## Showing row by row -/

/-- A pause of a few seconds is a number of seconds. -/
theorem seconds_eq_ok {milliseconds : Int} (hlow : 0 ≤ milliseconds)
    (hhigh : milliseconds ≤ 5000) : ∃ x, seconds milliseconds = .ok x := by
  have hlog : milliseconds.natAbs.log2 ≤ (1000 : Nat).log2 + 3 := by
    have hbound : milliseconds.natAbs < 2 ^ 13 := by omega
    have hlt := Binary64.log2_lt_of_lt (by decide) hbound
    have h1000 : (1000 : Nat).log2 = 9 := by decide
    omega
  have hfinite := Binary64.isFinite_floatOfRatio (by decide) hlog (by decide)
  rw [seconds, hfinite.isInf, if_neg Bool.false_ne_true]
  exact ⟨_, rfl⟩

private theorem isInf_of_seconds {milliseconds : Int} {x : Float}
    (h : seconds milliseconds = .ok x) :
    x.isInf = false := by
  rw [seconds] at h
  split at h
  · cases h
  · next hinf =>
    obtain rfl := Except.ok.inj h
    exact Bool.eq_false_iff.2 hinf

private theorem wait_of_seconds {milliseconds : Int} {x : Float}
    (h : seconds milliseconds = .ok x) :
    PacedStep.wait (.real x) = .ok (.pause x) :=
  PacedStep.wait_of_toFloat? rfl (isInf_of_seconds h)

private theorem seconds_nonneg {milliseconds : Int} {x : Float} (h : 0 ≤ milliseconds)
    (hx : seconds milliseconds = .ok x) : (Number.real x).lt (.whole 0) = false := by
  rw [seconds] at hx
  split at hx
  · cases hx
  obtain rfl := Except.ok.inj hx
  refine Number.lt_whole_zero_of_toBits_lt ?_
  have hle := Binary64.magnitudeBits_le milliseconds.natAbs 1000
  rw [floatOfRatio, Binary64.toBits_ofRatio, decide_eq_false (Int.not_lt.2 h),
    if_neg Bool.false_ne_true]
  exact Nat.lt_of_le_of_lt hle (by decide)

theorem delayedStream_of_seconds {milliseconds : Int} {x : Float} (h : 0 ≤ milliseconds)
    (hx : seconds milliseconds = .ok x) (g : Grid) :
    g.delayedStream (.float x) (g.height + 1) = .ok g.stream := by
  have hnumber : (Value.float x).number? = some (.real x) := rfl
  have hlength : g.stream.length ≤ g.height + 1 := by simp [Grid.stream]
  rw [g.delayedStream_eq hnumber, seconds_nonneg h hx, if_neg Bool.false_ne_true,
    wait_of_seconds hx, List.take_of_length_le hlength]

theorem animate_eq {settings : RenderSettings} {x : Float} (hdelay : 0 ≤ settings.streamDelayMs)
    (hx : seconds settings.streamDelayMs = .ok x) {g : Grid}
    (hcode : g.toText.isEncodable = true) : animate settings g = showText g.toText := by
  have hsteps : ∀ (events : List StreamEvent) (s : Session),
      events.foldl (fun s e ↦ { s with output := s.output ++ e.line }) s =
        { s with output := s.output ++ Text.join (events.map StreamEvent.line) } := by
    intro events
    induction events with
    | nil =>
      intro s
      rw [List.map_nil, Text.join_nil, Text.append_empty]
      rfl
    | cons e rest ih =>
      intro s
      rw [List.foldl_cons, ih, List.map_cons, Text.join_cons, ← Text.append_assoc]
  funext s
  change (animate settings g).run.run s = (showText g.toText).run.run s
  rw [animate, hx, run_bind_of_ok (run_lift _ s), delayedStream_of_seconds hdelay hx,
    run_bind_of_ok (run_lift _ s),
    run_bind_of_ok (run_forIn (fun s e ↦ { s with output := s.output ++ e.line }) ?_ s)]
  · rw [hsteps, g.join_stream, showText_run hcode, Text.append_assoc]
    rfl
  · intro e he s
    cases e with
    | row index text total =>
      rw [run_bind_of_ok (showText_run (Grid.isEncodable_of_mem_stream hcode he rfl) s),
        StreamEvent.line, StreamEvent.text?, Option.map_some, Option.getD_some,
        ← Text.append_assoc]
      rfl
    | complete total =>
      rw [StreamEvent.line, StreamEvent.text?, Option.map_none, Option.getD_none,
        Text.append_empty]
      rfl

private theorem animate_contained {settings : RenderSettings} (h : settings.InBounds) {g : Grid}
    (hcode : g.toText.isEncodable = false → escapes .unencodable) :
    ContainedAction escapes (animate settings g) := by
  obtain ⟨x, hx⟩ := seconds_eq_ok h.delay_nonneg h.delay_le
  cases hencodable : g.toText.isEncodable with
  | true =>
    rw [animate_eq h.delay_nonneg hx hencodable]
    exact showText_contained hcode
  | false =>
    rw [animate, hx]
    refine containedAction_lift (contained_ok x) fun delay hdelay ↦ ?_
    obtain rfl := Except.ok.inj hdelay
    rw [delayedStream_of_seconds h.delay_nonneg hx]
    refine containedAction_lift (contained_ok _) fun events _ ↦ ?_
    refine (containedAction_forIn (fun event _ _ ↦ ?_) _).bind fun _ ↦ containedAction_pure _
    cases event with
    | row _ text _ =>
      exact (showText_contained fun _ ↦ hcode hencodable).bind fun _ ↦ containedAction_pure _
    | complete _ => exact containedAction_pure _

private theorem keepsFiles_animate (settings : RenderSettings) (g : Grid) :
    KeepsFiles (animate settings g) := by
  refine (keepsFiles_lift _).bind fun delay ↦ (keepsFiles_lift _).bind fun events ↦ ?_
  refine (keepsFiles_forIn (fun event _ ↦ ?_) _).bind fun _ ↦ keepsFiles_pure _
  cases event with
  | row _ text _ => exact (keepsFiles_showText text).bind fun _ ↦ keepsFiles_pure _
  | complete _ => exact keepsFiles_pure _

/-! ## One way of showing after the other -/

variable {env : Environment} {sink : Sink} {d : Drawing} {text : Text}

/-- Shows a drawing, whose text is given, in one of the two ways. -/
def showDrawing (env : Environment) (sink : Sink) (d : Drawing) (text : Text) : Action Unit :=
  if sink.animate && sink.format == "text" then animate env.context.settings.render d.grid
  else showText text

/-- A drawing is rendered, shown in one of the two ways and saved on demand. -/
theorem emit_eq (env : Environment) (sink : Sink) (d : Drawing) :
    emit env sink d = (do
      let text ← d.render env.room sink.format env.stamp.time
      showDrawing env sink d text
      match sink.file with
      | none => pure ()
      | some file => saveText env file text sink.append) := by
  unfold emit
  refine congrArg (liftM (d.render env.room sink.format env.stamp.time) >>= ·)
    (funext fun text ↦ ?_)
  unfold showDrawing
  cases sink.file <;> cases sink.animate && sink.format == "text" <;> rfl

theorem keepsFiles_showDrawing : KeepsFiles (showDrawing env sink d text) := by
  unfold showDrawing
  split
  · exact keepsFiles_animate _ _
  · exact keepsFiles_showText _

section Showing

variable (htext : d.render env.room sink.format env.stamp.time = .ok text)
include htext

theorem toText_of_animate (h : (sink.animate && sink.format == "text") = true) :
    d.grid.toText = text := by
  have hformat : sink.format = "text" := by simpa using (Bool.and_eq_true_iff.1 h).2
  rw [hformat] at htext
  exact Except.ok.inj htext

theorem showDrawing_contained (h : env.context.settings.render.InBounds)
    (hcode : text.isEncodable = false → escapes .unencodable) :
    ContainedAction escapes (showDrawing env sink d text) := by
  unfold showDrawing
  split
  · next hanimate =>
    obtain rfl := toText_of_animate htext hanimate
    exact animate_contained h hcode
  · exact showText_contained hcode

/-- Whichever way a drawing is shown, it is its text that is shown. -/
theorem showDrawing_eq (hdelay : 0 ≤ env.context.settings.render.streamDelayMs) {x : Float}
    (hx : seconds env.context.settings.render.streamDelayMs = .ok x)
    (hcode : text.isEncodable = true) : showDrawing env sink d text = showText text := by
  unfold showDrawing
  split
  · next hanimate =>
    obtain rfl := toText_of_animate htext hanimate
    exact animate_eq hdelay hx hcode
  · rfl

end Showing

/-! ## Saving -/

/-- The path that a drawing is saved under. -/
def Environment.savedPath (env : Environment) (file : Path) : Path :=
  env.context.settings.files.resolve env.stamp.unique (.ofText file.text)

theorem saveText_contained {store : FileStore} {file : Path} {append : Bool}
    (hsave : ∀ f, store.SaveEscapes (env.savedPath file) text f → escapes f)
    (hmarkup : env.markup ("Saved " ++ (env.savedPath file).text) = none →
      escapes (.badMarkup ("Saved " ++ (env.savedPath file).text))) :
    ContainedOn store escapes (saveText env file text append) := by
  rintro s rfl
  rcases hsaved : s.store.save env.context.settings.files env.stamp.unique file.text text append
    with ⟨outcome, store⟩
  have houtcome : outcome = (s.store.save env.context.settings.files env.stamp.unique file.text
      text append).1 := by rw [hsaved]
  have hcontained : Contained escapes outcome := by
    rw [houtcome]
    exact (FileStore.save_contained rfl).mono hsave
  rw [saveText, run_bind_of_ok (run_get s), hsaved]
  have hset : (set { s with store } : Action PUnit).run.run s = (.ok (), { s with store }) := rfl
  rw [run_bind_of_ok hset]
  refine containedAction_lift hcontained (fun path hpath ↦ ?_) _
  obtain rfl : path = env.savedPath file := FileStore.save_eq_ok (houtcome ▸ hpath)
  have hshown : Contained escapes (env.shownText ("Saved " ++ (env.savedPath file).text)) := by
    unfold Environment.shownText
    split
    · exact contained_ok _
    · next hnone => exact contained_escape (hmarkup hnone)
  refine containedAction_lift hshown fun shown _ ↦ ?_
  refine (containedAction_forIn (fun line _ _ ↦ ?_) _).bind fun _ ↦ containedAction_pure _
  exact (note_contained line).bind fun _ ↦ containedAction_pure _

end CommandLine

end TextArt
