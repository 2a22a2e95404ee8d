import TextArt.Proofs.CommandLine.Actions
import TextArt.Proofs.CommandLine.Making
import TextArt.Proofs.FileStore.Growth
import TextArt.Proofs.Settings

/-!
# What gets out of the command line

Carrying out an invocation ends with a report, whose status is zero, one or two, or hands a failure
on. `Invocation.Escapes` lists the causes for which a failure is handed on; there are no others. The
one that matters is that a file is not in UTF-8: what reads files takes care of what the file system
says about reading, but not of what decoding says.
-/

namespace TextArt.CommandLine

variable {env : Environment} {store : FileStore} {escapes : Failure → Prop}

/-! ## Tables -/

private theorem literal_layerTable {layers : List (Layer Grid)} (h : Composition.Aligned layers) :
    (layerTable layers).Literal where
  title := (by decide : Console.Literal (layerTable []).title)
  headers := (by decide : ∀ column ∈ (layerTable []).columns, Console.Literal column.header)
  cells := by
    intro row hrow
    obtain ⟨⟨layer, i⟩, hlayer, rfl⟩ := List.mem_map.1 hrow
    obtain ⟨_, _, hrow, hcol⟩ := h layer (List.fst_mem_of_mem_zipIdx hlayer)
    have hplain : ∀ {n : Number} {m : Int}, n = .whole m → Console.Literal n.toValue.plain := by
      rintro _ m rfl
      exact Console.literal_toString_int m
    have hname : Console.Literal layer.anchor.name := by cases layer.anchor <;> decide
    have hsize : Console.Literal
        (toString layer.shape.width ++ "x" ++ toString layer.shape.height : Text) :=
      .append (.append (Console.literal_toString _) (by decide)) (Console.literal_toString _)
    have horigin : Console.Literal
        ("(" ++ layer.row.toValue.plain ++ ", " ++ layer.col.toValue.plain ++ ")") :=
      .append (.append (.append (.append (by decide) (hplain hrow)) (by decide)) (hplain hcol))
        (by decide)
    simp only [List.forall_mem_cons, List.not_mem_nil, false_imp_iff, implies_true, and_true]
    exact ⟨Console.literal_toString i, hsize, hname, horigin⟩

private theorem literal_fillTable : (fillTable .standard).Literal :=
  ⟨by decide, by decide, by decide⟩

private theorem usage_isEncodable : usage.isEncodable = true := by decide +kernel

/-! ## Runs -/

/-- An environment of the program, with the fills of the library, with settings that have been read,
and with a console that keeps to its markup. -/
structure Environment.Sound (env : Environment) : Prop where
  /-- The fills are those of the library. -/
  fills : env.context.fills = .standard
  /-- The settings come from variables and a settings file. -/
  settings : ∃ (room : Nat) (entries : List (Text × Text)) (file : Option Text),
    Settings.read room entries file = .ok env.context.settings
  /-- There is room for the rows of a record. -/
  room : 3 ≤ env.room
  /-- A literal text is shown as it is. -/
  literal : ∀ t, Console.Literal t → env.markup t = some t
  /-- A text that has been made markup is shown. -/
  escaped : ∀ t, (env.markup (Console.escape t)).isSome

theorem Environment.Sound.inBounds (h : env.Sound) : env.context.settings.render.InBounds := by
  obtain ⟨_, _, _, hread⟩ := h.settings
  exact Settings.inBounds_of_read hread

/-- The causes for which a failure gets out of a run. -/
inductive Invocation.Escapes (env : Environment) (store : FileStore) :
    Invocation → Failure → Prop where
  /-- A path holds a NUL. -/
  | nul {i : Invocation} {p : Path} (hp : p ∈ i.paths) (hnul : p.HasNul) :
    Escapes env store i .badValue
  /-- A path has a code point that stands for no bytes. -/
  | noBytes {i : Invocation} {p : Path} (hp : p ∈ i.paths) (hbytes : p.HasNoBytes) :
    Escapes env store i .unencodable
  /-- The drawing cannot be made. -/
  | making {w : Work} {sink : Sink} {verbose : Bool} {f : Failure}
    (h : w.Escapes env.context env.room store f) : Escapes env store (.work w sink verbose) f
  /-- The record of the drawing has a whole number with too many digits. -/
  | record {w : Work} {sink : Sink} {verbose : Bool} {d : Drawing}
    (hmake : w.make env.context env.room store = .ok d) (hformat : sink.format = "json")
    (hdigits : d.grid.toJson env.room d.about env.stamp.time = .error .badValue) :
    Escapes env store (.work w sink verbose) .badValue
  /-- The text of the drawing cannot be encoded. -/
  | text {w : Work} {sink : Sink} {verbose : Bool} {d : Drawing} {text : Text}
    (hmake : w.make env.context env.room store = .ok d)
    (hrender : d.render env.room sink.format env.stamp.time = .ok text)
    (hcode : text.isEncodable = false) : Escapes env store (.work w sink verbose) .unencodable
  /-- The path that the drawing is saved under cannot be looked up. -/
  | saved {w : Work} {sink : Sink} {verbose : Bool} {file : Path} {f : Failure}
    (hfile : sink.file = some file) (hpath : store.PathEscapes (env.savedPath file) f) :
    Escapes env store (.work w sink verbose) f
  /-- The console refuses the path that the drawing is saved under as markup. -/
  | savedMarkup {w : Work} {sink : Sink} {verbose : Bool} {file : Path}
    (hfile : sink.file = some file)
    (hmarkup : env.markup ("Saved " ++ (env.savedPath file).text) = none) :
    Escapes env store (.work w sink verbose) (.badMarkup ("Saved " ++ (env.savedPath file).text))
  /-- The origin of a layer that is to be listed has too many digits. -/
  | origin {document : Path} {sink : Sink} {verbose : Bool} {d : Drawing}
    (hmake : (Work.compose document true).make env.context env.room store = .ok d)
    (hdigits : d.layers.all isListed = false) :
    Escapes env store (.work (.compose document true) sink verbose) .badValue

/-! ### Paths -/

theorem checkPath_eq_error {p : Path} {f : Failure} (h : checkPath store p = .error f) :
    f = .unencodable ∧ p.HasNoBytes ∨ f = .badValue ∧ p.HasNul ∨ f = .notReadable p.text := by
  unfold checkPath at h
  split at h
  · next hlocate =>
    exact .inl ⟨(Except.error.inj h).symm, FileStore.locate_eq_error hlocate⟩
  · next hlocate =>
    exact .inr (.inl ⟨(Except.error.inj h).symm, FileStore.locate_eq_error hlocate⟩)
  · cases h
  · split at h
    · exact .inr (.inr (Except.error.inj h).symm)
    · cases h

/-! ### Works -/

section Work

variable {w : Work} {sink : Sink} {verbose : Bool} {d : Drawing}
  (hmake : w.make env.context env.room store = .ok d)
include hmake

private theorem render_contained (henv : env.Sound) :
    Contained ((Invocation.work w sink verbose).Escapes env store)
      (d.render env.room sink.format env.stamp.time) := by
  intro f hf
  have hrecord := toJson_contained hmake henv.room env.stamp.time
  unfold Drawing.render at hf
  split at hf
  · next hformat =>
    refine (hrecord f hf).imp_right ?_
    rintro rfl
    exact .record hmake (Text.toString?_eq_some.1 hformat) hf
  · cases hf
  · cases hf
  · obtain rfl := Except.error.inj hf
    exact .inl rfl

private theorem emit_contained (henv : env.Sound) :
    ContainedOn store ((Invocation.work w sink verbose).Escapes env store)
      (emit env sink d) := by
  rw [emit_eq]
  refine containedOn_lift (render_contained hmake henv) fun text htext ↦ ?_
  have hcode : text.isEncodable = false →
      (Invocation.work w sink verbose).Escapes env store .unencodable := .text hmake htext
  refine (showDrawing_contained htext henv.inBounds hcode).bind_on keepsFiles_showDrawing
    fun _ ↦ ?_
  split
  · exact (containedAction_pure ()).on store
  · next file hfile =>
    refine saveText_contained (fun f hf ↦ ?_) (.savedMarkup hfile)
    cases hf with
    | path hpath => exact .saved hfile hpath
    | text hnot => exact hcode hnot

end Work

private theorem aligned_of_make {document : Path} {layers : Bool} {d : Drawing}
    (h : (Work.compose document layers).make env.context env.room store = .ok d) :
    Composition.Aligned d.layers := by
  obtain ⟨text, -, h⟩ := bind_eq_ok.1 h
  obtain ⟨c, -, h⟩ := bind_eq_ok.1 h
  obtain ⟨canvas, hcanvas, h⟩ := bind_eq_ok.1 h
  obtain rfl := Except.ok.inj h
  exact Composition.aligned_of_draw hcanvas

private theorem showLayers_contained (henv : env.Sound) {layers : List (Layer Grid)}
    (haligned : Composition.Aligned layers)
    (hdigits : layers.all isListed = false → escapes .badValue) :
    ContainedAction escapes (showLayers env layers) := by
  unfold showLayers
  split
  · exact showTable_contained henv.literal (literal_layerTable haligned)
  · next hnot => exact containedAction_throw (hdigits (Bool.eq_false_iff.2 hnot))

private theorem Work.perform_contained (henv : env.Sound) (w : Work) (sink : Sink)
    (verbose : Bool) :
    ContainedOn store ((Invocation.work w sink verbose).Escapes env store)
      (w.perform env sink) := by
  rintro s rfl
  rw [Work.perform, run_bind_of_ok (run_get s)]
  have hmaking : Contained ((Invocation.work w sink verbose).Escapes env s.store)
      (w.make env.context env.room s.store) :=
    (Work.make_contained henv.fills henv.inBounds.ramp w).mono fun _ ↦ .making
  refine containedOn_lift hmaking (fun d hmake ↦ ?_) s rfl
  refine (emit_contained hmake henv).bind fun _ ↦ ?_
  split
  · exact showLayers_contained henv (aligned_of_make hmake) (.origin hmake)
  · exact containedAction_pure ()

namespace Invocation

theorem run_perform_of_paths {i : Invocation} {s : Session}
    (h : ∀ p ∈ i.paths, checkPath s.store p = .ok ()) :
    (i.perform env).run.run s = (i.act env).run.run s := by
  obtain ⟨results, hpaths⟩ := exists_mapM_eq_ok.2 fun p hp ↦ ⟨(), h p hp⟩
  rw [perform, run_bind_of_ok (run_get s), hpaths, run_bind_of_ok (run_lift _ s)]

theorem run_perform_of_path_error {i : Invocation} {s : Session}
    (h : ¬∀ p ∈ i.paths, checkPath s.store p = .ok ()) :
    ∃ p ∈ i.paths, ∃ f, checkPath s.store p = .error f ∧
      (i.perform env).run.run s = (.error f, s) := by
  cases hpaths : i.paths.mapM (checkPath s.store) with
  | ok results =>
    refine absurd (fun p hp ↦ ?_) h
    obtain ⟨_, hok⟩ := exists_mapM_eq_ok.1 ⟨results, hpaths⟩ p hp
    exact hok
  | error f =>
    obtain ⟨p, hp, hf⟩ := exists_of_mapM_eq_error hpaths
    refine ⟨p, hp, f, hf, ?_⟩
    rw [perform, run_bind_of_ok (run_get s), hpaths]
    exact run_bind_of_error (run_lift _ s)

private theorem perform_contained (henv : env.Sound) (store : FileStore) (i : Invocation) :
    Contained (fun f ↦ (∃ p, f = .notReadable p) ∨ i.Escapes env store f)
      ((i.perform env).run.run ⟨"", "", store⟩).1 := by
  by_cases hpaths : ∀ p ∈ i.paths, checkPath store p = .ok ()
  · rw [run_perform_of_paths hpaths]
    refine Contained.mono ?_ fun _ ↦ .inr
    cases i with
    | work w sink verbose => exact w.perform_contained henv sink verbose _ rfl
    | fills =>
      rw [act, henv.fills]
      exact showTable_contained henv.literal literal_fillTable _
    | help =>
      refine showText_contained (fun hnot ↦ ?_) _
      rw [usage_isEncodable] at hnot
      cases hnot
  · obtain ⟨p, hp, f, hf, hrun⟩ := @run_perform_of_path_error env i ⟨"", "", store⟩ hpaths
    rw [hrun]
    refine contained_escape ?_
    rcases checkPath_eq_error hf with ⟨rfl, hbytes⟩ | ⟨rfl, hnul⟩ | rfl
    · exact .inr (.noBytes hp hbytes)
    · exact .inr (.nul hp hnul)
    · exact .inl ⟨_, rfl⟩

end Invocation

/-! ## Reports -/

/-- A run that has ended: with success, with a line that tells a failure of the library, or with a
line that tells of a path that may not be read. -/
inductive Report.Ended (env : Environment) (r : Report) : Prop where
  /-- All went well. -/
  | success (hstatus : r.status = 0)
  /-- A failure of the library is told. -/
  | failure {f : Failure} {before shown : Text} (hstatus : r.status = 1)
    (hf : f.isReported = true)
    (hshown : env.markup (Console.escape ("Error: " ++ f.message)) = some shown)
    (hline : r.notices = before ++ escaped shown ++ "\n")
  /-- The command line cannot be used. -/
  | unusable {path before : Text} (hstatus : r.status = 2)
    (hline : r.notices = before ++ escaped (Failure.notReadable path).message ++ "\n")

namespace Invocation

/-- A file that an invocation reads is there, and its bytes are no text. -/
def ReadsNoText (store : FileStore) : Invocation → Prop
  | work w _ _ => w.ReadsNoText store
  | _ => False

variable {i : Invocation} {s : Session}

private theorem run_of_perform_ok (h : (i.perform env).run.run ⟨"", "", store⟩ = (.ok (), s)) :
    i.run env store = (.ok ⟨0, s.output, s.notices⟩, s.store) := by
  rw [run, h]

theorem run_of_escaped {f : Failure}
    (h : (i.perform env).run.run ⟨"", "", store⟩ = (.error f, s)) (hf : f.isReported = false)
    (hreadable : ∀ p, f ≠ .notReadable p) : (i.run env store).1 = .error f := by
  rw [run, h]
  dsimp only
  split
  · next heq => cases heq
  · next heq => exact absurd (Except.error.inj heq) (hreadable _)
  · next heq =>
    obtain rfl := Except.error.inj heq
    rw [hf, if_neg Bool.false_ne_true]

theorem run_of_readsNoText (hpaths : ∀ p ∈ i.paths, checkPath store p = .ok ())
    (h : i.ReadsNoText store) : (i.run env store).1 = .error .undecodable := by
  cases i with
  | work w sink verbose =>
    let s : Session := ⟨"", "", store⟩
    have hperform : ((work w sink verbose).perform env).run.run s = (.error .undecodable, s) := by
      rw [run_perform_of_paths hpaths, act, Work.perform, run_bind_of_ok (run_get s),
        Work.make_of_readsNoText h]
      rfl
    exact run_of_escaped hperform rfl fun _ ↦ Failure.noConfusion
  | fills => exact h.elim
  | help => exact h.elim

private theorem ended_or_escapes (henv : env.Sound) (store : FileStore) (i : Invocation) :
    (∃ report, (i.run env store).1 = .ok report ∧ report.Ended env) ∨
      ∃ f, (i.run env store).1 = .error f ∧ i.Escapes env store f := by
  have hcontained := perform_contained henv store i
  rcases hperform : (i.perform env).run.run ⟨"", "", store⟩ with ⟨outcome, s⟩
  rw [hperform] at hcontained
  cases outcome with
  | ok _ =>
    refine .inl ⟨⟨0, s.output, s.notices⟩, ?_, .success rfl⟩
    rw [run_of_perform_ok hperform]
  | error f =>
    by_cases hreadable : ∃ p, f = .notReadable p
    · obtain ⟨p, rfl⟩ := hreadable
      refine .inl ⟨⟨2, s.output, s.notices ++ escaped (Failure.notReadable p).message ++ "\n"⟩, ?_,
        .unusable rfl rfl⟩
      rw [run, hperform]
    · cases hf : f.isReported with
      | true =>
        obtain ⟨shown, hshown⟩ := Option.isSome_iff_exists.1 (henv.escaped ("Error: " ++ f.message))
        refine .inl ⟨⟨1, s.output, s.notices ++ escaped shown ++ "\n"⟩, ?_,
          .failure rfl hf hshown rfl⟩
        rw [run, hperform]
        dsimp only
        split
        · next heq => cases heq
        · next heq => exact absurd ⟨_, Except.error.inj heq⟩ hreadable
        · next heq =>
          obtain rfl := Except.error.inj heq
          rw [if_pos hf, hshown]
      | false =>
        have hescapes := (hcontained f rfl).resolve_left (Bool.eq_false_iff.1 hf)
        exact .inr ⟨f, run_of_escaped hperform hf fun p hp ↦ hreadable ⟨p, hp⟩,
          hescapes.resolve_left hreadable⟩

/-- The environment of a user who has changed nothing, with a console that shows all markup as it
is. -/
def plainEnvironment : Environment :=
  ⟨.standard, ⟨"", ""⟩, 990, fun markup ↦ some (Console.shown markup)⟩

/-- The command line that runs the recipe in a file. -/
def runRecipe : Invocation := .work (.recipe (.ofText "r.json")) ⟨none, false, false, "text"⟩ false

/-- A file that holds a single byte, which starts no character. -/
def garbled : FileStore := ⟨[(.of ["r.json"], .file [0xFF])], [], []⟩

theorem plainEnvironment_sound : plainEnvironment.Sound where
  fills := rfl
  settings := ⟨0, [], none, rfl⟩
  room := by decide
  literal := fun _ h ↦ congrArg some h.shown
  escaped := fun _ ↦ rfl

private theorem read?_runRecipe : read? ["recipe", "r.json"] = some runRecipe := rfl

theorem garbled_locate : garbled.locate (.ofText "r.json") = .ok (.of ["r.json"]) :=
  garbled.locate_eq_follow (by decide) (by decide) (by decide)

theorem runRecipe_paths : ∀ p ∈ runRecipe.paths, checkPath garbled p = .ok () := by
  intro p hp
  obtain rfl := List.mem_singleton.1 hp
  rw [checkPath, garbled_locate]
  rfl

theorem garbled_readsNoText : runRecipe.ReadsNoText garbled :=
  ⟨.ofText "r.json", List.mem_singleton_self _, [0xFF],
    FileStore.read_of_find garbled_locate rfl rfl, by decide⟩

end Invocation

end TextArt.CommandLine
