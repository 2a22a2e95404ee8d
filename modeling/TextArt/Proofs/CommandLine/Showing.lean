import TextArt.Proofs.CommandLine.Containment
import TextArt.Proofs.FileStore.Growth

/-!
# What is shown is what is saved

A drawing is shown in one of two ways, as a whole or row by row with pauses, and what it is saved as
is the text that it is shown as. A text that has been saved could be encoded, and the two ways of
showing such a text are one part of a run (`animate_eq`). So showing row by row changes nothing in
what a run leaves (`Invocation.run_animate`), and what a run that ends well has written to the
console is the text of the file that it has written.

All this is said of one environment. Two runs of one command have environments of their own, with
other random words, another time and another unique text, and then they may leave different things
(`Invocation.not_leavesSame`).
-/

namespace TextArt.CommandLine

variable {env : Environment} {sink : Sink} {store store' : FileStore}

/-! ## Saving -/

private theorem saveText_run_eq_ok {file : Path} {text : Text} {append : Bool} {s s' : Session}
    (h : (saveText env file text append).run.run s = (.ok (), s')) :
    s'.output = s.output ∧ ∃ p, s.store.save env.context.settings.files env.stamp.unique file.text
      text append = (.ok p, s'.store) := by
  have hnotes : ∀ (lines : List Text) (s : Session),
      let noted := lines.foldl (fun s line ↦
        { s with notices := s.notices ++ escaped line ++ "\n" }) s
      noted.output = s.output ∧ noted.store = s.store := by
    intro lines
    induction lines with
    | nil => exact fun s ↦ ⟨rfl, rfl⟩
    | cons line rest ih => exact fun s ↦ ih _
  rcases hsave : s.store.save env.context.settings.files env.stamp.unique file.text text append
    with ⟨outcome, made⟩
  have hset : (set { s with store := made } : Action PUnit).run.run s =
    (.ok (), { s with store := made }) := rfl
  rw [saveText, run_bind_of_ok (run_get s), hsave] at h
  rw [run_bind_of_ok hset] at h
  obtain ⟨p, s₁, hp, h⟩ := run_bind_eq_ok.1 h
  rw [run_lift] at hp
  obtain ⟨rfl, rfl⟩ := Prod.mk.inj hp
  obtain ⟨shown, s₂, hshown, h⟩ := run_bind_eq_ok.1 h
  rw [run_lift] at hshown
  obtain ⟨-, rfl⟩ := Prod.mk.inj hshown
  rw [run_bind_of_ok (run_forIn
    (fun s line ↦ { s with notices := s.notices ++ escaped line ++ "\n" })
    (fun _ _ _ ↦ rfl) _)] at h
  obtain ⟨-, rfl⟩ := Prod.mk.inj h
  obtain ⟨houtput, hstore⟩ := hnotes (Console.wrap Console.columns shown) { s with store := made }
  exact ⟨houtput, p, by rw [hstore]⟩

private theorem showDrawing_run_eq_ok (hdelay : 0 ≤ env.context.settings.render.streamDelayMs)
    {d : Drawing} {text : Text} (htext : d.render env.room sink.format env.stamp.time = .ok text)
    (hcode : text.isEncodable = true) {s s' : Session}
    (h : (showDrawing env sink d text).run.run s = (.ok (), s')) :
    s' = { s with output := s.output ++ text ++ "\n" } := by
  have hshow : showDrawing env sink d text = showText text := by
    by_cases hanimate : (sink.animate && sink.format == "text") = true
    · rw [showDrawing, if_pos hanimate] at h
      obtain ⟨x, _, hx, -⟩ := run_bind_eq_ok.1 h
      rw [run_lift] at hx
      exact showDrawing_eq htext hdelay (Prod.mk.inj hx).1 hcode
    · rw [showDrawing, if_neg hanimate]
  rw [hshow, showText_run hcode] at h
  exact (Prod.mk.inj h).2.symm

private theorem emit_run_eq_ok (hdelay : 0 ≤ env.context.settings.render.streamDelayMs)
    {file : Path} (hfile : sink.file = some file) (hreplace : sink.append = false) {d : Drawing}
    {s s' : Session} (h : (emit env sink d).run.run s = (.ok (), s')) :
    ∃ text, d.render env.room sink.format env.stamp.time = .ok text ∧ text.isEncodable = true ∧
      s'.output = s.output ++ text ++ "\n" ∧
      s'.store.find (env.savedPath file) = .ok (.file (Text.encodeUtf8 text)) := by
  rw [emit_eq, hfile] at h
  obtain ⟨text, s₁, hrender, h⟩ := run_bind_eq_ok.1 h
  rw [run_lift] at hrender
  obtain ⟨htext, rfl⟩ := Prod.mk.inj hrender
  obtain ⟨_, s₂, hshow, hsaved⟩ := run_bind_eq_ok.1 h
  obtain ⟨houtput, p, hsave⟩ := saveText_run_eq_ok hsaved
  rw [hreplace] at hsave
  obtain ⟨hcode, l, hleads⟩ := FileStore.leadsTo_of_save hsave
  obtain rfl := showDrawing_run_eq_ok hdelay htext hcode hshow
  exact ⟨text, htext, hcode, houtput, hleads.find⟩

/-! ## Runs -/

namespace Invocation

private theorem run_perform_congr {i j : Invocation} {s : Session} (hpaths : i.paths = j.paths)
    (hact : (i.act env).run.run s = (j.act env).run.run s) :
    (i.perform env).run.run s = (j.perform env).run.run s := by
  rw [perform, perform, run_bind_of_ok (run_get s), run_bind_of_ok (run_get s), hpaths]
  cases j.paths.mapM (checkPath s.store) with
  | ok _ => rw [run_bind_of_ok (run_lift _ s), run_bind_of_ok (run_lift _ s), hact]
  | error _ => rw [run_bind_of_error (run_lift _ s), run_bind_of_error (run_lift _ s)]

private theorem run_animate (hdelay : 0 ≤ env.context.settings.render.streamDelayMs) {x : Float}
    (hx : seconds env.context.settings.render.streamDelayMs = .ok x) {w : Work} {d : Drawing}
    (hmake : w.make env.context env.room store = .ok d) {text : Text}
    (htext : d.render env.room sink.format env.stamp.time = .ok text)
    (hcode : text.isEncodable = true) (verbose animate : Bool) :
    (work w { sink with animate } verbose).run env store = (work w sink verbose).run env store := by
  have hemit : emit env { sink with animate } d = emit env sink d := by
    have hanimated : showDrawing env { sink with animate } d text = showText text :=
      showDrawing_eq htext hdelay hx hcode
    rw [emit_eq, emit_eq]
    dsimp only
    rw [htext]
    -- the text does not depend on the way of showing, and nothing else of the sink does
    change showDrawing env { sink with animate } d text >>= _ = showDrawing env sink d text >>= _
    rw [hanimated, showDrawing_eq htext hdelay hx hcode]
  have hact : ((work w { sink with animate } verbose).act env).run.run ⟨"", "", store⟩ =
      ((work w sink verbose).act env).run.run ⟨"", "", store⟩ := by
    rw [act, act, Work.perform, Work.perform, run_bind_of_ok (run_get _),
      run_bind_of_ok (run_get _), hmake, run_bind_of_ok (run_lift _ _),
      run_bind_of_ok (run_lift _ _), hemit]
  have hperform : ((work w { sink with animate } verbose).perform env).run.run ⟨"", "", store⟩ =
      ((work w sink verbose).perform env).run.run ⟨"", "", store⟩ := run_perform_congr rfl hact
  rw [run, run, hperform]

private theorem perform_of_run_zero {i : Invocation} {report : Report}
    (h : i.run env store = (.ok report, store')) (hstatus : report.status = 0) :
    ∃ s, (i.perform env).run.run ⟨"", "", store⟩ = (.ok (), s) ∧ s.output = report.output ∧
      s.store = store' := by
  rw [run] at h
  rcases hperform : (i.perform env).run.run ⟨"", "", store⟩ with ⟨outcome, s⟩
  rw [hperform] at h
  cases outcome with
  | ok _ =>
    obtain ⟨hreport, rfl⟩ := Prod.mk.inj h
    obtain rfl := Except.ok.inj hreport
    exact ⟨s, rfl, rfl, rfl⟩
  | error f =>
    dsimp only at h
    split at h
    · next heq => cases heq
    · obtain ⟨hreport, -⟩ := Prod.mk.inj h
      obtain rfl := Except.ok.inj hreport
      cases hstatus
    · split at h
      · split at h
        · obtain ⟨hreport, -⟩ := Prod.mk.inj h
          obtain rfl := Except.ok.inj hreport
          cases hstatus
        · cases h
      · cases h

/-- **Shown and saved.** A run with success, of a drawing that is saved in the place of what was
there, has written to the console the text of the file and the end of its last line, in every
format. The same run leaves the same, files included, whether or not it shows the drawing row by
row, if the pause can be told in seconds; every pause that settings allow can (`seconds_eq_ok`). -/
theorem output_eq_saved (hdelay : 0 ≤ env.context.settings.render.streamDelayMs)
    {w : Work} (hlayers : ∀ document, w ≠ .compose document true) {file : Path}
    (hfile : sink.file = some file) (hreplace : sink.append = false) {verbose : Bool}
    {report : Report} (hrun : (work w sink verbose).run env store = (.ok report, store'))
    (hstatus : report.status = 0) :
    (∃ d text, w.make env.context env.room store = .ok d ∧
      d.render env.room sink.format env.stamp.time = .ok text ∧ report.output = text ++ "\n" ∧
      store'.find (env.savedPath file) = .ok (.file (Text.encodeUtf8 text))) ∧
    ((∃ x, seconds env.context.settings.render.streamDelayMs = .ok x) → ∀ animate,
      (work w { sink with animate } verbose).run env store = (.ok report, store')) := by
  obtain ⟨s, hperform, houtput, rfl⟩ := perform_of_run_zero hrun hstatus
  have hpaths : ∀ p ∈ (work w sink verbose).paths, checkPath store p = .ok () := by
    by_contra hpaths
    obtain ⟨p, -, f, -, herror⟩ := @run_perform_of_path_error env _ ⟨"", "", store⟩ hpaths
    rw [hperform] at herror
    cases herror
  rw [run_perform_of_paths hpaths, act, Work.perform, run_bind_of_ok (run_get _)] at hperform
  obtain ⟨d, s₁, hmake, hperform⟩ := run_bind_eq_ok.1 hperform
  rw [run_lift] at hmake
  obtain ⟨hd, rfl⟩ := Prod.mk.inj hmake
  obtain ⟨_, s₂, hemit, hlast⟩ := run_bind_eq_ok.1 hperform
  -- without the table of layers nothing comes after the drawing
  have hsame : s₂ = s := by
    split at hlast
    · exact absurd rfl (hlayers _)
    · exact (Prod.mk.inj hlast).2
  subst hsame
  obtain ⟨text, htext, hcode, hshown, hfound⟩ := emit_run_eq_ok hdelay hfile hreplace hemit
  refine ⟨⟨d, text, hd, htext, ?_, hfound⟩, ?_⟩
  · rw [← houtput, hshown, Text.empty_append]
  · rintro ⟨x, hx⟩ animate
    rw [run_animate hdelay hx hd htext hcode, hrun]

/-! ## Marks that are shown and saved -/

/-- A rectangle of two marks. -/
def marks : Work :=
  .draw "rectangle" ⟨some 2, some 1, none, none⟩ true (some "#") none "horizontal"

/-- The command line that draws two marks and saves them. -/
def drawMarks (animate : Bool) : Invocation :=
  .work marks ⟨some (.ofText "art.txt"), false, animate, "text"⟩ false

private theorem exists_run_of_toOption {i : Invocation} {status : Nat} {output : Text}
    (h : (i.run env store).1.toOption.map (fun r ↦ (r.status, r.output)) = some (status, output)) :
    ∃ report store', i.run env store = (.ok report, store') ∧ report.status = status ∧
      report.output = output := by
  obtain ⟨report, hreport, heq⟩ := Option.map_eq_some_iff.1 h
  obtain ⟨rfl, rfl⟩ := Prod.mk.inj heq
  exact ⟨report, (i.run env store).2, Prod.ext (toOption_eq_some.1 hreport) rfl, rfl, rfl⟩

/-- The marks that a run has shown row by row are in the file, and showing them at once is the
same. -/
theorem drawMarks_shown_saved :
    read? ["draw", "-s", "rectangle", "--width", "2", "--height", "1", "--filled", "-c", "#",
      "-o", "art.txt", "--animate"] = some (drawMarks true) ∧
    ∃ report store',
      (drawMarks true).run plainEnvironment (.empty (.of ["work"])) = (.ok report, store') ∧
      (drawMarks false).run plainEnvironment (.empty (.of ["work"])) = (.ok report, store') ∧
      report.output = "##\n" ∧
      store'.find (plainEnvironment.savedPath (.ofText "art.txt")) =
        .ok (.file (Text.encodeUtf8 "##")) := by
  obtain ⟨report, store', hrun, hstatus, houtput⟩ : ∃ report store',
      (drawMarks true).run plainEnvironment (.empty (.of ["work"])) = (.ok report, store') ∧
        report.status = 0 ∧ report.output = "##\n" :=
    exists_run_of_toOption (by decide +kernel)
  have hbounds := plainEnvironment_sound.inBounds
  obtain ⟨⟨d, text, -, -, hshown, hfound⟩, hsame⟩ := output_eq_saved
    hbounds.delay_nonneg (fun _ ↦ Work.noConfusion) rfl rfl hrun hstatus
  obtain rfl : text = "##" := by
    rw [houtput] at hshown
    exact (Text.append_left_inj "\n").1 hshown.symm
  have hseconds := seconds_eq_ok hbounds.delay_nonneg hbounds.delay_le
  exact ⟨rfl, report, store', hrun, hsame hseconds false, houtput, hfound⟩

/-! ## Runs that leave different things -/

/-- Whatever a run with success leaves in one environment, of a drawing that is saved in the place
of what was there, the same command leaves in another one, whether or not it shows the drawing row
by row: the same on the console and the same files. -/
def LeavesSame (env env' : Environment) : Prop :=
  ∀ (w : Work) (sink : Sink) (file : Path) (verbose animate : Bool) (store store' : FileStore)
    (report : Report), (∀ document, w ≠ .compose document true) → sink.file = some file →
    sink.append = false → (work w sink verbose).run env store = (.ok report, store') →
    report.status = 0 →
    ∃ other, (work w { sink with animate } verbose).run env' store = (.ok other, store') ∧
      other.output = report.output

private theorem not_leavesSame_of_ne {env env' : Environment} (s : FileStore) (w : Work)
    (file : Path) (format : Text) (animate : Bool)
    (hlayers : ∀ document, w ≠ .compose document true)
    (hstatus : ((work w ⟨some file, false, false, format⟩ false).run env s).1.toOption.map
      Report.status = some 0)
    (hne : (((work w ⟨some file, false, animate, format⟩ false).run env' s).1.toOption.map
        Report.output, ((work w ⟨some file, false, animate, format⟩ false).run env' s).2) ≠
      (((work w ⟨some file, false, false, format⟩ false).run env s).1.toOption.map
        Report.output, ((work w ⟨some file, false, false, format⟩ false).run env s).2)) :
    ¬LeavesSame env env' := by
  intro hsame
  obtain ⟨report, hreport, hzero⟩ := Option.map_eq_some_iff.1 hstatus
  have hrun := toOption_eq_some.1 hreport
  obtain ⟨other, hother, houtput⟩ :=
    hsame w ⟨some file, false, false, format⟩ file false animate s _ report hlayers rfl rfl
      (Prod.ext hrun rfl) hzero
  refine hne ?_
  rw [hother, hrun]
  exact Prod.ext (congrArg some houtput) rfl

/-- A recipe that draws one blank cell and puts dots of density one half there, without a seed. -/
def scattered : Text :=
  "\x7b\"recipe\": [\x7b\"operation\": \"generate\", \"shape\": \"rectangle\", " ++
  "\"params\": \x7b\"width\": 1, \"height\": 1, \"filled\": true, \"char\": \" \"\x7d, " ++
  "\"fillPattern\": \"dots\", \"fillParams\": \x7b\"density\": 0.5\x7d, " ++
  "\"storeAs\": \"a\"\x7d], \"output\": \"a\"\x7d"

/-- A store with a recipe that has dots without a seed. -/
def scatteredStore : FileStore := ⟨[(.of ["r.json"], .file (Text.encodeUtf8 scattered))], [], []⟩

/-- An environment with a pause of more seconds than a double can tell. -/
def pausingEnvironment : Environment :=
  let render := { Settings.standard.render with streamDelayMs := 10 ^ 400 }
  { plainEnvironment with
    context := { plainEnvironment.context with settings := { Settings.standard with render } } }

/-- Environments that differ in the random words, in the time or in what makes names unique do not
leave the same, and neither do two runs in one environment whose pause is no number of seconds. -/
theorem not_leavesSame :
    (∃ words, ¬LeavesSame plainEnvironment
      { plainEnvironment with context := .standardFrom fun _ ↦ words }) ∧
    (∃ time, ¬LeavesSame plainEnvironment { plainEnvironment with stamp := ⟨time, ""⟩ }) ∧
    (∃ unique, ¬LeavesSame plainEnvironment { plainEnvironment with stamp := ⟨"", unique⟩ }) ∧
    0 ≤ pausingEnvironment.context.settings.render.streamDelayMs ∧
      ¬LeavesSame pausingEnvironment pausingEnvironment := by
  refine ⟨⟨[2], ?_⟩, ⟨"noon", ?_⟩, ⟨"1", ?_⟩, by decide, ?_⟩
  · exact not_leavesSame_of_ne scatteredStore (.recipe (.ofText "r.json"))
      (.ofText "art.txt") "text"
      false (fun _ ↦ Work.noConfusion) (by decide +kernel) (by decide +kernel)
  · exact not_leavesSame_of_ne (.empty []) marks (.ofText "art.json") "json" false
      (fun _ ↦ Work.noConfusion) (by decide +kernel) (by decide +kernel)
  · exact not_leavesSame_of_ne (.empty []) marks (.ofText "art") "text" false
      (fun _ ↦ Work.noConfusion) (by decide +kernel) (by decide +kernel)
  · exact not_leavesSame_of_ne (.empty []) marks (.ofText "art.txt") "text" true
      (fun _ ↦ Work.noConfusion) (by decide +kernel) (by decide +kernel)

end Invocation

end TextArt.CommandLine
