import TextArt.Proofs.FileStore.Growth
import TextArt.Proofs.Grid.Join
import TextArt.Proofs.Text.Utf

/-!
# Saving and loading are inverse

Drawings that are saved one after the other under one name, the first in the place of what was there
and the others after it, are loaded as one drawing: the first with the others below it. The text of
the file is always that of all lines so far (`leadsTo_saveAll`), and the lines of many grids are
read as the grids below each other (`Grid.ofLines_flatMap_lines`). A cell must not hold what ends a
line or leaves no text, nor what has no bytes, and a drawing of blanks only is not loaded at all.
-/

namespace TextArt

/-! ## Lines of plain grids -/

/-- The cells hold nothing that ends a line or leaves no text. -/
def Grid.Plain (g : Grid) : Prop :=
  ∀ row < g.height, ∀ col < g.width, (g.cellAt row col).Legible ∧ g.cellAt row col ≠ '\r'

instance (g : Grid) : Decidable g.Plain :=
  inferInstanceAs (Decidable (∀ row < g.height, ∀ col < g.width, _ ∧ _))

/-- Every cell holds a character, so that there are bytes for it. -/
def Grid.Encodable (g : Grid) : Prop :=
  ∀ row < g.height, ∀ col < g.width, (g.cellAt row col).char?.isSome

instance (g : Grid) : Decidable g.Encodable :=
  inferInstanceAs (Decidable (∀ row < g.height, ∀ col < g.width, _))

/-- Some cell is not blank. -/
def Grid.Inked (g : Grid) : Prop :=
  ∃ row < g.height, ∃ col < g.width, Text.isBlank (g.cellAt row col) = false

namespace Grid

variable {g : Grid} {drawings : List Grid}

theorem Plain.legible (hg : g.Plain) : g.Legible :=
  legible_of_inside fun row col hr hc ↦ (hg row hr col hc).1

private theorem Plain.return_not_mem (hg : g.Plain) {l : Text} (hl : l ∈ g.lines) :
    CodePoint.char '\r' ∉ l.toList := by
  obtain ⟨row, hrow, rfl⟩ := List.mem_map.1 hl
  rw [toList_rowText hg.legible]
  intro hmem
  obtain ⟨col, hcol, heq⟩ := List.mem_map.1 hmem
  exact (hg row (List.mem_range.1 hrow) col (List.mem_range.1 hcol)).2 heq

private theorem Encodable.char?_isSome (hcode : g.Encodable) (hg : g.Legible) {l : Text}
    (hl : l ∈ g.lines) {c : CodePoint} (hc : c ∈ l.toList) : c.char?.isSome := by
  obtain ⟨row, hrow, rfl⟩ := List.mem_map.1 hl
  rw [toList_rowText hg] at hc
  obtain ⟨col, hcol, rfl⟩ := List.mem_map.1 hc
  exact hcode row (List.mem_range.1 hrow) col (List.mem_range.1 hcol)

private theorem ne_nil_of_mem_lines (hg : g.Legible) {l : Text} (hl : l ∈ g.lines) :
    l.toList ≠ [] := by
  obtain ⟨row, -, rfl⟩ := List.mem_map.1 hl
  rw [toList_rowText hg, ← List.length_pos_iff, length_rowCells]
  exact g.width_pos

/-- The text of some grids one below the other. -/
def textOfAll (drawings : List Grid) : Text := Text.intercalate "\n" (drawings.flatMap lines)

theorem flatMap_lines_ne_nil (hne : drawings ≠ []) : drawings.flatMap lines ≠ [] := by
  obtain ⟨g, rest, rfl⟩ := List.exists_cons_of_ne_nil hne
  rw [List.flatMap_cons]
  exact fun h ↦ g.lines_ne_nil (List.append_eq_nil_iff.1 h).1

private theorem textOfAll_singleton (g : Grid) : textOfAll [g] = g.toText := by
  rw [textOfAll, List.flatMap_singleton, toText]

private theorem textOfAll_concat (hne : drawings ≠ []) (g : Grid) :
    textOfAll (drawings ++ [g]) = textOfAll drawings ++ ("\n" ++ g.toText) := by
  rw [textOfAll, List.flatMap_append, List.flatMap_singleton,
    Text.intercalate_append_of_ne_nil (flatMap_lines_ne_nil hne) g.lines_ne_nil,
    Text.append_assoc]
  rfl

/-- Every line of the text is one of a drawing, so what holds of the characters of those lines and
of line feeds holds of the characters of the text. -/
theorem mem_textOfAll {c : CodePoint} (h : c ∈ (textOfAll drawings).toList) :
    c = '\n' ∨ ∃ g ∈ drawings, ∃ l ∈ g.lines, c ∈ l.toList := by
  rw [textOfAll, Text.toList_intercalate] at h
  rcases Text.mem_of_mem_intercalate h with hfeed | ⟨line, hline, hc⟩
  · exact .inl (List.mem_singleton.1 hfeed)
  · obtain ⟨l, hl, rfl⟩ := List.mem_map.1 hline
    obtain ⟨g, hg, hmem⟩ := List.mem_flatMap.1 hl
    exact .inr ⟨g, hg, l, hmem, hc⟩

private theorem return_not_mem_textOfAll (hplain : ∀ g ∈ drawings, g.Plain) :
    CodePoint.char '\r' ∉ (textOfAll drawings).toList := by
  intro h
  rcases mem_textOfAll h with hfeed | ⟨g, hg, l, hl, hc⟩
  · exact absurd hfeed (by decide)
  · exact (hplain g hg).return_not_mem hl hc

theorem char?_isSome_textOfAll (hplain : ∀ g ∈ drawings, g.Plain)
    (hcode : ∀ g ∈ drawings, g.Encodable) {c : CodePoint}
    (hc : c ∈ (textOfAll drawings).toList) : c.char?.isSome := by
  rcases mem_textOfAll hc with rfl | ⟨g, hg, l, hl, hc⟩
  · rfl
  · exact (hcode g hg).char?_isSome (hplain g hg).legible hl hc

theorem isEncodable_textOfAll (hplain : ∀ g ∈ drawings, g.Plain)
    (hcode : ∀ g ∈ drawings, g.Encodable) : (textOfAll drawings).isEncodable = true := by
  refine Text.isEncodable_iff.2 fun n hn ↦ ?_
  cases char?_isSome_textOfAll hplain hcode hn

private theorem exists_ink_textOfAll (hplain : ∀ g ∈ drawings, g.Plain)
    (hink : ∃ g ∈ drawings, g.Inked) :
    ∃ c ∈ (textOfAll drawings).toList, Text.isBlank c = false := by
  obtain ⟨g, hg, row, hrow, col, hcol, hblank⟩ := hink
  refine ⟨_, ?_, hblank⟩
  have hl : g.rowText row ∈ drawings.flatMap lines :=
    List.mem_flatMap.2 ⟨g, hg, List.mem_map_of_mem (List.mem_range.2 hrow)⟩
  rw [textOfAll, Text.toList_intercalate]
  refine Text.mem_intercalate_of_mem (List.mem_map_of_mem hl) ?_
  rw [toList_rowText (hplain g hg).legible]
  exact List.mem_map_of_mem (List.mem_range.2 hcol)

private theorem getLast?_textOfAll_ne (hplain : ∀ g ∈ drawings, g.Plain) (hne : drawings ≠ []) :
    (textOfAll drawings).toList.getLast? ≠ some '\n' := by
  have hfull : ∀ line ∈ (drawings.flatMap lines).map Text.toList, line ≠ [] := by
    intro line hline
    obtain ⟨l, hl, rfl⟩ := List.mem_map.1 hline
    obtain ⟨g, hg, hmem⟩ := List.mem_flatMap.1 hl
    exact ne_nil_of_mem_lines (hplain g hg).legible hmem
  obtain ⟨line, hline, hlast⟩ : ∃ line ∈ (drawings.flatMap lines).map Text.toList,
      (("\n" : Text).toList.intercalate ((drawings.flatMap lines).map Text.toList)).getLast? =
        line.getLast? :=
    Text.getLast?_intercalate (mt List.map_eq_nil_iff.1 (flatMap_lines_ne_nil hne)) hfull
  obtain ⟨l, hl, rfl⟩ := List.mem_map.1 hline
  obtain ⟨g, hg, hmem⟩ := List.mem_flatMap.1 hl
  rw [textOfAll, Text.toList_intercalate, hlast]
  intro hfeed
  exact break_not_mem_lines (hplain g hg).legible l hmem (List.mem_of_getLast? hfeed)

private theorem ofText_textOfAll {rest : List Grid} (hplain : ∀ d ∈ g :: rest, d.Plain) :
    ofText (textOfAll (g :: rest)) = .ok (rest.foldl above g) := by
  have hg := (hplain g List.mem_cons_self).legible
  exact ofLines_flatMap_lines (break_not_mem_lines hg) (ofText_toText hg)
    fun d hd ↦ (hplain d (List.mem_cons_of_mem _ hd)).legible

end Grid

namespace FileStore

variable {s : FileStore} {p : Path} {l : Location} {settings : ExportSettings} {given : Text}

/-! ## Loading -/

private theorem dropFinalNewline_of_ne {chars : List CodePoint} (h : chars.getLast? ≠ some '\n') :
    dropFinalNewline chars = chars := if_neg h

private theorem dropFinalNewline_concat (chars : List CodePoint) :
    dropFinalNewline (chars ++ [.char '\n']) = chars := by
  rw [dropFinalNewline, List.getLast?_concat, if_pos rfl, List.dropLast_concat]

private theorem decodeText_encodeUtf8 {text : Text} (h : CodePoint.char '\r' ∉ text.toList)
    (hcode : ∀ c ∈ text.toList, c.char?.isSome) :
    decodeText (Text.encodeUtf8 text) = .ok text.toList := by
  rw [decodeText, Text.decodeUtf8_encodeUtf8 fun c hc _ ↦ hcode c hc]
  exact congrArg _ (Text.unifyNewlines_of_not_mem h)

/-- A file with the text of some drawings, which may end with a line feed, is loaded as the drawings
below each other. -/
theorem loadGrid_textOfAll {g : Grid} {rest : List Grid} {ending : Text}
    (h : s.LeadsTo p l (Text.encodeUtf8 (Grid.textOfAll (g :: rest) ++ ending)))
    (hread : s.allows l .read = true) (hending : ending = "" ∨ ending = "\n")
    (hplain : ∀ d ∈ g :: rest, d.Plain) (hcode : ∀ d ∈ g :: rest, d.Encodable)
    (hink : ∃ d ∈ g :: rest, d.Inked) : s.loadGrid p = .ok (rest.foldl Grid.above g) := by
  have hreturn : CodePoint.char '\r' ∉ (Grid.textOfAll (g :: rest) ++ ending).toList := by
    have hend : CodePoint.char '\r' ∉ ending.toList := by rcases hending with rfl | rfl <;> decide
    rw [Text.toList_append, List.mem_append, not_or]
    exact ⟨Grid.return_not_mem_textOfAll hplain, hend⟩
  have hchars : ∀ c ∈ (Grid.textOfAll (g :: rest) ++ ending).toList, c.char?.isSome := by
    intro c hc
    rw [Text.toList_append] at hc
    rcases List.mem_append.1 hc with hc | hc
    · exact Grid.char?_isSome_textOfAll hplain hcode hc
    · rcases hending with rfl | rfl
      · cases hc
      · obtain rfl := List.mem_singleton.1 hc
        rfl
  have hblank : ((Grid.textOfAll (g :: rest) ++ ending).toList.all Text.isBlank) = false := by
    obtain ⟨c, hc, hc'⟩ := Grid.exists_ink_textOfAll hplain hink
    refine List.all_eq_false.2 ⟨c, ?_, by rw [hc']; exact Bool.false_ne_true⟩
    rw [Text.toList_append]
    exact List.mem_append_left _ hc
  have hdrop : dropFinalNewline (Grid.textOfAll (g :: rest) ++ ending).toList =
      (Grid.textOfAll (g :: rest)).toList := by
    rw [Text.toList_append]
    rcases hending with rfl | rfl
    · rw [show (Text.ofString "").toList = [] from rfl, List.append_nil]
      exact dropFinalNewline_of_ne
        (Grid.getLast?_textOfAll_ne hplain (List.cons_ne_nil _ _))
    · exact dropFinalNewline_concat _
  rw [loadGrid, h.probe, ok_bind]
  dsimp only
  rw [h.read hread, mapError_ok, ok_bind, decodeText_encodeUtf8 hreturn hchars, ok_bind, hblank,
    if_neg Bool.false_ne_true, hdrop, Text.ofList_toList, Grid.ofText_textOfAll hplain]
  rfl

/-! ## Saving -/

/-- Saves drawings under a name one after the other, each with the unique text of its moment. The
first one replaces what is there or follows it, and the others follow. -/
def saveAll (settings : ExportSettings) (given : Text) (s : FileStore) (append : Bool) :
    List (Text × Grid) → List (Outcome Path) × FileStore
  | [] => ([], s)
  | (unique, g) :: rest =>
    let (answer, s) := s.save settings unique given g.toText append
    let (answers, s) := saveAll settings given s true rest
    (answer :: answers, s)

theorem writeText_of_isEncodable (hlocate : s.locate p = .ok l) (hl : s.Accepts l) {text : Text}
    (hcode : text.isEncodable = true) (before : List UInt8) :
    s.writeText given p before text =
      (.ok p, s.put l (.file (before ++ Text.encodeUtf8 text))) := by
  unfold writeText
  dsimp only
  rw [if_pos hcode, write_eq_ok hlocate hl, if_pos hcode]

private theorem save_of_writable (hp : s.Writable p l) {unique : Text}
    (hresolve : settings.resolve unique (.ofText given) = p) {g : Grid}
    (hcode : (Grid.textOfAll [g]).isEncodable = true) :
    ∃ made, s.Grows made ∧ made.locate p = .ok l ∧ made.Accepts l ∧ made.allows l .read = true ∧
      s.save settings unique given g.toText false =
        (.ok p, made.put l (.file (Text.encodeUtf8 (Grid.textOfAll [g])))) := by
  rw [Grid.textOfAll_singleton] at hcode ⊢
  have hnew : s.save settings unique given g.toText false = s.writeNew given p g.toText := by
    unfold save
    rw [hresolve]
    dsimp only
    rcases hp.probe with hprobe | ⟨content, hprobe⟩
    · rw [hprobe]
    · rw [hprobe]
      rfl
  obtain ⟨made, hmade, hlocate, haccepts, hread⟩ := hp
  refine ⟨made, grows_ensurePath hmade, hlocate, haccepts, hread, ?_⟩
  rw [hnew, writeNew, hmade]
  dsimp only
  rw [writeText_of_isEncodable hlocate haccepts hcode, List.nil_append]

private theorem save_of_leadsTo {drawings : List Grid} (hne : drawings ≠ [])
    (hp : s.LeadsTo p l (Text.encodeUtf8 (Grid.textOfAll drawings))) (hl : s.Accepts l)
    {unique : Text} (hresolve : settings.resolve unique (.ofText given) = p) {g : Grid}
    (hcode : (Grid.textOfAll (drawings ++ [g])).isEncodable = true) :
    s.save settings unique given g.toText true =
      (.ok p, s.put l (.file (Text.encodeUtf8 (Grid.textOfAll (drawings ++ [g]))))) := by
  rw [Grid.textOfAll_concat hne] at hcode ⊢
  rw [Text.isEncodable_append, Bool.and_eq_true] at hcode
  rw [Text.encodeUtf8_append]
  unfold save
  rw [hresolve]
  dsimp only
  rw [hp.probe]
  dsimp only
  rw [if_pos rfl, writeText_of_isEncodable hp.locate hl hcode.2]

/-- **A run of appends.** The file has the text of all drawings so far, and nothing else has
changed. -/
theorem leadsTo_saveAll {drawings : List Grid} (hne : drawings ≠ [])
    (hp : s.LeadsTo p l (Text.encodeUtf8 (Grid.textOfAll drawings))) (hl : s.Accepts l)
    {rest : List (Text × Grid)} (hresolve : ∀ d ∈ rest, settings.resolve d.1 (.ofText given) = p)
    (hplain : ∀ d ∈ drawings ++ rest.map Prod.snd, d.Plain)
    (hcode : ∀ d ∈ drawings ++ rest.map Prod.snd, d.Encodable) :
    ∃ s', saveAll settings given s true rest = (rest.map fun _ ↦ .ok p, s') ∧
      s'.LeadsTo p l (Text.encodeUtf8 (Grid.textOfAll (drawings ++ rest.map Prod.snd))) ∧
      s'.Accepts l ∧ (∀ r, s'.allows l r = s.allows l r) ∧
      ∀ m, m ≠ l → s'.lookup? m = s.lookup? m := by
  induction rest generalizing s drawings with
  | nil =>
    refine ⟨s, rfl, ?_, hl, fun _ ↦ rfl, fun m _ ↦ rfl⟩
    rwa [List.map_nil, List.append_nil]
  | cons d rest ih =>
    obtain ⟨unique, g⟩ := d
    have hall : drawings ++ ((unique, g) :: rest).map Prod.snd =
        drawings ++ [g] ++ rest.map Prod.snd := by
      rw [List.map_cons, List.append_assoc, List.singleton_append]
    rw [hall] at hplain hcode ⊢
    have htext : (Grid.textOfAll (drawings ++ [g])).isEncodable = true :=
      Grid.isEncodable_textOfAll (fun d hd ↦ hplain d (List.mem_append_left _ hd))
        fun d hd ↦ hcode d (List.mem_append_left _ hd)
    have hsave := save_of_leadsTo hne hp hl (hresolve _ List.mem_cons_self) htext
    have hput := leadsTo_put hp.locate hp.free
      (Text.encodeUtf8 (Grid.textOfAll (drawings ++ [g])))
    obtain ⟨s', hrest, hleads, haccepts, hrights, hsame⟩ :=
      ih (List.concat_ne_nil g drawings) hput (hl.put _)
        (fun d hd ↦ hresolve d (List.mem_cons_of_mem _ hd)) hplain hcode
    refine ⟨s', ?_, hleads, haccepts, hrights, fun m hm ↦ ?_⟩
    · rw [saveAll, hsave]
      dsimp only
      rw [hrest]
      rfl
    · rw [hsame m hm, s.lookup?_put (ne_nil_of_lookup? hp.free), if_neg hm]

/-! ## Saving and loading -/

/-- **Saving and loading.** The first of some drawings is saved under a name and the others are
appended under the same name, which leads to one path that can be written. Each time the path is the
answer. What is loaded from there is the first drawing with the others below it, and a line feed at
the end of the file makes no difference to that. Nothing else changes in the store but that there
may be new directories. -/
theorem loadGrid_saveAll {first : Text × Grid} {rest : List (Text × Grid)}
    (hp : s.Writable p l)
    (hresolve : ∀ d ∈ first :: rest, settings.resolve d.1 (.ofText given) = p)
    (hplain : ∀ d ∈ first :: rest, d.2.Plain) (hcode : ∀ d ∈ first :: rest, d.2.Encodable)
    (hink : ∃ d ∈ first :: rest, d.2.Inked) :
    ∃ (s' ended : FileStore) (content : List UInt8) (joined : Grid),
      saveAll settings given s false (first :: rest) = ((first :: rest).map fun _ ↦ .ok p, s') ∧
      (rest.map Prod.snd).foldlM Grid.bottomAppend first.2 = .ok joined ∧
      s'.loadGrid p = .ok joined ∧
      s'.read p = .ok content ∧ s'.write p (content ++ Text.encodeUtf8 "\n") = .ok ended ∧
      ended.loadGrid p = .ok joined ∧
      ∀ m, m ≠ l → s'.lookup? m = s.lookup? m ∨
        s.lookup? m = none ∧ s'.lookup? m = some .directory := by
  obtain ⟨unique, g⟩ := first
  have hplains : ∀ d ∈ g :: rest.map Prod.snd, d.Plain := List.forall_mem_map.2 hplain
  have hcodes : ∀ d ∈ g :: rest.map Prod.snd, d.Encodable := List.forall_mem_map.2 hcode
  have htext : (Grid.textOfAll [g]).isEncodable = true :=
    Grid.isEncodable_textOfAll (List.forall_mem_singleton.2 (hplains g List.mem_cons_self))
      (List.forall_mem_singleton.2 (hcodes g List.mem_cons_self))
  obtain ⟨made, hgrows, hlocate, haccepts, hallowed, hsave⟩ :=
    save_of_writable hp (hresolve _ List.mem_cons_self) htext
  have hfirst := leadsTo_put hlocate haccepts.free (Text.encodeUtf8 (Grid.textOfAll [g]))
  obtain ⟨s', hrest, hleads, hwritten, hrights, hsame⟩ :=
    leadsTo_saveAll (List.cons_ne_nil g []) hfirst (haccepts.put _)
      (fun d hd ↦ hresolve d (List.mem_cons_of_mem _ hd)) hplains hcodes
  have hread : s'.allows l .read = true := (hrights .read).trans hallowed
  have hinked : ∃ d ∈ g :: rest.map Prod.snd, d.Inked := by
    obtain ⟨d, hd, hink⟩ := hink
    exact ⟨d.2, List.mem_map_of_mem hd, hink⟩
  let text := Grid.textOfAll (g :: rest.map Prod.snd)
  let content := Text.encodeUtf8 text
  have hclean : s'.LeadsTo p l (Text.encodeUtf8 (text ++ "")) := by rwa [Text.append_empty]
  have hended : (s'.put l (.file (content ++ Text.encodeUtf8 "\n"))).LeadsTo p l
      (Text.encodeUtf8 (text ++ "\n")) := by
    rw [Text.encodeUtf8_append]
    exact leadsTo_put hleads.locate hleads.free _
  refine ⟨s', s'.put l (.file (content ++ Text.encodeUtf8 "\n")), content,
    (rest.map Prod.snd).foldl Grid.above g, ?_, ?_,
    loadGrid_textOfAll hclean hread (.inl rfl) hplains hcodes hinked, hleads.read hread,
    write_eq_ok hleads.locate hwritten _,
    loadGrid_textOfAll hended hread (.inr rfl) hplains hcodes hinked, fun m hm ↦ ?_⟩
  · rw [saveAll, hsave]
    dsimp only
    rw [hrest]
    rfl
  · exact Grid.foldlM_bottomAppend_eq (hplains g List.mem_cons_self).legible
      fun d hd ↦ (hplains d (List.mem_cons_of_mem _ hd)).legible
  · rw [hsame m hm, made.lookup?_put (ne_nil_of_lookup? haccepts.free), if_neg hm]
    exact hgrows.lookup m

theorem writable_export : (FileStore.empty (.of ["work"])).Writable
    ⟨.here, ["ascii-exports", "art.txt"]⟩ (.of ["work", "ascii-exports", "art.txt"]) := by
  let store := FileStore.empty (.of ["work"])
  let made := store.put (.of ["work", "ascii-exports"]) .directory
  have hmake : store.makeDirectory ⟨.here, ["ascii-exports"]⟩ = .ok made :=
    bind_eq_ok.2 ⟨_, store.locate_eq_follow (by decide) (by decide) (by decide), rfl⟩
  have hmade : store.ensureDirectories ⟨.here, ["ascii-exports"]⟩ = .ok made :=
    ensureDirectories_of_ensureDirectory (by rw [ensureDirectory, hmake])
  exact ⟨made, hmade, made.locate_eq_follow (by decide) (by decide) (by decide),
    ⟨by decide, fun _ ↦ rfl, rfl⟩, rfl⟩

/-- A row of two blanks is saved under a bare name into an empty store, and a mark is appended. -/
theorem loadGrid_saveAll_row_mark :
    ∃ (s' : FileStore) (joined : Grid),
      saveAll Settings.standard.files "art.txt" (.empty (.of ["work"])) false
        [("1", .blank 2 1 Nat.two_pos Nat.one_pos), ("2", Grid.single.set 0 0 '#')] =
          (List.replicate 2 (.ok ⟨.here, ["ascii-exports", "art.txt"]⟩), s') ∧
      Grid.bottomAppend (.blank 2 1 Nat.two_pos Nat.one_pos) (Grid.single.set 0 0 '#') =
        .ok joined ∧
      s'.loadGrid ⟨.here, ["ascii-exports", "art.txt"]⟩ = .ok joined := by
  have hink : (Grid.single.set 0 0 '#').Inked := ⟨0, by decide, 0, by decide, by decide⟩
  obtain ⟨s', -, -, joined, hsaved, hjoined, hload, -⟩ :=
    @loadGrid_saveAll _ _ _ Settings.standard.files "art.txt"
      ("1", .blank 2 1 Nat.two_pos Nat.one_pos) [("2", Grid.single.set 0 0 '#')] writable_export
      (by decide +kernel) (by decide) (by decide)
      ⟨_, List.mem_cons_of_mem _ List.mem_cons_self, hink⟩
  rw [List.map_singleton, List.foldlM_cons] at hjoined
  obtain ⟨made, hmade, hsame⟩ := bind_eq_ok.1 hjoined
  obtain rfl := Except.ok.inj hsame
  exact ⟨s', made, hsaved, hmade, hload⟩

/-- Not every plain drawing comes back: one with half of a surrogate pair in its only cell has no
bytes, so that saving it fails. -/
theorem not_forall_loadGrid_saveAll :
    ¬∀ (s : FileStore) (p : Path) (l : Location) (settings : ExportSettings) (given unique : Text)
        (g : Grid), s.Writable p l → settings.resolve unique (.ofText given) = p → g.Plain →
      g.Inked → ∃ s', saveAll settings given s false [(unique, g)] = ([.ok p], s') ∧
        s'.loadGrid p = .ok g := by
  intro hall
  let broken := Grid.single.set 0 0 (.half 0)
  obtain ⟨s', hsaved, -⟩ := hall _ _ _ Settings.standard.files "art.txt" "1" broken
    writable_export (by decide +kernel) (by decide) ⟨0, by decide, 0, by decide, by decide⟩
  obtain ⟨hanswers, hstore⟩ := Prod.mk.inj hsaved
  have hsave : (FileStore.empty (.of ["work"])).save Settings.standard.files "1" "art.txt"
      broken.toText false = (.ok ⟨.here, ["ascii-exports", "art.txt"]⟩, s') :=
    Prod.ext (List.head_eq_of_cons_eq hanswers) hstore
  exact absurd (leadsTo_of_save hsave).1 (by decide +kernel)

end FileStore

end TextArt
