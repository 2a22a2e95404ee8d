import TextArt.Export.Record
import TextArt.Proofs.Fields
import TextArt.Proofs.Grid.ReadBack
import TextArt.Proofs.Json.RoundTrip

/-!
# Records read again

The record of a grid is an object that the reader of documents gives back as it was written.
Metadata under a reserved name keeps its place, but the value there is the grid's own (`IsRecord`).
As the cells are among the fields, and a hidden cell is the only one without text, the text of a
record tells which grid it is about (`toJson_readsBack`). Two kinds of metadata are lost: texts with
the two halves of a surrogate pair next to each other, and values that are nested too deeply.
-/

namespace TextArt.Grid

open Json (Lossless Unpaired unpaired_of_isEncodable)

/-- The names under which a record tells about its grid. -/
def reservedNames : List Text := ["width", "height", "grid", "timestamp"]

/-- What is written into a record loses nothing: the metadata has every name once and values that
can be read again, with at most the given number of lists and objects inside each other. The numbers
of rows and columns are whole numbers like any others, so they must not have more digits than are
read; a grid too large for that is too large for any memory. -/
structure Recordable (room : Nat) (g : Grid) (metadata : Fields) : Prop where
  /-- The number of columns can be read. -/
  width : Text.isWritable g.width = true
  /-- The number of rows can be read. -/
  height : Text.isWritable g.height = true
  /-- Every name occurs once. -/
  names : (metadata.map Prod.fst).Nodup
  /-- Every name can be read again. -/
  keys : ∀ f ∈ metadata, Unpaired f.1
  /-- Every value can be read again. -/
  values : ∀ f ∈ metadata, Lossless room f.2

/-- The fields of a record: the names of the metadata in their order, then the reserved names that
are not among them; the reserved values are those of the grid and the clock, and all others are
those of the metadata. -/
structure IsRecord (g : Grid) (metadata : Fields) (time : Text) (fields : Fields) : Prop where
  /-- The names in their order. -/
  names : fields.map Prod.fst =
    metadata.map Prod.fst ++ reservedNames.filter (· ∉ metadata.map Prod.fst)
  /-- The number of columns. -/
  width : fields.lookup ("width" : Text) = some (.int g.width)
  /-- The number of rows. -/
  height : fields.lookup ("height" : Text) = some (.int g.height)
  /-- The texts of the cells. -/
  grid : fields.lookup ("grid" : Text) =
    some (.list (g.rowList.map fun row ↦ .list (row.map fun c ↦ .str c.text)))
  /-- The time of writing. -/
  timestamp : fields.lookup ("timestamp" : Text) = some (.str time)
  /-- The metadata. -/
  metadata : ∀ name, name ∉ reservedNames → fields.lookup name = metadata.lookup name

variable {g other : Grid} {metadata about : Fields} {time later : Text}

/-! ## Fields -/

private theorem names_recordFields (g : Grid) (time : Text) :
    (g.recordFields time).map Prod.fst = reservedNames := rfl

private theorem nodup_reservedNames : reservedNames.Nodup := by decide

/-- The fields that are written. -/
def recorded (g : Grid) (metadata : Fields) (time : Text) : Fields :=
  metadata.update (g.recordFields time)

private theorem toRecord_eq (h : (metadata.map Prod.fst).Nodup) (time : Text) :
    g.toRecord metadata time = .object (g.recorded metadata time) := by
  rw [toRecord, Fields.ofList_append, Fields.ofList_eq_self h, recorded]

theorem toRows_eq (g : Grid) :
    g.toRows = .list (g.rowList.map fun row ↦ .list (row.map fun c ↦ .str c.text)) := by
  rw [toRows]
  congr 2
  funext row
  rw [Value.strings, List.map_map]
  rfl

theorem isRecord_recorded (g : Grid) (metadata : Fields) (time : Text) :
    g.IsRecord metadata time (g.recorded metadata time) := by
  have hreserved := names_recordFields g time
  have hnames : ((g.recordFields time).map Prod.fst).Nodup := hreserved ▸ nodup_reservedNames
  have hlookup : ∀ f ∈ g.recordFields time, (g.recorded metadata time).lookup f.1 = some f.2 :=
    fun f hf ↦ Fields.lookup_update_of_mem metadata hnames hf
  exact {
    names := hreserved ▸ Fields.names_update metadata hnames
    width := hlookup ("width", .int g.width) (by simp [recordFields])
    height := hlookup ("height", .int g.height) (by simp [recordFields])
    grid := g.toRows_eq ▸ hlookup ("grid", g.toRows) (by simp [recordFields])
    timestamp := hlookup ("timestamp", .str time) (by simp [recordFields])
    metadata := fun name hname ↦
      Fields.lookup_update_of_not_mem metadata (hreserved.symm ▸ hname) }

/-! ## Nothing is lost -/

variable {room writer reader : Nat}

private theorem unpaired_text (c : Cell) : Unpaired c.text := by
  unfold Cell.text
  split
  · exact List.isChain_nil
  · exact List.isChain_singleton c

private theorem lossless_toRows (g : Grid) (hroom : 2 ≤ room) : Lossless room g.toRows := by
  obtain ⟨room, rfl⟩ := Nat.exists_eq_add_of_le' hroom
  rw [toRows_eq]
  refine .list fun v hv ↦ ?_
  obtain ⟨row, -, rfl⟩ := List.mem_map.1 hv
  refine .list fun w hw ↦ ?_
  obtain ⟨c, -, rfl⟩ := List.mem_map.1 hw
  exact .str (unpaired_text c)

theorem Recordable.lossless_toRecord (h : g.Recordable room metadata) (hroom : 2 ≤ room)
    (htime : Unpaired time) : Lossless (room + 1) (g.toRecord metadata time) := by
  have hfields : ∀ f ∈ metadata ++ g.recordFields time, Unpaired f.1 ∧ Lossless room f.2 := by
    intro f hf
    rcases List.mem_append.1 hf with hf | hf
    · exact ⟨h.keys f hf, h.values f hf⟩
    · simp only [recordFields, List.mem_cons, List.not_mem_nil, or_false] at hf
      rcases hf with rfl | rfl | rfl | rfl
      · exact ⟨unpaired_of_isEncodable rfl, .int h.width⟩
      · exact ⟨unpaired_of_isEncodable rfl, .int h.height⟩
      · exact ⟨unpaired_of_isEncodable rfl, g.lossless_toRows hroom⟩
      · exact ⟨unpaired_of_isEncodable rfl, .str htime⟩
  exact .object (Fields.nodup_ofList _) (fun f hf ↦ (hfields f (Fields.mem_ofList hf)).1)
    fun f hf ↦ (hfields f (Fields.mem_ofList hf)).2

private theorem toJson_of_lossless (h : Lossless room (g.toRecord metadata time))
    (hroom : room ≤ writer) :
    g.toJson writer metadata time = .ok (Json.write .indented (g.toRecord metadata time)) := by
  rw [toJson, Json.write?, h.survey hroom]
  rfl

theorem toJson_eq_ok {text : Text} (h : g.toJson writer metadata time = .ok text) :
    text = Json.write .indented (g.toRecord metadata time) := by
  obtain ⟨_, -, h⟩ := bind_eq_ok.1 h
  exact (Except.ok.inj h).symm

theorem Recordable.load_write (h : g.Recordable room metadata) (hroom : 2 ≤ room)
    (htime : Unpaired time) (hreader : room < reader) (subject : Text) :
    Json.Source.load subject (.text reader (Json.write .indented (g.toRecord metadata time))) =
      .ok (.object (g.recorded metadata time)) := by
  have hlossless := h.lossless_toRecord hroom htime
  rw [Json.load_write hlossless (hlossless.survey hreader), toRecord_eq h.names]

/-! ## What the text tells -/

private theorem text_injective : Function.Injective Cell.text :=
  @injective_comp_text _ id (fun _ _ h ↦ Text.singleton_inj.1 h)
    Text.singleton_ne_empty

private theorem toRows_injective : Function.Injective toRows := by
  intro g other h
  rw [toRows_eq, toRows_eq] at h
  have hrow : Function.Injective fun row : List Cell ↦ Value.list (row.map fun c ↦ .str c.text) :=
    fun row others h ↦ List.map_injective_iff.2
      (fun c d h ↦ text_injective (Value.str.inj h)) (Value.list.inj h)
  exact rowList_injective (List.map_injective_iff.2 hrow (Value.list.inj h))

private theorem eq_of_isRecord {fields : Fields} (h : g.IsRecord metadata time fields)
    (hother : other.IsRecord about later fields) : other = g := by
  have hrows := hother.grid.symm.trans h.grid
  rw [← toRows_eq, ← toRows_eq] at hrows
  exact toRows_injective (Option.some.inj hrows)

/-- **Records.** The text of a record is read as the record, and no other grid has that text,
whatever metadata and time are written with it. Writing and reading need room for the lists and
objects of the metadata, which are inside the record. -/
theorem toJson_readsBack (h : g.Recordable room metadata) (hroom : 2 ≤ room)
    (htime : Unpaired time) (hwriter : room < writer) (hreader : room < reader) (subject : Text) :
    ∃ text fields, g.toJson writer metadata time = .ok text ∧
      Json.Source.load subject (.text reader text) = .ok (.object fields) ∧
      g.IsRecord metadata time fields ∧
      ∀ other about later, Recordable room other about → Unpaired later →
        other.toJson writer about later = .ok text → other = g := by
  have hread := h.load_write hroom htime hreader subject
  have hrecord := g.isRecord_recorded metadata time
  refine ⟨_, _, toJson_of_lossless (h.lossless_toRecord hroom htime) hwriter, hread, hrecord,
    fun other about later hother hlater htext ↦ ?_⟩
  have hreadOther := hother.load_write hroom hlater hreader subject
  rw [← toJson_eq_ok htext, hread] at hreadOther
  have hfields := Value.object.inj (Except.ok.inj hreadOther)
  exact eq_of_isRecord hrecord (hfields ▸ other.isRecord_recorded about later)

/-- Cells that have to be escaped, one that has no text, and one outside the first plane. -/
def oddCells : Grid :=
  ⟨2, 2, #v[#v[Cell.hidden, '"'], #v['\n', CodePoint.ofNat 0x1F600]], by decide, by decide⟩

/-- Metadata that claims to be the cells, and an object inside. -/
def claimingMetadata : Fields :=
  [("grid", .list []), ("about", .object [("size", .int (-12)), ("author", .null)])]

theorem toJson_readsBack_oddCells :
    oddCells.Recordable 2 claimingMetadata ∧ Unpaired "noon" ∧
      ∃ text fields, oddCells.toJson 3 claimingMetadata "noon" = .ok text ∧
        Json.Source.load "recipe" (.text 3 text) = .ok (.object fields) ∧
        oddCells.IsRecord claimingMetadata "noon" fields ∧
        ∀ other about later, Recordable 2 other about → Unpaired later →
          other.toJson 3 about later = .ok text → other = oddCells := by
  have habout : Lossless 2 (.object [("size", .int (-12)), ("author", .null)]) := by
    refine .object (by decide) (by decide) fun f hf ↦ ?_
    rcases List.mem_cons.1 hf with rfl | hf
    · exact .int (by decide +kernel)
    · exact List.mem_singleton.1 hf ▸ .null
  have hrecordable : oddCells.Recordable 2 claimingMetadata := by
    refine ⟨by decide +kernel, by decide +kernel, by decide, by decide, fun f hf ↦ ?_⟩
    rcases List.mem_cons.1 hf with rfl | hf
    · exact .list fun _ hv ↦ absurd hv List.not_mem_nil
    · exact List.mem_singleton.1 hf ▸ habout
  have htime : Unpaired "noon" := by decide
  exact ⟨hrecordable, htime, toJson_readsBack hrecordable (by decide) htime (by decide)
    (by decide) "recipe"⟩

/-! ## What is lost -/

/-- The two halves of a surrogate pair, each by itself. -/
def halves : Text := ⟨[CodePoint.ofNat 0xD83D, CodePoint.ofNat 0xDE00]⟩

/-- An empty list inside so many others. -/
def nestedList : Nat → Value
  | 0 => .list []
  | n + 1 => .list [nestedList n]

private theorem survey_nestedList {room n : Nat} (h : room ≤ n) :
    Json.survey room (nestedList n) = .error .tooDeep := by
  induction n generalizing room with
  | zero =>
    obtain rfl := Nat.le_zero.1 h
    rfl
  | succ n ih =>
    cases room with
    | zero => rfl
    | succ room =>
      rw [nestedList, Json.survey, Json.surveyItems, ih (Nat.le_of_succ_le_succ h)]
      rfl

/-- Not all metadata comes back, even if it is a single text: the two halves of a surrogate pair are
read as one character. And however much room there is, some metadata cannot be written at all. -/
theorem not_forall_toJson_readsBack :
    (¬∀ (g : Grid) (name s time subject : Text) (writer reader : Nat), 2 < writer → 2 < reader →
      ∃ text fields, g.toJson writer [(name, .str s)] time = .ok text ∧
        Json.Source.load subject (.text reader text) = .ok (.object fields) ∧
        g.IsRecord [(name, .str s)] time fields) ∧
    ∀ (g : Grid) (time : Text) (writer : Nat),
      g.toJson writer [("about", nestedList writer)] time = .error .tooDeep := by
  refine ⟨fun hall ↦ ?_, fun g time writer ↦ ?_⟩
  · let character : Text := Text.singleton (CodePoint.ofNat 0x1F600)
    obtain ⟨text, fields, htext, hload, hrecord⟩ :=
      hall .single "name" halves "noon" "recipe" 3 3 (by decide) (by decide)
    -- the halves are written as the character is
    have hsame : Json.write .indented (Grid.single.toRecord [("name", .str halves)] "noon") =
        Json.write .indented (Grid.single.toRecord [("name", .str character)] "noon") := by
      decide +kernel
    have hrecordable : Grid.single.Recordable 2 [("name", .str character)] := by
      refine ⟨by decide +kernel, by decide +kernel, by decide, by decide, fun f hf ↦ ?_⟩
      exact List.mem_singleton.1 hf ▸ .str (by decide)
    rw [toJson_eq_ok htext, hsame,
      hrecordable.load_write (by decide) (by decide) (by decide)] at hload
    obtain rfl := Value.object.inj (Except.ok.inj hload)
    have hname := (hrecord.metadata "name" (by decide)).symm.trans
      ((Grid.single.isRecord_recorded _ _).metadata "name" (by decide))
    exact absurd (Value.str.inj (Option.some.inj hname)) (by decide)
  · obtain ⟨rest, hrecord⟩ : ∃ rest, g.toRecord [("about", nestedList writer)] time =
        .object (("about", nestedList writer) :: rest) := ⟨_, rfl⟩
    have hdeep : Json.survey writer (.object (("about", nestedList writer) :: rest)) =
        .error .tooDeep := by
      cases writer with
      | zero => rfl
      | succ writer =>
        have hinner : Json.survey writer (nestedList (writer + 1)) = .error .tooDeep :=
          survey_nestedList (Nat.le_succ writer)
        rw [Json.survey, Json.surveyFields, hinner]
        rfl
    rw [toJson, hrecord, Json.write?, hdeep]
    rfl

end TextArt.Grid
