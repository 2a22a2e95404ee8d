import TextArt.Export.Files
import TextArt.Proofs.Text.Parts

/-!
# Where drawings are saved

A bare name leads to a file right in the export directory, whatever dots it is made of: two dots
have no suffix, so they are the beginning of a name there and not a way up (`isChild_resolve`). What
a name stands for is no bare name any more, and it is written as it is read, so it stands for itself
(`resolve_resolve`, `Path.ofText_text`).
-/

namespace TextArt

namespace Path

variable {p q : Path} {s : Text}

/-! ## Suffixes -/

/-- The name has three parts: something, the last dot, and something after it. -/
def HasSuffix (name : Text) : Prop :=
  ∃ stem suffix : Text, stem ≠ "" ∧ suffix ≠ "" ∧ CodePoint.char '.' ∉ suffix.toList ∧
    name = stem ++ "." ++ suffix

theorem hasExtension_iff {name : Text} : hasExtension name = true ↔ HasSuffix name := by
  rw [hasExtension, Bool.and_eq_true, Bool.not_eq_true', List.isEmpty_eq_false_iff,
    decide_eq_true_iff]
  constructor
  · rintro ⟨htail, hlength⟩
    have hmem : CodePoint.char '.' ∈ name.toList := by
      refine Decidable.byContradiction fun hno ↦ ?_
      have hall := Text.forall_ne_of_not_mem (mt List.mem_reverse.1 hno)
      rw [List.takeWhile_eq_self_iff.2 hall, List.length_reverse] at hlength
      exact Nat.lt_irrefl _ (Nat.lt_of_succ_lt hlength)
    obtain ⟨before, after, hdot, hname⟩ := Text.exists_last hmem
    rw [hname, Text.takeWhile_reverse hdot] at htail hlength
    rw [List.length_reverse, List.length_append, List.length_cons] at hlength
    refine ⟨.ofList before, .ofList after, ?_, ?_, by rwa [Text.toList_ofList], ?_⟩
    · intro h
      rw [Text.ofList_eq_empty_iff.1 h, List.length_nil, Nat.zero_add] at hlength
      exact Nat.lt_irrefl _ hlength
    · exact fun h ↦ htail (List.reverse_eq_nil_iff.2 (Text.ofList_eq_empty_iff.1 h))
    · rw [← Text.toList_inj, hname]
      exact (Text.toList_joined (.char '.') rfl _ _).symm
  · rintro ⟨stem, suffix, hstem, hsuffix, hdot, rfl⟩
    rw [@Text.toList_joined (.char '.') "." rfl, Text.takeWhile_reverse hdot]
    refine ⟨fun h ↦ hsuffix (Text.toList_eq_nil_iff.1 (List.reverse_eq_nil_iff.1 h)), ?_⟩
    have hlength : 0 < stem.toList.length :=
      List.length_pos_iff.2 fun h ↦ hstem (Text.toList_eq_nil_iff.1 h)
    rw [List.length_reverse, List.length_append, List.length_cons]
    omega

/-! ## Reading what is written -/

/-- The name says something, and it is a single one. -/
structure IsSingle (name : Text) : Prop where
  /-- The name says something. -/
  said : isName name.toList = true
  /-- The name does not lead on to another one. -/
  slash : CodePoint.char '/' ∉ name.toList

/-- The names are such as a text can hold. -/
def Settled (p : Path) : Prop := ∀ name ∈ p.names, IsSingle name

private theorem settled_ofText (s : Text) : (ofText s).Settled := by
  intro name hname
  obtain ⟨part, hpart, rfl⟩ := List.mem_map.1 hname
  obtain ⟨hmem, hname⟩ := List.mem_filter.1 hpart
  have hslash : CodePoint.char '/' ∉ part :=
    fun hslash ↦ (Text.mem_of_mem_splitOn hmem hslash).2 rfl
  exact ⟨by rwa [Text.toList_ofList], by rwa [Text.toList_ofList]⟩

private theorem namesOf_slash (s : List CodePoint) : namesOf (.char '/' :: s) = namesOf s := by
  rw [namesOf, List.splitOn_cons_eq_if_modifyHead, if_pos (beq_self_eq_true _), namesOf]
  rfl

private theorem namesOf_intercalate {names : List Text}
    (h : ∀ name ∈ names, IsSingle name) :
    namesOf (Text.intercalate "/" names).toList = names := by
  by_cases hne : names = []
  · rw [hne]
    rfl
  have hparts : ∀ part ∈ names.map Text.toList,
      isName part = true ∧ CodePoint.char '/' ∉ part := by
    intro part hpart
    obtain ⟨name, hname, rfl⟩ := List.mem_map.1 hpart
    exact ⟨(h name hname).said, (h name hname).slash⟩
  have hsplit :
      (Text.intercalate "/" names).toList.splitOn (.char '/') = names.map Text.toList := by
    rw [Text.toList_intercalate]
    exact List.splitOn_intercalate (.char '/') (fun part hpart ↦ (hparts part hpart).2)
      (mt List.map_eq_nil_iff.1 hne)
  rw [namesOf, hsplit, List.filter_eq_self.2 fun part hpart ↦ (hparts part hpart).1, List.map_map]
  exact (List.map_congr_left fun _ _ ↦ Text.ofList_toList _).trans (List.map_id _)

private theorem namesOf_startText (start : Start) (s : List CodePoint) :
    namesOf (start.text.toList ++ s) = namesOf s := by
  cases start with
  | here => rfl
  | root => exact namesOf_slash s
  | doubleRoot => exact (namesOf_slash _).trans (namesOf_slash s)

theorem startOf_startText (start : Start) {s : List CodePoint} (hs : s.head? ≠ some (.char '/')) :
    startOf (start.text.toList ++ s) = start := by
  cases s with
  | nil => cases start <;> rfl
  | cons c rest =>
    have hc : c ≠ .char '/' := fun h ↦ hs (congrArg some h)
    cases start <;> simp [startOf, Start.text, hc]

private theorem head?_intercalate_ne {names : List Text}
    (h : ∀ name ∈ names, IsSingle name) :
    (Text.intercalate "/" names).toList.head? ≠ some (.char '/') := by
  cases names with
  | nil => exact fun h ↦ nomatch h
  | cons first rest =>
    obtain ⟨hname, hslash⟩ := h first List.mem_cons_self
    have hne : first.toList ≠ [] := fun hempty ↦ by
      rw [hempty] at hname
      exact absurd hname (by decide)
    rw [Text.toList_intercalate, List.map_cons, Text.head?_intercalate hne]
    exact fun h ↦ hslash (List.mem_of_head? h)

private theorem ofText_text (h : p.Settled) : ofText p.text = p := by
  rw [text]
  split
  · next hhere =>
    obtain ⟨start, names⟩ := p
    obtain ⟨rfl, rfl⟩ := hhere
    decide
  · rw [ofText, Text.toList_append, startOf_startText _ (head?_intercalate_ne h),
      namesOf_startText, namesOf_intercalate h]

theorem ofText_of_slash_not_mem (h : CodePoint.char '/' ∉ s.toList) :
    ofText s = ⟨.here, if isName s.toList then [s] else []⟩ := by
  have hstart : startOf s.toList = .here :=
    startOf_startText .here fun hhead ↦ h (List.mem_of_head? hhead)
  have hsplit : s.toList.splitOn (.char '/') = [s.toList] := List.splitOn_eq_singleton h
  rw [ofText, hstart, namesOf, hsplit, List.filter_cons, List.filter_nil]
  cases isName s.toList with
  | false => rfl
  | true => rw [if_pos rfl, if_pos rfl, List.map_singleton, Text.ofList_toList]

/-! ## Directories -/

theorem Settled.slash_not_mem_name (h : p.Settled) : CodePoint.char '/' ∉ p.name.toList := by
  rw [Path.name]
  cases hlast : p.names.getLast? with
  | none => exact List.not_mem_nil
  | some last => exact (h last (List.mem_of_getLast? hlast)).slash

private theorem Settled.join (hp : p.Settled) (hq : q.Settled) : (p.join q).Settled := by
  rw [Path.join]
  split
  · intro name hname
    exact (List.mem_append.1 hname).elim (hp name) (hq name)
  · exact hq

theorem settled_bare {name : Text} (hname : IsSingle name) : Settled ⟨.here, [name]⟩ :=
  List.forall_mem_singleton.2 hname

/-- The names that say nothing, and the way up. -/
def unusual : List Text := ["", ".", ".."]

/-- The path leads to something right in a directory: the last name is a name of its own and not a
way up. -/
structure IsChild (p directory : Path) (last : Text) : Prop where
  /-- What leads to the last name. -/
  parent : p.parent = directory
  /-- The last name. -/
  name : p.name = last
  /-- The last name is a single one. -/
  slash : CodePoint.char '/' ∉ last.toList
  /-- The last name says something, and something else than the way up. -/
  plain : last ∉ unusual

private theorem isChild_join (directory : Path) {last : Text}
    (hslash : CodePoint.char '/' ∉ last.toList) (hplain : last ∉ unusual) :
    (directory.join ⟨.here, [last]⟩).IsChild directory last where
  parent := by
    rw [Path.join, if_pos rfl, Path.parent, List.dropLast_concat]
  name := by
    rw [Path.join, if_pos rfl, Path.name, List.getLast?_concat, Option.getD_some]
  slash := hslash
  plain := hplain

theorem isName_iff : isName s.toList = true ↔ s ≠ "" ∧ s ≠ "." := by
  have hdot : s.toList = [.char '.'] ↔ s = "." := @Text.toList_inj s "."
  rw [isName, Bool.and_eq_true, bne_iff_ne, bne_iff_ne, Ne, Ne, Text.toList_eq_nil_iff, hdot]

theorem isName_of_not_mem (h : s ∉ unusual) : isName s.toList = true :=
  isName_iff.2 ⟨fun hempty ↦ h (by rw [hempty]; decide), fun hdot ↦ h (by rw [hdot]; decide)⟩

private theorem IsChild.isSingle {directory : Path} {last : Text} (h : p.IsChild directory last) :
    IsSingle last where
  said := isName_of_not_mem h.plain
  slash := h.slash

private theorem isBare_ofText (h : CodePoint.char '/' ∉ s.toList) : (ofText s).isBare = true := by
  rw [isBare, beq_iff_eq, ofText_of_slash_not_mem h, parent, here]
  split <;> rfl

private theorem name_ofText (h : CodePoint.char '/' ∉ s.toList) :
    (ofText s).name = if s = "." then ("" : Text) else s := by
  rw [ofText_of_slash_not_mem h]
  by_cases hname : isName s.toList = true
  · rw [if_pos hname, if_neg (isName_iff.1 hname).2]
    rfl
  · rw [if_neg hname]
    split
    · rfl
    · next hdot =>
      have hempty : s = "" := Decidable.byContradiction fun h ↦ hname (isName_iff.2 ⟨h, hdot⟩)
      rw [hempty]
      rfl

end Path

/-! ## What a name stands for -/

/-- The directory is another one than the current one, and the extension makes a name of any
text. -/
structure ExportSettings.Proper (settings : ExportSettings) : Prop where
  /-- The directory can be read from a text. -/
  settled : settings.directory.Settled
  /-- The directory is not the current one. -/
  directory : settings.directory ≠ .here
  /-- The extension does not lead anywhere. -/
  slash : CodePoint.char '/' ∉ settings.extension.toList
  /-- The extension is longer than two dots. -/
  long : 2 < settings.extension.toList.length

private theorem Settings.standard_files_proper : Settings.standard.files.Proper where
  settled := Path.settled_bare ⟨by decide, by decide⟩
  directory := by decide
  slash := by decide
  long := by decide

namespace ExportSettings

variable {settings : ExportSettings} {unique : Text} {given : Path}

/-- The last name of the path that a bare name stands for. -/
def fileName (settings : ExportSettings) (unique name : Text) : Text :=
  if Path.hasExtension name then name else name ++ unique ++ settings.extension

theorem slash_not_mem_fileName (hproper : settings.Proper)
    (hunique : CodePoint.char '/' ∉ unique.toList) {name : Text}
    (hname : CodePoint.char '/' ∉ name.toList) :
    CodePoint.char '/' ∉ (settings.fileName unique name).toList := by
  rw [fileName]
  split
  · exact hname
  · rw [Text.toList_append, Text.toList_append]
    simp only [List.mem_append, not_or]
    exact ⟨⟨hname, hunique⟩, hproper.slash⟩

theorem fileName_plain (hproper : settings.Proper) (unique name : Text) :
    settings.fileName unique name ∉ Path.unusual := by
  rw [fileName]
  split
  · next hsuffix =>
    intro hmem
    have hnone : ∀ special ∈ Path.unusual, Path.hasExtension special = false := by decide
    exact Bool.false_ne_true ((hnone name hmem).symm.trans hsuffix)
  · intro hmem
    have hshort : ∀ special ∈ Path.unusual, special.toList.length ≤ 2 := by decide
    have hlength := hshort _ hmem
    rw [Text.toList_append, List.length_append] at hlength
    have := hproper.long
    omega

theorem resolve_of_not_isBare (h : given.isBare = false) :
    settings.resolve unique given = given := by
  rw [resolve, h]
  rfl

theorem resolve_of_isBare (hproper : settings.Proper)
    (hunique : CodePoint.char '/' ∉ unique.toList) (hgiven : given.Settled)
    (h : given.isBare = true) :
    settings.resolve unique given =
      settings.directory.join ⟨.here, [settings.fileName unique given.name]⟩ := by
  have hslash := slash_not_mem_fileName hproper hunique hgiven.slash_not_mem_name
  have hplain := fileName_plain hproper unique given.name
  rw [resolve, h, Bool.not_true, if_neg Bool.false_ne_true]
  by_cases hsuffix : Path.hasExtension given.name = true
  · rw [if_pos hsuffix, fileName, if_pos hsuffix]
  · rw [fileName, if_neg hsuffix] at hslash hplain ⊢
    have hname := Path.isName_of_not_mem hplain
    rw [if_neg hsuffix, Path.ofText_of_slash_not_mem hslash, if_pos hname]

/-- **Bare names.** A bare name leads to something right in the directory. -/
theorem isChild_resolve (hproper : settings.Proper) (hunique : CodePoint.char '/' ∉ unique.toList)
    (hgiven : given.Settled) (h : given.isBare = true) :
    (settings.resolve unique given).IsChild settings.directory
      (settings.fileName unique given.name) := by
  rw [resolve_of_isBare hproper hunique hgiven h]
  exact Path.isChild_join _ (slash_not_mem_fileName hproper hunique hgiven.slash_not_mem_name)
    (fileName_plain hproper unique given.name)

private theorem isBare_resolve (hproper : settings.Proper)
    (hunique : CodePoint.char '/' ∉ unique.toList)
    (hgiven : given.Settled) : (settings.resolve unique given).isBare = false := by
  cases h : given.isBare with
  | false => rw [resolve_of_not_isBare h, h]
  | true =>
    rw [Path.isBare, (isChild_resolve hproper hunique hgiven h).parent]
    exact beq_false_of_ne hproper.directory

private theorem settled_resolve (hproper : settings.Proper)
    (hunique : CodePoint.char '/' ∉ unique.toList)
    (hgiven : given.Settled) : (settings.resolve unique given).Settled := by
  cases h : given.isBare with
  | false => rwa [resolve_of_not_isBare h]
  | true =>
    rw [resolve_of_isBare hproper hunique hgiven h]
    have hchild := isChild_resolve hproper hunique hgiven h
    exact hproper.settled.join (Path.settled_bare hchild.isSingle)

/-- **Names stand for themselves.** What a name stands for is taken as it is, and so is its text. -/
theorem resolve_resolve (hproper : settings.Proper) (hunique : CodePoint.char '/' ∉ unique.toList)
    (hgiven : given.Settled) (again : Text) :
    settings.resolve again (settings.resolve unique given) = settings.resolve unique given :=
  resolve_of_not_isBare (isBare_resolve hproper hunique hgiven)

/-- Where drawings are saved, as the settings come. A file name without slashes stands for a file
right in the export directory, of that name if it has a suffix and of a new one that begins with it
otherwise. The path that any file name stands for stands for itself, and so does its text. -/
theorem resolve_standard {unique : Text} (hunique : CodePoint.char '/' ∉ unique.toList)
    (given : Text) :
    ∃ p, Settings.standard.files.resolve unique (.ofText given) = p ∧
      (CodePoint.char '/' ∉ given.toList →
        ∃ last, p.IsChild Settings.standard.files.directory last ∧
        (Path.HasSuffix given → last = given) ∧
        (¬ Path.HasSuffix given → last =
          (if given = "." then ("" : Text) else given) ++ unique ++
            Settings.standard.files.extension)) ∧
      ∀ again, Settings.standard.files.resolve again p = p ∧
        Settings.standard.files.resolve again (.ofText p.text) = p := by
  have hproper := Settings.standard_files_proper
  have hsettled := Path.settled_ofText given
  refine ⟨_, rfl, fun hslash ↦ ⟨_, isChild_resolve hproper hunique hsettled
    (Path.isBare_ofText hslash), fun hsuffix ↦ ?_, fun hsuffix ↦ ?_⟩, fun again ↦ ⟨?_, ?_⟩⟩
  · rw [Path.name_ofText hslash]
    have hdot : given ≠ "." := by
      rintro rfl
      exact absurd (Path.hasExtension_iff.2 hsuffix) (by decide)
    rw [if_neg hdot, fileName, if_pos (Path.hasExtension_iff.2 hsuffix)]
  · rw [Path.name_ofText hslash]
    split
    · rfl
    · rw [fileName, if_neg (mt Path.hasExtension_iff.1 hsuffix)]
  · exact resolve_resolve hproper hunique hsettled again
  · rw [Path.ofText_text (settled_resolve hproper hunique hsettled)]
    exact resolve_resolve hproper hunique hsettled again

/-- Two dots are the beginning of a name in the export directory, and the path of that file is taken
as it is. -/
theorem resolve_two_dots :
    CodePoint.char '/' ∉ ("1d7cf0a2" : Text).toList ∧
      (Settings.standard.files.resolve "1d7cf0a2" (.ofText "..")).IsChild
        Settings.standard.files.directory "..1d7cf0a2.txt" ∧
      Settings.standard.files.resolve "58e3b946" (.ofText "ascii-exports/..1d7cf0a2.txt") =
        .ofText "ascii-exports/..1d7cf0a2.txt" := by
  have hunique : CodePoint.char '/' ∉ ("1d7cf0a2" : Text).toList := by decide
  obtain ⟨p, hp, hchild, hagain⟩ := resolve_standard hunique ".."
  obtain ⟨last, hlast, -, hnew⟩ := hchild (by decide)
  have hsuffix : ¬ Path.HasSuffix ".." := mt Path.hasExtension_iff.2 (by decide)
  have hpath : p = .ofText "ascii-exports/..1d7cf0a2.txt" := hp.symm.trans (by decide)
  have htext : p.text = "ascii-exports/..1d7cf0a2.txt" := by rw [hpath]; decide
  refine ⟨hunique, ?_, ?_⟩
  · rw [hnew hsuffix] at hlast
    rw [hp]
    exact hlast
  · rw [← htext, (hagain "58e3b946").2, htext, hpath]

end ExportSettings

end TextArt
