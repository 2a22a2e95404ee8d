import TextArt.Proofs.Fill.Calls
import TextArt.Proofs.Fill.Spelling

/-!
# Parameters that a fill does not have

A fill takes the parameters that its names spell, and refuses everything else before it paints. What
it fails over depends on the name alone. The two arguments that every fill is applied with, the grid
and the name of the fill, come first: a parameter that has one of their names collides with them,
and that is a misuse of the call, not a refusal of the parameter.
-/

namespace TextArt

namespace Pattern

variable {p : Pattern} {name : Text}

/-- The name spells a parameter of the pattern. -/
def Knows (p : Pattern) (name : Text) : Prop :=
  ∃ param ∈ p.parameters, FillRegistry.Spells name param

theorem knows_iff : p.Knows name ↔ FillRegistry.snakeCase name ∈ p.parameters := by
  have hplain : ∀ param ∈ p.parameters, param ≠ "" ∧ ∀ t ∈ param.toList, Text.IsPlain t := by
    have hall : ∀ param ∈ p.parameters,
        param ≠ "" ∧ (param.toList.all fun t ↦ decide (Text.IsPlain t)) = true := by
      cases p <;> decide
    simpa using hall
  constructor
  · rintro ⟨param, hparam, hspells⟩
    obtain ⟨hne, hchars⟩ := hplain param hparam
    rwa [(FillRegistry.snakeCase_eq_iff hne hchars).2 hspells]
  · intro h
    obtain ⟨hne, hchars⟩ := hplain _ h
    exact ⟨_, h, (FillRegistry.snakeCase_eq_iff hne hchars).1 rfl⟩

private theorem takes_eq_true_iff (hp : p ≠ .edges) :
    p.takes name = true ↔ name ∈ p.parameters := by
  unfold takes
  split
  · exact absurd rfl hp
  · exact List.contains_iff_mem

end Pattern

namespace FillRegistry

/-- Why parameters are turned down. -/
inductive Refusal (name : Text) (p : Pattern) (params : Fields) : Failure → Prop where
  /-- One of them has the name of an argument that every fill is applied with. -/
  | misuse (h : ∃ q ∈ params, q.1 = "grid" ∨ q.1 = "name") : Refusal name p params .wrongType
  /-- None has, and one of them is not a parameter of the fill. -/
  | unexpected {q : Text × Value} (hown : ∀ q ∈ params, q.1 ≠ "grid" ∧ q.1 ≠ "name")
    (hq : q ∈ params) (hunknown : ¬p.Knows q.1) :
    Refusal name p params (.unexpectedParameter (.str name) (snakeCase q.1) (converted params))
  /-- None has, and the grid is given a second time in another spelling. -/
  | repeated (hown : ∀ q ∈ params, q.1 ≠ "grid" ∧ q.1 ≠ "name")
    (hgrid : ∃ q ∈ params, snakeCase q.1 = "grid") :
    Refusal name p params (.repeatedParameter (.str name) "grid" (converted params))

variable {r : FillRegistry} {name : Text} {fill : Fill} {params : Fields}

theorem mem_converted_names {key : Text} :
    key ∈ (converted params).map Prod.fst ↔ ∃ q ∈ params, snakeCase q.1 = key := by
  rw [converted, Fields.mem_names_ofList, List.map_map, List.mem_map]
  rfl

private theorem find?_of_unknown (hpattern : fill.pattern ≠ .edges)
    (hunknown : ∃ q ∈ params, ¬fill.pattern.Knows q.1) :
    ∃ q ∈ params, ¬fill.pattern.Knows q.1 ∧ ∃ v,
      (converted params).find? (fun p ↦ !fill.pattern.takes p.1) = some (snakeCase q.1, v) := by
  obtain ⟨q, hq, hnot⟩ := hunknown
  obtain ⟨p, hp, hname⟩ := List.mem_map.1 (mem_converted_names.2 ⟨q, hq, rfl⟩)
  have hfind : ((converted params).find? fun p ↦ !fill.pattern.takes p.1).isSome := by
    rw [List.find?_isSome]
    refine ⟨p, hp, ?_⟩
    rw [Pattern.knows_iff, ← Pattern.takes_eq_true_iff hpattern, ← hname] at hnot
    simpa using hnot
  obtain ⟨⟨unknown, v⟩, hfound⟩ := Option.isSome_iff_exists.1 hfind
  obtain ⟨q', hq', hname'⟩ := mem_converted_names.1
    (List.mem_map_of_mem (f := Prod.fst) (List.mem_of_find?_eq_some hfound))
  obtain rfl : snakeCase q'.1 = unknown := hname'
  have htaken := List.find?_some hfound
  rw [Bool.not_eq_true', ← Bool.not_eq_true, Pattern.takes_eq_true_iff hpattern] at htaken
  exact ⟨q', hq', mt Pattern.knows_iff.1 htaken, v, hfound⟩

/-- With a parameter that it does not have, a fill fails on every grid, and always in the same
way. -/
theorem exists_refusal (hfill : r.find? name = some fill) (hpattern : fill.pattern ≠ .edges)
    (hunknown : ∃ q ∈ params, ¬fill.pattern.Knows q.1) :
    ∃ cause, Refusal name fill.pattern params cause ∧
      ∀ settings g, r.apply settings (.str name) g params = .error cause := by
  by_cases hany : ∃ q ∈ params, q.1 = "grid" ∨ q.1 = "name"
  · refine ⟨.wrongType, .misuse hany, fun settings g ↦ ?_⟩
    rw [apply, if_pos (by simpa using hany)]
  have hown : ∀ q ∈ params, q.1 ≠ "grid" ∧ q.1 ≠ "name" := by simpa using hany
  have hfirst : (params.any fun q ↦ q.1 == "grid" || q.1 == "name") = false := by simpa using hown
  have happly (settings : FillSettings) (g : Grid) :
      r.apply settings (.str name) g params =
        if ((converted params).lookup ("grid" : Text)).isSome then
          .error (.repeatedParameter (.str name) "grid" (converted params))
        else paintTaken settings (.str name) g (converted params) fill := by
    rw [apply, hfirst, if_neg Bool.false_ne_true, get_eq_ok.2 hfill]
    rfl
  simp only [happly]
  by_cases hgrid : ((converted params).lookup ("grid" : Text)).isSome
  · obtain ⟨v, hv⟩ := Option.isSome_iff_exists.1 hgrid
    have hname : ("grid" : Text) ∈ (converted params).map Prod.fst :=
      List.mem_map_of_mem (mem_of_lookup hv)
    refine ⟨_, .repeated hown (mem_converted_names.1 hname), fun settings g ↦ ?_⟩
    rw [if_pos hgrid]
  · obtain ⟨q, hq, hnot, v, hfound⟩ := find?_of_unknown hpattern hunknown
    refine ⟨_, .unexpected hown hq hnot, fun settings g ↦ ?_⟩
    rw [if_neg hgrid, paintTaken, hfound]

/-- With nothing but parameters that it has, a fill paints with them. -/
theorem apply_of_knows (hfill : r.find? name = some fill)
    (hknows : ∀ q ∈ params, fill.pattern.Knows q.1) (settings : FillSettings) (g : Grid) :
    r.apply settings (.str name) g params =
      fill.pattern.paint settings g (converted params) := by
  have hmem : ∀ q ∈ params, snakeCase q.1 ∈ fill.pattern.parameters :=
    fun q hq ↦ Pattern.knows_iff.1 (hknows q hq)
  refine apply_of_taken settings hfill g (fun q hq ↦ ?_) fun p hp ↦ ?_
  · -- the names of the arguments of the call are converted to themselves
    obtain ⟨-, hgrid, hname⟩ := Pattern.snakeCase_of_mem_parameters (hmem q hq)
    constructor
    · intro heq
      rw [heq] at hgrid
      exact hgrid (by decide +kernel)
    · intro heq
      rw [heq] at hname
      exact hname (by decide +kernel)
  · obtain ⟨q, hq, heq⟩ := mem_converted_names.1 (List.mem_map_of_mem (f := Prod.fst) hp)
    rw [← heq]
    exact ⟨(Pattern.snakeCase_of_mem_parameters (hmem q hq)).2.1,
      Pattern.takes_of_mem_parameters (hmem q hq)⟩

end FillRegistry

end TextArt
