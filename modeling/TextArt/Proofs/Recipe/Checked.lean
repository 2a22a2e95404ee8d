import TextArt.Proofs.Fields
import TextArt.Proofs.Schema
import TextArt.Recipe.Basic
import TextArt.Recipe.Composition

/-!
# What checked documents come from

A checked recipe has one operation for each item of the list in the document, and each operation
comes from the check that the name in the item asks for. The shapes of a checked composition come
from the items of its list in the same way.
-/

namespace TextArt

open Schema

variable {registry : FillRegistry}

namespace Recipe

private theorem readableTag_eq_ok {tag tag' : Value} (h : readableTag tag = .ok tag') :
    tag' = tag := by
  cases tag with
  | str s =>
    obtain ⟨t, ht, rfl⟩ := map_eq_ok.1 h
    rw [(decoded_eq_ok.1 ht).2]
  | _ => exact (Except.ok.inj h).symm

/-- A checked operation comes from an object that names one of the checks. -/
theorem checkOperation_eq_ok {v : Value} {o : Operation}
    (h : checkOperation registry v = .ok o) :
    ∃ fields name check, v = .object fields ∧ Readable fields ∧
      fields.lookup ("operation" : Text) = some (.str name) ∧
      (name, check) ∈ operationChecks registry ∧ check fields = .ok o := by
  cases v with
  | object fields =>
    rw [checkOperation] at h
    split at h
    · cases h
    · next tag htag =>
      obtain ⟨tag', htag', hchecked⟩ := bind_eq_ok.1 h
      obtain rfl := readableTag_eq_ok htag'
      split at hchecked
      · next name check hfound =>
        obtain ⟨s, hs, hfound⟩ := Option.bind_eq_some_iff.1 hfound
        obtain ⟨check', hcheck, hpair⟩ := Option.map_eq_some_iff.1 hfound
        obtain ⟨rfl, rfl⟩ := Prod.mk.inj hpair
        obtain ⟨_, hread, hok⟩ := bind_eq_ok.1 (under_eq_ok.1 hchecked)
        obtain ⟨hreadable, rfl⟩ := readable_eq_ok.1 hread
        obtain rfl : tag' = .str s := by
          cases tag' <;> simp [Value.text?] at hs
          rw [hs]
        exact ⟨_, s, check', rfl, hreadable, htag, mem_of_lookup hcheck, hok⟩
      · cases hchecked
  | _ => cases h

/-- A checked recipe comes from an object with a list of operations and a name. -/
theorem check_eq_ok {v : Value} {r : Recipe} (h : check registry v = .ok r) :
    ∃ fields spelling items output, v = .object fields ∧ Readable fields ∧
      operationsKey.find? fields = some (spelling, .list items) ∧
      items.map (checkOperation registry) = r.operations.map .ok ∧
      Key.find? (.of "output") fields = some (output, .str r.output) ∧
      noOthers fields [operationsKey, .of "output"] = .ok () := by
  obtain ⟨fields, hfields, h⟩ := bind_eq_ok.1 h
  obtain ⟨⟨operations, output, _⟩, hboth, h⟩ := bind_eq_ok.1 h
  obtain rfl := Except.ok.inj h
  obtain ⟨hoperations, hboth⟩ := both_eq_ok.1 hboth
  obtain ⟨houtput, hothers⟩ := both_eq_ok.1 hboth
  obtain ⟨spelling, list, hlist, hoperations⟩ := required_eq_ok.1 hoperations
  obtain ⟨spelling', name, hname, hname'⟩ := required_eq_ok.1 houtput
  obtain ⟨operations', hlistOf, hoperations⟩ := bind_eq_ok.1 hoperations
  split at hoperations
  · cases hoperations
  · obtain rfl := Except.ok.inj hoperations
    obtain ⟨items, rfl, hitems⟩ := listOf_eq_ok.1 hlistOf
    obtain ⟨rfl, -⟩ := someText_eq_ok.1 hname'
    obtain ⟨hobject, hreadable⟩ := record_eq_ok.1 hfields
    exact ⟨fields, spelling, items, spelling', hobject, hreadable, hlist, hitems, hname, hothers⟩

/-- Every operation of a checked recipe has passed one of the checks. -/
theorem exists_check_of_mem {v : Value} {r : Recipe} (h : check registry v = .ok r) {o : Operation}
    (ho : o ∈ r.operations) :
    ∃ fields name check, (name, check) ∈ operationChecks registry ∧ check fields = .ok o := by
  obtain ⟨_, _, items, _, -, -, -, hitems, -⟩ := check_eq_ok h
  have hmem : (.ok o : Checked Operation) ∈ r.operations.map .ok := List.mem_map_of_mem ho
  rw [← hitems] at hmem
  obtain ⟨item, -, hitem⟩ := List.mem_map.1 hmem
  obtain ⟨fields, name, check, -, -, -, hcheck, hok⟩ := checkOperation_eq_ok hitem
  exact ⟨fields, name, check, hcheck, hok⟩

/-! ## Fills -/

/-- The fill of an action, if it has one, has passed its check. -/
def Action.FillChecked (registry : FillRegistry) : Action → Prop
  | .generate _ fill => ∃ pattern params, FillSpec.check registry pattern params = .ok fill
  | _ => True

theorem fillChecked_of_mem_operationChecks {name : Text} {check : Fields → Checked Operation}
    (hcheck : (name, check) ∈ operationChecks registry) {fields : Fields} {o : Operation}
    (h : check fields = .ok o) : o.action.FillChecked registry := by
  simp only [operationChecks, List.mem_cons, List.not_mem_nil, or_false, Prod.mk.injEq] at hcheck
  rcases hcheck with ⟨-, rfl⟩ | ⟨-, rfl⟩ | ⟨-, rfl⟩ | ⟨-, rfl⟩ | ⟨-, rfl⟩ | ⟨-, rfl⟩ | ⟨-, rfl⟩
  · obtain ⟨_, -, h⟩ := bind_eq_ok.1 h
    obtain ⟨shape, -, h⟩ := bind_eq_ok.1 h
    obtain ⟨fill, hfill, h⟩ := bind_eq_ok.1 h
    obtain rfl := Except.ok.inj h
    exact ⟨_, _, hfill⟩
  · obtain ⟨_, -, h⟩ := bind_eq_ok.1 h
    obtain rfl := Except.ok.inj h
    trivial
  · obtain ⟨_, -, h⟩ := bind_eq_ok.1 h
    obtain rfl := Except.ok.inj h
    trivial
  · obtain ⟨_, -, h⟩ := bind_eq_ok.1 h
    obtain ⟨_, -, h⟩ := bind_eq_ok.1 h
    obtain rfl := Except.ok.inj h
    trivial
  · obtain ⟨_, -, h⟩ := bind_eq_ok.1 h
    obtain rfl := Except.ok.inj h
    trivial
  · obtain ⟨_, -, h⟩ := bind_eq_ok.1 h
    obtain rfl := Except.ok.inj h
    trivial
  · obtain ⟨_, -, h⟩ := bind_eq_ok.1 h
    obtain rfl := Except.ok.inj h
    trivial

/-- The fills of a checked recipe are checked. -/
theorem fillChecked_of_mem {v : Value} {r : Recipe} (h : check registry v = .ok r) {o : Operation}
    (ho : o ∈ r.operations) : o.action.FillChecked registry := by
  obtain ⟨fields, name, check, hcheck, hok⟩ := exists_check_of_mem h ho
  exact fillChecked_of_mem_operationChecks hcheck hok

end Recipe

/-! ## Compositions -/

namespace Composition

variable {s : PlacedShape}

theorem fillChecked_of_checkShape {v : Value} (h : checkShape registry v = .ok s) :
    ∃ pattern params, FillSpec.check registry pattern params = .ok s.fill := by
  obtain ⟨_, -, h⟩ := bind_eq_ok.1 h
  obtain ⟨_, -, h⟩ := bind_eq_ok.1 h
  obtain ⟨shape, -, h⟩ := bind_eq_ok.1 h
  obtain ⟨fill, hfill, h⟩ := bind_eq_ok.1 h
  obtain rfl := Except.ok.inj h
  exact ⟨_, _, hfill⟩

/-- Every shape of a checked composition has passed the check. -/
theorem exists_checkShape_of_mem {v : Value} {c : Composition} (h : check registry v = .ok c)
    (hs : s ∈ c.shapes) : ∃ item, checkShape registry item = .ok s := by
  obtain ⟨_, -, h⟩ := bind_eq_ok.1 h
  obtain ⟨_, hfields, h⟩ := bind_eq_ok.1 h
  obtain rfl := Except.ok.inj h
  obtain ⟨-, hfields⟩ := both_eq_ok.1 hfields
  obtain ⟨-, hfields⟩ := both_eq_ok.1 hfields
  rcases optional_eq_ok.1 (both_eq_ok.1 hfields).1 with ⟨-, hnone⟩ | ⟨_, _, -, hlist⟩
  · rw [hnone] at hs
    exact (List.not_mem_nil hs).elim
  · obtain ⟨items, rfl, hitems⟩ := listOf_eq_ok.1 hlist
    obtain ⟨item, -, hitem⟩ := List.mem_map.1 (hitems ▸ List.mem_map_of_mem hs)
    exact ⟨item, hitem⟩

/-- The fills of a checked composition are checked. -/
theorem fillChecked_of_mem {v : Value} {c : Composition} (h : check registry v = .ok c)
    (hs : s ∈ c.shapes) :
    ∃ pattern params, FillSpec.check registry pattern params = .ok s.fill := by
  obtain ⟨item, hitem⟩ := exists_checkShape_of_mem h hs
  exact fillChecked_of_checkShape hitem

end Composition

end TextArt
