import ObjectStorage.Settings.Schema
import Mathlib.Data.List.Induction
import Mathlib.Data.List.Nodup

/-! Fields that are declared over and over: each name keeps the place where it was declared first,
and means what was declared of it last (`Schema.ofLayers_gathers`). -/

namespace ObjectStorage.Schema

/-- The fields that declarations come to, oldest first. -/
structure Gathers (declared fields : List Field) : Prop where
  once : (fields.map (·.name)).Nodup
  /-- The names stand in the order in which they were declared first. -/
  names : fields.map (·.name) = (declared.map (·.name)).eraseDups
  latest : ∀ field ∈ fields, ∃ before after, declared = before ++ field :: after ∧
    ∀ other ∈ after, other.name ≠ field.name

variable {declared fields : List Field} {field : Field} {name : String}

theorem field?_isSome_iff : (field? fields name).isSome = true ↔ name ∈ fields.map (·.name) := by
  simp [field?, List.find?_isSome]

theorem names_redeclared (fields : List Field) (field : Field) :
    (fields.map fun old => if old.name = field.name then field else old).map (·.name) =
      fields.map (·.name) := by
  rw [List.map_map]
  apply List.map_congr_left
  intro old _
  simp only [Function.comp_apply]
  split
  · rename_i same
    exact same.symm
  · rfl

theorem gathers_nil : Gathers [] [] where
  once := .nil
  names := rfl
  latest := by simp

/-- A field that was declared last stays so, unless its name is declared again. -/
theorem Gathers.latest_snoc (gathers : Gathers declared fields) {old : Field} (member : old ∈ fields)
    (other : field.name ≠ old.name) :
    ∃ before after, declared ++ [field] = before ++ old :: after ∧
      ∀ later ∈ after, later.name ≠ old.name := by
  obtain ⟨before, after, rfl, last⟩ := gathers.latest old member
  refine ⟨before, after ++ [field], by simp, ?_⟩
  intro later member
  rcases List.mem_append.mp member with earlier | here
  · exact last later earlier
  · rwa [List.mem_singleton.mp here]

theorem Gathers.redeclare (gathers : Gathers declared fields)
    (known : field.name ∈ fields.map (·.name)) :
    Gathers (declared ++ [field])
      (fields.map fun old => if old.name = field.name then field else old) where
  once := by
    rw [names_redeclared]
    exact gathers.once
  names := by
    have before : field.name ∈ declared.map (·.name) := by
      rwa [← List.mem_eraseDups, ← gathers.names]
    have nothing : [field.name].removeAll (declared.map (·.name)) = [] := by
      simpa [List.removeAll] using before
    rw [names_redeclared, List.map_append, List.map_singleton, List.eraseDups_append, nothing,
      List.eraseDups_nil, List.append_nil]
    exact gathers.names
  latest := by
    intro new member
    obtain ⟨old, present, rfl⟩ := List.mem_map.mp member
    split
    · exact ⟨declared, [], rfl, by simp⟩
    · rename_i other
      exact gathers.latest_snoc present (Ne.symm other)

theorem Gathers.append (gathers : Gathers declared fields)
    (unknown : field.name ∉ fields.map (·.name)) :
    Gathers (declared ++ [field]) (fields ++ [field]) where
  once := by
    rw [List.map_append, List.map_singleton]
    exact gathers.once.append (List.nodup_singleton _) (List.disjoint_singleton.mpr unknown)
  names := by
    have before : field.name ∉ declared.map (·.name) := by
      rwa [← List.mem_eraseDups, ← gathers.names]
    have alone : [field.name].removeAll (declared.map (·.name)) = [field.name] := by
      simpa [List.removeAll] using before
    rw [List.map_append, List.map_append, List.map_singleton, List.eraseDups_append, alone,
      gathers.names]
    rfl
  latest := by
    intro new member
    rcases List.mem_append.mp member with old | here
    · have other : field.name ≠ new.name := by
        intro same
        exact unknown (same ▸ List.mem_map_of_mem old)
      exact gathers.latest_snoc old other
    · rw [List.mem_singleton.mp here]
      exact ⟨declared, [], rfl, by simp⟩

theorem Gathers.declare (gathers : Gathers declared fields) (field : Field) :
    Gathers (declared ++ [field]) (declare fields field) := by
  unfold Schema.declare
  split
  · rename_i known
    exact gathers.redeclare (field?_isSome_iff.mp known)
  · rename_i unknown
    exact gathers.append fun known => unknown (field?_isSome_iff.mpr known)

theorem gathers_foldl (declared : List Field) :
    Gathers declared (declared.foldl Schema.declare []) := by
  induction declared using List.reverseRecOn with
  | nil => exact gathers_nil
  | append_singleton declared field ih =>
    rw [List.foldl_append]
    exact ih.declare field

/-- Layers come to fields as if all was declared in one, from the first layer to the last. -/
theorem ofLayers_gathers (layers : List Schema) :
    Gathers (layers.flatMap (·.fields)) (ofLayers layers).fields :=
  gathers_foldl _

end ObjectStorage.Schema
