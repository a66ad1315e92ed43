import ShapeGraph.Shape.Edge

namespace ShapeGraph.Kind

variable {k : Kind} {name : String}

def plainEntries : List String :=
  ["type", "traits", "members", "member", "key", "value", "version", "rename"]

theorem not_mem_of_plain (k : Kind) {name : String} (h : name ∈ plainEntries) :
    name ∉ k.referenceFields ∧ name ∉ k.referenceLists ∧ name ∉ k.referenceMaps := by
  revert name
  cases k with
  | simple k => simp [referenceFields, referenceLists, referenceMaps]
  | _ => decide

theorem not_mem_plain_of_reference
    (h : name ∈ k.referenceFields ∨ name ∈ k.referenceLists ∨ name ∈ k.referenceMaps) :
    name ∉ plainEntries := by
  intro hplain
  obtain ⟨hfields, hlists, hmaps⟩ := k.not_mem_of_plain hplain
  rcases h with h | h | h
  · exact hfields h
  · exact hlists h
  · exact hmaps h

theorem mem_slots_of_memberField (h : name ∈ k.memberFields) :
    name ∈ ["member", "key", "value"] := by
  revert name
  cases k with
  | simple k => simp [memberFields]
  | _ => decide

theorem not_mem_slots_of_referenceField (h : name ∈ k.referenceFields) :
    name ∉ ["member", "key", "value"] := by
  have hplain : ["member", "key", "value"] ⊆ plainEntries := by decide
  exact fun hname => (k.not_mem_of_plain (hplain hname)).1 h

theorem ne_members_of_referenceMap (h : name ∈ k.referenceMaps) : name ≠ "members" := by
  rintro rfl
  exact (k.not_mem_of_plain (by decide)).2.2 h

end ShapeGraph.Kind
