import ShapeGraph.Proofs.Fields
import ShapeGraph.Proofs.Locality.Change
import ShapeGraph.Proofs.Model.Views
import ShapeGraph.Proofs.Selector.Chain

namespace ShapeGraph

theorem Scope.allows_ofIds_perm {ids ids' : List String} (h : ids.Perm ids') (target : String) :
    (Scope.ofIds ids).allows target = (Scope.ofIds ids').allows target := by
  rw [Scope.ofIds, Scope.ofIds, h.isEmpty_eq]
  split
  · rfl
  · exact h.contains_eq

theorem ShapeCheck.checkJson_congr {scope scope' : Scope}
    (h : ∀ target, scope.allows target = scope'.allows target) (id : String) (v : Json) :
    checkJson scope id v = checkJson scope' id v := by
  rw [checkJson_eq_filter scope, checkJson_eq_filter scope']
  apply List.filter_congr
  intro p _
  simp only [isLeft, h]

theorem DocumentCheck.checkShapes_obj (entries : Fields Json) :
    checkShapes (some (.obj entries)) = if entries.isEmpty then [⟨"shapes", .shapesEmpty⟩]
      else entries.flatMap fun (key, node) => checkEntry key node := by
  cases entries <;> rfl

theorem DocumentCheck.checkShapes_perm {entries entries' : Fields Json}
    (h : entries.Perm entries') :
    (checkShapes (some (.obj entries))).Perm (checkShapes (some (.obj entries'))) := by
  rw [checkShapes_obj, checkShapes_obj, h.isEmpty_eq]
  split
  · exact .refl _
  · exact h.flatMap_right _

namespace Model

structure Reorders (m m' : Model) : Prop where
  version : m.version = m'.version
  metadata : m.metadata = m'.metadata
  shapes : ∃ entries entries', m.shapes = some (.obj entries) ∧ m'.shapes = some (.obj entries')
    ∧ entries.Perm entries'

namespace Reorders

variable {m m' : Model} (h : m.Reorders m')

include h

theorem entries : m.entries.Perm m'.entries := by
  obtain ⟨entries, entries', hs, hs', hperm⟩ := h.shapes
  rw [entries_of_shapes hs, entries_of_shapes hs']
  exact hperm

theorem ids : m.ids.Perm m'.ids := h.entries.map Prod.fst

theorem nodes : m.nodes.Perm m'.nodes := h.entries.filter _

theorem allows_scope (references : Bool) (target : String) :
    (m.scope references).allows target = (m'.scope references).allows target := by
  cases references with
  | false => rfl
  | true => exact Scope.allows_ofIds_perm h.ids target

theorem checkDocument : (DocumentCheck.check m).Perm (DocumentCheck.check m') := by
  obtain ⟨entries, entries', hs, hs', hperm⟩ := h.shapes
  rw [DocumentCheck.check, DocumentCheck.check, h.version, h.metadata, hs, hs']
  exact (DocumentCheck.checkShapes_perm hperm).append_left _

theorem problems (checks : Checks) : (m.problems checks).Perm (m'.problems checks) := by
  have hshape : shapeProblems (m.scope checks.references)
      = shapeProblems (m'.scope checks.references) := by
    funext id node
    rw [shapeProblems, ShapeCheck.checkJson_congr (h.allows_scope checks.references)]
    rfl
  rw [Model.problems, Model.problems, hshape]
  apply List.Perm.append
  · apply List.Perm.append
    · exact h.checkDocument.map _
    · exact h.nodes.flatMap_right _
  · exact h.nodes.flatMap_right _

theorem get?_entries (hd : m.entries.Distinct) (id : String) :
    m.entries.get? id = m'.entries.get? id :=
  hd.get?_perm h.entries id

theorem looksLike (hd : m.entries.Distinct) : m.LooksLike m' where
  ids := h.ids
  shape? id := by rw [Model.shape?, Model.shape?, h.get?_entries hd]

theorem node? (hd : m.entries.Distinct) : m.node? = m'.node? := by
  funext id
  rw [Model.node?, Model.node?, h.get?_entries hd]

theorem isSelected_iff (hd : m.entries.Distinct) {s : Selector} {id : String} :
    m.IsSelected s id ↔ m'.IsSelected s id := by
  have hmeets : m.Meets = m'.Meets := by
    funext step id
    rw [Meets, h.node? hd]
    rfl
  have hrefers : m.RefersTo = m'.RefersTo := by
    funext id next
    rw [RefersTo, h.node? hd]
    rfl
  have hchain (route : Route) (ids : List String) : m.IsChain route ids ↔ m'.IsChain route ids := by
    constructor
    · intro hc
      exact ⟨hmeets ▸ hc.meets, hrefers ▸ hc.refers⟩
    · intro hc
      exact ⟨hmeets ▸ hc.meets, hrefers ▸ hc.refers⟩
  simp only [IsSelected, hchain]

theorem select (hd : m.entries.Distinct) (s : Selector) : (m.select s).Perm (m'.select s) := by
  have hnodup {m : Model} (hd : m.entries.Distinct) : (m.select s).Nodup :=
    hd.nodup.sublist (List.filter_sublist.trans List.filter_sublist)
  have hd' : m'.entries.Distinct := hd.perm h.entries
  apply (List.perm_ext_iff_of_nodup (hnodup hd) (hnodup hd')).2
  intro (id, node)
  rw [mem_select_iff hd, mem_select_iff hd', h.node? hd, h.isSelected_iff hd]

end Reorders

/-- Where each id has one entry, as in every object, the order of the shapes of a model is of no
account: the same problems are found, in some order, the same shapes are selected, and what is put
in order by references is the same. -/
theorem order_is_of_no_account {m m' : Model} (h : m.Reorders m') (hd : m.entries.Distinct) :
    (∀ checks, (m.validate checks).problems.Perm (m'.validate checks).problems
      ∧ (m.validate checks).isValid = (m'.validate checks).isValid)
    ∧ (∀ s, (m.select s).Perm (m'.select s))
    ∧ (∀ id, m.lineage id = m'.lineage id)
    ∧ (∀ serviceId, m.resources serviceId = m'.resources serviceId
      ∧ m.operations serviceId = m'.operations serviceId)
    ∧ ∀ operationId, m.httpBinding? operationId = m'.httpBinding? operationId := by
  have hlike := h.looksLike hd
  refine ⟨fun checks => ⟨h.problems checks, (h.problems checks).isEmpty_eq⟩, h.select hd,
    hlike.lineage, fun serviceId => ⟨hlike.resources serviceId, hlike.operations serviceId⟩,
    hlike.httpBinding?⟩

def depotShapes : Fields Json :=
  [("Depot", .obj [("type", .str "service"), ("version", .str "1"),
    ("resources", .arr [.str "Crate", .str "Shelf"])]),
   ("Shelf", .obj [("type", .str "resource"), ("read", .str "Look"),
    ("resources", .arr [.str "Crate"])]),
   ("Crate", .obj [("type", .str "resource"), ("resources", .arr [.str "Shelf"]),
    ("operations", .arr [.str "Look", .str "Lift"])]),
   ("Look", .obj [("type", .str "operation")])]

def depot : Model := ⟨.str "2.0", none, some (.obj depotShapes)⟩

def depotTurned : Model := ⟨.str "2.0", none, some (.obj depotShapes.reverse)⟩

theorem depot_in_either_order : depot.Reorders depotTurned ∧ depot.entries.Distinct
    ∧ (depotTurned.validate Checks.all).isValid = false
    ∧ (depot.validate Checks.all).problems.Perm (depotTurned.validate Checks.all).problems
    ∧ depot.operations "Depot" = depotTurned.operations "Depot" := by
  have h : depot.Reorders depotTurned :=
    ⟨rfl, rfl, depotShapes, depotShapes.reverse, rfl, rfl, (List.reverse_perm depotShapes).symm⟩
  have hd : depot.entries.Distinct := by
    unfold Fields.Distinct
    decide
  obtain ⟨hproblems, -, -, hservice, -⟩ := order_is_of_no_account h hd
  refine ⟨h, hd, ?_, (hproblems Checks.all).1, (hservice "Depot").2⟩
  rw [← (hproblems Checks.all).2]
  decide

end Model

end ShapeGraph
