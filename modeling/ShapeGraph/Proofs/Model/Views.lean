import ShapeGraph.Catalog.Binding
import ShapeGraph.Model.Lineage

/-!
What a walk over a model reads of it: the ids, as far as they are there or not, and the views of its
shapes. Models that agree in these have the same lineages, resources, operations and bindings.
-/

namespace ShapeGraph.Model

structure LooksLike (m m' : Model) : Prop where
  ids : m.ids.Perm m'.ids
  shape? : ∀ id, m.shape? id = m'.shape? id

namespace LooksLike

variable {m m' : Model} (h : m.LooksLike m')

include h

theorem mixins (id : String) : m.mixins id = m'.mixins id := by
  rw [Model.mixins, h.shape? id]
  rfl

theorem visit (fuel : Nat) (w : Walk) (id : String) : m.visit fuel w id = m'.visit fuel w id := by
  induction fuel generalizing w id with
  | zero => rfl
  | succ fuel ih =>
    have hvisit : m.visit fuel = m'.visit fuel := by
      funext w id
      apply ih
    rw [Model.visit, Model.visit, h.mixins, hvisit]

theorem lineage (id : String) : m.lineage id = m'.lineage id := by
  rw [Model.lineage, h.visit, h.ids.length_eq]
  rfl

theorem service? (id : String) : m.service? id = m'.service? id := by
  rw [Model.service?, h.shape? id]
  rfl

theorem operation? (id : String) : m.operation? id = m'.operation? id := by
  rw [Model.operation?, h.shape? id]
  rfl

theorem resource? (id : String) : m.resource? id = m'.resource? id := by
  rw [Model.resource?, h.shape? id]
  rfl

theorem struct? (id : String) : m.struct? id = m'.struct? id := by
  rw [Model.struct?, h.shape? id]
  rfl

theorem walkResources {fresh fresh' : List String} (hfresh : ∀ id, id ∈ fresh ↔ id ∈ fresh')
    (pending : List String) :
    m.walkResources fresh pending = m'.walkResources fresh' pending := by
  have hwithout {fresh fresh' : List String} (hfresh : ∀ id, id ∈ fresh ↔ id ∈ fresh')
      (id : String) : ∀ u, u ∈ without id fresh ↔ u ∈ without id fresh' := by
    intro u
    simp [without, hfresh u]
  fun_induction Model.walkResources m fresh pending generalizing fresh' with
  | case1 => rw [Model.walkResources]
  | case2 fresh id rest hid r hr ih =>
    rw [h.resource?] at hr
    rw [Model.walkResources, if_pos ((hfresh id).1 hid), hr, ih (hwithout hfresh id)]
  | case3 fresh id rest hid hr ih =>
    rw [h.resource?] at hr
    rw [Model.walkResources, if_pos ((hfresh id).1 hid), hr, ih (hwithout hfresh id)]
  | case4 fresh id rest hid ih =>
    rw [Model.walkResources, if_neg fun hmem => hid ((hfresh id).2 hmem), ih hfresh]

theorem serviceResources (serviceId : String) :
    m.serviceResources serviceId = m'.serviceResources serviceId := by
  rw [Model.serviceResources, Model.serviceResources, h.service?]
  cases m'.service? serviceId with
  | none => rfl
  | some s => exact h.walkResources (fun id => h.ids.mem_iff) s.resources

theorem resources (serviceId : String) : m.resources serviceId = m'.resources serviceId := by
  rw [Model.resources, h.serviceResources]
  rfl

theorem operations (serviceId : String) : m.operations serviceId = m'.operations serviceId := by
  rw [Model.operations, Model.operations, h.service?, h.serviceResources]
  simp only [h.operation?]

theorem operationInput? (operationId : String) :
    m.operationInput? operationId = m'.operationInput? operationId := by
  rw [Model.operationInput?, Model.operationInput?, h.operation?]
  simp only [h.struct?]

theorem operationOutput? (operationId : String) :
    m.operationOutput? operationId = m'.operationOutput? operationId := by
  rw [Model.operationOutput?, Model.operationOutput?, h.operation?]
  simp only [h.struct?]

theorem operationErrors (operationId : String) :
    m.operationErrors operationId = m'.operationErrors operationId := by
  rw [Model.operationErrors, Model.operationErrors, h.operation?]
  simp only [h.struct?]

theorem httpBinding? (operationId : String) :
    m.httpBinding? operationId = m'.httpBinding? operationId := by
  have hstruct : m.struct? = m'.struct? := funext h.struct?
  rw [Model.httpBinding?, Model.httpBinding?, Model.operationTrait?, h.shape?, h.operationInput?,
    hstruct]
  rfl

end LooksLike

end ShapeGraph.Model
