import ShapeGraph.Catalog.Binding
import ShapeGraph.Proofs.Model.Lookup
import ShapeGraph.Proofs.Model.Members
import ShapeGraph.Proofs.Trait.Spelling
import ShapeGraph.Settings.Basic

namespace ShapeGraph

namespace Json

def applied? (v : Json) (t : PreludeTrait) : Option Json :=
  (v.traits.get? t.id).or (v.traits.get? t.name)

def applications (t : PreludeTrait) (members : Fields Json) : Fields Json :=
  members.filterMap fun (name, member) => (member.applied? t).map (name, ·)

variable {v : Json}

theorem get?_traits_id (v : Json) (t : PreludeTrait) : Applied.get? v.traits t.id = v.applied? t :=
  Applied.get?_id v.traits t

theorem HasAcceptedTraits.accepts {t : PreludeTrait} {value : Json} (h : v.HasAcceptedTraits)
    (hvalue : v.applied? t = some value) : t.Accepts value := by
  have hkey {key : String} (hkey : key = t.id ∨ key = t.name)
      (hget : v.traits.get? key = some value) : t.Accepts value := by
    obtain ⟨fs, hfs, hmem⟩ := Model.mem_fieldsD_getD_iff.1 (Fields.mem_of_get? hget)
    exact (h _ hfs fs rfl key value hmem).2 t hkey
  rcases Option.or_eq_some_iff.1 hvalue with hget | ⟨-, hget⟩
  · exact hkey (.inl rfl) hget
  · exact hkey (.inr rfl) hget

end Json

structure HttpTrait.IsOf (http : HttpTrait) (value : Json) : Prop where
  method : ∃ method, value.get? "method" = some (.str method) ∧ http.method = Text.upper method
  method_known : http.method ∈ httpMethods
  uri : value.get? "uri" = some (.str http.uri)
  uri_below_root : ∃ rest, http.uri = "/" ++ rest
  code : http.code = (value.get? "code").bind Json.int?
  code_in_range : ∀ n, http.code = some n → 100 ≤ n ∧ n ≤ 599

/-- A binding has what is said of the members of an input: all of the headers and query parameters
under the texts given, all labels in order, and a payload if there is one. -/
structure HttpBinding.Covers (b : HttpBinding) (members : Fields Json) : Prop where
  headers : (b.headers.mapValues fun _ => Json.str) = Json.applications .httpHeader members
  headers_ne_empty : ∀ e ∈ b.headers, e.2 ≠ ""
  queryParams : (b.queryParams.mapValues fun _ => Json.str) = Json.applications .httpQuery members
  queryParams_ne_empty : ∀ e ∈ b.queryParams, e.2 ≠ ""
  labels : b.labels = (Json.applications .httpLabel members).keys
  payload : b.payload = none ↔ Json.applications .httpPayload members = []

theorem HttpTrait.exists_of_accepts {v : Json} (h : PreludeTrait.http.Accepts v) :
    ∃ http, ofJson? v = some http ∧ http.IsOf v := by
  obtain ⟨⟨_, hmethod, method, rfl, hupper⟩, ⟨_, huri, rest, rfl⟩, hcode⟩ := h
  have hobj : v.isObject := by
    obtain ⟨fs, rfl, -⟩ := Json.get?_eq_some_iff.1 hmethod
    rfl
  have hint : (v.getD "code").int? = (v.get? "code").bind Json.int? := by
    cases hv : v.get? "code" <;> simp [Json.getD, hv, Json.int?]
  have hrange (n : Int) (hn : (v.get? "code").bind Json.int? = some n) : 100 ≤ n ∧ n ≤ 599 := by
    -- A code with a fraction is accepted within the same bounds, but it is not read.
    obtain ⟨code, hget, hn⟩ := Option.bind_eq_some_iff.1 hn
    obtain rfl : code = .int n := by cases code <;> simp_all [Json.int?]
    obtain ⟨q, hq, hlow, hhigh⟩ := hcode _ hget
    obtain rfl : (n : ℚ) = q := by simpa [Json.number?] using hq
    exact ⟨by exact_mod_cast hlow, by exact_mod_cast hhigh⟩
  refine ⟨⟨Text.upper method, "/" ++ rest, (v.getD "code").int?⟩, ?_, ⟨method, hmethod, rfl⟩,
    hupper, huri, ⟨rest, rfl⟩, hint, hint ▸ hrange⟩
  simp [ofJson?, hobj, Json.getD_eq_of_get? hmethod, Json.getD_eq_of_get? huri, Json.str?]

namespace HttpBinding

section

variable {members : Json} {allowed : String → Prop} {t : PreludeTrait}

theorem accepts_of_mem_applications {members : Fields Json} {e : String × Json}
    (h : ∀ e ∈ members, e.2.HasAcceptedTraits) (he : e ∈ Json.applications t members) :
    t.Accepts e.2 := by
  obtain ⟨⟨name, member⟩, hmem, happlied⟩ := List.mem_filterMap.1 he
  obtain ⟨value, hvalue, rfl⟩ := Option.map_eq_some_iff.1 happlied
  exact (h _ hmem).accepts hvalue

variable (hmember : ∀ e ∈ members.fieldsD, e.2.IsMember allowed)
  (htraits : ∀ e ∈ members.fieldsD, e.2.HasAcceptedTraits)

include hmember

theorem keys_carriers_ofNodes (t : PreludeTrait) :
    Fields.keys ((Member.ofNodes members).filter fun (_, m) => carries t m)
      = (Json.applications t members.fieldsD).keys := by
  obtain ⟨target, hread⟩ := Member.ofNodes_eq_mapValues hmember
  have happlied (e : String × Json) (_ : e ∈ members.fieldsD) :
      carries t ⟨target e.2, e.2.traits⟩ = (e.2.applied? t).isSome := by
    rw [carries, Json.get?_traits_id]
  rw [hread, Fields.filter_mapValues happlied, Fields.keys_mapValues]
  exact Fields.keys_filter_isSome members.fieldsD fun item => item.applied? t

include htraits

theorem texts_ofNodes (ht : ∀ x : Json, t.Accepts x → x.IsNonEmptyText) :
    Fields.mapValues (fun _ => Json.str)
        ((Member.ofNodes members).filterMap fun (name, m) => (text? m t).map (name, ·))
      = Json.applications t members.fieldsD := by
  obtain ⟨target, hread⟩ := Member.ofNodes_eq_mapValues hmember
  have hstr (texts : Fields String) :
      (texts.mapValues fun _ => Json.str) = texts.map fun e => (e.1, .str e.2) := rfl
  rw [hread, hstr, List.map_filterMap]
  apply Fields.filterMap_mapValues
  intro e he
  simp only [text?, Json.get?_traits_id]
  cases hvalue : e.2.applied? t with
  | none => rfl
  | some value =>
    obtain ⟨s, rfl, -⟩ := ht value ((htraits e he).accepts hvalue)
    rfl

theorem ne_empty_of_mem_texts (ht : ∀ x : Json, t.Accepts x → x.IsNonEmptyText) :
    ∀ e ∈ (Member.ofNodes members).filterMap fun (name, m) => (text? m t).map (name, ·),
      e.2 ≠ "" := by
  intro e he
  have hmem : (e.1, Json.str e.2) ∈ Json.applications t members.fieldsD := by
    rw [← texts_ofNodes hmember htraits ht]
    exact List.mem_map_of_mem he
  obtain ⟨s, hs, hne⟩ := ht _ (accepts_of_mem_applications htraits hmem)
  obtain rfl : e.2 = s := by simpa using hs
  exact hne

theorem covers_ofMembers (http : HttpTrait) :
    (ofMembers http (Member.ofNodes members)).Covers members.fieldsD where
  headers := texts_ofNodes hmember htraits fun _ => id
  headers_ne_empty := ne_empty_of_mem_texts hmember htraits fun _ => id
  queryParams := texts_ofNodes hmember htraits fun _ => id
  queryParams_ne_empty := ne_empty_of_mem_texts hmember htraits fun _ => id
  labels := keys_carriers_ofNodes hmember .httpLabel
  payload := by
    rw [ofMembers, keys_carriers_ofNodes hmember .httpPayload, List.getLast?_eq_none_iff,
      Fields.keys, List.map_eq_nil_iff]

end

end HttpBinding

namespace Model

variable {m : Model} {id : String} {node : Json}

theorem shape?_of_operation (hnode : m.node? id = some node) (hk : node.kind? = some .operation) :
    ∃ o : OperationView, m.shape? id = some ⟨id, node.traits, .operation o⟩
      ∧ o.input = (node.getD "input").target? :=
  ⟨_, shape?_of_ofNode? hnode hk (Form.ofNode?_eq node .operation), rfl⟩

theorem struct?_of_node? (hnode : m.node? id = some node) (hk : node.kind? = some .struct) :
    m.struct? id = some (Member.ofNodes (node.getD "members")) := by
  rw [struct?, shape?_of_ofNode? hnode hk (Form.ofNode?_eq node .struct)]
  rfl

theorem hasAcceptedTraits_of_problems_eq_nil {references : Bool}
    (h : m.problems ⟨references, true, true⟩ = []) (hmem : (id, node) ∈ m.nodes) :
    node.HasAcceptedTraits ∧ ∀ member, node.HasMember member → member.HasAcceptedTraits := by
  simp only [problems, List.append_eq_nil_iff, List.flatMap_eq_nil_iff] at h
  exact traitProblems_eq_nil_iff.1 (h.2 (id, node) hmem)

theorem members_of_problems_eq_nil {references : Bool}
    (h : m.problems ⟨references, true, true⟩ = []) (hmem : (id, node) ∈ m.nodes)
    (hk : node.kind? = some .struct) : ∀ e ∈ (node.getD "members").fieldsD,
      e.2.IsMember ((m.scope references).allows ·) ∧ e.2.HasAcceptedTraits := by
  rintro ⟨name, item⟩ hitem
  obtain ⟨fs, hfs, hmem'⟩ := mem_fieldsD_getD_iff.1 hitem
  constructor
  · obtain ⟨k, hk', haccepts⟩ := Json.isShape_iff.1 (isShape_of_problems_eq_nil h hmem)
    obtain rfl : k = .struct := by simpa [hk] using hk'.symm
    obtain ⟨_, hobj, hmembers⟩ := haccepts.1 _ hfs
    cases hobj
    exact hmembers name item hmem'
  · exact (hasAcceptedTraits_of_problems_eq_nil h hmem).2 item (.named hfs hmem')

theorem httpBinding?_of_operation {o : OperationView} (traits : Fields Json)
    (hshape : m.shape? id = some ⟨id, traits, .operation o⟩) :
    m.httpBinding? id = ((Applied.get? traits PreludeTrait.http.id).bind HttpTrait.ofJson?).map
      fun http => .ofMembers http
        (((o.input.filter fun input => (m.struct? input).isSome).bind m.struct?).getD []) := by
  rw [httpBinding?, operationTrait?, operationInput?, operation?, hshape]
  rfl

/-- In a model that a validation with default settings accepts, the operations that are bound to
HTTP are those with the trait for it, under either name, and a binding has all that the traits of
the operation and of the members of its input say. -/
theorem httpBinding?_of_isValid {homes : Files.Homes} {here : List String}
    {references : Option Bool}
    (hvalid : (Settings.ofEnvironment? [] (Files.places homes here)).any fun s =>
      (m.validate (s.checksWith references)).isValid)
    (hnode : m.node? id = some node) (hk : node.kind? = some .operation) :
    ((m.httpBinding? id).isSome ↔ (node.applied? .http).isSome)
    ∧ ∀ b, m.httpBinding? id = some b →
      (∃ value, node.applied? .http = some value ∧ b.http.IsOf value)
      ∧ ∀ inputId input, (node.getD "input").target? = some inputId →
        m.node? inputId = some input → input.kind? = some .struct →
        b.Covers (input.getD "members").fieldsD := by
  have h : m.problems ⟨references.getD true, true, true⟩ = [] := by
    have hreport : (m.validate ⟨references.getD true, true, true⟩).isValid := hvalid
    simpa [Report.isValid, validate] using hreport
  have htraits := (hasAcceptedTraits_of_problems_eq_nil h (mem_nodes_of_node? hnode)).1
  obtain ⟨o, hshape, hinput⟩ := shape?_of_operation hnode hk
  rw [httpBinding?_of_operation node.traits hshape, Json.get?_traits_id, hinput]
  cases hvalue : node.applied? .http with
  | none => simp
  | some value =>
    obtain ⟨http, hof, hhttp⟩ := HttpTrait.exists_of_accepts (htraits.accepts hvalue)
    rw [Option.bind_some, hof, Option.map_some]
    refine ⟨by simp, ?_⟩
    intro b hb
    obtain rfl := Option.some.inj hb
    refine ⟨⟨value, rfl, hhttp⟩, ?_⟩
    intro inputId input htarget hinputNode hstruct
    have hmembers := members_of_problems_eq_nil h (mem_nodes_of_node? hinputNode) hstruct
    simp only [htarget, Option.filter, struct?_of_node? hinputNode hstruct, Option.isSome_some,
      if_true, Option.bind_some, Option.getD_some]
    exact HttpBinding.covers_ofMembers (fun e he => (hmembers e he).1)
      (fun e he => (hmembers e he).2) http

def send : Json :=
  .obj [("type", .str "operation"), ("input", .str "Letter"), ("traits", .obj
    [("http", .obj [("method", .str "POST"), ("uri", .str "/letters"), ("code", .int 201)])])]

def letter : Json :=
  .obj [("type", .str "structure"), ("members", .obj
    [("id", .obj [("target", .str "Text"), ("traits", .obj [("httpLabel", .obj [])])]),
     ("stamp", .obj [("target", .str "Text"),
      ("traits", .obj [("smithy.api#httpHeader", .str "X-Stamp"), ("required", .obj [])])]),
     ("copies", .obj [("target", .str "Text"), ("traits", .obj [("httpQuery", .str "n")])]),
     ("body", .obj [("target", .str "Text"),
      ("traits", .obj [("smithy.api#httpPayload", .obj [])])])])]

def mailroom : Model :=
  ⟨.str "2.0", none, some (.obj
    [("Send", send), ("Letter", letter), ("Text", .obj [("type", .str "string")])])⟩

theorem httpBinding?_send :
    (Settings.ofEnvironment? [] (Files.places (fun _ => none) [])).any
      (fun s => (mailroom.validate (s.checksWith none)).isValid)
    ∧ mailroom.node? "Send" = some send ∧ send.kind? = some .operation
    ∧ (mailroom.httpBinding? "Send").isSome
    ∧ ∀ b, mailroom.httpBinding? "Send" = some b → b.labels = ["id"]
      ∧ b.headers.keys = ["stamp"] ∧ b.queryParams.keys = ["copies"] ∧ b.payload ≠ none := by
  have hvalid : (Settings.ofEnvironment? [] (Files.places (fun _ => none) [])).any fun s =>
      (mailroom.validate (s.checksWith none)).isValid := by decide
  have hnode : mailroom.node? "Send" = some send := rfl
  have hk : send.kind? = some .operation := by decide
  obtain ⟨hbound, hbinding⟩ := httpBinding?_of_isValid hvalid hnode hk
  refine ⟨hvalid, hnode, hk, hbound.2 rfl, ?_⟩
  intro b hb
  have hcovers := (hbinding b hb).2 "Letter" letter rfl rfl (by decide)
  refine ⟨hcovers.labels, ?_, ?_, ?_⟩
  · rw [← Fields.keys_mapValues fun _ => Json.str, hcovers.headers]
    rfl
  · rw [← Fields.keys_mapValues fun _ => Json.str, hcovers.queryParams]
    rfl
  · rw [ne_eq, hcovers.payload]
    exact List.cons_ne_nil _ _

end Model

end ShapeGraph
