import ShapeGraph.Proofs.Catalog.Binding

namespace ShapeGraph

variable {v : Json}

theorem Json.IsNumberIn.exists_int_or_real {low high : Int} (h : v.IsNumberIn low high) :
    (∃ n, v = .int n) ∨ ∃ x, v = .real x := by
  obtain ⟨q, hq, -⟩ := h
  cases v with
  | int n => exact .inl ⟨n, rfl⟩
  | real x => exact .inr ⟨x, rfl⟩
  | _ => cases hq

namespace HttpTrait

variable {http : HttpTrait}

theorem IsOf.code_eq_some_iff (h : http.IsOf v) {n : Int} :
    http.code = some n ↔ v.get? "code" = some (.int n) := by
  rw [h.code, Option.bind_eq_some_iff]
  constructor
  · rintro ⟨code, hget, hn⟩
    cases code with
    | int m => rw [hget, Option.some.inj hn]
    | _ => cases hn
  · intro hget
    exact ⟨_, hget, rfl⟩

theorem IsOf.code_eq_none_iff (h : http.IsOf v)
    (hcode : v.WhenPresent "code" (Json.IsNumberIn 100 599)) :
    http.code = none ↔ v.get? "code" = none ∨ ∃ x, v.get? "code" = some (.real x) := by
  rw [h.code]
  cases hget : v.get? "code" with
  | none => simp
  | some code =>
    rcases (hcode code hget).exists_int_or_real with ⟨n, rfl⟩ | ⟨x, rfl⟩ <;> simp [Json.int?]

/-- A value that the check accepts is read with its method in upper case, which is one of those that
are known, with its place, and with its code if that is an integer. -/
theorem exists_of_checkHttp (h : TraitCheck.checkHttp (some v.layer) = []) :
    ∃ http, ofJson? v = some http
      ∧ (∃ method, v.get? "method" = some (.str method) ∧ http.method = Text.upper method)
      ∧ http.method ∈ ["GET", "POST", "PUT", "DELETE", "PATCH", "HEAD", "OPTIONS"]
      ∧ v.get? "uri" = some (.str http.uri)
      ∧ (http.code = none ↔ v.get? "code" = none ∨ ∃ x, v.get? "code" = some (.real x))
      ∧ ∀ n, http.code = some n ↔ v.get? "code" = some (.int n) := by
  have haccepts := TraitCheck.checkHttp_eq_nil_iff.1 h
  obtain ⟨http, hread, hof⟩ := exists_of_accepts haccepts
  exact ⟨http, hread, hof.method, hof.method_known, hof.uri, hof.code_eq_none_iff haccepts.2.2,
    fun n => hof.code_eq_some_iff⟩

def created : Json := .obj [("uri", .str "/letters"), ("code", .int 201), ("method", .str "pOsT")]

theorem exists_of_checkHttp_created :
    TraitCheck.checkHttp (some created.layer) = []
      ∧ ∃ http, ofJson? created = some http ∧ http.uri = "/letters" ∧ http.code = some 201 := by
  have h : TraitCheck.checkHttp (some created.layer) = [] := by decide
  obtain ⟨http, hread, -, -, huri, -, hcode⟩ := exists_of_checkHttp h
  refine ⟨h, http, hread, ?_, (hcode 201).2 rfl⟩
  have hletters : some (Json.str http.uri) = some (.str "/letters") := huri.symm
  simpa using hletters

def rounded : Json :=
  .obj [("method", .str "GET"), ("uri", .str "/"), ("code", .real (.ofDecimal false 2000 (-1)))]

theorem rounded_loses_code :
    TraitCheck.checkHttp (some rounded.layer) = []
      ∧ rounded.has "code" ∧ (ofJson? rounded).any fun http => http.code = none := by
  decide

end HttpTrait

end ShapeGraph
