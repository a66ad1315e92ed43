import ShapeGraph.Proofs.Json.Rereading
import ShapeGraph.Proofs.Model.RoundTrip

namespace ShapeGraph.Model

open Json (nestingLimit)

variable {m : Model} {text : String}

theorem admitted_of_parse (h : parse text = .ok m) : m.Admitted := by
  obtain ⟨document, htext, -, rfl, hadmissible⟩ := parse_eq_ok_iff.1 h
  refine ⟨hadmissible, ?_⟩
  have hget {key : String} {v : Json} (hv : document.get? key = some v) :
      v.Admitted (nestingLimit - 1) := by
    cases htext.admitted with
    | obj _ hfs => exact hfs (key, v) (Fields.mem_of_get? hv)
    | _ => cases hv
  rintro v (hv | hv)
  · exact hget hv
  · exact hget hv

/-- A model that was read from a text is read from its own text as it was, if none of its numbers is
infinite. If one is, then its text is refused. -/
theorem parse_toText_of_parse (h : parse text = .ok m) (pretty : Bool) :
    ∃ text', m.toText pretty = .ok text'
      ∧ (m.isFinite → parse text' = .ok m)
      ∧ (m.isFinite = false → ∃ failure, parse text' = .error (.notJson text' failure)) := by
  obtain ⟨document, hdocument, hadmitted, hsame, haccept⟩ := exists_document (admitted_of_parse h)
  refine ⟨document.toText pretty, ?_, fun hfinite => ?_, fun hinfinite => ?_⟩
  · rw [toText, hdocument]
  · rw [parse, Json.ofText_toText hadmitted (hsame.trans hfinite)]
    exact haccept
  · obtain ⟨failure, hfailure⟩ := Json.toText_refused hadmitted (hsame.trans hinfinite) pretty
    exact ⟨failure, by rw [parse, hfailure]⟩

theorem exists_of_parse_any {p : Model → Bool} (h : (parse text).toOption.any p) :
    ∃ m, parse text = .ok m ∧ p m := by
  cases hparse : parse text with
  | ok m =>
    rw [hparse] at h
    exact ⟨m, rfl, h⟩
  | error =>
    rw [hparse] at h
    cases h

def rangeText (max : String) : String :=
  "\x7b\"smithy\": \"2.0\", \"shapes\": \x7b\"A\": \x7b\"type\": \"double\", \"traits\": "
    ++ "\x7b\"smithy.api#range\": \x7b\"max\": " ++ max ++ "\x7d\x7d\x7d\x7d\x7d"

theorem parse_toText_of_parse_range :
    ∃ m text', parse (rangeText "-170E-1") = .ok m ∧ m.isFinite ∧ m.toText true = .ok text'
      ∧ parse text' = .ok m := by
  have hany : (parse (rangeText "-170E-1")).toOption.any isFinite := by decide +kernel
  obtain ⟨m, hm, hfinite⟩ := exists_of_parse_any hany
  obtain ⟨text', htext, hparse, -⟩ := parse_toText_of_parse hm true
  exact ⟨m, text', hm, hfinite, htext, hparse hfinite⟩

theorem parse_toText_infinite :
    ∃ m, parse (rangeText "1e999") = .ok m ∧ m.toText false = .ok (rangeText "Infinity")
      ∧ ∃ failure, parse (rangeText "Infinity") = .error failure := by
  have hany : (parse (rangeText "1e999")).toOption.any fun m =>
      (m.toText false).toOption = some (rangeText "Infinity") := by decide +kernel
  have hrefused : (parse (rangeText "Infinity")).toBool = false := by decide +kernel
  obtain ⟨m, hm, htext⟩ := exists_of_parse_any hany
  refine ⟨m, hm, ?_, ?_⟩
  · cases h : m.toText false with
    | ok => simpa [h, Except.toOption] using htext
    | error => simp [h, Except.toOption] at htext
  · cases h : parse (rangeText "Infinity") with
    | ok => rw [h] at hrefused; cases hrefused
    | error failure => exact ⟨failure, rfl⟩

end ShapeGraph.Model
