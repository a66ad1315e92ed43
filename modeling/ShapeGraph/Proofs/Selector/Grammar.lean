import ShapeGraph.Proofs.Text.Trim
import ShapeGraph.Selector.Reader

namespace ShapeGraph

/-- A word is read as far as it goes, so nothing that could be part of it follows the name of a
kind. -/
def Predicate.EndsBefore : Predicate → List Char → Prop
  | .kind _, rest => Text.Stops Text.isIdentifierPart rest
  | _, _ => True

namespace Predicate.EndsBefore

variable {p : Predicate} {cs rest : List Char}

theorem of_append (h : p.EndsBefore (cs ++ rest)) : p.EndsBefore cs := by
  cases p with
  | kind k => exact Text.Stops.of_append h
  | _ => trivial

theorem append (h : p.EndsBefore cs) (hrest : Text.Stops Text.isIdentifierPart rest) :
    p.EndsBefore (cs ++ rest) := by
  cases p with
  | kind k => exact Text.Stops.append h hrest
  | _ => trivial

end Predicate.EndsBefore

namespace Selector

open Text

inductive ValueText : List Char → List Char → Prop
  | intro {cs trimmed value : List Char} : Trims isBlank cs trimmed → Trims isQuote trimmed value →
      value ≠ [] → ValueText cs value

inductive AttributeText : List Char → Predicate → Prop
  | intro {left mid cs value : List Char} (part : IdPart) (op : Comparison) :
      IsBlank left → IsBlank mid → ValueText cs value →
      AttributeText (left ++ (part.word.toList ++ (mid ++ (op.symbol.toList ++ cs))))
        (.attribute part op (String.ofList value))

inductive BodyText : List Char → Predicate → Prop
  | trait {cs id : List Char} : Trims isBlank cs id → id ≠ [] →
      BodyText ("trait|".toList ++ cs) (.trait (String.ofList id))
  | part {cs : List Char} {p : Predicate} : AttributeText cs p →
      BodyText ("id|".toList ++ cs) p

mutual

inductive PredicateText : List Char → Predicate → Prop
  | any : PredicateText ['*'] .any
  | kind (k : Kind) : PredicateText k.name.toList (.kind k)
  | bracket {body trimmed : List Char} {p : Predicate} : ']' ∉ body → Trims isBlank body trimmed →
      BodyText trimmed p → PredicateText ('[' :: (body ++ [']'])) p
  | not {cs : List Char} {ps : List Predicate} : RowText cs ps → ps ≠ [] →
      PredicateText (":not(".toList ++ (cs ++ [')'])) (.not ps)

inductive RowText : List Char → List Predicate → Prop
  | nil {cs : List Char} : IsBlank cs → RowText cs []
  | cons {left cs rest : List Char} {p : Predicate} {ps : List Predicate} : IsBlank left →
      PredicateText cs p → p.EndsBefore rest → RowText rest ps →
      RowText (left ++ (cs ++ rest)) (p :: ps)

end

inductive CompoundText : List Char → Compound → Prop
  | intro {cs : List Char} {compound : Compound} : RowText cs compound → compound ≠ [] →
      CompoundText cs compound

inductive Joined {α : Type} (sep : Char) (item : List Char → α → Prop) : List Char → List α → Prop
  | one {cs : List Char} {x : α} : item cs x → Joined sep item cs [x]
  | more {cs rest : List Char} {x : α} {xs : List α} : item cs x → Joined sep item rest xs →
      Joined sep item (cs ++ sep :: rest) (x :: xs)

def RouteText : List Char → Route → Prop := Joined '>' CompoundText

def AlternativesText : List Char → List Route → Prop := Joined ',' RouteText

end Selector

end ShapeGraph
