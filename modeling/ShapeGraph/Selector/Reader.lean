import ShapeGraph.Json.Shown
import ShapeGraph.Selector.Basic
import ShapeGraph.Text.Blank
import ShapeGraph.Text.Identifier

/-!
Reading selectors. Alternatives are separated by `,` and steps by `>`; a step is a row of
predicates, each of them `*`, the name of a kind, a bracketed attribute, or `:not(...)`.
-/

namespace ShapeGraph.Selector

inductive Flaw
  | empty
  | expectedSelector
  | unexpected (c : Char)
  | expectedClose
  | unknownKind (word : String)
  | unterminated
  | emptyTrait
  | expectedComparison
  | unknownAttribute (word : String)
  | emptyValue
  | unsupported (body : String)
  deriving DecidableEq, Repr

structure Failure where
  flaw : Flaw
  left : Nat
  deriving DecidableEq, Repr

abbrev Reading (α : Type) := Except Failure (α × List Char)

def fail {α : Type} (flaw : Flaw) (rest : List Char) : Except Failure α :=
  .error ⟨flaw, rest.length⟩

def isQuote (c : Char) : Bool := c = '\'' || c = '"'

def readComparison : List Char → Option (Comparison × List Char)
  | '!' :: '=' :: rest => some (.unequal, rest)
  | '^' :: '=' :: rest => some (.startsWith, rest)
  | '$' :: '=' :: rest => some (.endsWith, rest)
  | '*' :: '=' :: rest => some (.contains, rest)
  | '=' :: rest => some (.equal, rest)
  | _ => none

def readWord : List Char → Option (List Char × List Char)
  | c :: rest =>
    if Text.isIdentifierStart c then
      some (c :: rest.takeWhile Text.isIdentifierPart, rest.dropWhile Text.isIdentifierPart)
    else none
  | [] => none

def attributeOf (body : List Char) : Except Flaw Predicate :=
  match readWord (Text.skipBlank body) with
  | none => .error .expectedComparison
  | some (word, rest) =>
    match readComparison (Text.skipBlank rest) with
    | none => .error .expectedComparison
    | some (comparison, rest) =>
      let value := Text.stripBy isQuote (Text.stripBlank rest)
      match IdPart.all.find? fun part => part.word = String.ofList word with
      | none => .error (.unknownAttribute (String.ofList word))
      | some part =>
        if value.isEmpty then .error .emptyValue
        else .ok (.attribute part comparison (String.ofList value))

def traitOf (body : List Char) : Except Flaw Predicate :=
  let id := Text.stripBlank body
  if id.isEmpty then .error .emptyTrait else .ok (.trait (String.ofList id))

def bracketed (body : List Char) : Except Flaw Predicate :=
  let body := Text.stripBlank body
  match Text.after? "trait|".toList body with
  | some rest => traitOf rest
  | none =>
    match Text.after? "id|".toList body with
    | some rest => attributeOf rest
    | none => .error (.unsupported (String.ofList body))

/-- A bracket ends at the first closing bracket, whatever stands between. `start` is the text from
the opening bracket on. -/
def readBracket (start rest : List Char) : Reading Predicate :=
  match Text.cutAt ']' rest with
  | none => fail .unterminated start
  | some (body, rest) =>
    match bracketed body with
    | .error flaw => fail flaw start
    | .ok p => .ok (p, rest)

def readKind (cs : List Char) : Reading Predicate :=
  match readWord cs with
  | some (word, rest) =>
    match Kind.ofName? (String.ofList word) with
    | some k => .ok (.kind k, rest)
    | none => fail (.unknownKind (String.ofList word)) cs
  | none =>
    match cs with
    | c :: _ => fail (.unexpected c) cs
    | [] => fail .expectedSelector cs

def readNot (nested : List Char → Reading Compound) (cs : List Char) : Reading Predicate :=
  (nested cs).bind fun (compound, rest) =>
    match Text.skipBlank rest with
    | ')' :: rest => .ok (.not compound, rest)
    | rest => fail .expectedClose rest

def readPredicate (nested : List Char → Reading Compound) (cs : List Char) : Reading Predicate :=
  match cs with
  | '*' :: rest => .ok (.any, rest)
  | '[' :: rest => readBracket cs rest
  | _ =>
    match Text.after? ":not(".toList cs with
    | some rest => readNot nested rest
    | none => readKind cs

def endsCompound : List Char → Bool
  | [] => true
  | c :: _ => c = ',' || c = '>' || c = ')'

def nonEmpty : Reading Compound → Reading Compound
  | .ok ([], rest) => fail .expectedSelector rest
  | r => r

/-- The predicates up to the end of a compound. Every predicate takes a character, so `fuel` for one
more than there are characters is enough. -/
def readPredicates : (fuel : Nat) → List Char → Reading Compound
  | 0, cs => fail .expectedSelector cs
  | fuel + 1, cs =>
    let cs := Text.skipBlank cs
    if endsCompound cs then .ok ([], cs)
    else
      (readPredicate (fun cs => nonEmpty (readPredicates fuel cs)) cs).bind fun (p, rest) =>
        (readPredicates fuel rest).map fun (ps, rest) => (p :: ps, rest)

def readCompound (cs : List Char) : Reading Compound :=
  nonEmpty (readPredicates (cs.length + 1) cs)

def readSeparated {α : Type} (sep : Char) (item : List Char → Reading α) :
    (fuel : Nat) → List Char → Reading (List α)
  | 0, cs => fail .expectedSelector cs
  | fuel + 1, cs =>
    (item cs).bind fun (x, rest) =>
      match Text.skipBlank rest with
      | c :: rest =>
        if c = sep then (readSeparated sep item fuel rest).map fun (xs, rest) => (x :: xs, rest)
        else .ok ([x], c :: rest)
      | [] => .ok ([x], [])

def readRoute (cs : List Char) : Reading Route :=
  readSeparated '>' readCompound (cs.length + 1) cs

def readAlternatives (cs : List Char) : Except Failure (List Route) :=
  (readSeparated ',' readRoute (cs.length + 1) cs).bind fun (routes, rest) =>
    match rest with
    | [] => .ok routes
    | c :: _ => fail (.unexpected c) rest

structure Rejection where
  text : String
  flaw : Flaw
  position : Option Nat
  deriving DecidableEq, Repr

def parse (text : String) : Except Rejection Selector :=
  if (Text.stripBlank text.toList).isEmpty then .error ⟨text, .empty, none⟩
  else
    match readAlternatives text.toList with
    | .error f => .error ⟨text, f.flaw, some (text.toList.length - f.left)⟩
    | .ok alternatives => .ok ⟨text, alternatives⟩

def ofJson : Json → Except Rejection Selector
  | .str text => parse text
  | v => .error ⟨v.display, .empty, none⟩

def isValid (text : String) : Bool := (parse text).toBool

def Flaw.message : Flaw → String
  | .empty => "selector is empty"
  | .expectedSelector => "expected a selector"
  | .unexpected c => "unexpected " ++ Text.quoted (String.singleton c)
  | .expectedClose => "expected ')'"
  | .unknownKind word => "unknown shape type " ++ Text.quoted word
  | .unterminated => "unterminated '['"
  | .emptyTrait => "empty trait ID"
  | .expectedComparison => "expected a comparison operator"
  | .unknownAttribute word => "unknown id attribute " ++ Text.quoted word
  | .emptyValue => "empty comparison value"
  | .unsupported body => "unsupported attribute selector [" ++ body ++ "]"

def Rejection.message (r : Rejection) : String :=
  "Invalid selector " ++ Text.quoted r.text ++ ": " ++ r.flaw.message ++
    match r.position with
    | some p => s!" at position {p}"
    | none => ""

end ShapeGraph.Selector
