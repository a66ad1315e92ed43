import ShapeGraph.Text.Casing.Table

namespace ShapeGraph.Text

def Shift.moves (s : Shift) (n : Nat) : Bool := s.span.has n && (n - s.span.first) % s.step == 0

def Shift.apply (s : Shift) (n : Nat) : Char := Char.ofNat (Int.toNat (n + s.offset))

def mapCase (shifts : List Shift) (expansions : List (Nat × List Nat)) (c : Char) : List Char :=
  match shifts.find? (·.moves c.toNat) with
  | some s => [s.apply c.toNat]
  | none =>
    match expansions.lookup c.toNat with
    | some ns => ns.map Char.ofNat
    | none => [c]

def upperChar (c : Char) : List Char := mapCase upperShifts upperExpansions c

def lowerChar (c : Char) : List Char := mapCase lowerShifts lowerExpansions c

def isCased (c : Char) : Bool := inSpans casedSpans c

def isCaseIgnorable (c : Char) : Bool := inSpans caseIgnorableSpans c

def meetsCased (cs : List Char) : Bool := (cs.dropWhile isCaseIgnorable).head?.any isCased

/-- `before` is read backwards. -/
def endsWord (before after : List Char) : Bool := meetsCased before && !meetsCased after

def lowerAfter (before : List Char) : List Char → List Char
  | [] => []
  | c :: rest =>
    (if c = 'Σ' then [if endsWord before rest then 'ς' else 'σ'] else lowerChar c)
      ++ lowerAfter (c :: before) rest

def upper (s : String) : String := String.ofList (s.toList.flatMap upperChar)

def lower (s : String) : String := String.ofList (lowerAfter [] s.toList)

end ShapeGraph.Text
