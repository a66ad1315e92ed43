namespace ShapeGraph.Text

structure Span where
  first : Nat
  last : Nat
  deriving DecidableEq, Repr

def Span.has (s : Span) (n : Nat) : Bool := s.first ≤ n && n ≤ s.last

def inSpans (spans : List Span) (c : Char) : Bool := spans.any (·.has c.toNat)

@[simp] theorem inSpans_nil (c : Char) : inSpans [] c = false := rfl

@[simp] theorem inSpans_cons (s : Span) (spans : List Span) (c : Char) :
    inSpans (s :: spans) c = (s.has c.toNat || inSpans spans c) := rfl

end ShapeGraph.Text
