import ShapeGraph.Text.Span

namespace ShapeGraph.Text

def blankSpans : List Span :=
  [⟨0x09, 0x0d⟩, ⟨0x1c, 0x20⟩, ⟨0x85, 0x85⟩, ⟨0xa0, 0xa0⟩, ⟨0x1680, 0x1680⟩, ⟨0x2000, 0x200a⟩,
   ⟨0x2028, 0x2029⟩, ⟨0x202f, 0x202f⟩, ⟨0x205f, 0x205f⟩, ⟨0x3000, 0x3000⟩]

def isBlank (c : Char) : Bool := inSpans blankSpans c

def skipBlank (cs : List Char) : List Char := cs.dropWhile isBlank

def stripBy (p : Char → Bool) (cs : List Char) : List Char :=
  ((cs.dropWhile p).reverse.dropWhile p).reverse

def stripBlank (cs : List Char) : List Char := stripBy isBlank cs

def trim (s : String) : String := String.ofList (stripBlank s.toList)

end ShapeGraph.Text
