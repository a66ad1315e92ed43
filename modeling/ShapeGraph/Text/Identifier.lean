import ShapeGraph.Text.Cut

namespace ShapeGraph.Text

def isLetter (c : Char) : Bool := ('A' ≤ c && c ≤ 'Z') || ('a' ≤ c && c ≤ 'z')

def isIdentifierStart (c : Char) : Bool := isLetter c || c = '_'

def isIdentifierPart (c : Char) : Bool := isIdentifierStart c || ('0' ≤ c && c ≤ '9')

def isIdentifierChars : List Char → Bool
  | [] => false
  | c :: rest => isIdentifierStart c && rest.all isIdentifierPart

def isIdentifier (s : String) : Bool := isIdentifierChars s.toList

def isNamespace (s : String) : Bool := (pieces '.' s.toList).all isIdentifierChars

end ShapeGraph.Text
