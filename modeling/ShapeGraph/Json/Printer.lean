import ShapeGraph.Json.Basic
import ShapeGraph.Number.Shortest
import ShapeGraph.Text.Hex

namespace ShapeGraph.Json

def escapeUnit (n : Nat) : List Char := '\\' :: 'u' :: Text.hex 4 n

def printChar (c : Char) : List Char :=
  if c = '"' then ['\\', '"']
  else if c = '\\' then ['\\', '\\']
  else if c = '\n' then ['\\', 'n']
  else if c = '\r' then ['\\', 'r']
  else if c = '\t' then ['\\', 't']
  else if c = '\x0c' then ['\\', 'f']
  else if c = '\x08' then ['\\', 'b']
  else if 0x20 ≤ c.toNat ∧ c.toNat ≤ 0x7e then [c]
  else if c.toNat < 0x10000 then escapeUnit c.toNat
  else
    escapeUnit (0xd800 + (c.toNat - 0x10000) / 0x400)
      ++ escapeUnit (0xdc00 + (c.toNat - 0x10000) % 0x400)

def printString (s : String) : List Char := '"' :: s.toList.flatMap printChar ++ ['"']

def printInt (n : Int) : List Char :=
  if n < 0 then '-' :: Nat.toDigits 10 n.natAbs else Nat.toDigits 10 n.natAbs

/-- The depth of the entries on lines of their own, if entries stand on lines of their own. -/
abbrev Margin := Option Nat

def Margin.inner (m : Margin) : Margin := m.map (· + 1)

def Margin.newline : Margin → List Char
  | none => []
  | some depth => '\n' :: List.replicate (2 * depth) ' '

def Margin.separator : Margin → List Char
  | none => [',', ' ']
  | some depth => ',' :: Margin.newline (some depth)

mutual

def print (m : Margin) : Json → List Char
  | .null => ['n', 'u', 'l', 'l']
  | .bool true => ['t', 'r', 'u', 'e']
  | .bool false => ['f', 'a', 'l', 's', 'e']
  | .int n => printInt n
  | .real x => (x.text "Infinity").toList
  | .str s => printString s
  | .arr [] => ['[', ']']
  | .arr (x :: xs) =>
    '[' :: m.inner.newline ++ (print m.inner x ++ printItems m.inner xs (m.newline ++ [']']))
  | .obj [] => ['\x7b', '\x7d']
  | .obj ((k, v) :: fs) =>
    '\x7b' :: m.inner.newline ++ (printString k ++ ':' :: ' ' :: print m.inner v
      ++ printFields m.inner fs (m.newline ++ ['\x7d']))

def printItems (m : Margin) : List Json → List Char → List Char
  | [], close => close
  | x :: xs, close => m.separator ++ (print m x ++ printItems m xs close)

def printFields (m : Margin) : List (String × Json) → List Char → List Char
  | [], close => close
  | (k, v) :: fs, close =>
    m.separator ++ (printString k ++ ':' :: ' ' :: print m v ++ printFields m fs close)

end

def toText (v : Json) (pretty : Bool) : String :=
  String.ofList (v.print (if pretty then some 0 else none))

end ShapeGraph.Json
