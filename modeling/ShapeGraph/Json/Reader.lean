import ShapeGraph.Json.Basic
import ShapeGraph.Text.Cut
import ShapeGraph.Text.Hex

/-!
Reading JSON text. A failure is the first one from the left: what is wrong, and how much of the text
was left there.
-/

namespace ShapeGraph.Json

inductive Container
  | array
  | object
  deriving DecidableEq, Repr

inductive Flaw
  | value
  | propertyName
  | colon
  | comma
  | extraData
  | unterminatedString
  | controlCharacter
  | escape
  | unicodeEscape
  | byteOrderMark
  | constant (name : String)
  | integerLength (digits : Nat)
  | nesting (container : Container)
  deriving DecidableEq, Repr

structure Failure where
  flaw : Flaw
  left : Nat
  deriving DecidableEq, Repr

abbrev Reading (α : Type) := Except Failure (α × List Char)

def fail {α : Type} (flaw : Flaw) (rest : List Char) : Except Failure α :=
  .error ⟨flaw, rest.length⟩

def nestingLimit : Nat := 900

def integerLimit : Nat := 4300

def isSpace (c : Char) : Bool := c = ' ' || c = '\t' || c = '\n' || c = '\r'

def skipSpace (cs : List Char) : List Char := cs.dropWhile isSpace

def escapedUnit? (c : Char) : Option Nat :=
  if c = '"' then some 0x22
  else if c = '\\' then some 0x5c
  else if c = '/' then some 0x2f
  else if c = 'b' then some 0x08
  else if c = 'f' then some 0x0c
  else if c = 'n' then some 0x0a
  else if c = 'r' then some 0x0d
  else if c = 't' then some 0x09
  else none

def push (n : Nat) : List Nat × List Char → List Nat × List Char
  | (us, rest) => (n :: us, rest)

def readUnits (opening : Nat) : List Char → Reading (List Nat)
  | [] => .error ⟨.unterminatedString, opening⟩
  | ['\\'] => .error ⟨.unterminatedString, opening⟩
  | '\\' :: 'u' :: a :: b :: c :: d :: rest =>
    match Text.readHex 4 0 [a, b, c, d], rest with
    | some (n, _), _ :: _ => (readUnits opening rest).map (push n)
    | _, _ => .error ⟨.unicodeEscape, rest.length + 5⟩
  | '\\' :: 'u' :: rest => .error ⟨.unicodeEscape, rest.length + 1⟩
  | '\\' :: e :: rest =>
    match escapedUnit? e with
    | some n => (readUnits opening rest).map (push n)
    | none => .error ⟨.escape, rest.length + 2⟩
  | '"' :: rest => .ok ([], rest)
  | c :: rest =>
    if c.toNat < 0x20 then .error ⟨.controlCharacter, rest.length + 1⟩
    else (readUnits opening rest).map (push c.toNat)

def isHigh (n : Nat) : Bool := 0xd800 ≤ n && n < 0xdc00

def isLow (n : Nat) : Bool := 0xdc00 ≤ n && n < 0xe000

/-- A surrogate without its partner reads as the replacement character. -/
def unitChar (n : Nat) : Char := if isHigh n || isLow n then '\ufffd' else Char.ofNat n

def joinUnits : List Nat → List Char
  | [] => []
  | [n] => [unitChar n]
  | h :: l :: rest =>
    if isHigh h && isLow l then
      Char.ofNat (0x10000 + (h - 0xd800) * 0x400 + (l - 0xdc00)) :: joinUnits rest
    else unitChar h :: joinUnits (l :: rest)

def readString (cs : List Char) : Reading String :=
  (readUnits (cs.length + 1) cs).map fun (us, rest) => (String.ofList (joinUnits us), rest)

def isDigit (c : Char) : Bool := '0' ≤ c && c ≤ '9'

def digitsValue (cs : List Char) : Nat := Nat.ofDigitChars 10 cs 0

def readFraction : List Char → Option (List Char × List Char)
  | '.' :: rest =>
    match rest.span isDigit with
    | ([], _) => none
    | (ds, rest) => some (ds, rest)
  | _ => none

def readMinus : List Char → Bool × List Char
  | '-' :: rest => (true, rest)
  | rest => (false, rest)

def readSign : List Char → Bool × List Char
  | '+' :: rest => (false, rest)
  | rest => readMinus rest

def readExponent : List Char → Option (Int × List Char)
  | c :: rest =>
    if c = 'e' ∨ c = 'E' then
      let (negative, rest) := readSign rest
      match rest.span isDigit with
      | ([], _) => none
      | (ds, rest) => some (if negative then -(digitsValue ds : Int) else digitsValue ds, rest)
    else none
  | [] => none

def readWhole : List Char → Option (List Char × List Char)
  | c :: rest =>
    if c = '0' then some (['0'], rest)
    else if isDigit c then
      let (ds, rest) := rest.span isDigit
      some (c :: ds, rest)
    else none
  | [] => none

def signed (negative : Bool) (n : Nat) : Int := if negative then -(n : Int) else n

def numberOf (negative : Bool) (whole rest : List Char) : Reading Json :=
  let fraction := readFraction rest
  let rest := (fraction.map Prod.snd).getD rest
  let exponent := readExponent rest
  let rest := (exponent.map Prod.snd).getD rest
  if fraction.isNone && exponent.isNone then
    if integerLimit < whole.length then fail (.integerLength whole.length) rest
    else .ok (.int (signed negative (digitsValue whole)), rest)
  else
    let places := (fraction.map Prod.fst).getD []
    let power := (exponent.map Prod.fst).getD 0
    .ok (.real (.ofDecimal negative (digitsValue (whole ++ places)) (power - places.length)), rest)

def readNumber (cs : List Char) : Reading Json :=
  let (negative, body) := readMinus cs
  match readWhole body with
  | some (whole, rest) => numberOf negative whole rest
  | none => fail .value cs

def literals : List (List Char × Json) :=
  [("null".toList, .null), ("true".toList, .bool true), ("false".toList, .bool false)]

def literal? (cs : List Char) : Option (Json × List Char) :=
  literals.findSome? fun (word, v) => (Text.after? word cs).map (v, ·)

def constants : List String := ["NaN", "Infinity", "-Infinity"]

def constant? (cs : List Char) : Option String :=
  constants.find? fun word => (Text.after? word.toList cs).isSome

def readScalar (cs : List Char) : Reading Json :=
  match literal? cs with
  | some r => .ok r
  | none =>
    match constant? cs with
    | some name => fail (.constant name) cs
    | none => readNumber cs

def readWith (array object : List Char → Reading Json) (cs : List Char) : Reading Json :=
  match cs with
  | '"' :: rest => (readString rest).map fun (s, rest) => (.str s, rest)
  | '[' :: rest => array rest
  | '\x7b' :: rest => object rest
  | _ => readScalar cs

/-- Items with commas between them, up to `close`. A comma goes with every further item, so `fuel`
beyond the length of the text does not run out. -/
def readSeries {α : Type} (close : Char) (item : List Char → Reading α) :
    (fuel : Nat) → List Char → Reading (List α)
  | 0, cs => fail .comma cs
  | fuel + 1, cs =>
    (item cs).bind fun (x, rest) =>
      match skipSpace rest with
      | [] => fail .comma []
      | c :: rest =>
        if c = close then .ok ([x], rest)
        else if c = ',' then
          (readSeries close item fuel (skipSpace rest)).map fun (xs, rest) => (x :: xs, rest)
        else fail .comma (c :: rest)

def readEnclosed {α : Type} (close : Char) (item : List Char → Reading α) (cs : List Char) :
    Reading (List α) :=
  let cs := skipSpace cs
  if cs.head? = some close then .ok ([], cs.tail) else readSeries close item (cs.length + 1) cs

def readArray (value : List Char → Reading Json) (cs : List Char) : Reading Json :=
  (readEnclosed ']' value cs).map fun (xs, rest) => (.arr xs, rest)

def readKey : List Char → Reading String
  | '"' :: rest => readString rest
  | cs => fail .propertyName cs

def readEntry (value : List Char → Reading Json) (cs : List Char) : Reading (String × Json) :=
  (readKey cs).bind fun (k, rest) =>
    match skipSpace rest with
    | ':' :: rest => (value (skipSpace rest)).map fun (v, rest) => ((k, v), rest)
    | rest => fail .colon rest

def readObject (value : List Char → Reading Json) (cs : List Char) : Reading Json :=
  (readEnclosed '\x7d' (readEntry value) cs).map fun (fs, rest) => (.obj (Fields.ofList fs), rest)

def readValue : (depth : Nat) → List Char → Reading Json
  | 0 => readWith (fail (.nesting .array)) (fail (.nesting .object))
  | depth + 1 => readWith (readArray (readValue depth)) (readObject (readValue depth))

def readChars (cs : List Char) : Except Failure Json :=
  match cs with
  | '\ufeff' :: _ => fail .byteOrderMark cs
  | _ =>
    (readValue nestingLimit (skipSpace cs)).bind fun (v, rest) =>
      match skipSpace rest with
      | [] => .ok v
      | rest => fail .extraData rest

def ofText (text : String) : Except Failure Json := readChars text.toList

def isJsonText (text : String) : Bool := (ofText text).toBool

def Container.name : Container → String
  | .array => "array"
  | .object => "object"

def Flaw.words : Flaw → String × Bool
  | .value => ("Expecting value", true)
  | .propertyName => ("Expecting property name enclosed in double quotes", true)
  | .colon => ("Expecting ':' delimiter", true)
  | .comma => ("Expecting ',' delimiter", true)
  | .extraData => ("Extra data", true)
  | .unterminatedString => ("Unterminated string starting at", true)
  | .controlCharacter => ("Invalid control character at", true)
  | .escape => ("Invalid \\escape", true)
  | .unicodeEscape => ("Invalid \\uXXXX escape", true)
  | .byteOrderMark => ("Unexpected UTF-8 BOM (decode using utf-8-sig)", true)
  | .constant name => (name ++ " is not valid JSON", false)
  | .integerLength digits =>
    (s!"Exceeds the limit ({integerLimit} digits) for integer string conversion: value has "
      ++ s!"{digits} digits; use sys.set_int_max_str_digits() to increase the limit", false)
  | .nesting container =>
    (s!"maximum recursion depth exceeded while decoding a JSON {container.name} "
      ++ "from a unicode string", false)

def Failure.place (f : Failure) (text : String) : Nat × Nat × Nat :=
  let offset := text.toList.length - f.left
  let before := text.toList.take offset
  (offset, before.count '\n' + 1, (before.reverse.takeWhile (· ≠ '\n')).length + 1)

def Failure.message (f : Failure) (text : String) : String :=
  match f.flaw.words with
  | (words, false) => words
  | (words, true) =>
    let (offset, line, column) := f.place text
    s!"{words}: line {line} column {column} (char {offset})"

end ShapeGraph.Json
