import ShapeGraph.Json.Reader
import ShapeGraph.Proofs.Reading

namespace ShapeGraph.Json

def IsSpaces (cs : List Char) : Prop := ∀ c ∈ cs, isSpace c

inductive UnitsText : List Char → List Nat → Prop
  | nil : UnitsText [] []
  | plain {c : Char} {cs : List Char} {us : List Nat} : c ≠ '"' → c ≠ '\\' → 0x20 ≤ c.toNat →
      UnitsText cs us → UnitsText (c :: cs) (c.toNat :: us)
  | escape {c : Char} {n : Nat} {cs : List Char} {us : List Nat} : escapedUnit? c = some n →
      UnitsText cs us → UnitsText ('\\' :: c :: cs) (n :: us)
  | code {a b c d : Char} {n : Nat} {cs : List Char} {us : List Nat} :
      (Text.readHex 4 0 [a, b, c, d]).map Prod.fst = some n → UnitsText cs us →
      UnitsText ('\\' :: 'u' :: a :: b :: c :: d :: cs) (n :: us)

inductive StringText : List Char → String → Prop
  | intro {cs : List Char} {us : List Nat} : UnitsText cs us →
      StringText ('"' :: (cs ++ ['"'])) (String.ofList (joinUnits us))

inductive SignText : List Char → Bool → Prop
  | none : SignText [] false
  | minus : SignText ['-'] true

inductive WholeText : List Char → Prop
  | zero : WholeText ['0']
  | digits {c : Char} {cs : List Char} : c ≠ '0' → isDigit c → (∀ d ∈ cs, isDigit d) →
      WholeText (c :: cs)

inductive FractionText : List Char → List Char → Prop
  | intro {places : List Char} : places ≠ [] → (∀ d ∈ places, isDigit d) →
      FractionText ('.' :: places) places

inductive PowerSignText : List Char → Bool → Prop
  | plus : PowerSignText ['+'] false
  | sign {cs : List Char} {negative : Bool} : SignText cs negative → PowerSignText cs negative

inductive ExponentText : List Char → Int → Prop
  | intro {c : Char} {sign digits : List Char} {negative : Bool} : c = 'e' ∨ c = 'E' →
      PowerSignText sign negative → digits ≠ [] → (∀ d ∈ digits, isDigit d) →
      ExponentText (c :: (sign ++ digits)) (signed negative (digitsValue digits))

inductive NumberText : List Char → Json → Prop
  | int {sign whole : List Char} {negative : Bool} : SignText sign negative → WholeText whole →
      whole.length ≤ integerLimit →
      NumberText (sign ++ whole) (.int (signed negative (digitsValue whole)))
  | real {sign whole fraction exponent : List Char} {negative : Bool} {places : Option (List Char)}
      {power : Option Int} : SignText sign negative → WholeText whole →
      Perhaps FractionText fraction places → Perhaps ExponentText exponent power →
      places.isSome ∨ power.isSome →
      NumberText (sign ++ (whole ++ (fraction ++ exponent)))
        (.real (.ofDecimal negative (digitsValue (whole ++ places.getD []))
          (power.getD 0 - (places.getD []).length)))

inductive SeriesText {α : Type} (close : Char) (item : List Char → α → Prop) :
    List Char → List α → Prop
  | last {left cs right : List Char} {x : α} : IsSpaces left → item cs x → IsSpaces right →
      SeriesText close item (left ++ (cs ++ (right ++ [close]))) [x]
  | more {left cs right rest : List Char} {x : α} {xs : List α} : IsSpaces left → item cs x →
      IsSpaces right → SeriesText close item rest xs →
      SeriesText close item (left ++ (cs ++ (right ++ ',' :: rest))) (x :: xs)

inductive ScalarText : List Char → Json → Prop
  | literal {word : List Char} {v : Json} : (word, v) ∈ literals → ScalarText word v
  | number {cs : List Char} {v : Json} : NumberText cs v → ScalarText cs v

inductive EnclosedText {α : Type} (close : Char) (item : List Char → α → Prop) :
    List Char → List α → Prop
  | empty {cs : List Char} : IsSpaces cs → EnclosedText close item (cs ++ [close]) []
  | series {cs : List Char} {xs : List α} : SeriesText close item cs xs →
      EnclosedText close item cs xs

inductive ArrayText (value : List Char → Json → Prop) : List Char → Json → Prop
  | intro {cs : List Char} {xs : List Json} : EnclosedText ']' value cs xs →
      ArrayText value cs (.arr xs)

inductive EntryText (value : List Char → Json → Prop) : List Char → String × Json → Prop
  | intro {name left right cs : List Char} {k : String} {v : Json} : StringText name k →
      IsSpaces left → IsSpaces right → value cs v →
      EntryText value (name ++ (left ++ ':' :: (right ++ cs))) (k, v)

inductive ObjectText (value : List Char → Json → Prop) : List Char → Json → Prop
  | intro {cs : List Char} {fs : List (String × Json)} :
      EnclosedText '\x7d' (EntryText value) cs fs → ObjectText value cs (.obj (Fields.ofList fs))

/-- A value, where what stands behind an opening bracket is left to `array` and `object`. -/
inductive TextWith (array object : List Char → Json → Prop) : List Char → Json → Prop
  | scalar {cs : List Char} {v : Json} : ScalarText cs v → TextWith array object cs v
  | string {cs : List Char} {s : String} : StringText cs s → TextWith array object cs (.str s)
  | array {cs : List Char} {v : Json} : array cs v → TextWith array object ('[' :: cs) v
  | object {cs : List Char} {v : Json} : object cs v → TextWith array object ('\x7b' :: cs) v

def ValueText : (depth : Nat) → List Char → Json → Prop
  | 0 => TextWith (fun _ _ => False) (fun _ _ => False)
  | depth + 1 => TextWith (ArrayText (ValueText depth)) (ObjectText (ValueText depth))

inductive DocumentText : List Char → Json → Prop
  | intro {left cs right : List Char} {v : Json} : IsSpaces left → ValueText nestingLimit cs v →
      IsSpaces right → DocumentText (left ++ (cs ++ right)) v

end ShapeGraph.Json
