namespace ShapeGraph.Text

def hexDigit (n : Nat) : Char := Char.ofNat (if n < 10 then 0x30 + n else 0x57 + n)

def hex : Nat → Nat → List Char
  | 0, _ => []
  | width + 1, n => hexDigit (n / Nat.pow 16 width % 16) :: hex width n

def hexValue? (c : Char) : Option Nat :=
  if '0' ≤ c ∧ c ≤ '9' then some (c.toNat - 0x30)
  else if 'a' ≤ c ∧ c ≤ 'f' then some (c.toNat - 0x57)
  else if 'A' ≤ c ∧ c ≤ 'F' then some (c.toNat - 0x37)
  else none

def readHex : Nat → Nat → List Char → Option (Nat × List Char)
  | 0, acc, cs => some (acc, cs)
  | _ + 1, _, [] => none
  | width + 1, acc, c :: cs => (hexValue? c).bind fun d => readHex width (16 * acc + d) cs

theorem hexValue?_hexDigit {n : Nat} (h : n < 16) : hexValue? (hexDigit n) = some n := by
  have : ∀ i : Fin 16, hexValue? (hexDigit i) = some i.val := by decide
  exact this ⟨n, h⟩

theorem readHex_hex (width acc n : Nat) (rest : List Char) :
    readHex width acc (hex width n ++ rest) = some (Nat.pow 16 width * acc + n % Nat.pow 16 width, rest) := by
  induction width generalizing acc with
  | zero => simp [readHex, hex, Nat.mod_one]
  | succ width ih =>
    have hd : n / Nat.pow 16 width % 16 < 16 := Nat.mod_lt _ (by decide)
    simp only [hex, List.cons_append, readHex, hexValue?_hexDigit hd, Option.bind_some, ih]
    rw [Nat.pow_eq, Nat.pow_eq, Nat.mod_pow_succ, Nat.mul_add, Nat.pow_succ, Nat.mul_assoc, Nat.add_assoc,
      Nat.add_comm (n % 16 ^ width)]

end ShapeGraph.Text
