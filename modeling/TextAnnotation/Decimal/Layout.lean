import TextAnnotation.Decimal.Shortest

/-!
# Floating-point numbers as text

* `Layout`: where positional notation ends; `singleLayout` and `doubleLayout` for the two widths.
* `singleText?`, `doubleText?`: the text of a number, or nothing for an infinity or a NaN.
-/

namespace TextAnnotation.Decimal

/-- The exponents of ten between which a number is written without an exponent. -/
structure Layout where
  least : Int
  most : Int

/-- Numbers of 32 bits are positional from `0.000001` to below `10 ^ 13`. -/
def singleLayout : Layout := ⟨-6, 12⟩

/-- Numbers of 64 bits are positional from `0.00001` to below `10 ^ 16`. -/
def doubleLayout : Layout := ⟨-5, 15⟩

/-- Positional notation, with at least one digit behind the point. -/
def positional (s : Scientific) : List Char :=
  if s.exponent < 0 then
    '0' :: '.' :: List.replicate (below s.exponent - 1) '0' ++ s.digits
  else
    let whole := above s.exponent + 1
    if s.digits.length ≤ whole then
      s.digits ++ List.replicate (whole - s.digits.length) '0' ++ ['.', '0']
    else s.digits.take whole ++ '.' :: s.digits.drop whole

/-- Notation with an exponent, which always has a sign. -/
def exponential (s : Scientific) : List Char :=
  let fraction := match s.digits.drop 1 with
    | [] => []
    | ds => '.' :: ds
  let sign := if s.exponent < 0 then '-' else '+'
  s.digits.take 1 ++ fraction ++ 'e' :: sign :: Text.digits s.exponent.natAbs

def Layout.write (l : Layout) (s : Scientific) : List Char :=
  if l.least ≤ s.exponent ∧ s.exponent ≤ l.most then positional s else exponential s

/-- The text of a number given by its bits: `fraction` bits for the mantissa, `width` bits for the
exponent, and a sign in front. -/
def textOfBits? (l : Layout) (fraction width bits : Nat) : Option (List Char) :=
  let mantissa := bits % Nat.pow 2 fraction
  let exponent := bits / Nat.pow 2 fraction % Nat.pow 2 width
  let sign := if bits / Nat.pow 2 (fraction + width) % 2 = 0 then [] else ['-']
  let least : Int := 2 - Nat.pow 2 (width - 1) - fraction
  if exponent = Nat.pow 2 width - 1 then none
  else if exponent = 0 then
    if mantissa = 0 then some (sign ++ ['0', '.', '0'])
    else some (sign ++ l.write (shortest ⟨mantissa, least, false⟩))
  else
    let b : Binary := ⟨Nat.pow 2 fraction + mantissa, least + exponent - 1, mantissa = 0 ∧ 1 < exponent⟩
    some (sign ++ l.write (shortest b))

def singleText? (x : Float32) : Option (List Char) :=
  textOfBits? singleLayout 23 8 x.toBits.toNat

def doubleText? (x : Float) : Option (List Char) :=
  textOfBits? doubleLayout 52 11 x.toBits.toNat

end TextAnnotation.Decimal
