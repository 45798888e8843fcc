import TextAnnotation.Text.Natural

/-!
# Numbers in JSON

* `Number`: an integer of 64 bits with or without sign, or a floating-point number.
* `Numeral`: the parts of a number as they are spelt.
* `Numeral.number?`: the number that a numeral stands for, unless it is too large.

An integer that needs more than 64 bits is a floating-point number, and so is `-0`. A numeral with a point
or an exponent is read with a significand of 64 bits, scaled by a power of ten in binary floating point.
-/

namespace TextAnnotation.Json

/-- A number of a JSON text. `single` is only written. -/
inductive Number where
  | integer (n : Int)
  | double (x : Float)
  | single (x : Float32)

/-- A number as it is spelt: the digits in front of the point, behind it and of the exponent. There is no
point if `fraction` is empty and no exponent if `power` is empty. -/
structure Numeral where
  negative : Bool
  whole : List Char
  fraction : List Char
  lowered : Bool
  power : List Char

/-- A significand of 64 bits and the power of ten by which it is to be scaled. -/
structure Significand where
  digits : Nat
  shift : Int

def digitValue (c : Char) : Nat :=
  c.toNat - '0'.toNat

/-- A number with one more digit. -/
def extend (n : Nat) (c : Char) : Nat :=
  n * 10 + digitValue c

/-- Reads digits in front of the point. Where one does not fit into 64 bits any more, it and all after it
only raise the power of ten. -/
def wholePart (n : Nat) : List Char → Significand
  | [] => ⟨n, 0⟩
  | c :: cs =>
    if extend n c < UInt64.size then wholePart (extend n c) cs
    else ⟨n, (c :: cs).length⟩

/-- Reads digits behind the point. Where one does not fit into 64 bits any more, it and all after it are
dropped. -/
def fractionPart (s : Significand) : List Char → Significand
  | [] => s
  | c :: cs =>
    if extend s.digits c < UInt64.size then fractionPart ⟨extend s.digits c, s.shift - 1⟩ cs
    else s

/-- `x · 10 ^ e`. Very small powers are applied in steps. -/
def scale (x : Float) (e : Int) : Float :=
  if e < -308 then
    if x == 0 then x else scale (x / 1e308) (e + 308)
  else if e < 0 then x / OfScientific.ofScientific 1 false (-e).toNat
  else x * OfScientific.ofScientific 1 false e.toNat
  termination_by (-e).toNat
  decreasing_by omega

/-- The value of a significand, unless it is too large. -/
def Significand.double? (s : Significand) (negative : Bool) : Option Float :=
  let x := (UInt64.ofNat s.digits).toFloat
  if 308 < s.shift && !(x == 0) then none
  else
    let y := if 308 < s.shift then x else scale x s.shift
    if y.isInf then none else some (if negative then -y else y)

/-- The exponent of a numeral. Beyond 31 bits there is none. -/
def Numeral.exponent? (n : Numeral) : Option Int :=
  let e := n.power.foldl extend 0
  if e < UInt32.size / 2 then some (if n.lowered then -(e : Int) else e) else none

/-- The floating-point number of a numeral, unless it is too large. -/
def Numeral.double? (n : Numeral) : Option Float :=
  let s := fractionPart (wholePart 0 n.whole) n.fraction
  match n.exponent? with
  | some e => Significand.double? { s with shift := s.shift + e } n.negative
  | none =>
    if s.digits ≠ 0 && !n.lowered then none
    else some (if n.negative then -0.0 else 0.0)

/-- The number that a numeral stands for; nothing if it is too large for a floating-point number. -/
def Numeral.number? (n : Numeral) : Option Number :=
  let s := wholePart 0 n.whole
  if n.fraction.isEmpty && n.power.isEmpty && s.shift = 0 then
    if !n.negative then some (.integer s.digits)
    else if s.digits ≠ 0 && s.digits ≤ UInt64.size / 2 then some (.integer (-s.digits))
    else some (.double (-(UInt64.ofNat s.digits).toFloat))
  else n.double?.map .double

end TextAnnotation.Json
