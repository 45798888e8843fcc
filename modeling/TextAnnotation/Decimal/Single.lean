/-!
# Numbers of 32 bits from other numbers

Each conversion takes the number of 32 bits that is nearest; of two that are equally near, the one with an
even last bit.

* `singleOfInt`: from an integer of at most 64 bits.
* `singleOfHalf`, `singleOfBrain`: from the two floating-point formats of 16 bits.
-/

namespace TextAnnotation.Decimal

/-- The number of 32 bits that is nearest to an integer of at most 64 bits. -/
def singleOfInt (i : Int) : Float32 :=
  let x := (UInt64.ofNat i.natAbs).toFloat32
  if i < 0 then -x else x

/-- The number that is given by its sign bit and its other bits. -/
def signed (negative : Bool) (bits : UInt32) : Float32 :=
  Float32.ofBits (if negative then bits ||| 0x80000000 else bits)

/-- The number with five bits of exponent and ten of mantissa. -/
def singleOfHalf (bits : Nat) : Float32 :=
  let negative := bits / 0x8000 % 2 = 1
  let exponent := bits / 0x400 % 0x20
  let mantissa := bits % 0x400
  if exponent = 31 then signed negative (0x7F800000 ||| UInt32.ofNat (mantissa * 0x2000))
  else if exponent = 0 then
    let x := (UInt32.ofNat mantissa).toFloat32 * Float32.ofBits 0x33800000
    if negative then -x else x
  else signed negative (UInt32.ofNat ((exponent + 112) * 0x800000 + mantissa * 0x2000))

/-- The number with eight bits of exponent and seven of mantissa. -/
def singleOfBrain (bits : Nat) : Float32 :=
  Float32.ofBits (UInt32.ofNat (bits * 0x10000))

end TextAnnotation.Decimal
