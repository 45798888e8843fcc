import TextAnnotation.Text.Natural

/-!
# The shortest decimal of a binary number

A binary floating-point number stands for every real that rounds to it. Of the decimals in that interval
the ones with the fewest digits are taken, and of these the one nearest to the number itself; a tie goes
to the even last digit.

* `Binary`: a number `mantissa · 2 ^ exponent` and its lower neighbour.
* `shortest`: its digits and its power of ten.
-/

namespace TextAnnotation.Decimal

/-- The positive number `mantissa · 2 ^ exponent`. It is `narrow` if the next smaller number is only half
as far away as the next larger one. -/
structure Binary where
  mantissa : Nat
  exponent : Int
  narrow : Bool

/-- A decimal `d.ddd · 10 ^ exponent`, with the digits in order. -/
structure Scientific where
  digits : List Char
  exponent : Int

def above (i : Int) : Nat := i.toNat

def below (i : Int) : Nat := (-i).toNat

/-- The power of ten of the leading digit. -/
def magnitude (b : Binary) : Int :=
  let num := b.mantissa * Nat.pow 2 (above b.exponent)
  let den := Nat.pow 2 (below b.exponent)
  if den ≤ num then (Text.digits (num / den)).length - 1
  else -(Text.digits ((den - 1) / num)).length

/-- The multiple of `10 ^ grid` that is nearest to the number among those that round to it, if there is
one. All quantities are compared in quarters of the last binary place. -/
def nearest? (b : Binary) (grid : Int) : Option Nat :=
  let step := Nat.pow 10 (above grid) * Nat.pow 2 (below (b.exponent - 2))
  let unit := Nat.pow 10 (below grid) * Nat.pow 2 (above (b.exponent - 2))
  let value := 4 * b.mantissa * unit
  let low := (4 * b.mantissa - if b.narrow then 1 else 2) * unit
  let high := (4 * b.mantissa + 2) * unit
  let rounds (d : Nat) : Bool :=
    if b.mantissa % 2 = 0 then low ≤ d * step && d * step ≤ high
    else low < d * step && d * step < high
  let d := value / step
  match rounds d, rounds (d + 1) with
  | false, false => none
  | true, false => some d
  | false, true => some (d + 1)
  | true, true =>
    let excess := value - d * step
    let missing := (d + 1) * step - value
    some (if excess < missing then d else if missing < excess then d + 1 else if d % 2 = 0 then d else d + 1)

/-- Tries `count`, `count + 1`, … digits, `tries` times. -/
def search (b : Binary) (leading : Int) (count : Nat) : Nat → Scientific
  | 0 => ⟨['0'], 0⟩
  | tries + 1 =>
    let grid := leading - count + 1
    match nearest? b grid with
    | none => search b leading (count + 1) tries
    | some d =>
      let ds := Text.digits d
      ⟨(ds.reverse.dropWhile (· == '0')).reverse, grid + ds.length - 1⟩

/-- The shortest decimal that reads back to a number of up to 53 binary places. -/
def shortest (b : Binary) : Scientific :=
  search b (magnitude b) 1 20

end TextAnnotation.Decimal
