/-!
# Natural numbers in decimal

* `digits`, `decimal`: the decimal digits of a number.
* `readNatural`: reads a number of at most 64 bits. One leading `+` and any number of leading zeros are
  allowed; the first problem from the left is the one that is reported.
-/

namespace TextAnnotation.Text

def digits (n : Nat) : List Char :=
  Nat.toDigits 10 n

def decimal (n : Nat) : String :=
  String.ofList (digits n)

def digit? (c : Char) : Option Nat :=
  if '0' ≤ c ∧ c ≤ '9' then some (c.toNat - '0'.toNat) else none

inductive NaturalError where
  /-- There is no digit at all. -/
  | empty
  /-- A character is not a digit. -/
  | invalidDigit
  /-- The number has more than 64 bits. -/
  | overflow
  deriving DecidableEq, Repr

def NaturalError.message : NaturalError → String
  | .empty => "cannot parse integer from empty string"
  | .invalidDigit => "invalid digit found in string"
  | .overflow => "number too large to fit in target type"

def readDigits (n : UInt64) : List Char → Except NaturalError UInt64
  | [] => .ok n
  | c :: cs =>
    match digit? c with
    | none => .error .invalidDigit
    | some d =>
      if h : n.toNat * 10 + d < UInt64.size then readDigits (UInt64.ofNatLT (n.toNat * 10 + d) h) cs
      else .error .overflow

/-- Reads a natural number of 64 bits. -/
def readNatural : List Char → Except NaturalError UInt64
  | [] => .error .empty
  | ['+'] => .error .invalidDigit
  | '+' :: cs => readDigits 0 cs
  | cs => readDigits 0 cs

end TextAnnotation.Text
