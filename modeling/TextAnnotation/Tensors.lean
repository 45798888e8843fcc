import TextAnnotation.Decimal.Single
import TextAnnotation.Json.Value.Parse

/-!
# Files of tensors

A file of tensors starts with the length of its header in eight bytes, the least byte first. The header is
a JSON object with the type, the shape and the place of every tensor. The data follow, and the tensors cover
them without a gap.

* `Tensor`: a table of numbers of 32 bits with a shape.
* `Tensor.ofBytes?`: the tensors of a file, by their names.
* `Tensor.fileOfRows`: a file with one table, the entries of which are the numbers of their rows.
-/

namespace TextAnnotation

/-- Numbers in a shape, the last index running fastest. -/
structure Tensor where
  shape : List Nat
  data : Array Float32

namespace Tensor

open Json (Value)

/-! ## Numbers as bytes -/

def natOfBytes : List UInt8 → Nat
  | [] => 0
  | b :: bs => b.toNat + 256 * natOfBytes bs

def bytesOfNat : (count : Nat) → Nat → List UInt8
  | 0, _ => []
  | count + 1, n => UInt8.ofNat n :: bytesOfNat count (n / 256)

/-- A type of numbers that can be read: how many bytes one has, and which number of 32 bits it becomes. -/
structure Format where
  name : String
  size : Nat
  single : Nat → Float32

/-- A natural number of some bytes as an integer with a sign. -/
def signedOf (size n : Nat) : Int :=
  if n < Nat.pow 2 (8 * size - 1) then n else n - Nat.pow 2 (8 * size)

def Format.unsigned (name : String) (size : Nat) : Format :=
  ⟨name, size, fun n => Decimal.singleOfInt n⟩

def Format.signed (name : String) (size : Nat) : Format :=
  ⟨name, size, fun n => Decimal.singleOfInt (signedOf size n)⟩

def formats : List Format := [
  ⟨"F32", 4, fun n => Float32.ofBits (UInt32.ofNat n)⟩,
  ⟨"F64", 8, fun n => (Float.ofBits (UInt64.ofNat n)).toFloat32⟩,
  ⟨"F16", 2, Decimal.singleOfHalf⟩,
  ⟨"BF16", 2, Decimal.singleOfBrain⟩,
  .unsigned "U8" 1, .unsigned "U16" 2, .unsigned "U32" 4,
  .signed "I16" 2, .signed "I32" 4, .signed "I64" 8]

/-! ## Reading -/

/-- A tensor in the header of a file: its place is given in bytes of the data. -/
structure Header where
  name : String
  format : Format
  shape : List Nat
  start : Nat
  stop : Nat

/-- Reads the header of a tensor. -/
def header? (name : String) (v : Value) : Option Header := do
  let .string type := v.get "dtype" | none
  let format ← formats.find? (·.name == type)
  let .array sizes := v.get "shape" | none
  let shape ← sizes.mapM Value.size?
  let .array [a, b] := v.get "data_offsets" | none
  let start ← a.size?
  let stop ← b.size?
  some ⟨name, format, shape, start, stop⟩

/-- Whether a value maps names to strings, or is missing. -/
def isNotes : Value → Bool
  | .null => true
  | .object members => members.all fun m => match m.2 with | .string _ => true | _ => false
  | _ => false

/-- The member of a header that holds notes. -/
def notesName : String := "__metadata__"

def headers? : Value → Option (List Header)
  | .object members =>
    if isNotes ((Value.object members).get notesName) then
      (members.filter (·.1 != notesName)).mapM fun m => header? m.1 m.2
    else none
  | _ => none

def Header.before (a b : Header) : Bool :=
  a.start < b.start || (a.start == b.start && a.stop ≤ b.stop)

/-- How many numbers there are in a shape, unless they cannot be counted with 64 bits. -/
def count? (shape : List Nat) : Option Nat :=
  shape.foldlM (fun n size => if n * size < UInt64.size then some (n * size) else none) 1

/-- Whether the headers, in order, cover the data from one byte to another, each with the bytes that its
shape needs. -/
def covers (start stop : Nat) : List Header → Bool
  | [] => start == stop
  | h :: hs =>
    match count? h.shape with
    | some count => h.start == start && h.stop == start + count * h.format.size && covers h.stop stop hs
    | none => false

def numbers (f : Format) (bytes : ByteArray) (start : Nat) : (count : Nat) → Array Float32 → Array Float32
  | 0, done => done
  | count + 1, done =>
    let n := natOfBytes ((bytes.extract start (start + f.size)).toList)
    numbers f bytes (start + f.size) count (done.push (f.single n))

def maxHeader : Nat := 100000000

/-- Reads the tensors of a file. -/
def ofBytes? (bytes : ByteArray) : Option (List (String × Tensor)) := do
  guard (8 ≤ bytes.size)
  let length := natOfBytes (bytes.extract 0 8).toList
  guard (length ≤ maxHeader && 8 + length ≤ bytes.size)
  let text ← String.fromUTF8? (bytes.extract 8 (8 + length))
  let v ← (Value.parse text.toList).toOption
  let headers ← headers? v
  guard (covers 0 (bytes.size - 8 - length) (headers.mergeSort Header.before))
  some (headers.map fun h =>
    (h.name, ⟨h.shape, numbers h.format bytes (8 + length + h.start) (h.shape.foldl (· * ·) 1) #[]⟩))

/-! ## Writing -/

/-- The header of a file with one table, filled up with spaces to whole groups of eight bytes. -/
def headerText (name : String) (rows width : Nat) : List Char :=
  let v : Value := .object [(name, .object [
    ("dtype", .string "F32"),
    ("shape", .array [.nat rows, .nat width]),
    ("data_offsets", .array [.nat 0, .nat (rows * width * 4)])])]
  let text := v.compact
  text ++ List.replicate ((8 - (String.ofList text).utf8ByteSize % 8) % 8) ' '

/-- The bytes of a table in which every entry of a row is the number of the row. -/
def rowBytes (rows width : Nat) : List UInt8 :=
  (List.range rows).flatMap fun (i : Nat) =>
    (List.replicate width (bytesOfNat 4 (Decimal.singleOfInt i).toBits.toNat)).flatten

/-- A file with one table in which every entry of a row is the number of the row. -/
def fileOfRows (name : String) (rows width : Nat) : ByteArray :=
  let header := (String.ofList (headerText name rows width)).toUTF8
  ⟨(bytesOfNat 8 header.size).toArray⟩ ++ header ++ ⟨(rowBytes rows width).toArray⟩

end Tensor

end TextAnnotation
