import TextAnnotation.Annotator
import TextAnnotation.Message.Json
import TextAnnotation.Text.Blank

/-!
# Streams of messages

One JSON message on each line goes in, and the same message with its docs comes out, on a line of its own.
Blank lines are passed over. The first line that fails ends the stream.

* `lines`: the lines of an input.
* `Sink`: what is written to, which can run full.
* `run`: annotates a stream.
-/

namespace TextAnnotation.Stream

/-- What can go wrong with the input or the output as such. -/
inductive Fault where
  | notText
  | full
  | flush
  deriving DecidableEq, Repr

def Fault.message : Fault → String
  | .notText => TextAnnotation.notText
  | .full => "disk full"
  | .flush => "flush failed"

/-- Why a stream ends early. Lines are counted from one. -/
inductive Error where
  | io (fault : Fault)
  | invalidMessage (line : Nat) (error : Json.Error)
  | model (line : Nat) (error : ModelError)
  | encode (line : Nat) (fault : Fault)

def Error.message : Error → String
  | .io f => "stream I/O failed: " ++ f.message
  | .invalidMessage n e => "invalid message on line " ++ Text.decimal n ++ ": " ++ e.message
  | .model n e => "processing message on line " ++ Text.decimal n ++ " failed: " ++ e.message
  | .encode n f => "failed to encode message on line " ++ Text.decimal n ++ ": " ++ f.message

def Error.isCrash : Error → Bool
  | .model _ e => e.isCrash
  | .io _ | .invalidMessage .. | .encode .. => false

/-! ## Lines -/

def lineFeed : UInt8 := 10

def carriageReturn : UInt8 := 13

/-- A line (backwards) without the one carriage return at its end. -/
def dropReturn : List UInt8 → List UInt8
  | b :: bs => if b = carriageReturn then bs else b :: bs
  | [] => []

/-- The lines of bytes, with `line` (backwards) already read of the first one. -/
def linesFrom (line : List UInt8) : List UInt8 → List (List UInt8)
  | [] => if line.isEmpty then [] else [line.reverse]
  | b :: bs =>
    if b = lineFeed then (dropReturn line).reverse :: linesFrom [] bs else linesFrom (b :: line) bs

def lines (input : List UInt8) : List (List UInt8) :=
  linesFrom [] input

def text? (line : List UInt8) : Option String :=
  String.fromUTF8? ⟨line.toArray⟩

/-! ## Output -/

/-- What is written to: how many bytes it still takes, if there is a limit, and whether it can be
flushed. -/
structure Sink where
  room : Option Nat
  flushes : Bool

def Sink.unlimited : Sink := ⟨none, true⟩

/-- The sink behind some bytes that it takes. -/
def Sink.take? (s : Sink) (count : Nat) : Option Sink :=
  match s.room with
  | none => some s
  | some n => if count ≤ n then some { s with room := some (n - count) } else none

/-- What has become of a stream: what was written, the number of messages, and the requests to the
model. -/
structure Outcome where
  output : List Char
  result : Except Error Nat
  calls : List Call

def Outcome.after (o : Outcome) (output : List Char) (calls : List Call) : Outcome :=
  ⟨output ++ o.output, o.result, calls ++ o.calls⟩

/-- The outcome of a line that fails. -/
def fail (e : Error) : Outcome :=
  ⟨[], .error e, []⟩

/-- Writes a message of line `number`, and goes on. -/
def write (number : Nat) (m : Message) (sink : Sink) (next : Sink → Outcome) : Outcome :=
  let text := m.json.compact
  match sink.take? (String.ofList text).utf8ByteSize with
  | none => fail (.encode number .full)
  | some sink =>
    match sink.take? 1 with
    | none => (fail (.io .full)).after text []
    | some sink => (next sink).after (text ++ ['\n']) []

def runFrom (a : Annotator) (number count : Nat) (sink : Sink) : List (List UInt8) → Outcome
  | [] => ⟨[], if sink.flushes then .ok count else .error (.io .flush), []⟩
  | line :: rest =>
    match text? line with
    | none => fail (.io .notText)
    | some text =>
      if Text.isBlankText text then runFrom a (number + 1) count sink rest
      else
        match Message.decode text.toList with
        | .error e => fail (.invalidMessage number e)
        | .ok m =>
          let x := a.annotate m
          match x.result with
          | .error e => (fail (.model number e)).after [] x.calls
          | .ok () =>
            (write number x.message sink fun sink =>
              runFrom a (number + 1) (count + 1) sink rest).after [] x.calls

/-- Annotates a stream of messages. -/
def run (a : Annotator) (sink : Sink) (input : List UInt8) : Outcome :=
  runFrom a 1 0 sink (lines input)

end TextAnnotation.Stream
