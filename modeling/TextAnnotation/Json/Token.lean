import TextAnnotation.Text.Hex
import TextAnnotation.Text.Words
import TextAnnotation.Json.Number

/-!
# Tokens of JSON

A text is cut into tokens before anything is made of them. Blanks between tokens are the space, the tab
and the two line ends. Where the text breaks off inside a token or cannot be one, the last token says so.
Such a token has two faults: a value that is wanted is read more strictly than one that is passed over.

* `Token`, `Fault`: what a text is cut into, and what can be wrong with it.
* `lex`: the tokens of a text.
-/

namespace TextAnnotation.Json

/-- What is wrong with a text: it is not JSON, or it ends too early. -/
inductive Fault where
  | malformed
  | truncated
  deriving DecidableEq, Repr

inductive Token where
  | openArray
  | closeArray
  | openObject
  | closeObject
  | comma
  | colon
  | null
  | bool (b : Bool)
  /-- A number, unless it is too large. -/
  | number (n : Option Number)
  /-- A string, unless it has half of a surrogate pair. -/
  | string (s : Option String)
  /-- The text cannot be read on. The first fault is met by one who wants the value, the second by one
  who passes over it. -/
  | broken (quoted : Bool) (read skip : Fault)

def isSpace (c : Char) : Bool :=
  c == ' ' || c == '\n' || c == '\t' || c == '\r'

/-! ## Numerals -/

inductive NumeralStage where
  /-- Behind the minus sign. -/
  | sign
  /-- Behind a leading zero. -/
  | zero
  /-- Behind another digit in front of the point. -/
  | whole
  /-- Behind the point. -/
  | point
  /-- Behind a digit behind the point. -/
  | fraction
  /-- Behind the mark of the exponent. -/
  | mark
  /-- Behind the sign of the exponent. -/
  | powerSign
  /-- Behind a digit of the exponent. -/
  | power
  deriving DecidableEq

/-- A numeral that is being read, its digits backwards. -/
structure NumeralReading where
  stage : NumeralStage
  numeral : Numeral

/-- What a character does inside a token. -/
inductive Move (σ : Type) where
  /-- It belongs to the token. -/
  | stay (next : σ)
  /-- The token is complete without it. -/
  | leave
  /-- It cannot stand here. -/
  | stuck

def Numeral.blank : Numeral := ⟨false, [], [], false, []⟩

def NumeralReading.move (r : NumeralReading) (c : Char) : Move NumeralReading :=
  let n := r.numeral
  let digit := c.isDigit
  let mark := c == 'e' || c == 'E'
  match r.stage with
  | .sign =>
    if c == '0' then .stay ⟨.zero, { n with whole := [c] }⟩
    else if digit then .stay ⟨.whole, { n with whole := [c] }⟩
    else .stuck
  | .zero =>
    if digit then .stuck
    else if c == '.' then .stay ⟨.point, n⟩
    else if mark then .stay ⟨.mark, n⟩
    else .leave
  | .whole =>
    if digit then .stay ⟨.whole, { n with whole := c :: n.whole }⟩
    else if c == '.' then .stay ⟨.point, n⟩
    else if mark then .stay ⟨.mark, n⟩
    else .leave
  | .point =>
    if digit then .stay ⟨.fraction, { n with fraction := [c] }⟩ else .stuck
  | .fraction =>
    if digit then .stay ⟨.fraction, { n with fraction := c :: n.fraction }⟩
    else if mark then .stay ⟨.mark, n⟩
    else .leave
  | .mark =>
    if digit then .stay ⟨.power, { n with power := [c] }⟩
    else if c == '+' then .stay ⟨.powerSign, n⟩
    else if c == '-' then .stay ⟨.powerSign, { n with lowered := true }⟩
    else .stuck
  | .powerSign =>
    if digit then .stay ⟨.power, { n with power := [c] }⟩ else .stuck
  | .power =>
    if digit then .stay ⟨.power, { n with power := c :: n.power }⟩ else .leave

def NumeralStage.final : NumeralStage → Bool
  | .zero | .whole | .fraction | .power => true
  | .sign | .point | .mark | .powerSign => false

/-- The token of a numeral that ends here. An unfinished one that is passed over is malformed even at the
end of the text. -/
def NumeralReading.token (r : NumeralReading) : Token :=
  if r.stage.final then
    let n := r.numeral
    .number (Numeral.number? { n with
      whole := n.whole.reverse, fraction := n.fraction.reverse, power := n.power.reverse })
  else .broken false .truncated .malformed

/-! ## Strings -/

inductive QuoteStage where
  /-- Between characters. -/
  | plain
  /-- Behind a backslash. -/
  | escape
  /-- Behind `count` digits of a code unit. -/
  | unit (count value : Nat)

/-- A string that is being read: its characters backwards, the first half of a surrogate pair that waits
for the second, and whether all is well so far. -/
structure QuoteReading where
  stage : QuoteStage
  text : List Char
  high : Option Nat
  sound : Bool

def escaped? : Char → Option Char
  | '"' => some '"'
  | '\\' => some '\\'
  | '/' => some '/'
  | 'b' => some (Char.ofNat 8)
  | 'f' => some (Char.ofNat 12)
  | 'n' => some '\n'
  | 'r' => some '\r'
  | 't' => some '\t'
  | _ => none

/-- Takes up a character. A half of a pair that waits in front of it has failed. -/
def QuoteReading.push (r : QuoteReading) (c : Char) : QuoteReading :=
  ⟨.plain, c :: r.text, none, r.sound && r.high.isNone⟩

/-- Takes up a code unit of UTF-16 that was written with four digits. -/
def QuoteReading.pushUnit (r : QuoteReading) (u : Nat) : QuoteReading :=
  let low := 0xDC00 ≤ u && u ≤ 0xDFFF
  match r.high with
  | some h =>
    if low then
      ⟨.plain, Char.ofNat (0x10000 + (h - 0xD800) * 0x400 + (u - 0xDC00)) :: r.text, none, r.sound⟩
    else ⟨.plain, r.text, none, false⟩
  | none =>
    if low then ⟨.plain, r.text, none, false⟩
    else if 0xD800 ≤ u && u ≤ 0xDBFF then ⟨.plain, r.text, some u, r.sound⟩
    else ⟨.plain, Char.ofNat u :: r.text, none, r.sound⟩

def QuoteReading.token (r : QuoteReading) : Token :=
  .string (if r.sound && r.high.isNone then some (String.ofList r.text.reverse) else none)

/-- The fault that one meets who wants the string, when one who passes over it meets `f`. -/
def QuoteReading.fault (r : QuoteReading) (f : Fault) : Fault :=
  if r.sound then f else .malformed

/-- The fault of a digit that is missing: four bytes are looked at before any of them is judged. -/
def unitFault (count : Nat) (rest : List Char) : Fault :=
  if 4 ≤ count + Text.byteLength (rest.take 4) then .malformed else .truncated

/-! ## The text -/

inductive Place where
  /-- Between tokens. -/
  | gap
  /-- Inside a word that goes on with `next` and `rest`. -/
  | word (next : Char) (rest : List Char) (token : Token)
  | numeral (reading : NumeralReading)
  | quote (reading : QuoteReading)

/-- What a character completes, and where one stands behind it; nowhere if the text cannot be read on. -/
structure Step where
  tokens : List Token
  next : Option Place

/-- The text cannot be read on from here. -/
def Step.fail (quoted : Bool) (read skip : Fault) : Step :=
  ⟨[.broken quoted read skip], none⟩

/-- What a character does between tokens. -/
def stepGap (c : Char) : Step :=
  let enter (p : Place) : Step := ⟨[], some p⟩
  let token (t : Token) : Step := ⟨[t], some .gap⟩
  let numeral (stage : NumeralStage) (n : Numeral) : Step := enter (.numeral ⟨stage, n⟩)
  if isSpace c then enter .gap
  else match c with
    | '[' => token .openArray
    | ']' => token .closeArray
    | '{' => token .openObject
    | '}' => token .closeObject
    | ',' => token .comma
    | ':' => token .colon
    | 'n' => enter (.word 'u' ['l', 'l'] .null)
    | 't' => enter (.word 'r' ['u', 'e'] (.bool true))
    | 'f' => enter (.word 'a' ['l', 's', 'e'] (.bool false))
    | '"' => enter (.quote ⟨.plain, [], none, true⟩)
    | '-' => numeral .sign { Numeral.blank with negative := true }
    | '0' => numeral .zero { Numeral.blank with whole := [c] }
    | _ =>
      if c.isDigit then numeral .whole { Numeral.blank with whole := [c] }
      else .fail false .malformed .malformed

def stepWord (next : Char) (rest : List Char) (t : Token) (c : Char) : Step :=
  if c != next then .fail false .malformed .malformed
  else match rest with
    | [] => ⟨[t], some .gap⟩
    | d :: ds => ⟨[], some (.word d ds t)⟩

def stepNumeral (r : NumeralReading) (c : Char) : Step :=
  match r.move c with
  | .stay r' => ⟨[], some (.numeral r')⟩
  | .stuck => .fail false .malformed .malformed
  | .leave => let s := stepGap c; { s with tokens := r.token :: s.tokens }

/-- What a character in front of `rest` does inside a string. -/
def stepQuote (r : QuoteReading) (c : Char) (rest : List Char) : Step :=
  let stay (r' : QuoteReading) : Step := ⟨[], some (.quote r')⟩
  let fail (f : Fault) : Step := .fail true (r.fault f) f
  match r.stage with
  | .plain =>
    if c == '"' then ⟨[r.token], some .gap⟩
    else if c == '\\' then stay { r with stage := .escape }
    else if c.toNat < 0x20 then fail .malformed
    else stay (r.push c)
  | .escape =>
    if c == 'u' then stay { r with stage := .unit 0 0 }
    else match escaped? c with
      | some e => stay (r.push e)
      | none => fail .malformed
  | .unit count value =>
    match Text.hexValue? c with
    | some d =>
      let v := value * 16 + d
      stay (if count = 3 then r.pushUnit v else { r with stage := .unit (count + 1) v })
    | none => fail (unitFault count (c :: rest))

/-- What a character in front of `rest` does. -/
def step (p : Place) (c : Char) (rest : List Char) : Step :=
  match p with
  | .gap => stepGap c
  | .word next more t => stepWord next more t c
  | .numeral r => stepNumeral r c
  | .quote r => stepQuote r c rest

/-- What the end of the text completes. -/
def finish : Place → List Token
  | .gap => []
  | .word .. => [.broken false .truncated .truncated]
  | .numeral r => [r.token]
  | .quote r => [.broken true (r.fault .truncated) .truncated]

def lexFrom (p : Place) : List Char → List Token
  | [] => finish p
  | c :: cs =>
    let s := step p c cs
    s.tokens ++ match s.next with
      | some q => lexFrom q cs
      | none => []

/-- The tokens of a text. -/
def lex (cs : List Char) : List Token :=
  lexFrom .gap cs

end TextAnnotation.Json
