import TextAnnotation.Json.Tree

/-!
# The grammar of JSON

Which texts are JSON, and what they say, without any regard to how they are read.

* `Pieces`, `joined?`: a string between its quotes, and the characters that it stands for.
* `Numeral.Spells`: a number as it is spelt.
* `Spells`: a text that is a JSON value, with any white space. Nesting is not limited, members may come
  in any order and be repeated, and a string may hold half of a surrogate pair.
-/

namespace TextAnnotation.Json

/-- White space, which may be empty. -/
def Blanks (cs : List Char) : Prop :=
  ∀ c ∈ cs, isSpace c = true

instance (cs : List Char) : Decidable (Blanks cs) := List.decidableBAll _ cs

theorem blanks_nil : Blanks [] := by
  intro c hc
  cases hc

/-! ## Strings -/

/-- The letters that may stand behind a backslash, and the characters that they mean. -/
def letters : List (Char × Char) :=
  [('"', '"'), ('\\', '\\'), ('/', '/'), ('b', Char.ofNat 8), ('f', Char.ofNat 12), ('n', '\n'),
   ('r', '\r'), ('t', '\t')]

/-- The number with four hexadecimal digits. -/
def codeUnit? (a b c d : Char) : Option Nat := do
  let a ← Text.hexValue? a
  let b ← Text.hexValue? b
  let c ← Text.hexValue? c
  let d ← Text.hexValue? d
  some (((a * 16 + b) * 16 + c) * 16 + d)

/-- A part of a string: a character, or a code unit of UTF-16 that is spelt as an escape. -/
inductive Piece where
  | char (c : Char)
  | unit (u : Nat)

/-- `Pieces cs ps`: the text `cs` between two quotes consists of the parts `ps`. -/
inductive Pieces : List Char → List Piece → Prop where
  | nil : Pieces [] []
  | plain {c : Char} {cs : List Char} {ps : List Piece} : c ≠ '"' → c ≠ '\\' → 0x20 ≤ c.toNat →
      Pieces cs ps → Pieces (c :: cs) (.char c :: ps)
  | letter {e c : Char} {cs : List Char} {ps : List Piece} : (e, c) ∈ letters →
      Pieces cs ps → Pieces ('\\' :: e :: cs) (.char c :: ps)
  | unit {a b c d : Char} {u : Nat} {cs : List Char} {ps : List Piece} : codeUnit? a b c d = some u →
      Pieces cs ps → Pieces ('\\' :: 'u' :: a :: b :: c :: d :: cs) (.unit u :: ps)

theorem pieces_of_plain {cs : List Char}
    (h : cs.all (fun c => c ≠ '"' ∧ c ≠ '\\' ∧ 0x20 ≤ c.toNat) = true) : Pieces cs (cs.map .char) := by
  induction cs with
  | nil => exact .nil
  | cons c cs ih =>
    rw [List.all_cons, Bool.and_eq_true, decide_eq_true_eq] at h
    obtain ⟨⟨hquote, hslash, hsmall⟩, hrest⟩ := h
    exact .plain hquote hslash hsmall (ih hrest)

def IsHigh (u : Nat) : Prop := 0xD800 ≤ u ∧ u ≤ 0xDBFF

def IsLow (u : Nat) : Prop := 0xDC00 ≤ u ∧ u ≤ 0xDFFF

instance (u : Nat) : Decidable (IsHigh u) := inferInstanceAs (Decidable (_ ∧ _))

instance (u : Nat) : Decidable (IsLow u) := inferInstanceAs (Decidable (_ ∧ _))

def pairChar (high low : Nat) : Char :=
  Char.ofNat (0x10000 + (high - 0xD800) * 0x400 + (low - 0xDC00))

/-- The characters of a string, unless half of a surrogate pair stands alone. -/
def joined? : List Piece → Option (List Char)
  | [] => some []
  | .char c :: ps => (joined? ps).map (c :: ·)
  | .unit u :: ps =>
    if IsHigh u then
      match ps with
      | .unit v :: qs => if IsLow v then (joined? qs).map (pairChar u v :: ·) else none
      | _ => none
    else if IsLow u then none
    else (joined? ps).map (Char.ofNat u :: ·)

theorem not_isHigh_of_isLow {u : Nat} (h : IsLow u) : ¬ IsHigh u := by
  unfold IsHigh IsLow at *
  omega

theorem joined?_of_isLow {u : Nat} (h : IsLow u) (ps : List Piece) : joined? (.unit u :: ps) = none := by
  rw [joined?.eq_def]
  simp [h, not_isHigh_of_isLow h]

theorem joined?_of_scalar {u : Nat} (hhigh : ¬ IsHigh u) (hlow : ¬ IsLow u) (ps : List Piece) :
    joined? (.unit u :: ps) = (joined? ps).map (Char.ofNat u :: ·) := by
  rw [joined?.eq_def]
  simp [hhigh, hlow]

def string? (ps : List Piece) : Option String :=
  (joined? ps).map String.ofList

/-! ## Numbers -/

namespace Numeral

/-- There are only digits where there should be, no zero in front of another digit, and no sign without an
exponent. -/
structure Sound (n : Numeral) : Prop where
  whole : n.whole = ['0'] ∨ ∃ d ds, n.whole = d :: ds ∧ d ≠ '0' ∧ ∀ c ∈ n.whole, c.isDigit = true
  fraction : ∀ c ∈ n.fraction, c.isDigit = true
  power : ∀ c ∈ n.power, c.isDigit = true
  unsigned : n.power = [] → n.lowered = false

def minus (n : Numeral) : List Char :=
  if n.negative then ['-'] else []

/-- The digits behind the point and the point, if there is one. -/
def decimals (n : Numeral) : List Char :=
  match n.fraction with
  | [] => []
  | ds => '.' :: ds

/-- The sign of an exponent, which is optional for a positive one. -/
def PowerSign (lowered : Bool) (cs : List Char) : Prop :=
  if lowered then cs = ['-'] else cs = [] ∨ cs = ['+']

/-- A number as it is spelt. -/
inductive Spells (n : Numeral) : List Char → Prop where
  | plain : n.Sound → n.power = [] → Spells n (n.minus ++ n.whole ++ n.decimals)
  | scaled {mark : Char} {sign : List Char} : n.Sound → n.power ≠ [] → mark = 'e' ∨ mark = 'E' →
      PowerSign n.lowered sign → Spells n (n.minus ++ n.whole ++ n.decimals ++ mark :: sign ++ n.power)

end Numeral

/-! ## Values -/

/-- A member of an object: the parts of its name, its name as it is spelt with white space on both sides,
its value, and the text of its value. -/
structure SpeltMember where
  pieces : List Piece
  before : List Char
  name : List Char
  after : List Char
  value : Tree
  text : List Char

namespace SpeltMember

/-- Its name is spelt as it should be. -/
structure Sound (m : SpeltMember) : Prop where
  before : Blanks m.before
  name : Pieces m.name m.pieces
  after : Blanks m.after

def spelling (m : SpeltMember) : List Char :=
  m.before ++ '"' :: m.name ++ '"' :: m.after ++ ':' :: m.text

def member (m : SpeltMember) : Member :=
  (match string? m.pieces with
    | some k => .ok k
    | none => .error .malformed, m.value)

end SpeltMember

/-- `Spells t cs`: the text `cs` is a JSON value that says `t`. -/
inductive Spells : Tree → List Char → Prop where
  | padded {t : Tree} {cs before after : List Char} : Blanks before → Blanks after → Spells t cs →
      Spells t (before ++ cs ++ after)
  | null : Spells .null ['n', 'u', 'l', 'l']
  | true : Spells (.bool true) ['t', 'r', 'u', 'e']
  | false : Spells (.bool false) ['f', 'a', 'l', 's', 'e']
  | number {n : Numeral} {cs : List Char} : n.Spells cs → Spells (.number n.number?) cs
  | string {cs : List Char} {ps : List Piece} : Pieces cs ps →
      Spells (.string (string? ps)) ('"' :: cs ++ ['"'])
  | array {blanks : List Char} {items : List (Tree × List Char)} : Blanks blanks →
      (∀ i ∈ items, Spells i.1 i.2) →
      Spells (.array (items.map (·.1)) none)
        ('[' :: blanks ++ [','].intercalate (items.map (·.2)) ++ [']'])
  | object {blanks : List Char} {members : List SpeltMember} : Blanks blanks →
      (∀ m ∈ members, m.Sound) → (∀ m ∈ members, Spells m.value m.text) →
      Spells (.object (members.map SpeltMember.member) none)
        ('{' :: blanks ++ [','].intercalate (members.map SpeltMember.spelling) ++ ['}'])

end TextAnnotation.Json
