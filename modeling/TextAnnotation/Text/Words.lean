import TextAnnotation.Text.Blank

/-!
# Words

A word is a maximal run of characters that are not blank. Positions in a text are counted in bytes of
its UTF-8 form.

* `words`: the words of a text with their positions.
* `slice?`: the part of a text between two positions, if both lie between characters.
* `split`, `locate?`, `locateAll`: the words without positions, and the positions found again by search.
-/

namespace TextAnnotation.Text

def byteLength (cs : List Char) : Nat :=
  cs.foldr (fun c n => c.utf8Size + n) 0

@[simp] theorem byteLength_nil : byteLength [] = 0 := rfl

@[simp] theorem byteLength_cons (c : Char) (cs : List Char) :
    byteLength (c :: cs) = c.utf8Size + byteLength cs := rfl

@[simp] theorem byteLength_append (a b : List Char) :
    byteLength (a ++ b) = byteLength a + byteLength b := by
  induction a with
  | nil => simp
  | cons c cs ih => rw [List.cons_append, byteLength_cons, byteLength_cons, ih, Nat.add_assoc]

/-- A part of a text and the byte at which it starts. -/
structure Piece where
  chars : List Char
  start : Nat
  deriving DecidableEq

def Piece.stop (p : Piece) : Nat :=
  p.start + byteLength p.chars

/-- The characters that remain `n` bytes further on, if that is a boundary between characters. -/
def dropBytes? (n : Nat) : List Char → Option (List Char)
  | [] => if n = 0 then some [] else none
  | c :: cs =>
    if n = 0 then some (c :: cs)
    else if c.utf8Size ≤ n then dropBytes? (n - c.utf8Size) cs
    else none

/-- The characters up to `n` bytes, if that is a boundary between characters. -/
def takeBytes? (n : Nat) : List Char → Option (List Char)
  | [] => if n = 0 then some [] else none
  | c :: cs =>
    if n = 0 then some []
    else if c.utf8Size ≤ n then (takeBytes? (n - c.utf8Size) cs).map (c :: ·)
    else none

def slice? (cs : List Char) (start stop : Nat) : Option (List Char) :=
  if start ≤ stop then (dropBytes? start cs).bind (takeBytes? (stop - start)) else none

/-! ## Words with their positions -/

/-- Puts a character in front of the words that follow it: it lengthens a word that starts right
behind it. -/
def addFront (c : Char) (start : Nat) : List Piece → List Piece
  | [] => [⟨[c], start⟩]
  | p :: ps =>
    if p.start = start + c.utf8Size then ⟨c :: p.chars, start⟩ :: ps
    else ⟨[c], start⟩ :: p :: ps

/-- The words of characters of which the first stands at byte `start`. -/
def wordsFrom (start : Nat) : List Char → List Piece
  | [] => []
  | c :: cs =>
    let rest := wordsFrom (start + c.utf8Size) cs
    if isBlank c then rest else addFront c start rest

def words (cs : List Char) : List Piece :=
  wordsFrom 0 cs

/-! ## Words found by search -/

/-- Splits at blanks, with `word` (backwards) already read of the current word. -/
def splitFrom (word : List Char) : List Char → List (List Char)
  | [] => if word.isEmpty then [] else [word.reverse]
  | c :: cs =>
    if isBlank c then
      if word.isEmpty then splitFrom [] cs else word.reverse :: splitFrom [] cs
    else splitFrom (c :: word) cs

def split (cs : List Char) : List (List Char) :=
  splitFrom [] cs

/-- The number of bytes in front of the first occurrence of `word`. -/
def locate? (word : List Char) : List Char → Option Nat
  | [] => if word.isEmpty then some 0 else none
  | c :: cs =>
    if word.isPrefixOf (c :: cs) then some 0 else (locate? word cs).map (c.utf8Size + ·)

/-- Finds each word again in `rest`, the text from byte `start` on, behind the word before it. A word
that is not found is placed at `start`. -/
def locateAll (start : Nat) (rest : List Char) : List (List Char) → List Piece
  | [] => []
  | w :: ws =>
    let skipped := (locate? w rest).getD 0
    let piece : Piece := ⟨w, start + skipped⟩
    piece :: locateAll piece.stop ((dropBytes? (skipped + byteLength w) rest).getD []) ws

end TextAnnotation.Text
