import TextAnnotation.Text.Blank
import TextAnnotation.Text.CaseTable

/-!
# Lower case

Lower-casing by the full Unicode mappings. One letter has two lower-case forms: a sigma is written `ς`
at the end of a word and `σ` elsewhere. The capital I with a dot becomes two characters.

* `lowerChar`: one character, whatever stands around it.
* `lowerChars`, `lower`: a text, with the rule of the last sigma.
* `lower_eq_empty_iff`: only the empty text becomes empty.
-/

namespace TextAnnotation.Text

/-- The lower-case partner of a code point within one run of the table. -/
def CaseRun.lower? (r : CaseRun) (n : Nat) : Option Nat :=
  if r.first ≤ n ∧ n ≤ r.last ∧ (n - r.first) % r.step = 0 then some (r.lower + (n - r.first))
  else none

/-- The lower-case partner of a code point above ASCII, if it has another one. -/
def lowerCode? (n : Nat) : Option Nat :=
  lowerRuns.findSome? (·.lower? n)

def lowerChar (c : Char) : List Char :=
  if c.toNat < 0x80 then [c.toLower]
  else if c = 'İ' then ['i', Char.ofNat 0x307]
  else match lowerCode? c.toNat with
    | some n => [Char.ofNat n]
    | none => [c]

/-- Letters with case, and what is formed from them. -/
def isCased (c : Char) : Bool :=
  inRanges casedRanges c.toNat

/-- Characters that do not end a word for the purpose of case. -/
def isCaseIgnorable (c : Char) : Bool :=
  inRanges caseIgnorableRanges c.toNat

/-- Whether the first character that counts for case is cased. -/
def startsCased (cs : List Char) : Bool :=
  match cs.dropWhile isCaseIgnorable with
  | c :: _ => isCased c
  | [] => false

/-- The lower-case form of `c` between `before`, read backwards, and `after`. -/
def lowerBetween (before : List Char) (c : Char) (after : List Char) : List Char :=
  if c = 'Σ' then [if startsCased before && !startsCased after then 'ς' else 'σ']
  else lowerChar c

/-- Lower-cases what follows `before`, which is given backwards. -/
def lowerAfter (before : List Char) : List Char → List Char
  | [] => []
  | c :: cs => lowerBetween before c cs ++ lowerAfter (c :: before) cs

/-- The lower-case form of a sequence of characters. -/
def lowerChars (cs : List Char) : List Char :=
  lowerAfter [] cs

def lower (s : String) : String :=
  String.ofList (lowerChars s.toList)

theorem lowerChar_ne_nil (c : Char) : lowerChar c ≠ [] := by
  unfold lowerChar
  split
  · simp
  · split
    · simp
    · split <;> simp

theorem lowerBetween_ne_nil (before : List Char) (c : Char) (after : List Char) :
    lowerBetween before c after ≠ [] := by
  unfold lowerBetween
  split
  · simp
  · exact lowerChar_ne_nil c

theorem lower_eq_empty_iff {s : String} : lower s = "" ↔ s = "" := by
  have h : lowerChars s.toList = [] ↔ s.toList = [] := by
    cases s.toList with
    | nil => simp [lowerChars, lowerAfter]
    | cons c cs => simp [lowerChars, lowerAfter, lowerBetween_ne_nil]
  rwa [lower, String.ofList_eq_empty_iff, ← String.toList_eq_nil_iff]

end TextAnnotation.Text
