import TextAnnotation.Stream

/-!
# The lines of an input

An input is read byte by byte. What comes out is the input cut at its line feeds.

* `splitLines`: the pieces between line feeds, as they count as lines.
* `lines_eq_splitLines`: these are the lines that are read.
* `splitLines_flatMap_terminated`: lines that are written one by one are read back.
-/

namespace TextAnnotation.Stream

/-- A piece of an input without the one carriage return at its end. -/
def withoutReturn (piece : List UInt8) : List UInt8 :=
  if piece.getLast? = some carriageReturn then piece.dropLast else piece

/-- The pieces of an input between its line feeds. Those in front of a line feed lose a carriage return
at their end; the last one is a line only if it is not empty. -/
def splitLines (input : List UInt8) : List (List UInt8) :=
  let pieces := input.splitOn lineFeed
  pieces.dropLast.map withoutReturn ++ pieces.getLast?.toList.filter fun piece => !piece.isEmpty

theorem splitLines_of_not_mem {piece : List UInt8} (h : lineFeed ∉ piece) :
    splitLines piece = if piece.isEmpty then [] else [piece] := by
  unfold splitLines
  rw [List.splitOn_eq_singleton h]
  cases piece <;> rfl

theorem splitLines_append {piece : List UInt8} (h : lineFeed ∉ piece) (rest : List UInt8) :
    splitLines (piece ++ lineFeed :: rest) = withoutReturn piece :: splitLines rest := by
  have hne := List.splitOn_ne_nil lineFeed rest
  unfold splitLines
  rw [List.splitOn_append_cons_self_of_not_mem h]
  simp only [List.dropLast_cons_of_ne_nil hne, List.map_cons, List.cons_append,
    List.getLast?_cons_of_ne_nil hne]

theorem reverse_dropReturn (line : List UInt8) :
    (dropReturn line).reverse = withoutReturn line.reverse := by
  cases line with
  | nil => rfl
  | cons b bs =>
    rw [dropReturn, withoutReturn, List.reverse_cons, List.getLast?_concat, List.dropLast_concat]
    by_cases hb : b = carriageReturn
    · rw [if_pos hb, if_pos (congrArg some hb)]
    · rw [if_neg hb, if_neg fun h => hb (Option.some.inj h), List.reverse_cons]

/-- What has been read of the first line stands in front of what remains of the input. -/
theorem linesFrom_eq {line : List UInt8} (h : lineFeed ∉ line) (rest : List UInt8) :
    linesFrom line rest = splitLines (line.reverse ++ rest) := by
  induction rest generalizing line with
  | nil =>
    rw [linesFrom, List.append_nil, splitLines_of_not_mem (by rwa [List.mem_reverse]),
      List.isEmpty_reverse]
  | cons b bs ih =>
    rw [linesFrom]
    by_cases hb : b = lineFeed
    · rw [if_pos hb, hb, reverse_dropReturn, ih List.not_mem_nil,
        splitLines_append (by rwa [List.mem_reverse])]
      rfl
    · have hline : lineFeed ∉ b :: line := by
        rw [List.mem_cons, not_or]
        exact ⟨Ne.symm hb, h⟩
      rw [if_neg hb, ih hline, List.reverse_cons, List.append_assoc, List.singleton_append]

theorem lines_eq_splitLines (input : List UInt8) : lines input = splitLines input :=
  linesFrom_eq List.not_mem_nil input

/-- Lines that hold no line feed and do not end in a carriage return are the lines of their own text. -/
theorem splitLines_flatMap_terminated {ls : List (List UInt8)}
    (h : ∀ l ∈ ls, lineFeed ∉ l ∧ l.getLast? ≠ some carriageReturn) :
    splitLines (ls.flatMap (· ++ [lineFeed])) = ls := by
  induction ls with
  | nil => rfl
  | cons l ls ih =>
    obtain ⟨hfeed, hreturn⟩ := h l List.mem_cons_self
    rw [List.flatMap_cons, List.append_assoc, List.singleton_append, splitLines_append hfeed,
      ih fun l hl => h l (List.mem_cons_of_mem _ hl), withoutReturn, if_neg hreturn]

end TextAnnotation.Stream
