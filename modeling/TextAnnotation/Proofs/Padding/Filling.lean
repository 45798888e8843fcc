import TextAnnotation.Padding
import Mathlib.Order.Bounds.Basic

/-!
# Filling up once or twice

A text is filled up on its own first. When it is worked on together with others, all of them are filled
up again, to the longest of them.

* `Padding.FillsAlone`: whether the length to reach is the same for all texts.
* `Padding.align`: what filling up together makes of one text.
* `align_of_fillsAlone`, `align_of_longest`: the second filling adds nothing, or as many fillers as are
  missing to the longest text.
* `Encoder.Fills`: an encoder that fills up a text on its own, and several texts once more.
-/

namespace TextAnnotation

/-! ## One end of a list -/

/-- A list with more items at one end. -/
def Side.extend {α : Type} (side : Side) (more as : List α) : List α :=
  match side with
  | .right => as ++ more
  | .left => more ++ as

theorem Side.map_extend {α β : Type} (f : α → β) (side : Side) (more as : List α) :
    (side.extend more as).map f = side.extend (more.map f) (as.map f) := by
  cases side
  · exact List.map_append
  · exact List.map_append

theorem Side.length_extend {α : Type} (side : Side) (more as : List α) :
    (side.extend more as).length = as.length + more.length := by
  cases side
  · exact List.length_append.trans (Nat.add_comm _ _)
  · exact List.length_append

theorem Side.filter_extend {α : Type} (f : α → Bool) (side : Side) (more as : List α) :
    (side.extend more as).filter f = side.extend (more.filter f) (as.filter f) := by
  cases side
  · exact List.filter_append more as
  · exact List.filter_append as more

theorem Side.mem_extend {α : Type} {a : α} (side : Side) {more as : List α} :
    a ∈ side.extend more as ↔ a ∈ as ∨ a ∈ more := by
  cases side
  · exact List.mem_append.trans or_comm
  · exact List.mem_append

@[simp] theorem Side.extend_nil {α : Type} (side : Side) (as : List α) : side.extend [] as = as := by
  cases side
  · exact List.nil_append as
  · exact List.append_nil as

/-! ## Lengths -/

namespace Padding

theorem fill_eq (p : Padding) (n : Nat) (items : List Item) :
    p.fill n items = p.side.extend (List.replicate (n - items.length) p.filler) items := by
  unfold fill Side.extend
  cases p.side <;> rfl

theorem fill_of_le {n : Nat} {items : List Item} (p : Padding) (h : n ≤ items.length) :
    p.fill n items = items := by
  rw [fill_eq, Nat.sub_eq_zero_of_le h, List.replicate_zero, Side.extend_nil]

theorem length_fill (p : Padding) (n : Nat) (items : List Item) :
    (p.fill n items).length = max n items.length := by
  rw [fill_eq, Side.length_extend, List.length_replicate]
  omega

/-- A fixed length does not depend on the longest text. -/
theorem target_of_length {p : Padding} {n : Nat} (h : p.length = some n) (longest other : Nat) :
    p.target longest = p.target other := by
  simp only [target, h, Option.getD_some]

theorem target_of_multiple_zero {p : Padding} (h : p.length = none) (hm : p.multiple = 0) (n : Nat) :
    p.target n = n := by
  simp only [target, h, Option.getD_none, if_pos hm]

theorem target_of_multiple {p : Padding} (h : p.length = none) (hm : p.multiple ≠ 0) (n : Nat) :
    p.target n = (n + p.multiple - 1) / p.multiple * p.multiple := by
  simp only [target, h, Option.getD_none, if_neg hm]

theorem le_target {p : Padding} (h : p.length = none) (n : Nat) : n ≤ p.target n := by
  by_cases hm : p.multiple = 0
  · exact (target_of_multiple_zero h hm n).ge
  · have hpos : 0 < p.multiple := Nat.pos_of_ne_zero hm
    have hdiv := Nat.lt_div_mul_add hpos (a := n + p.multiple - 1)
    rw [target_of_multiple h hm]
    omega

/-- A rounded length is not rounded up any further. -/
theorem target_target {p : Padding} (h : p.length = none) (n : Nat) :
    p.target (p.target n) = p.target n := by
  by_cases hm : p.multiple = 0
  · rw [target_of_multiple_zero h hm, target_of_multiple_zero h hm]
  · have hpos : 0 < p.multiple := Nat.pos_of_ne_zero hm
    rw [target_of_multiple h hm n, target_of_multiple h hm]
    generalize (n + p.multiple - 1) / p.multiple = k
    have hk : (k * p.multiple + p.multiple - 1) / p.multiple = k := by
      rw [Nat.add_sub_assoc hpos, Nat.mul_comm, Nat.mul_add_div hpos,
        Nat.div_eq_of_lt (Nat.sub_lt hpos Nat.zero_lt_one), Nat.add_zero]
    rw [hk]

theorem target_zero {p : Padding} (h : p.length = none) : p.target 0 = 0 := by
  by_cases hm : p.multiple = 0
  · exact target_of_multiple_zero h hm 0
  · rw [target_of_multiple h hm, Nat.div_eq_of_lt (by omega), Nat.zero_mul]

/-! ## The longest text -/

def longest (lengths : List Nat) : Nat :=
  lengths.foldl max 0

theorem isGreatest_longest {lengths : List Nat} (h : lengths ≠ []) :
    IsGreatest {n | n ∈ lengths} (longest lengths) := by
  have hmax : longest lengths = lengths.max h := by
    rw [longest, List.foldl_max_eq_max h, Nat.zero_max]
  rw [hmax]
  exact ⟨List.max_mem h, fun n hn => List.le_max_of_mem hn⟩

/-! ## Filling up twice -/

/-- Whether the length that a text reaches does not depend on other texts. -/
def FillsAlone (padding : Option Padding) : Prop :=
  ∀ p, padding = some p → p.length.isSome

/-- What becomes of one of several texts when they are filled up together. -/
def align (padding : Option Padding) (encodings : List (List Item)) (items : List Item) : List Item :=
  match padding with
  | some p => p.fill (p.target (longest (encodings.map List.length))) items
  | none => items

variable {padding : Option Padding} {p : Padding}

theorem fillAll_eq_map (padding : Option Padding) (encodings : List (List Item)) :
    fillAll padding encodings = encodings.map (align padding encodings) := by
  unfold fillAll align longest
  cases padding with
  | some p => rfl
  | none => exact (List.map_id' encodings).symm

/-- A text of a fixed length is long enough already. -/
theorem align_of_fillsAlone (h : FillsAlone padding) (encodings : List (List Item)) (items : List Item) :
    align padding encodings (fillOne padding items) = fillOne padding items := by
  cases padding with
  | none => rfl
  | some p =>
    obtain ⟨n, hn⟩ := Option.isSome_iff_exists.mp (h p rfl)
    apply p.fill_of_le
    rw [fillOne, p.length_fill, p.target_of_length hn _ items.length]
    exact Nat.le_max_left _ _

theorem length_fillOne (h : p.length = none) (items : List Item) :
    (fillOne (some p) items).length = p.target items.length := by
  rw [fillOne, p.length_fill]
  exact Nat.max_eq_left (p.le_target h items.length)

/-- The longest of texts that are filled up is not made any longer: its length is a length already
rounded, or zero. -/
theorem target_longest (h : p.length = none) (texts : List (List Item)) :
    p.target (longest ((texts.map (fillOne (some p))).map List.length)) =
      longest ((texts.map (fillOne (some p))).map List.length) := by
  cases texts with
  | nil => exact p.target_zero h
  | cons text rest =>
    obtain ⟨hmem, -⟩ := isGreatest_longest
      (List.cons_ne_nil (fillOne (some p) text).length ((rest.map (fillOne (some p))).map List.length))
    obtain ⟨filled, hfilled, hlength⟩ := List.mem_map.mp
      (show _ ∈ ((text :: rest).map (fillOne (some p))).map List.length from hmem)
    obtain ⟨items, -, rfl⟩ := List.mem_map.mp hfilled
    rw [List.map_cons, List.map_cons, ← hlength, length_fillOne h, p.target_target h]

/-- A text gets as many fillers as are missing to the longest one. -/
theorem align_of_longest (h : p.length = none) (texts : List (List Item)) (items : List Item) :
    align (some p) (texts.map (fillOne (some p))) items =
      p.fill (longest ((texts.map (fillOne (some p))).map List.length)) items := by
  rw [align, target_longest h]

end Padding

/-! ## Encoders that fill up -/

/-- An encoder cuts a text, with whatever outcome, and fills it up on its own. A batch is encoded just if each of
its texts is, and then all of them are filled up once more; otherwise it fails as one of them does. -/
structure Encoder.Fills (e : Encoder) (cut : List Char → Except EncoderFault (List Item))
    (padding : Option Padding) : Prop where
  encode_eq : ∀ text, e.encode text = (cut text).map (Padding.fillOne padding)
  encodeBatch_eq_ok_iff : ∀ texts encodings, e.encodeBatch texts = .ok encodings ↔
    ∃ each, texts.mapM e.encode = .ok each ∧ encodings = Padding.fillAll padding each
  encodeBatch_error : ∀ texts fault, e.encodeBatch texts = .error fault →
    ∃ text ∈ texts, e.encode text = .error fault

end TextAnnotation
