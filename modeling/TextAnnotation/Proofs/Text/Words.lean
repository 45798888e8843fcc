import TextAnnotation.Text.Words

/-!
# Where words stand

Places are counted in bytes, and characters may have several of them.

* `Piece.StandsIn`: a piece is what stands at its place in a text.
* `slice?_of_standsIn`: it is found again by its two ends.
* `InOrder`, `inOrder_words`: words stand where they say, one behind the other, with a gap between them.
* `Apart`: pieces that may touch each other. `Tiles`: pieces that make up the whole text.
-/

namespace TextAnnotation.Text

/-! ## Bytes -/

theorem byteLength_pos {cs : List Char} (h : cs ≠ []) : 0 < byteLength cs := by
  cases cs with
  | nil => exact absurd rfl h
  | cons c cs =>
    have hc := c.utf8Size_pos
    rw [byteLength_cons]
    omega

theorem utf8ByteSize_ofList (cs : List Char) : (String.ofList cs).utf8ByteSize = byteLength cs := by
  induction cs with
  | nil => rfl
  | cons c cs ih =>
    rw [← List.singleton_append, String.ofList_append, String.utf8ByteSize_append, ih,
      byteLength_append, ← String.singleton_eq_ofList, String.utf8ByteSize_singleton]
    rfl

/-- The bytes of a text are read as that text. -/
theorem fromUTF8?_toUTF8 (s : String) : String.fromUTF8? s.toUTF8 = some s :=
  dif_pos s.isValidUTF8

theorem dropBytes?_append (before rest : List Char) :
    dropBytes? (byteLength before) (before ++ rest) = some rest := by
  induction before with
  | nil => cases rest <;> rfl
  | cons c cs ih =>
    have hc := c.utf8Size_pos
    rw [List.cons_append, byteLength_cons, dropBytes?, if_neg (by omega), if_pos (by omega),
      Nat.add_sub_cancel_left, ih]

theorem takeBytes?_append (part rest : List Char) :
    takeBytes? (byteLength part) (part ++ rest) = some part := by
  induction part with
  | nil => cases rest <;> rfl
  | cons c cs ih =>
    have hc := c.utf8Size_pos
    rw [List.cons_append, byteLength_cons, takeBytes?, if_neg (by omega), if_pos (by omega),
      Nat.add_sub_cancel_left, ih, Option.map_some]

/-! ## Pieces -/

/-- A piece is what stands at its place in `cs`, the text from byte `base` on. -/
def Piece.StandsIn (p : Piece) (base : Nat) (cs : List Char) : Prop :=
  ∃ before after, cs = before ++ p.chars ++ after ∧ p.start = base + byteLength before

theorem slice?_of_standsIn {p : Piece} {cs : List Char} (h : p.StandsIn 0 cs) :
    slice? cs p.start p.stop = some p.chars := by
  obtain ⟨before, after, rfl, hstart⟩ := h
  rw [Nat.zero_add] at hstart
  rw [slice?, Piece.stop, if_pos (Nat.le_add_right _ _), Nat.add_sub_cancel_left, hstart,
    List.append_assoc, dropBytes?_append, Option.bind_some, takeBytes?_append]

namespace Piece.StandsIn

variable {p : Piece} {base : Nat} {cs : List Char}

theorem le_start (h : p.StandsIn base cs) : base ≤ p.start := by
  obtain ⟨before, after, -, hstart⟩ := h
  omega

theorem stop_le (h : p.StandsIn base cs) : p.stop ≤ base + byteLength cs := by
  obtain ⟨before, after, rfl, hstart⟩ := h
  simp only [Piece.stop, byteLength_append]
  omega

/-- More characters in front of a text move no piece. -/
theorem append_left (front : List Char) (h : p.StandsIn (base + byteLength front) cs) :
    p.StandsIn base (front ++ cs) := by
  obtain ⟨before, after, rfl, hstart⟩ := h
  refine ⟨front ++ before, after, by simp only [List.append_assoc], ?_⟩
  rw [hstart, byteLength_append, Nat.add_assoc]

theorem append_right (h : p.StandsIn base cs) (back : List Char) : p.StandsIn base (cs ++ back) := by
  obtain ⟨before, after, rfl, hstart⟩ := h
  exact ⟨before, after ++ back, by simp only [List.append_assoc], hstart⟩

theorem cons {c : Char} (h : p.StandsIn (base + c.utf8Size) cs) : p.StandsIn base (c :: cs) :=
  append_left [c] h

/-- The first character of a text and a piece right behind it are one piece. -/
theorem cons_of_start {c : Char} (h : p.StandsIn (base + c.utf8Size) cs)
    (hstart : p.start = base + c.utf8Size) : Piece.StandsIn ⟨c :: p.chars, base⟩ base (c :: cs) := by
  obtain ⟨before, after, rfl, hbefore⟩ := h
  cases before with
  | nil => exact ⟨[], after, rfl, rfl⟩
  | cons d ds =>
    have hpos := byteLength_pos (List.cons_ne_nil d ds)
    omega

end Piece.StandsIn

theorem standsIn_singleton (c : Char) (base : Nat) (cs : List Char) :
    Piece.StandsIn ⟨[c], base⟩ base (c :: cs) :=
  ⟨[], cs, rfl, rfl⟩

/-! ## Words -/

/-- Words that stand in a text, none of them empty, each of them behind the one before. -/
structure InOrder (base : Nat) (cs : List Char) (ps : List Piece) : Prop where
  standsIn : ∀ p ∈ ps, p.StandsIn base cs
  ne_nil : ∀ p ∈ ps, p.chars ≠ []
  pairwise : ps.Pairwise fun p q => p.stop < q.start

/-- A character in front lengthens the first word, or it is a word of its own, with a gap behind it. -/
theorem InOrder.addFront {c : Char} {base : Nat} {cs : List Char} {ps : List Piece}
    (h : InOrder (base + c.utf8Size) cs ps) : InOrder base (c :: cs) (addFront c base ps) := by
  cases ps with
  | nil =>
    refine ⟨fun p hp => ?_, fun p hp => ?_, List.pairwise_singleton _ _⟩
    · rw [List.mem_singleton.mp hp]
      exact standsIn_singleton c base cs
    · rw [List.mem_singleton.mp hp]
      exact List.cons_ne_nil c []
  | cons q qs =>
    obtain ⟨hq, hqs⟩ := List.forall_mem_cons.mp h.standsIn
    obtain ⟨hbehind, hrest⟩ := List.pairwise_cons.mp h.pairwise
    rw [Text.addFront]
    split
    · next hstart =>
      refine ⟨List.forall_mem_cons.mpr ⟨hq.cons_of_start hstart, fun p hp => (hqs p hp).cons⟩,
        List.forall_mem_cons.mpr ⟨List.cons_ne_nil _ _, (List.forall_mem_cons.mp h.ne_nil).2⟩,
        List.pairwise_cons.mpr ⟨fun p hp => ?_, hrest⟩⟩
      have hstop := hbehind p hp
      simp only [Piece.stop, byteLength_cons] at hstop ⊢
      omega
    · next hstart =>
      refine ⟨List.forall_mem_cons.mpr ⟨standsIn_singleton c base cs, fun p hp => (h.standsIn p hp).cons⟩,
        List.forall_mem_cons.mpr ⟨List.cons_ne_nil _ _, h.ne_nil⟩,
        List.pairwise_cons.mpr ⟨fun p hp => ?_, h.pairwise⟩⟩
      have hfirst := hq.le_start
      have hp : q.start ≤ p.start := by
        rcases List.mem_cons.mp hp with rfl | hp
        · exact Nat.le_refl _
        · have hstop := hbehind p hp
          rw [Piece.stop] at hstop
          omega
      simp only [Piece.stop, byteLength_cons, byteLength_nil]
      omega

theorem inOrder_wordsFrom (base : Nat) (cs : List Char) : InOrder base cs (wordsFrom base cs) := by
  induction cs generalizing base with
  | nil => exact ⟨by simp [wordsFrom], by simp [wordsFrom], List.Pairwise.nil⟩
  | cons c cs ih =>
    have hrest := ih (base + c.utf8Size)
    rw [wordsFrom]
    split
    · exact ⟨fun p hp => (hrest.standsIn p hp).cons, hrest.ne_nil, hrest.pairwise⟩
    · exact hrest.addFront

theorem inOrder_words (cs : List Char) : InOrder 0 cs (words cs) :=
  inOrder_wordsFrom 0 cs

/-! ## Pieces that may touch -/

/-- Pieces that stand in a text, none of them empty, none of them in front of the end of the one before. -/
structure Apart (base : Nat) (cs : List Char) (ps : List Piece) : Prop where
  standsIn : ∀ p ∈ ps, p.StandsIn base cs
  ne_nil : ∀ p ∈ ps, p.chars ≠ []
  pairwise : ps.Pairwise fun p q => p.stop ≤ q.start

theorem InOrder.apart {base : Nat} {cs : List Char} {ps : List Piece} (h : InOrder base cs ps) :
    Apart base cs ps :=
  ⟨h.standsIn, h.ne_nil, h.pairwise.imp Nat.le_of_lt⟩

theorem Apart.append {base : Nat} {front back : List Char} {ps qs : List Piece} (hps : Apart base front ps)
    (hqs : Apart (base + byteLength front) back qs) : Apart base (front ++ back) (ps ++ qs) := by
  refine ⟨?_, ?_, ?_⟩
  · rw [List.forall_mem_append]
    exact ⟨fun p hp => (hps.standsIn p hp).append_right back, fun q hq => (hqs.standsIn q hq).append_left front⟩
  · rw [List.forall_mem_append]
    exact ⟨hps.ne_nil, hqs.ne_nil⟩
  · refine List.pairwise_append.mpr ⟨hps.pairwise, hqs.pairwise, fun p hp q hq => ?_⟩
    exact Nat.le_trans (hps.standsIn p hp).stop_le (hqs.standsIn q hq).le_start

end TextAnnotation.Text
