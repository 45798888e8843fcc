import Mathlib.Data.List.Basic
import TextAnnotation.Proofs.Text.Words

/-!
# Words are the maximal runs

A word can be told by what stands around it. The list of words is the list of all maximal runs of characters
that are not blank, and each of them is found again by searching for it behind the one before.

* `Piece.IsRun`: a maximal run in a text. `Runs`: all of them, in order.
* `Cut`: a text taken apart into gaps and words. `cut_wordsFrom`: this is what `words` does.
* `runs_words`: the words of a text are its maximal runs. `exists_mem_words`: what is not blank is in one.
* `search?`: the search for words, which may fail at every step. `search?_split`: it does not, and it finds
  what `locateAll` finds.
* `locateAll_split`: these are the words with their places.
-/

namespace TextAnnotation.Text

/-- A maximal run of characters that are not blank, in the text `cs` from byte `base` on. -/
def Piece.IsRun (p : Piece) (base : Nat) (cs : List Char) : Prop :=
  ∃ before after, cs = before ++ (p.chars ++ after) ∧ p.start = base + byteLength before ∧
    p.chars ≠ [] ∧ (∀ c ∈ p.chars, isBlank c = false) ∧
    (∀ c ∈ before.getLast?, isBlank c = true) ∧ ∀ c ∈ after.head?, isBlank c = true

/-- All maximal runs of a text, in order. -/
structure Runs (cs : List Char) (ps : List Piece) : Prop where
  mem_iff : ∀ p, p ∈ ps ↔ p.IsRun 0 cs
  pairwise : ps.Pairwise fun p q => p.stop < q.start

/-- A text from byte `base` on is taken apart into gaps and words. -/
inductive Cut : (base : Nat) → List Char → List Piece → Prop where
  | gap {base : Nat} {cs : List Char} : (∀ c ∈ cs, isBlank c = true) → Cut base cs []
  | word {base : Nat} {gap w rest : List Char} {ps : List Piece} : (∀ c ∈ gap, isBlank c = true) →
      w ≠ [] → (∀ c ∈ w, isBlank c = false) → (∀ c ∈ rest.head?, isBlank c = true) →
      Cut (base + byteLength gap + byteLength w) rest ps →
      Cut base (gap ++ (w ++ rest)) (⟨w, base + byteLength gap⟩ :: ps)

/-! ## Taking a text apart -/

/-- A text that starts with a word. -/
theorem Cut.front {base : Nat} {w rest : List Char} {ps : List Piece} (hne : w ≠ [])
    (hword : ∀ c ∈ w, isBlank c = false) (hrest : ∀ c ∈ rest.head?, isBlank c = true)
    (h : Cut (base + byteLength w) rest ps) : Cut base (w ++ rest) (⟨w, base⟩ :: ps) :=
  @Cut.word base [] w rest ps (by simp) hne hword hrest h

theorem Cut.cons_blank {base : Nat} {c : Char} {cs : List Char} {ps : List Piece} (hc : isBlank c = true)
    (h : Cut (base + c.utf8Size) cs ps) : Cut base (c :: cs) ps := by
  cases h with
  | gap hcs => exact .gap (List.forall_mem_cons.mpr ⟨hc, hcs⟩)
  | @word _ gap w rest ps hgap hne hword hrest hcut =>
    have hstart : base + c.utf8Size + byteLength gap = base + byteLength (c :: gap) := by
      rw [byteLength_cons, Nat.add_assoc]
    rw [hstart] at hcut ⊢
    exact .word (List.forall_mem_cons.mpr ⟨hc, hgap⟩) hne hword hrest hcut

theorem Cut.cons_word {base : Nat} {c : Char} {cs : List Char} {ps : List Piece} (hc : isBlank c = false)
    (h : Cut (base + c.utf8Size) cs ps) : Cut base (c :: cs) (addFront c base ps) := by
  have hsingle : ∀ d ∈ [c], isBlank d = false := by simpa using hc
  cases h with
  | gap hcs =>
    refine Cut.front (w := [c]) (List.cons_ne_nil c []) hsingle ?_ (.gap hcs)
    exact fun d hd => hcs d (List.mem_of_mem_head? hd)
  | @word _ gap w rest ps hgap hne hword hrest hcut =>
    cases gap with
    | nil =>
      -- the word that starts right behind is one character longer
      have hstart : base + c.utf8Size + byteLength [] = base + c.utf8Size := rfl
      rw [addFront, if_pos hstart]
      refine Cut.front (w := c :: w) (List.cons_ne_nil c w) ?_ hrest ?_
      · exact List.forall_mem_cons.mpr ⟨hc, hword⟩
      · rwa [hstart, Nat.add_assoc, ← byteLength_cons] at hcut
    | cons d gap =>
      have hpos := d.utf8Size_pos
      have hstart : base + c.utf8Size + byteLength (d :: gap) ≠ base + c.utf8Size := by
        rw [byteLength_cons]
        omega
      rw [addFront, if_neg hstart]
      refine Cut.front (w := [c]) (List.cons_ne_nil c []) hsingle ?_ ?_
      · simpa using hgap d List.mem_cons_self
      · exact Cut.word hgap hne hword hrest hcut

theorem cut_wordsFrom (base : Nat) (cs : List Char) : Cut base cs (wordsFrom base cs) := by
  induction cs generalizing base with
  | nil => exact .gap (by simp)
  | cons c cs ih =>
    rw [wordsFrom]
    cases hc : isBlank c with
    | true => exact (ih _).cons_blank hc
    | false => exact (ih _).cons_word hc

/-! ## Maximal runs -/

/-- Two words in front of one text are equal. -/
theorem eq_of_append_eq {v w x y : List Char} (hv : ∀ c ∈ v, isBlank c = false)
    (hw : ∀ c ∈ w, isBlank c = false) (hx : ∀ c ∈ x.head?, isBlank c = true)
    (hy : ∀ c ∈ y.head?, isBlank c = true) (h : v ++ x = w ++ y) : v = w := by
  have htake : ∀ {u z : List Char}, (∀ c ∈ u, isBlank c = false) → (∀ c ∈ z.head?, isBlank c = true) →
      (u ++ z).takeWhile (fun c => !isBlank c) = u := by
    intro u z hu hz
    rw [List.takeWhile_append_of_pos (by simpa using hu)]
    cases z with
    | nil => simp
    | cons c z =>
      have hc : isBlank c = true := hz c rfl
      simp [hc]
  rw [← htake hv hx, h, htake hw hy]

theorem not_isBlank_of_mem_getLast? {cs w : List Char} (hne : w ≠ []) (hw : ∀ c ∈ w, isBlank c = false) :
    ¬∀ c ∈ (cs ++ w).getLast?, isBlank c = true := by
  intro h
  have hblank := h (w.getLast hne)
    (by rw [List.getLast?_append_of_ne_nil cs hne, List.getLast?_eq_some_getLast hne]; rfl)
  rw [hw _ (List.getLast_mem hne)] at hblank
  cases hblank

theorem not_isBlank_of_mem_head? {w rest : List Char} (hne : w ≠ []) (hw : ∀ c ∈ w, isBlank c = false) :
    ¬∀ c ∈ (w ++ rest).head?, isBlank c = true := by
  intro h
  obtain ⟨c, w, rfl⟩ := List.exists_cons_of_ne_nil hne
  have hblank := h c rfl
  rw [hw c List.mem_cons_self] at hblank
  cases hblank

/-- A run behind the first word is one of the whole text: no run starts right behind a word. -/
theorem isRun_of_isRun_rest {base : Nat} {gap w rest : List Char} {p : Piece}
    (hrest : ∀ c ∈ rest.head?, isBlank c = true) (h : p.IsRun (base + byteLength gap + byteLength w) rest) :
    p.IsRun base (gap ++ (w ++ rest)) := by
  obtain ⟨before, after, rfl, hstart, hpne, hpword, hbefore, hafter⟩ := h
  refine ⟨gap ++ (w ++ before), after, by simp, ?_, hpne, hpword, ?_, hafter⟩
  · rw [hstart, byteLength_append, byteLength_append]
    omega
  · have hbehind : before ≠ [] := by
      rintro rfl
      exact not_isBlank_of_mem_head? hpne hpword hrest
    rwa [← List.append_assoc, List.getLast?_append_of_ne_nil _ hbehind]

section Word

variable {base : Nat} {gap w rest : List Char} {p : Piece} (hgap : ∀ c ∈ gap, isBlank c = true)
  (hne : w ≠ []) (hword : ∀ c ∈ w, isBlank c = false) (hrest : ∀ c ∈ rest.head?, isBlank c = true)

include hgap hne hword hrest

theorem isRun_first : Piece.IsRun ⟨w, base + byteLength gap⟩ base (gap ++ (w ++ rest)) :=
  ⟨gap, rest, rfl, rfl, hne, hword, fun c hc => hgap c (List.mem_of_getLast? hc), hrest⟩

/-- A run is the first word, or it stands behind it. -/
theorem isRun_cases (h : p.IsRun base (gap ++ (w ++ rest))) :
    p = ⟨w, base + byteLength gap⟩ ∨ p.IsRun (base + byteLength gap + byteLength w) rest := by
  obtain ⟨before, after, htext, hstart, hpne, hpword, hbefore, hafter⟩ := h
  have hfirst : before = gap → w ++ rest = p.chars ++ after → p = ⟨w, base + byteLength gap⟩ := by
    intro hgap heq
    obtain ⟨chars, start⟩ := p
    obtain rfl : w = chars := eq_of_append_eq hword hpword hrest hafter heq
    rw [← hgap, ← hstart]
  rcases List.append_eq_append_iff.mp htext with ⟨as, hbefore', heq⟩ | ⟨as, hgap', heq⟩
  · rcases List.append_eq_append_iff.mp heq with ⟨bs, has, hrest'⟩ | ⟨bs, hw', heq'⟩
    · -- the run starts behind the first word
      refine Or.inr ⟨bs, after, hrest', ?_, hpne, hpword, ?_, hafter⟩
      · rw [hstart, hbefore', has, byteLength_append, byteLength_append]
        omega
      · have hbs : bs ≠ [] := by
          rintro rfl
          rw [List.append_nil] at has
          exact not_isBlank_of_mem_getLast? hne hword (by rwa [hbefore', has] at hbefore)
        rwa [hbefore', has, ← List.append_assoc, List.getLast?_append_of_ne_nil _ hbs] at hbefore
    · -- the run starts within the first word, so it is at the start of it
      cases as with
      | nil => exact Or.inl (hfirst (by simpa using hbefore') (by simpa using heq))
      | cons a as =>
        rw [hbefore'] at hbefore
        refine absurd hbefore (not_isBlank_of_mem_getLast? (List.cons_ne_nil a as) fun c hc => hword c ?_)
        rw [hw']
        exact List.mem_append_left _ hc
  · -- the run starts within the gap, so it is at the end of it
    cases as with
    | nil => exact Or.inl (hfirst (by simpa using hgap'.symm) (by simpa using heq.symm))
    | cons a as =>
      have hhead : ∀ d ∈ (p.chars ++ after).head?, isBlank d = true := by
        intro d hd
        rw [heq] at hd
        obtain rfl : a = d := by simpa using hd
        exact hgap a (by simp [hgap'])
      exact absurd hhead (not_isBlank_of_mem_head? hpne hpword)

end Word

theorem Cut.mem_iff {base : Nat} {cs : List Char} {ps : List Piece} (h : Cut base cs ps) (p : Piece) :
    p ∈ ps ↔ p.IsRun base cs := by
  induction h with
  | gap hblank =>
    rw [List.mem_nil_iff, false_iff]
    rintro ⟨before, after, rfl, -, hne, hword, -, -⟩
    obtain ⟨c, w, hchars⟩ := List.exists_cons_of_ne_nil hne
    have hc : c ∈ p.chars := hchars ▸ List.mem_cons_self
    have hboth := hblank c (List.mem_append_right _ (List.mem_append_left _ hc))
    rw [hword c hc] at hboth
    cases hboth
  | word hgap hne hword hrest _ ih =>
    rw [List.mem_cons, ih]
    constructor
    · rintro (rfl | h)
      · exact isRun_first hgap hne hword hrest
      · exact isRun_of_isRun_rest hrest h
    · exact isRun_cases hgap hne hword hrest

/-- The words of a text are its maximal runs. -/
theorem runs_words (cs : List Char) : Runs cs (words cs) :=
  ⟨(cut_wordsFrom 0 cs).mem_iff, (inOrder_words cs).pairwise⟩

/-! ## What is in no word -/

/-- A byte is in one of the pieces. -/
def Covers (ps : List Piece) (k : Nat) : Prop :=
  ∃ p ∈ ps, p.start ≤ k ∧ k < p.stop

theorem Covers.addFront {c : Char} {start k : Nat} {ps : List Piece} (h : Covers ps k) :
    Covers (addFront c start ps) k := by
  obtain ⟨p, hp, hstart, hstop⟩ := h
  cases ps with
  | nil => cases hp
  | cons q qs =>
    rw [Text.addFront]
    split
    · next hq =>
      rcases List.mem_cons.mp hp with rfl | hp
      · refine ⟨_, List.mem_cons_self, ?_, ?_⟩
        · show start ≤ k
          omega
        · show k < start + byteLength (c :: p.chars)
          rw [Piece.stop] at hstop
          rw [byteLength_cons]
          omega
      · exact ⟨p, List.mem_cons_of_mem _ hp, hstart, hstop⟩
    · exact ⟨p, List.mem_cons_of_mem _ hp, hstart, hstop⟩

theorem covers_addFront (c : Char) {start k : Nat} (ps : List Piece) (hstart : start ≤ k)
    (hstop : k < start + c.utf8Size) : Covers (addFront c start ps) k := by
  have hsingle : k < Piece.stop ⟨[c], start⟩ := by
    show k < start + byteLength [c]
    rw [byteLength_cons]
    omega
  cases ps with
  | nil => exact ⟨_, List.mem_cons_self, hstart, hsingle⟩
  | cons q qs =>
    rw [addFront]
    split
    · refine ⟨_, List.mem_cons_self, hstart, ?_⟩
      show k < start + byteLength (c :: q.chars)
      rw [byteLength_cons]
      omega
    · exact ⟨_, List.mem_cons_self, hstart, hsingle⟩

/-- Every byte of a character that is not blank is in a word. -/
theorem covers_wordsFrom {c : Char} (hc : isBlank c = false) (before after : List Char) {base k : Nat}
    (hstart : base + byteLength before ≤ k) (hstop : k < base + byteLength before + c.utf8Size) :
    Covers (wordsFrom base (before ++ c :: after)) k := by
  induction before generalizing base with
  | nil =>
    rw [List.nil_append, wordsFrom]
    simp only [hc, Bool.false_eq_true, if_false]
    exact covers_addFront c _ hstart hstop
  | cons d before ih =>
    rw [byteLength_cons] at hstart hstop
    have hrest : Covers (wordsFrom (base + d.utf8Size) (before ++ c :: after)) k :=
      ih (by omega) (by omega)
    rw [List.cons_append, wordsFrom]
    split
    · exact hrest
    · exact hrest.addFront

theorem covers_words {c : Char} (hc : isBlank c = false) (before after : List Char) {k : Nat}
    (hstart : byteLength before ≤ k) (hstop : k < byteLength before + c.utf8Size) :
    Covers (words (before ++ c :: after)) k :=
  covers_wordsFrom hc before after (by omega) (by omega)

/-! ## Searching for words -/

theorem splitFrom_append {word w rest : List Char} (hne : word ≠ [] ∨ w ≠ [])
    (hword : ∀ c ∈ w, isBlank c = false) (hrest : ∀ c ∈ rest.head?, isBlank c = true) :
    splitFrom word (w ++ rest) = (word.reverse ++ w) :: splitFrom [] rest := by
  induction w generalizing word with
  | nil =>
    have hword : word.isEmpty = false := by simpa using hne
    cases rest with
    | nil => simp [splitFrom, hword]
    | cons c rest =>
      have hc : isBlank c = true := hrest c rfl
      simp [splitFrom, hword, hc]
  | cons c w ih =>
    obtain ⟨hc, hw⟩ := List.forall_mem_cons.mp hword
    rw [List.cons_append, splitFrom, if_neg (by simp [hc]), ih (Or.inl (List.cons_ne_nil c word)) hw,
      List.reverse_cons, List.append_assoc, List.singleton_append]

theorem splitFrom_gap {gap : List Char} (rest : List Char) (hgap : ∀ c ∈ gap, isBlank c = true) :
    splitFrom [] (gap ++ rest) = splitFrom [] rest := by
  induction gap with
  | nil => rfl
  | cons c gap ih =>
    obtain ⟨hc, hgap⟩ := List.forall_mem_cons.mp hgap
    rw [List.cons_append, splitFrom, if_pos hc, if_pos List.isEmpty_nil, ih hgap]

theorem Cut.split_eq {base : Nat} {cs : List Char} {ps : List Piece} (h : Cut base cs ps) :
    split cs = ps.map Piece.chars := by
  induction h with
  | @gap _ cs hblank =>
    rw [split, ← List.append_nil cs, splitFrom_gap [] hblank]
    rfl
  | word hgap hne hword hrest _ ih =>
    rw [split, splitFrom_gap _ hgap, splitFrom_append (Or.inr hne) hword hrest, ← split, ih]
    rfl

/-- No word starts with a blank, so the search skips the gap and stops right behind it. -/
theorem locate?_append {gap w : List Char} (rest : List Char) (hgap : ∀ c ∈ gap, isBlank c = true)
    (hne : w ≠ []) (hword : ∀ c ∈ w, isBlank c = false) :
    locate? w (gap ++ (w ++ rest)) = some (byteLength gap) := by
  obtain ⟨d, w, rfl⟩ := List.exists_cons_of_ne_nil hne
  induction gap with
  | nil =>
    have hprefix : (d :: w).isPrefixOf (d :: (w ++ rest)) = true := by simp
    rw [List.nil_append, List.cons_append, locate?, if_pos hprefix, byteLength_nil]
  | cons c gap ih =>
    obtain ⟨hc, hgap⟩ := List.forall_mem_cons.mp hgap
    have hd : (d == c) = false := by
      rw [beq_eq_false_iff_ne]
      rintro rfl
      rw [hword d List.mem_cons_self] at hc
      cases hc
    rw [List.cons_append, locate?, List.isPrefixOf_cons_cons, hd, Bool.false_and,
      if_neg Bool.false_ne_true, ih hgap, Option.map_some, byteLength_cons]

/-- Searches for each word in what follows byte `offset` of the text, and goes on behind it. It fails where
`offset` is not between characters, and where a word is not found. -/
def search? (text : List Char) (offset : Nat) : List (List Char) → Option (List Piece)
  | [] => some []
  | w :: ws => do
    let rest ← dropBytes? offset text
    let skipped ← locate? w rest
    let found : Piece := ⟨w, offset + skipped⟩
    let more ← search? text found.stop ws
    some (found :: more)

theorem Cut.search? {base : Nat} {cs : List Char} {ps : List Piece} (h : Cut base cs ps)
    (before : List Char) (hbefore : base = byteLength before) :
    search? (before ++ cs) base (ps.map Piece.chars) = some ps := by
  induction h generalizing before with
  | gap => rfl
  | @word base gap w rest ps hgap hne hword _ _ ih =>
    have hmore := ih (before ++ (gap ++ w)) (by simp [hbefore, Nat.add_assoc])
    rw [List.append_assoc, List.append_assoc] at hmore
    rw [List.map_cons, Text.search?, hbefore, dropBytes?_append]
    simp only [Option.bind_eq_bind, Option.bind_some, locate?_append rest hgap hne hword]
    rw [← hbefore, Piece.stop, hmore, Option.bind_some]

theorem Cut.locateAll {base : Nat} {cs : List Char} {ps : List Piece} (h : Cut base cs ps) :
    locateAll base cs (ps.map Piece.chars) = ps := by
  induction h with
  | gap => rfl
  | @word base gap w rest ps hgap hne hword _ _ ih =>
    have hrest : dropBytes? (byteLength gap + byteLength w) (gap ++ (w ++ rest)) = some rest := by
      rw [← byteLength_append, ← List.append_assoc, dropBytes?_append]
    rw [List.map_cons, Text.locateAll, locate?_append rest hgap hne hword]
    simp only [Option.getD_some, hrest, Piece.stop, ih]

theorem search?_split (cs : List Char) : search? cs 0 (split cs) = some (words cs) := by
  rw [(cut_wordsFrom 0 cs).split_eq]
  exact (cut_wordsFrom 0 cs).search? [] rfl

theorem locateAll_split (cs : List Char) : locateAll 0 cs (split cs) = words cs := by
  rw [(cut_wordsFrom 0 cs).split_eq]
  exact (cut_wordsFrom 0 cs).locateAll

end TextAnnotation.Text
