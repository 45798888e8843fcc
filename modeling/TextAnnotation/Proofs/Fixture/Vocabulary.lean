import Mathlib.Data.Finset.Card
import Mathlib.Data.String.Basic
import TextAnnotation.Fixture
import TextAnnotation.Proofs.Keyed.Ascending

/-!
# Numbers of the words of a small model

* `LastAt`, `HasNumber`: which number a word has. It is that of its last place in the list.
* `entryFor?_tokenizer_eq_some_iff`, `exists_hasNumber`: every word has just this number.
* `length_vocab`: there are as many entries as there are different words.
-/

namespace TextAnnotation.Fixture

/-- A word stands at a place of a list, and not behind it. -/
def LastAt (words : List String) (w : String) (i : Nat) : Prop :=
  words[i]? = some w ∧ ∀ j, i < j → words[j]? ≠ some w

/-- The number of words that are not in a list. The entry for them may be a word of the list itself. -/
def IsUnknown (words : List String) (id : Nat) : Prop :=
  (∃ i, LastAt words unknown i ∧ id = i + 1) ∨ (unknown ∉ words ∧ id = 0)

/-- The number of a word in the model of a list of words. -/
def HasNumber (words : List String) (w : String) (id : Nat) : Prop :=
  (∃ i, LastAt words w i ∧ id = i + 1) ∨ (w ∉ words ∧ IsUnknown words id)

def tokenizer (words : List String) : Tokenizer :=
  ⟨vocab words, unknown, false, true, none, none, []⟩

/-! ## Last places -/

variable {words : List String} {w : String}

theorem map_fst_getElem?_zipIdx (words : List String) (n i : Nat) :
    ((words.zipIdx n)[i]?).map Prod.fst = words[i]? := by
  rw [List.getElem?_zipIdx, Option.map_map]
  exact Option.map_id_apply

theorem exists_lastAt (h : w ∈ words) : ∃ i, LastAt words w i := by
  have hkey : w ∈ ((words.zipIdx 1).reverse).map Prod.fst := by
    rwa [List.map_reverse, List.mem_reverse, List.zipIdx_map_fst]
  obtain ⟨id, hid⟩ := Option.isSome_iff_exists.mp (Keyed.isSome_lookup_iff.mpr hkey)
  obtain ⟨i, ⟨hlast, hlater⟩, -⟩ := Keyed.lookup_reverse_eq_some_iff.mp hid
  simp only [map_fst_getElem?_zipIdx] at hlast hlater
  exact ⟨i, hlast, hlater⟩

theorem lookup_reverse_zipIdx {id : Nat} :
    (words.zipIdx 1).reverse.lookup w = some id ↔ ∃ i, LastAt words w i ∧ id = i + 1 := by
  rw [Keyed.lookup_reverse_eq_some_iff]
  refine exists_congr fun i => ?_
  simp only [Keyed.LastWith, map_fst_getElem?_zipIdx]
  refine and_congr_right fun hlast => ?_
  rw [List.getElem?_zipIdx, hlast.1, Option.map_some, Option.some.injEq, Prod.mk.injEq, Nat.add_comm 1,
    eq_self, true_and, eq_comm]

theorem lookup_reverse_zipIdx_eq_none_iff : (words.zipIdx 1).reverse.lookup w = none ↔ w ∉ words := by
  rw [Keyed.lookup_eq_none_iff, List.map_reverse, List.mem_reverse, List.zipIdx_map_fst]

/-! ## Numbers -/

theorem lookup_vocab (words : List String) (w : String) : (vocab words).lookup w =
    ((words.zipIdx 1).reverse.lookup w).or (if w = unknown then some 0 else none) := by
  rw [vocab, Keyed.lookup_ofList, List.reverse_cons, List.lookup_append, Keyed.lookup_cons_eq_ite,
    List.lookup_nil]

theorem lookup_vocab_unknown {id : Nat} : (vocab words).lookup unknown = some id ↔ IsUnknown words id := by
  rw [lookup_vocab, if_pos rfl, Option.or_eq_some_iff, lookup_reverse_zipIdx, lookup_reverse_zipIdx_eq_none_iff,
    Option.some.injEq, eq_comm, IsUnknown]

theorem lookup_vocab_or {id : Nat} :
    ((vocab words).lookup w).or ((vocab words).lookup unknown) = some id ↔ HasNumber words w id := by
  have hfound := @lookup_reverse_zipIdx words w
  have hmissing := @lookup_reverse_zipIdx_eq_none_iff words w
  cases hlast : (words.zipIdx 1).reverse.lookup w with
  | some last =>
    have hw : ¬w ∉ words := by
      rw [← hmissing, hlast]
      exact Option.some_ne_none last
    rw [lookup_vocab words w, hlast, Option.some_or, Option.some_or, ← hlast, hfound, HasNumber]
    simp only [hw, false_and, or_false]
  | none =>
    have hw : w ∉ words := hmissing.mp hlast
    have hunknown : ((vocab words).lookup w).or ((vocab words).lookup unknown) = (vocab words).lookup unknown := by
      by_cases hsame : w = unknown
      · rw [hsame, Option.or_self]
      · rw [lookup_vocab words w, hlast, if_neg hsame, Option.or_none, Option.none_or]
    rw [hunknown, lookup_vocab_unknown, HasNumber, ← hfound, hlast]
    simp [hw]

/-- The number under which a word is found. -/
theorem entryFor?_tokenizer_eq_some_iff {cs : List Char} {id : Nat} :
    ((tokenizer words).entryFor? cs).map Prod.snd = some id ↔ HasNumber words (String.ofList cs) id := by
  have hor : ((tokenizer words).entryFor? cs).map Prod.snd =
      ((vocab words).lookup (String.ofList cs)).or ((vocab words).lookup unknown) := by
    simp only [Tokenizer.entryFor?, Tokenizer.normal, Tokenizer.entry?, tokenizer, Bool.false_eq_true, if_false]
    cases (vocab words).lookup (String.ofList cs) with
    | some id => rfl
    | none => cases (vocab words).lookup unknown <;> rfl
  rw [hor, lookup_vocab_or]

theorem exists_hasNumber (words : List String) (w : String) : ∃ id, HasNumber words w id := by
  by_cases hw : w ∈ words
  · obtain ⟨i, hi⟩ := exists_lastAt hw
    exact ⟨_, .inl ⟨i, hi, rfl⟩⟩
  · by_cases hunknown : unknown ∈ words
    · obtain ⟨i, hi⟩ := exists_lastAt hunknown
      exact ⟨_, .inr ⟨hw, .inl ⟨i, hi, rfl⟩⟩⟩
    · exact ⟨0, .inr ⟨hw, .inr ⟨hunknown, rfl⟩⟩⟩

/-! ## Entries -/

theorem length_vocab (words : List String) : (vocab words).length = (unknown :: words).toFinset.card := by
  have hnodup : ((vocab words).map Prod.fst).Nodup := (Keyed.ascending_ofList _).nodup_keys
  have hkeys : ((vocab words).map Prod.fst).toFinset = (unknown :: words).toFinset := by
    ext w
    rw [List.mem_toFinset, List.mem_toFinset, vocab, Keyed.mem_keys_ofList, List.map_cons, List.zipIdx_map_fst]
  rw [← hkeys, List.toFinset_card_of_nodup hnodup, List.length_map]

theorem lt_of_mem_vocab {n : Nat} (h : words.length < n) : ∀ p ∈ vocab words, p.2 < n := by
  intro p hp
  rcases List.mem_cons.mp (Keyed.mem_of_mem_ofList hp) with rfl | hp
  · omega
  · have := List.mem_zipIdx hp
    omega

end TextAnnotation.Fixture
