import TextAnnotation.Doc
import TextAnnotation.Proofs.Text.Runs

/-!
# Docs split at blanks

The tokens of a doc may be just the words of its text. This says where they are, and what is between them.

* `Doc.Splits`: the tokens of a doc are the maximal runs of a text.
* `splits_of_places`: it suffices that they are the words with their places.
-/

namespace TextAnnotation

/-- The part of a text that a token says it is. -/
def Token.piece (t : Token) : Text.Piece :=
  ⟨t.text.toList, t.start⟩

namespace Doc

/-- The tokens of a doc are the maximal runs of a text that are not blank, in order. -/
structure Splits (d : Doc) (text : String) : Prop where
  text_eq : d.text = text
  runs : Text.Runs text.toList (d.tokens.map Token.piece)
  slice : ∀ t ∈ d.tokens, Text.slice? text.toList t.start t.stop = some t.text.toList
  apart : d.tokens.Pairwise fun t u => t.stop < u.start
  /-- A character with a byte outside all tokens is blank. -/
  blank : ∀ before c after k, text.toList = before ++ c :: after →
    Text.byteLength before ≤ k → k < Text.byteLength before + c.utf8Size →
    (∀ t ∈ d.tokens, ¬(t.start ≤ k ∧ k < t.stop)) → Text.isBlank c = true

/-- The text of a token and its two ends. -/
def places (d : Doc) : List (String × Nat × Nat) :=
  d.tokens.map fun t => (t.text, t.start, t.stop)

/-- The words of a text with their two ends. -/
def wordPlaces (text : String) : List (String × Nat × Nat) :=
  (Text.words text.toList).map fun p => (String.ofList p.chars, p.start, p.stop)

section Places

variable {d : Doc} {text : String} (h : d.places = wordPlaces text)

include h

theorem pieces_of_places : d.tokens.map Token.piece = Text.words text.toList := by
  have hpieces := congrArg (List.map fun t => (⟨t.1.toList, t.2.1⟩ : Text.Piece)) h
  rw [places, wordPlaces, List.map_map, List.map_map] at hpieces
  refine hpieces.trans ((List.map_congr_left fun p _ => ?_).trans (List.map_id _))
  simp

theorem stop_of_places {t : Token} (ht : t ∈ d.tokens) : t.stop = t.piece.stop := by
  have hmem : (t.text, t.start, t.stop) ∈ wordPlaces text := h ▸ List.mem_map_of_mem ht
  obtain ⟨p, -, hp⟩ := List.mem_map.mp hmem
  simp only [Prod.mk.injEq] at hp
  obtain ⟨hchars, hstart, hstop⟩ := hp
  rw [← hstop, Token.piece, Text.Piece.stop, Text.Piece.stop, ← hstart, ← hchars, String.toList_ofList]

theorem splits_of_places (htext : d.text = text) : d.Splits text := by
  have hpieces := pieces_of_places h
  have hruns := Text.runs_words text.toList
  refine ⟨htext, hpieces ▸ hruns, fun t ht => ?_, ?_, fun before c after k hcs hstart hstop hout => ?_⟩
  · have hmem : t.piece ∈ Text.words text.toList := hpieces ▸ List.mem_map_of_mem ht
    rw [stop_of_places h ht]
    exact Text.slice?_of_standsIn ((Text.inOrder_words text.toList).standsIn _ hmem)
  · have hpairs := hruns.pairwise
    rw [← hpieces, List.pairwise_map] at hpairs
    refine hpairs.imp_of_mem fun ht _ hlt => ?_
    rwa [stop_of_places h ht]
  · cases hc : Text.isBlank c with
    | true => rfl
    | false =>
      -- the word that the byte is in is a token
      have hcovers := Text.covers_words hc before after hstart hstop
      rw [← hcs, ← hpieces] at hcovers
      obtain ⟨p, hp, hbounds⟩ := hcovers
      obtain ⟨t, ht, rfl⟩ := List.mem_map.mp hp
      rw [← stop_of_places h ht] at hbounds
      exact absurd hbounds (hout t ht)

end Places

end Doc

end TextAnnotation
