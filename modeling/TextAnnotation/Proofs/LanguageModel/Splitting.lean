import TextAnnotation.Proofs.Doc.Splitting
import TextAnnotation.Proofs.LanguageModel.Batching

/-!
# Models that split texts at blanks

If a tokenizer splits at blanks, has no added tokens, and neither cuts words off nor fills up, every word becomes
a token of its own.

* `Tokenizer.Plain`: tokenizers of this kind.
* `Tokenizer.encode_of_plain`: what they do is to look up the words of a text.
* `StandsFor`, `standsFor_of_plain`: if there is a doc, its tokens are the words with their places, numbers and
  vectors.
* `splits_of_plain`, `exists_doc_of_plain`: what such a doc is, and when there is one.
-/

namespace TextAnnotation

namespace Tokenizer

/-- A tokenizer that splits at blanks, has no added tokens, and neither cuts words off nor fills up. -/
structure Plain (t : Tokenizer) : Prop where
  splits : t.splits = true
  truncation : t.truncation = none
  padding : t.padding = none
  added : t.added = []

section Plain

variable {t : Tokenizer} (h : t.Plain)

include h

theorem Plain.fillsAlone : Padding.FillsAlone t.padding := by
  intro p hp
  rw [h.padding] at hp
  cases hp

/-- Without added tokens a text stays in one part. -/
theorem cutFrom_of_plain (start : Nat) (c : Char) (cs : List Char) :
    t.cutFrom 0 start (c :: cs) = [⟨⟨c :: cs, start⟩, none⟩] := by
  induction cs generalizing start c with
  | nil => rw [cutFrom, h.added, longestAt?, cutFrom]; rfl
  | cons d cs ih => rw [cutFrom, h.added, longestAt?, ih]; rfl

theorem parts_of_plain (text : List Char) :
    t.parts text = (Text.words text).map fun p => ⟨p, none⟩ := by
  cases text with
  | nil => rw [parts, cutFrom]; rfl
  | cons c cs =>
    rw [parts, cutFrom_of_plain h, List.flatMap_singleton]
    dsimp only [words]
    rw [h.splits, if_pos rfl, Text.words]

theorem encode_of_plain (text : List Char) :
    t.encode text = (Text.words text).mapM fun p => t.item ⟨p, none⟩ := by
  have hitems : ((Text.words text).map fun p => (⟨p, none⟩ : Part)).mapM t.item =
      (Text.words text).mapM fun p => t.item ⟨p, none⟩ := List.mapM_map
  rw [encode, cut, parts_of_plain h, hitems, h.truncation, h.padding]
  cases (Text.words text).mapM fun p => t.item ⟨p, none⟩ <;> rfl

end Plain

end Tokenizer

namespace LanguageModel

/-- A token stands for a word. It has the number of that word and the vector of that number. -/
structure StandsFor (m : LanguageModel) (t : Tokenizer) (p : Text.Piece) (tok : Token) : Prop where
  text_eq : tok.text = String.ofList p.chars
  start_eq : tok.start = p.start
  stop_eq : tok.stop = p.stop
  id_eq : (t.entryFor? p.chars).map Prod.snd = some tok.id
  vector_eq : tok.vector = m.vector? tok.id

section Plain

variable {m : LanguageModel} {t : Tokenizer} {text : String} {d : Doc}

theorem standsFor_tokenOf {p : Text.Piece} {i : Item} (hp : p.StandsIn 0 text.toList)
    (h : t.item ⟨p, none⟩ = .ok i) : m.StandsFor t p (m.tokenOf text i) := by
  dsimp only [Tokenizer.item] at h
  split at h
  · next surface id hentry =>
    cases h
    refine ⟨?_, rfl, rfl, by rw [hentry]; rfl, rfl⟩
    rw [tokenOf, token, Text.slice?_of_standsIn hp, Option.map_some, Option.getD_some]
  · cases h

variable (hm : m.tokenizer = t.encoder) (h : t.Plain)

include hm h

theorem doc_of_plain : m.model.doc text = .ok d ↔
    ∃ items, ((Text.words text.toList).mapM fun p => t.item ⟨p, none⟩) = .ok items ∧
      m.docOfItems text items = d := by
  rw [doc_eq_ok_iff, hm, ← Tokenizer.encode_of_plain h]
  rfl

/-- The tokens of a doc are the words of its text, in order. -/
theorem standsFor_of_plain (hd : m.model.doc text = .ok d) :
    d.text = text ∧ List.Forall₂ (m.StandsFor t) (Text.words text.toList) d.tokens := by
  obtain ⟨items, hitems, rfl⟩ := (doc_of_plain hm h).mp hd
  rw [docOfItems_eq]
  refine ⟨rfl, List.forall₂_map_right_iff.mpr ?_⟩
  have hwords := (List.forall₂_and_left _ _).mpr
    ⟨(Text.inOrder_words text.toList).standsIn, mapM_eq_ok_iff.mp hitems⟩
  exact hwords.imp fun p i hi => standsFor_tokenOf hi.1 hi.2

theorem places_of_plain (hd : m.model.doc text = .ok d) : d.places = Doc.wordPlaces text := by
  rw [Doc.places, Doc.wordPlaces, eq_comm, ← List.forall₂_eq_eq_eq, List.forall₂_map_left_iff,
    List.forall₂_map_right_iff]
  refine (standsFor_of_plain hm h hd).2.imp fun p tok hstands => ?_
  rw [hstands.text_eq, hstands.start_eq, hstands.stop_eq]

theorem splits_of_plain (hd : m.model.doc text = .ok d) : d.Splits text :=
  Doc.splits_of_places (places_of_plain hm h hd) (standsFor_of_plain hm h hd).1

/-- There is a doc if every word has a number. -/
theorem exists_doc_of_plain (hids : ∀ w, (t.entryFor? w).isSome) (text : String) :
    ∃ d, m.model.doc text = .ok d := by
  obtain ⟨items, hitems⟩ := exists_mapM_eq_ok_iff.mpr fun p (_ : p ∈ Text.words text.toList) => by
    obtain ⟨⟨surface, id⟩, hentry⟩ := Option.isSome_iff_exists.mp (hids p.chars)
    exact ⟨⟨id, surface, p.start, p.stop⟩, show t.item ⟨p, none⟩ = _ by dsimp only [Tokenizer.item]; rw [hentry]⟩
  exact ⟨_, (doc_of_plain hm h).mpr ⟨items, hitems, rfl⟩⟩

/-- A token has the number of its text and the vector of its number. -/
theorem token_of_plain (hd : m.model.doc text = .ok d) {tok : Token} (htok : tok ∈ d.tokens) :
    (t.entryFor? tok.text.toList).map Prod.snd = some tok.id ∧ tok.vector = m.vector? tok.id := by
  obtain ⟨i, hi, rfl⟩ := List.mem_iff_getElem.mp htok
  obtain ⟨-, hwords⟩ := standsFor_of_plain hm h hd
  have hstands := hwords.get (hwords.length_eq ▸ hi) hi
  simp only [List.get_eq_getElem] at hstands
  refine ⟨?_, hstands.vector_eq⟩
  rw [hstands.text_eq, String.toList_ofList, hstands.id_eq]

/-- A batch has the docs that are made one by one. -/
theorem doc_of_getElem?_pipe {texts : List String} {batchSize i : Nat} {docs : List Doc}
    (hdocs : m.model.pipe texts batchSize = .ok docs) (htext : texts[i]? = some text)
    (hd : docs[i]? = some d) : m.model.doc text = .ok d := by
  have hfills : m.tokenizer.Fills t.cut t.padding := hm ▸ t.fills
  have hmade := (exists_pipe_eq_ok_iff hfills).mp ⟨docs, hdocs⟩ text (List.mem_of_getElem? htext)
  rw [getElem?_of_pipe hfills hdocs, htext, Option.map_some, docAmong_of_fillsAlone h.fillsAlone,
    Option.some.injEq] at hd
  rw [doc_of_exists hfills hmade, hd]

end Plain

end LanguageModel

end TextAnnotation
