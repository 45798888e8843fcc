import TextAnnotation.Proofs.LanguageModel.Splitting
import TextAnnotation.Stub

/-!
# Stubs split texts at blanks

A stub searches for each word behind the one before. A word may occur in the text more than once, or be part
of another one, but what is found first is always the word that is looked for.

* `places_doc`: the tokens of a doc are the words of its text with their places.
* `splits_like_language`: the docs of a stub, and that a language model which splits at blanks and has no added
  tokens places its tokens in the same way.
* `splits_unlike_added_token`: where there is an added token, it does not.
-/

namespace TextAnnotation.Stub

theorem pieces_tokens (text : String) :
    (tokens text).map Token.piece = Text.words text.toList := by
  rw [tokens, Text.locateAll_split, List.map_map]
  refine (List.map_congr_left fun p _ => ?_).trans (List.map_id _)
  simp [Token.piece]

theorem places_doc (s : Stub) (text : String) : (s.doc text).places = Doc.wordPlaces text := by
  show (tokens text).map (fun t => (t.text, t.start, t.stop)) = Doc.wordPlaces text
  rw [tokens, Text.locateAll_split, List.map_map]
  rfl

theorem splits_doc (s : Stub) (text : String) : (s.doc text).Splits text :=
  Doc.splits_of_places (s.places_doc text) rfl

/-- No step of the search fails, and what it finds are the tokens. -/
theorem search?_doc (s : Stub) (text : String) :
    Text.search? text.toList 0 (Text.split text.toList) = some ((s.doc text).tokens.map Token.piece) := by
  rw [Text.search?_split, ← pieces_tokens]
  rfl

theorem id_of_mem {s : Stub} {text : String} {t : Token} (h : t ∈ (s.doc text).tokens) :
    t.id = wordId t.text.toList := by
  obtain ⟨p, -, rfl⟩ := List.mem_map.mp h
  rw [String.toList_ofList]

theorem wordId_lt (word : List Char) : wordId word < vocabSize :=
  Nat.mod_lt _ (by decide)

theorem length_pipe (s : Stub) (texts : List String) :
    (s.pipe texts).length = texts.length - if s.dropsLast then 1 else 0 := by
  unfold pipe
  cases s.dropsLast <;> simp

theorem getElem?_pipe {s : Stub} {texts : List String} {i : Nat} {d : Doc} (h : (s.pipe texts)[i]? = some d) :
    ∃ text, texts[i]? = some text ∧ d = s.doc text := by
  have hdocs : (texts.map s.doc)[i]? = some d := by
    unfold pipe at h
    split at h
    · rw [List.getElem?_dropLast] at h
      exact (Option.ite_none_right_eq_some.mp h).2
    · exact h
  rw [List.getElem?_map] at hdocs
  obtain ⟨text, htext, rfl⟩ := Option.map_eq_some_iff.mp hdocs
  exact ⟨text, htext, rfl⟩

/-- A stub makes a doc of every text. The tokens are the maximal runs of the text that are not blank, no
step of the search for them fails, and equal words have equal numbers. So the tokens of every language model
with a tokenizer that splits at blanks, without added tokens, cutting off and filling up, have the same places
wherever it makes a doc. -/
theorem splits_like_language (s : Stub) :
    (∀ text, ∃ d, s.model.doc text = .ok d ∧ d.Splits text ∧
      Text.search? text.toList 0 (Text.split text.toList) = some (d.tokens.map Token.piece) ∧
      ∀ t ∈ d.tokens, t.id < 1024) ∧
    (∀ text text' d d', s.model.doc text = .ok d → s.model.doc text' = .ok d' →
      ∀ t ∈ d.tokens, ∀ u ∈ d'.tokens, t.text = u.text → t.id = u.id) ∧
    (∀ texts batchSize, ∃ docs, s.model.pipe texts batchSize = .ok docs ∧
      (docs.length = texts.length - if s.dropsLast then 1 else 0) ∧
      ∀ (i : Nat) (d : Doc), docs[i]? = some d →
        ∃ text : String, texts[i]? = some text ∧ s.model.doc text = .ok d) ∧
    ∀ (m : LanguageModel) (t : Tokenizer), m.tokenizer = t.encoder → t.Plain →
      (∀ text d e, s.model.doc text = .ok d → m.model.doc text = .ok e → d.places = e.places) ∧
      ∀ texts size size' docs docs', s.model.pipe texts size = .ok docs → m.model.pipe texts size' = .ok docs' →
        ∀ (i : Nat) (d e : Doc), docs[i]? = some d → docs'[i]? = some e → d.places = e.places := by
  refine ⟨fun text => ?_, ?_, fun texts batchSize => ?_, fun m t hm ht => ?_⟩
  · exact ⟨s.doc text, rfl, s.splits_doc text, s.search?_doc text, fun t ht => id_of_mem ht ▸ wordId_lt _⟩
  · intro text text' d d' hd hd' t ht u hu heq
    cases hd
    cases hd'
    rw [id_of_mem ht, id_of_mem hu, heq]
  · refine ⟨s.pipe texts, rfl, s.length_pipe texts, fun i d hd => ?_⟩
    obtain ⟨text, htext, rfl⟩ := getElem?_pipe hd
    exact ⟨text, htext, rfl⟩
  · have hdoc : ∀ text d e, s.model.doc text = .ok d → m.model.doc text = .ok e → d.places = e.places := by
      intro text d e hd he
      cases hd
      rw [s.places_doc, LanguageModel.places_of_plain hm ht he]
    refine ⟨hdoc, fun texts size size' docs docs' hdocs hdocs' i d e hd he => ?_⟩
    cases hdocs
    obtain ⟨text, htext, rfl⟩ := getElem?_pipe hd
    exact hdoc text _ e rfl (LanguageModel.doc_of_getElem?_pipe hm ht hdocs' htext he)

theorem splits_like_language_blank :
    let s : Stub := ⟨"en", false, false⟩
    let t : Tokenizer := ⟨[("[UNK]", 0), ("no", 1)], "[UNK]", false, true, none, none, []⟩
    let m := LanguageModel.blank "en" t.encoder
    ∃ e, m.model.doc "no notes, no" = .ok e ∧ (s.doc "no notes, no").places = e.places ∧
      e.places = [("no", 0, 2), ("notes,", 3, 9), ("no", 10, 12)] := by
  intro s t m
  have hplain : t.Plain := ⟨rfl, rfl, rfl, rfl⟩
  have hids : ∀ w, (t.entryFor? w).isSome := by
    intro w
    unfold Tokenizer.entryFor?
    split <;> rfl
  have hwords : Doc.wordPlaces "no notes, no" = [("no", 0, 2), ("notes,", 3, 9), ("no", 10, 12)] := by decide
  obtain ⟨e, he⟩ := LanguageModel.exists_doc_of_plain (m := m) rfl hplain hids "no notes, no"
  refine ⟨e, he, ((splits_like_language s).2.2.2 m t rfl hplain).1 _ _ e rfl he, ?_⟩
  rw [LanguageModel.places_of_plain rfl hplain he, hwords]

/-- An added token is cut out of a word, which a stub leaves whole. -/
theorem splits_unlike_added_token :
    let s : Stub := ⟨"en", false, false⟩
    let t : Tokenizer :=
      ⟨[("[UNK]", 0), ("a", 1), ("b", 2)], "[UNK]", false, true, none, none, [⟨"<x>", 3, by decide⟩]⟩
    let m := LanguageModel.blank "en" t.encoder
    t.splits = true ∧ t.truncation = none ∧ t.padding = none ∧
      ∃ d e, s.model.doc "a<x>b" = .ok d ∧ m.model.doc "a<x>b" = .ok e ∧ d.places ≠ e.places ∧
        d.places = [("a<x>b", 0, 5)] ∧ e.places = [("a", 0, 1), ("<x>", 1, 4), ("b", 4, 5)] := by
  intro s t m
  have hplaces : (m.model.doc "a<x>b").map Doc.places =
      .ok [("a", 0, 1), ("<x>", 1, 4), ("b", 4, 5)] := by rfl
  have hword : (s.doc "a<x>b").places = [("a<x>b", 0, 5)] := (s.places_doc "a<x>b").trans (by decide)
  obtain ⟨e, he, heplaces⟩ := map_eq_ok_iff.mp hplaces
  refine ⟨rfl, rfl, rfl, s.doc "a<x>b", e, rfl, he, ?_, hword, heplaces⟩
  rw [hword, heplaces]
  decide

end TextAnnotation.Stub
