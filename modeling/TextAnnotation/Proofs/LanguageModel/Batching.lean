import TextAnnotation.LanguageModel
import TextAnnotation.Proofs.Padding.Filling
import TextAnnotation.Proofs.Steps
import TextAnnotation.Proofs.VectorTable.Lookup
import TextAnnotation.Tokenizer

/-!
# Docs made one by one and in batches

A language model makes the docs of several texts chunk by chunk. What it makes of a text depends on the
texts of its own chunk only, and only if texts are filled up to the longest of them.

* `chunkAt`, `getElem?_flatMap_chunks`: the chunk that a text belongs to.
* `docAmong`: the doc of a text that is worked on together with others.
* `exists_pipe_eq_ok_iff`: several docs can be made if and only if each of them can be made.
  `exists_of_pipe_error` says why they cannot.
* `pipe_agrees_with_doc`: the docs of several texts against the docs of each of them.
-/

namespace TextAnnotation

namespace LanguageModel

/-! ## Chunks -/

section Chunks

variable {α β : Type}

/-- The chunk of a position, if lists are cut into parts of `size` items. -/
def chunkAt (size : Nat) (as : List α) (i : Nat) : List α :=
  (as.drop (i / size * size)).take size

theorem chunkAt_of_lt {size i : Nat} (as : List α) (h : i < size) : chunkAt size as i = as.take size := by
  rw [chunkAt, Nat.div_eq_of_lt h, Nat.zero_mul, List.drop_zero]

theorem chunkAt_drop {size : Nat} (as : List α) (i : Nat) (h : 0 < size) :
    chunkAt size (as.drop size) i = chunkAt size as (size + i) := by
  rw [chunkAt, chunkAt, List.drop_drop, Nat.add_comm size i, Nat.add_div_right i h, Nat.succ_mul,
    Nat.add_comm size]

theorem getElem?_chunkAt {size : Nat} (as : List α) (i : Nat) (h : 0 < size) :
    (chunkAt size as i)[i % size]? = as[i]? := by
  rw [chunkAt, List.getElem?_take_of_lt (Nat.mod_lt i h), List.getElem?_drop, Nat.mul_comm,
    Nat.div_add_mod]

theorem chunks_of_ne_nil {size : Nat} {as : List α} (h : as ≠ []) :
    chunks size as = as.take (size + 1) :: chunks size (as.drop (size + 1)) := by
  cases as with
  | nil => exact absurd rfl h
  | cons a as => rw [chunks, List.take_succ_cons, List.drop_succ_cons]

theorem flatten_chunks (size : Nat) (as : List α) : (chunks size as).flatten = as := by
  fun_induction chunks size as with
  | case1 => rfl
  | case2 a as ih => rw [List.flatten_cons, ih, List.cons_append, List.take_append_drop]

/-- Every item is treated together with its own chunk, and stays in its place. -/
theorem getElem?_flatMap_chunks (size : Nat) (f : List α → α → β) (as : List α) (i : Nat) :
    ((chunks size as).flatMap fun chunk => chunk.map (f chunk))[i]? =
      as[i]?.map (f (chunkAt (size + 1) as i)) := by
  induction hn : as.length using Nat.strong_induction_on generalizing as i with
  | _ n ih =>
    by_cases has : as = []
    · subst has
      rw [chunks]
      rfl
    · have hpos := List.length_pos_iff.mpr has
      have hfirst : ((as.take (size + 1)).map (f (as.take (size + 1)))).length =
          min (size + 1) as.length := by
        rw [List.length_map, List.length_take]
      rw [chunks_of_ne_nil has, List.flatMap_cons]
      by_cases hi : i < min (size + 1) as.length
      · rw [List.getElem?_append_left (by omega), List.getElem?_map,
          List.getElem?_take_of_lt (by omega), chunkAt_of_lt as (by omega)]
      · rw [List.getElem?_append_right (by omega), hfirst,
          ih _ (by rw [List.length_drop]; omega) _ _ rfl]
        by_cases hlen : as.length ≤ size + 1
        · have hnone : as[i]? = none := List.getElem?_eq_none (by omega)
          rw [List.drop_of_length_le hlen, hnone, List.getElem?_nil, Option.map_none, Option.map_none]
        · obtain ⟨j, rfl⟩ := Nat.exists_eq_add_of_le (show size + 1 ≤ i by omega)
          rw [Nat.min_eq_left (by omega), Nat.add_sub_cancel_left, List.getElem?_drop,
            chunkAt_drop as j (Nat.succ_pos size)]

end Chunks

/-! ## One doc -/

/-- The vector of a number, if the model has vectors. -/
def vector? (m : LanguageModel) (id : Nat) : Option (List Float32) :=
  m.vectors.map (·.vector id)

theorem vectorsOf_eq_map (m : LanguageModel) (ids : List Nat) : m.vectorsOf ids = ids.map m.vector? := by
  unfold vectorsOf vector?
  cases m.vectors with
  | some table => simp [table.lookup_eq_map]
  | none => rfl

/-- The token of an item, whatever the other items are. -/
def tokenOf (m : LanguageModel) (text : String) (item : Item) : Token :=
  token text.toList item (m.vector? item.id)

theorem docOfItems_eq (m : LanguageModel) (text : String) (items : List Item) :
    m.docOfItems text items = .ofTokens m.vocab text (items.map (m.tokenOf text)) := by
  rw [docOfItems, vectorsOf_eq_map, List.map_map, List.zipWith_map_right, List.zipWith_self]
  rfl

def padToken (m : LanguageModel) (p : Padding) : Token :=
  ⟨"", p.id, 0, 0, m.vector? p.id⟩

theorem tokenOf_filler (m : LanguageModel) (text : String) (p : Padding) :
    m.tokenOf text p.filler = m.padToken p := by
  unfold tokenOf token padToken Padding.filler
  congr 1
  cases text.toList <;> rfl

def fillDoc (m : LanguageModel) (p : Padding) (d : Doc) (n : Nat) : Doc :=
  .ofTokens m.vocab d.text
    (p.side.extend (List.replicate (n - d.tokens.length) (m.padToken p)) d.tokens)

theorem docOfItems_fill (m : LanguageModel) (p : Padding) (text : String) (items : List Item) (n : Nat) :
    m.docOfItems text (p.fill n items) = m.fillDoc p (m.docOfItems text items) n := by
  rw [docOfItems_eq, docOfItems_eq, p.fill_eq, Side.map_extend, List.map_replicate, tokenOf_filler]
  simp only [fillDoc, Doc.ofTokens, List.length_map]

/-! ## Single docs -/

theorem doc_eq_ok_iff {m : LanguageModel} {text : String} {d : Doc} : m.model.doc text = .ok d ↔
    ∃ items, m.tokenizer.encode text.toList = .ok items ∧ m.docOfItems text items = d :=
  mapError_eq_ok_iff.trans map_eq_ok_iff

theorem doc_eq_error_iff {m : LanguageModel} {text : String} {e : ModelError} : m.model.doc text = .error e ↔
    ∃ fault, m.tokenizer.encode text.toList = .error fault ∧ .tokenizationFailed fault = e :=
  mapError_eq_error_iff.trans (exists_congr fun _ => and_congr_left' map_eq_error_iff)

/-- The numbers of tokens of texts whose docs are made one by one. -/
def tokenCounts (m : LanguageModel) (texts : List String) : Set Nat :=
  {n | ∃ text ∈ texts, ∃ d, m.model.doc text = .ok d ∧ d.tokens.length = n}

theorem length_tokens_docOfItems (m : LanguageModel) (text : String) (items : List Item) :
    (m.docOfItems text items).tokens.length = items.length := by
  rw [docOfItems_eq]
  exact List.length_map _

/-! ## Several docs -/

/-- The items of a text that are filled up on their own; none if the text cannot be cut. -/
def itemsOf (cut : List Char → Except EncoderFault (List Item)) (padding : Option Padding) (text : String) :
    List Item :=
  Padding.fillOne padding ((cut text.toList).toOption.getD [])

/-- The doc of a text that is worked on together with others. -/
def docAmong (m : LanguageModel) (cut : List Char → Except EncoderFault (List Item))
    (padding : Option Padding) (texts : List String) (text : String) : Doc :=
  m.docOfItems text (Padding.align padding (texts.map (itemsOf cut padding)) (itemsOf cut padding text))

section Fills

variable {m : LanguageModel} {cut : List Char → Except EncoderFault (List Item)} {padding : Option Padding}
  {texts : List String} {batchSize : Nat} {docs : List Doc}

theorem docAmong_of_fillsAlone (h : Padding.FillsAlone padding) (texts : List String) (text : String) :
    m.docAmong cut padding texts text = m.docOfItems text (itemsOf cut padding text) := by
  rw [docAmong, itemsOf, Padding.align_of_fillsAlone h]

theorem docAmong_of_longest {p : Padding} (h : p.length = none) (texts : List String) (text : String) :
    m.docAmong cut (some p) texts text =
      m.fillDoc p (m.docOfItems text (itemsOf cut (some p) text))
        (Padding.longest ((texts.map (itemsOf cut (some p))).map List.length)) := by
  have hitems : texts.map (itemsOf cut (some p)) =
      (texts.map fun text => (cut text.toList).toOption.getD []).map (Padding.fillOne (some p)) := by
    rw [List.map_map]
    rfl
  rw [docAmong, hitems, Padding.align_of_longest h, docOfItems_fill]

theorem zipWith_docOfItems (m : LanguageModel) (cut : List Char → Except EncoderFault (List Item))
    (padding : Option Padding) (texts : List String) :
    List.zipWith m.docOfItems texts (Padding.fillAll padding (texts.map (itemsOf cut padding))) =
      texts.map (m.docAmong cut padding texts) := by
  rw [Padding.fillAll_eq_map, List.map_map, List.zipWith_map_right, List.zipWith_self]
  rfl

variable (h : m.tokenizer.Fills cut padding)

include h

theorem encode_of_doc {text : String} (hd : ∃ d, m.model.doc text = .ok d) :
    m.tokenizer.encode text.toList = .ok (itemsOf cut padding text) := by
  obtain ⟨d, hd⟩ := hd
  obtain ⟨items, hitems, -⟩ := doc_eq_ok_iff.mp hd
  rw [h.encode_eq] at hitems ⊢
  obtain ⟨kept, hkept, -⟩ := map_eq_ok_iff.mp hitems
  rw [itemsOf, hkept]
  rfl

theorem doc_of_exists {text : String} (hd : ∃ d, m.model.doc text = .ok d) :
    m.model.doc text = .ok (m.docOfItems text (itemsOf cut padding text)) :=
  doc_eq_ok_iff.mpr ⟨_, encode_of_doc h hd, rfl⟩

theorem mapM_encode (hall : ∀ text ∈ texts, ∃ d, m.model.doc text = .ok d) :
    (texts.map String.toList).mapM m.tokenizer.encode = .ok (texts.map (itemsOf cut padding)) := by
  rw [List.mapM_map]
  exact mapM_eq_ok_map fun text htext => encode_of_doc h (hall text htext)

theorem chunkDocs_eq_ok_iff : m.chunkDocs texts = .ok docs ↔
    (∀ text ∈ texts, ∃ d, m.model.doc text = .ok d) ∧ texts.map (m.docAmong cut padding texts) = docs := by
  rw [chunkDocs, mapError_eq_ok_iff, map_eq_ok_iff]
  simp only [h.encodeBatch_eq_ok_iff]
  constructor
  · rintro ⟨_, ⟨each, heach, rfl⟩, rfl⟩
    have hall : ∀ text ∈ texts, ∃ d, m.model.doc text = .ok d := by
      intro text htext
      obtain ⟨items, hitems⟩ := exists_mapM_eq_ok_iff.mp ⟨each, heach⟩ _ (List.mem_map_of_mem htext)
      exact ⟨_, doc_eq_ok_iff.mpr ⟨items, hitems, rfl⟩⟩
    rw [mapM_encode h hall] at heach
    rw [← Except.ok.inj heach]
    exact ⟨hall, (zipWith_docOfItems m cut padding texts).symm⟩
  · rintro ⟨hall, rfl⟩
    exact ⟨_, ⟨_, mapM_encode h hall, rfl⟩, zipWith_docOfItems m cut padding texts⟩

theorem pipe_eq_ok_iff : m.model.pipe texts batchSize = .ok docs ↔
    (∀ text ∈ texts, ∃ d, m.model.doc text = .ok d) ∧
      ((chunks (batchSize - 1) texts).flatMap fun chunk => chunk.map (m.docAmong cut padding chunk)) = docs := by
  have hmem : ∀ {text}, text ∈ texts ↔ ∃ chunk ∈ chunks (batchSize - 1) texts, text ∈ chunk := by
    intro text
    rw [← List.mem_flatten, flatten_chunks]
  refine map_eq_ok_iff.trans ⟨?_, ?_⟩
  · rintro ⟨parts, hparts, rfl⟩
    have hall : ∀ text ∈ texts, ∃ d, m.model.doc text = .ok d := by
      intro text htext
      obtain ⟨chunk, hchunk, hin⟩ := hmem.mp htext
      obtain ⟨part, hpart⟩ := exists_mapM_eq_ok_iff.mp ⟨parts, hparts⟩ chunk hchunk
      exact ((chunkDocs_eq_ok_iff h).mp hpart).1 text hin
    refine ⟨hall, ?_⟩
    rw [mapM_eq_ok_map fun chunk hchunk => (chunkDocs_eq_ok_iff h).mpr
      ⟨fun text htext => hall text (hmem.mpr ⟨chunk, hchunk, htext⟩), rfl⟩] at hparts
    rw [← Except.ok.inj hparts, List.flatMap]
  · rintro ⟨hall, rfl⟩
    exact ⟨_, mapM_eq_ok_map fun chunk hchunk => (chunkDocs_eq_ok_iff h).mpr
      ⟨fun text htext => hall text (hmem.mpr ⟨chunk, hchunk, htext⟩), rfl⟩, rfl⟩

theorem exists_pipe_eq_ok_iff : (∃ docs, m.model.pipe texts batchSize = .ok docs) ↔
    ∀ text ∈ texts, ∃ d, m.model.doc text = .ok d := by
  simp only [pipe_eq_ok_iff h, exists_and_left, exists_eq', and_true]

/-- Several docs cannot be made if one of them cannot be made, and for the same reason. -/
theorem exists_of_pipe_error {e : ModelError} (he : m.model.pipe texts batchSize = .error e) :
    ∃ text ∈ texts, m.model.doc text = .error e := by
  obtain ⟨chunk, hchunk, he⟩ := exists_of_mapM_error (map_eq_error_iff.mp he)
  obtain ⟨fault, hfault, rfl⟩ := mapError_eq_error_iff.mp he
  obtain ⟨cs, hcs, hfault⟩ := h.encodeBatch_error _ _ (map_eq_error_iff.mp hfault)
  obtain ⟨text, htext, rfl⟩ := List.mem_map.mp hcs
  refine ⟨text, ?_, doc_eq_error_iff.mpr ⟨fault, hfault, rfl⟩⟩
  rw [← flatten_chunks (batchSize - 1) texts]
  exact List.mem_flatten_of_mem hchunk htext

/-- Each doc is made of its text and the texts of its chunk. -/
theorem getElem?_of_pipe (hdocs : m.model.pipe texts batchSize = .ok docs) (i : Nat) :
    docs[i]? = texts[i]?.map (m.docAmong cut padding (chunkAt (max batchSize 1) texts i)) := by
  have hsize : batchSize - 1 + 1 = max batchSize 1 := by omega
  rw [← ((pipe_eq_ok_iff h).mp hdocs).2, getElem?_flatMap_chunks, hsize]

theorem length_of_pipe (hdocs : m.model.pipe texts batchSize = .ok docs) : docs.length = texts.length := by
  have hiff : ∀ i, docs.length ≤ i ↔ texts.length ≤ i := by
    intro i
    rw [← List.getElem?_eq_none_iff, ← List.getElem?_eq_none_iff, getElem?_of_pipe h hdocs i,
      Option.map_eq_none_iff]
  exact le_antisymm ((hiff texts.length).mpr le_rfl) ((hiff docs.length).mp le_rfl)

/-- Texts that reach a length of their own have the same docs in every batch. -/
theorem pipe_eq_ok_iff_of_fillsAlone (halone : Padding.FillsAlone padding) :
    m.model.pipe texts batchSize = .ok docs ↔ texts.mapM m.model.doc = .ok docs := by
  have hdocs : ((chunks (batchSize - 1) texts).flatMap fun chunk => chunk.map (m.docAmong cut padding chunk)) =
      texts.map fun text => m.docOfItems text (itemsOf cut padding text) := by
    have hamong : ∀ chunk, m.docAmong cut padding chunk = fun text => m.docOfItems text (itemsOf cut padding text) :=
      fun chunk => funext (docAmong_of_fillsAlone halone chunk)
    simp only [hamong]
    rw [List.flatMap, ← List.map_flatten, flatten_chunks]
  rw [pipe_eq_ok_iff h, hdocs]
  constructor
  · rintro ⟨hall, rfl⟩
    exact mapM_eq_ok_map fun text htext => doc_of_exists h (hall text htext)
  · intro hmade
    have hall := exists_mapM_eq_ok_iff.mp ⟨docs, hmade⟩
    rw [mapM_eq_ok_map fun text htext => doc_of_exists h (hall text htext)] at hmade
    exact ⟨hall, Except.ok.inj hmade⟩

theorem isGreatest_tokenCounts (hne : texts ≠ []) (hall : ∀ text ∈ texts, ∃ d, m.model.doc text = .ok d) :
    IsGreatest (m.tokenCounts texts)
      (Padding.longest ((texts.map (itemsOf cut padding)).map List.length)) := by
  have hcounts : m.tokenCounts texts = {n | n ∈ (texts.map (itemsOf cut padding)).map List.length} := by
    ext n
    simp only [tokenCounts, Set.mem_ofPred_eq, List.map_map, List.mem_map, Function.comp_apply]
    refine exists_congr fun text => and_congr_right fun htext => ?_
    simp only [doc_of_exists h (hall text htext), Except.ok.injEq, exists_eq_left', length_tokens_docOfItems]
  rw [hcounts]
  exact Padding.isGreatest_longest (by simpa using hne)

/-- Several docs can be made just if each of them can be made, and there is one for each text, in order. If they
cannot, it is for the reason for which one of them cannot. If texts reach a length of their own, these are the
docs made one by one. Otherwise each doc is filled up to the greatest number of tokens in its chunk. -/
theorem pipe_agrees_with_doc (texts : List String) (batchSize : Nat) :
    ((∃ docs, m.model.pipe texts batchSize = .ok docs) ↔
      ∀ text ∈ texts, ∃ d, m.model.doc text = .ok d) ∧
    (∀ e, m.model.pipe texts batchSize = .error e → ∃ text ∈ texts, m.model.doc text = .error e) ∧
    (Padding.FillsAlone padding → ∀ other docs,
      m.model.pipe texts other = .ok docs ↔ m.model.pipe texts batchSize = .ok docs) ∧
    ∀ docs, m.model.pipe texts batchSize = .ok docs →
      docs.length = texts.length ∧
      ∀ i text, texts[i]? = some text →
        ∃ d e, m.model.doc text = .ok d ∧ docs[i]? = some e ∧
          (Padding.FillsAlone padding → e = d) ∧
          (∀ p, padding = some p → p.length = none →
            ∃ n, IsGreatest (m.tokenCounts (chunkAt (max batchSize 1) texts i)) n ∧
              e = m.fillDoc p d n) ∧
          ∀ texts' docs', m.model.pipe texts' batchSize = .ok docs' →
            chunkAt (max batchSize 1) texts' i = chunkAt (max batchSize 1) texts i →
            docs'[i]? = some e := by
  refine ⟨exists_pipe_eq_ok_iff h, fun e => exists_of_pipe_error h, ?_, ?_⟩
  · intro halone other docs
    rw [pipe_eq_ok_iff_of_fillsAlone h halone, pipe_eq_ok_iff_of_fillsAlone h halone]
  · intro docs hdocs
    refine ⟨length_of_pipe h hdocs, fun i text htext => ?_⟩
    have hall := (exists_pipe_eq_ok_iff h).mp ⟨docs, hdocs⟩
    have hpos : 0 < max batchSize 1 := by omega
    let chunk := chunkAt (max batchSize 1) texts i
    have hmem : text ∈ chunk := List.mem_of_getElem? ((getElem?_chunkAt texts i hpos).trans htext)
    refine ⟨m.docOfItems text (itemsOf cut padding text), m.docAmong cut padding chunk text, ?_, ?_, ?_, ?_, ?_⟩
    · exact doc_of_exists h (hall text (List.mem_of_getElem? htext))
    · rw [getElem?_of_pipe h hdocs, htext, Option.map_some]
    · exact fun halone => docAmong_of_fillsAlone halone chunk text
    · rintro p rfl hlength
      have hchunk : ∀ text ∈ chunk, ∃ d, m.model.doc text = .ok d := fun text htext =>
        hall text (List.mem_of_mem_drop (List.mem_of_mem_take htext))
      exact ⟨_, isGreatest_tokenCounts h (List.ne_nil_of_mem hmem) hchunk,
        docAmong_of_longest hlength chunk text⟩
    · intro texts' docs' hdocs' hchunk
      have htext' : texts'[i]? = some text := by
        rw [← getElem?_chunkAt texts' i hpos, hchunk, getElem?_chunkAt texts i hpos, htext]
      rw [getElem?_of_pipe h hdocs', htext', hchunk, Option.map_some]

end Fills

end LanguageModel

/-- A tokenizer fills up what it has cut. -/
theorem Tokenizer.fills (t : Tokenizer) : t.encoder.Fills t.cut t.padding where
  encode_eq _ := rfl
  encodeBatch_eq_ok_iff _ _ := map_eq_ok_iff.trans (by simp only [eq_comm]; rfl)
  encodeBatch_error _ _ h := exists_of_mapM_error (map_eq_error_iff.mp h)

/-- A text of one word is filled up in front when there is a longer one in its chunk. -/
theorem LanguageModel.pipe_agrees_with_doc_trial :
    let t : Tokenizer := ⟨[("[UNK]", 0), ("a", 1), ("b", 2)], "[UNK]", false, true, none,
      some ⟨none, .left, 0, 7, "[PAD]"⟩, []⟩
    let m := blank "en" t.encoder
    m.tokenizer.Fills t.cut t.padding ∧
      ∃ docs, m.model.pipe ["a b", "b", "a"] 2 = .ok docs ∧ docs.length = 3 ∧
        docs.map (fun d => d.tokens.map Token.id) = [[1, 2], [7, 2], [1]] := by
  intro t m
  have hchunks : chunks (2 - 1) ["a b", "b", "a"] = [["a b", "b"], ["a"]] := by simp [chunks]
  have hdocs : (m.model.pipe ["a b", "b", "a"] 2).map (List.map fun d => d.tokens.map Token.id) =
      .ok [[1, 2], [7, 2], [1]] := by
    dsimp only [model, pipe]
    rw [hchunks]
    rfl
  obtain ⟨docs, hdocs, hids⟩ := map_eq_ok_iff.mp hdocs
  obtain ⟨-, -, -, hall⟩ := pipe_agrees_with_doc (m := m) t.fills ["a b", "b", "a"] 2
  exact ⟨t.fills, docs, hdocs, (hall docs hdocs).1, hids⟩

end TextAnnotation
