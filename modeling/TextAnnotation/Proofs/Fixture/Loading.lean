import TextAnnotation.Proofs.Decimal.Exact
import TextAnnotation.Proofs.Files.Writing
import TextAnnotation.Proofs.Fixture.Contents
import TextAnnotation.Proofs.LanguageModel.Splitting

/-!
# Small models are loaded as they were written

The files of a small model are written into a fresh directory, and the model is loaded from there.

* `Knows`: a model that was made of a list of words.
* `HasRows`: its tokens have the rows of the table as their vectors.
* `load_writeModel`: what was written is loaded.
-/

namespace TextAnnotation.Fixture

open Files (IsName Tree Place)
open LanguageModel (load IsNamedTokenizer)

/-- A model was made of a list of words. -/
structure Knows (m : LanguageModel) (lang name : String) (words : List String) : Prop where
  lang_eq : m.vocab.lang = lang
  name_eq : m.manifest.name = name
  size_eq : m.vocab.size = (unknown :: words).toFinset.card
  /-- Every text has a doc. Its tokens are the runs that are not blank, with the numbers of the words. -/
  doc : ∀ text, ∃ d, m.model.doc text = .ok d ∧ d.Splits text ∧
    ∀ t ∈ d.tokens, HasNumber words t.text t.id

/-- The vector of a token has the number of the token in all places, or zeros if there is no such row. -/
def HasRows (m : LanguageModel) (rows width : Nat) : Prop :=
  ∀ text d, m.model.doc text = .ok d → ∀ t ∈ d.tokens, ∃ x, t.vector = some (List.replicate width x) ∧
    (t.id < rows → Decimal.Means x t.id) ∧ (rows ≤ t.id → x = 0.0)

/-! ## The model -/

theorem plain_tokenizer (words : List String) : (tokenizer words).Plain :=
  ⟨rfl, rfl, rfl, rfl⟩

section Model

variable {m : LanguageModel} {words : List String} (hm : m.tokenizer = (tokenizer words).encoder)

include hm

theorem knows_of_tokenizer : Knows m m.manifest.lang m.manifest.name words := by
  have hplain := plain_tokenizer words
  have hids : ∀ w, ((tokenizer words).entryFor? w).isSome := by
    intro w
    obtain ⟨id, hid⟩ := exists_hasNumber words (String.ofList w)
    rw [← Option.isSome_map, entryFor?_tokenizer_eq_some_iff.mpr hid]
    rfl
  refine ⟨rfl, rfl, ?_, fun text => ?_⟩
  · rw [← length_vocab words]
    exact congrArg Encoder.vocabSize hm
  · obtain ⟨d, hd⟩ := LanguageModel.exists_doc_of_plain hm hplain hids text
    refine ⟨d, hd, LanguageModel.splits_of_plain hm hplain hd, fun t ht => ?_⟩
    have hid := (LanguageModel.token_of_plain hm hplain hd ht).1
    rwa [entryFor?_tokenizer_eq_some_iff, String.ofList_toList] at hid

theorem hasRows_of_table {rows width : Nat} (hrows : rows ≤ 2 ^ 24) (htable : m.vectors = some (table rows width)) :
    HasRows m rows width := by
  intro text d hd t ht
  have hvector := (LanguageModel.token_of_plain hm (plain_tokenizer words) hd ht).2
  rw [LanguageModel.vector?, htable, Option.map_some, vector_table] at hvector
  refine ⟨_, hvector, fun hid => ?_, fun hid => if_neg (by omega)⟩
  rw [if_pos hid]
  exact Decimal.singleOfInt_means (by omega)

end Model

/-! ## Its directory -/

section Directory

variable {t : Tree} {current place : Place} {dir lang name : String} {words : List String}

theorem isName_of_mem_model : ∀ f ∈ model lang name words, IsName f.1 := by
  have hnames : ∀ n ∈ [Encoder.fileName, Manifest.fileName], IsName n := by decide
  exact List.forall_mem_map.mp hnames

theorem holds_writeModel (h : t.Fresh current dir place) (lang name : String) (words : List String) :
    (writeModel t current dir lang name words).Holds current dir place (model lang name words).reverse := by
  have hheld := h.writeAll (@isName_of_mem_model lang name words)
  rwa [List.append_nil] at hheld

theorem holds_writeVectors {held : List (String × ByteArray)} (h : t.Holds current dir place held)
    (rows width : Nat) :
    (writeVectors t current dir rows width).Holds current dir place (vectors rows width ++ held) :=
  have hname : IsName VectorTable.fileName := by decide
  h.writeAll (List.forall_mem_singleton.mpr hname)

/-- A directory with the two files holds a model, whatever table comes with it. -/
theorem exists_load_of_holds {held : List (String × ByteArray)} (h : t.Holds current dir place held)
    (hname : ¬IsNamedTokenizer dir) (hwords : words.length < UInt32.size)
    (hpaths : ∀ n ∈ [Encoder.fileName, Manifest.fileName], Tree.isUsable (Files.join dir n) = true)
    (hnames : (held.map Prod.fst).Nodup) (hfiles : model lang name words ⊆ held) (disabled : List String)
    {vectors : Option VectorTable}
    (htable : LanguageModel.tableFor (Manifest.defaultPipeline.filter fun pipe => !disabled.contains pipe)
      ((t.files current).fileIn? dir VectorTable.fileName) = .ok vectors) :
    ∃ m, load Tokenizer.library (t.files current) dir disabled = .ok m ∧ Knows m lang name words ∧
      m.tokenizer = (tokenizer words).encoder ∧ m.vectors = vectors := by
  have hheld : ∀ f ∈ model lang name words, held.lookup f.1 = some f.2 := fun f hf =>
    (Keyed.mem_iff_lookup_of_nodup hnames).mp (hfiles hf)
  rw [model, List.forall_mem_cons, List.forall_mem_singleton] at hheld
  dsimp only at hheld
  obtain ⟨htokenizer, hmanifest⟩ := hheld
  exact ⟨_, LanguageModel.load_of_holds h hname hpaths hmanifest htokenizer (manifestOf_prettyBytes lang name)
    (tokenizerOf_prettyBytes hwords) htable, knows_of_tokenizer rfl, rfl, rfl⟩

theorem lookup_vectors (rows width : Nat) (held : List (String × ByteArray)) :
    (vectors rows width ++ held).lookup VectorTable.fileName =
      some (Tensor.fileOfRows VectorTable.tensorName rows width) := by
  rw [vectors, List.singleton_append, List.lookup_cons_self]

theorem contains_enabled (disabled : List String) :
    (Manifest.defaultPipeline.filter fun pipe => !disabled.contains pipe).contains vectorsPipe =
      !disabled.contains vectorsPipe := by
  have hmem : vectorsPipe ∈ Manifest.defaultPipeline := by decide
  rw [Bool.eq_iff_iff, List.contains_iff_mem, List.mem_filter]
  exact and_iff_right hmem

/-- The table is loaded unless it is disabled. -/
theorem tableFor_fileOfRows {rows width : Nat} (hrows : rows ≤ 2 ^ 24) (hwidth : width < UInt64.size)
    (hsize : rows * width * 4 < UInt64.size) (disabled : List String) :
    LanguageModel.tableFor (Manifest.defaultPipeline.filter fun pipe => !disabled.contains pipe)
        (some (Tensor.fileOfRows VectorTable.tensorName rows width)) =
      .ok (if vectorsPipe ∈ disabled then none else some (table rows width)) := by
  rw [LanguageModel.tableFor, contains_enabled, tableOf_fileOfRows hrows hwidth hsize]
  by_cases hdisabled : vectorsPipe ∈ disabled <;> simp [hdisabled]

/-- Writing small models and loading them fit together. A table must have less than `2 ^ 64` bytes, as a file
has no more. -/
theorem load_writeModel (hfresh : t.Fresh current dir place) (hname : ¬IsNamedTokenizer dir)
    (hwords : words.length < UInt32.size)
    (hpaths : ∀ n ∈ [Encoder.fileName, Manifest.fileName], Tree.isUsable (Files.join dir n) = true) :
    (∀ disabled, ∃ m,
      load Tokenizer.library ((writeModel t current dir lang name words).files current) dir disabled = .ok m ∧
      Knows m lang name words) ∧
    ∀ rows width, 1 ≤ rows → rows ≤ 2 ^ 24 → 1 ≤ width → rows * width * 4 < UInt64.size →
      Tree.isUsable (Files.join dir VectorTable.fileName) = true →
      ∀ disabled, ∃ m, load Tokenizer.library ((writeVectors (writeModel t current dir lang name words)
          current dir rows width).files current) dir disabled = .ok m ∧
        Knows m lang name words ∧ (vectorsPipe ∉ disabled → HasRows m rows width) := by
  have hheld := holds_writeModel hfresh lang name words
  have hvectors : IsName VectorTable.fileName := by decide
  constructor
  · intro disabled
    have hnames : [Manifest.fileName, Encoder.fileName].Nodup := by decide
    have hnone : ((writeModel t current dir lang name words).files current).fileIn? dir VectorTable.fileName =
        none := hheld.fileIn?_of_lookup_eq_none hvectors rfl
    obtain ⟨m, hload, hknows, -, -⟩ := exists_load_of_holds hheld hname hwords hpaths hnames
      (fun f hf => List.mem_reverse.mpr hf) disabled (hnone ▸ LanguageModel.tableFor_none _)
    exact ⟨m, hload, hknows⟩
  · intro rows width hpos hrows _ hsize hpath disabled
    have hnames : [VectorTable.fileName, Manifest.fileName, Encoder.fileName].Nodup := by decide
    have hwidth : width < UInt64.size := by
      have := Nat.le_mul_of_pos_left width hpos
      omega
    have hmore := holds_writeVectors hheld rows width
    have hfound := hmore.fileIn?_of_lookup hvectors hpath (lookup_vectors rows width _)
    have htable := tableFor_fileOfRows hrows hwidth hsize disabled
    rw [← hfound] at htable
    obtain ⟨m, hload, hknows, htokenizer, hm⟩ :=
      exists_load_of_holds hmore hname hwords hpaths hnames
        (fun f hf => List.mem_append_right _ (List.mem_reverse.mpr hf)) disabled htable
    refine ⟨m, hload, hknows, fun hdisabled => hasRows_of_table htokenizer hrows ?_⟩
    rw [hm, if_neg hdisabled]

end Directory

/-- A list in which a word stands twice, the entry for unknown words stands itself, and one word can never be
found. -/
def trialWords : List String := ["the", "cat", "the", unknown, "a cat"]

theorem load_writeModel_trial :
    ∃ m, load Tokenizer.library ((writeVectors (writeModel Tree.emptyShelf [] "models/sm" "en" "sm" trialWords)
        [] "models/sm" 4 2).files []) "models/sm" [] = .ok m ∧
      Knows m "en" "sm" trialWords ∧ HasRows m 4 2 := by
  obtain ⟨-, hvectors⟩ := @load_writeModel Tree.emptyShelf [] (["models"] ++ ["sm"]) "models/sm" "en" "sm" trialWords
    Tree.fresh_emptyShelf (by decide) (by decide) (by decide)
  obtain ⟨m, hload, hknows, hrows⟩ :=
    hvectors 4 2 (by decide) (by decide) (by decide) (by decide) (by decide) []
  exact ⟨m, hload, hknows, hrows List.not_mem_nil⟩

end TextAnnotation.Fixture
