import TextAnnotation.Fixture
import TextAnnotation.Proofs.Files.Writing
import TextAnnotation.Proofs.Json.Pretty
import TextAnnotation.Proofs.LanguageModel.Loading
import TextAnnotation.Proofs.Text.Words
import TextAnnotation.Tokenizer.Json

/-!
# What a model depends on

A model is made of the bytes of three files. The path of its directory is kept, and it stands in the errors;
but a directory that is called like the file of a tokenizer is taken for that file.

* `Flaw`: why there is no model in a directory, wherever that stands.
* `Contents`, `contents`: the bytes of the three files of a directory.
* `ofContents`: the model of the three files.
* `load_eq`: to load a directory is to make the model of its three files. `load_eq_ok_iff` lists the parts.
* `ofContents_contents_eq_nameTaken_iff`: when a directory is taken for the file of a tokenizer.
* `manifestOf_manifestJson`, `tokenizerOf_tokenizerJson`: what is written into two of them is read back.
* `trial`, `exists_load_trial`: two small files that can be loaded.
-/

namespace TextAnnotation.LanguageModel

open Files (IsName Tree fileIn? lastName?)
open Json (Value)

/-! ## Three files -/

/-- Why there is no model in a directory, wherever that stands. -/
inductive Flaw where
  | manifestMissing
  | manifestNotText
  | manifestInvalid (error : Json.Error)
  /-- The directory is called like the file of a tokenizer. -/
  | nameTaken
  | tokenizerMissing
  | tokenizerUnreadable (fault : EncoderFault)
  | vectorsUnreadable (bytes : ByteArray)
  | tableMissing
  | tableShape (shape : List Nat)

/-- A flaw as the fault of one directory. -/
def Flaw.at (library : Library) (dir : String) : Flaw → LoadFault
  | .manifestMissing => .manifestMissing Manifest.fileName dir
  | .manifestNotText => .manifestNotText
  | .manifestInvalid e => .manifestInvalid Manifest.fileName e
  | .nameTaken => .tokenizerMissing dir
  | .tokenizerMissing => .tokenizerMissing (Files.join dir Encoder.fileName)
  | .tokenizerUnreadable fault => .tokenizerUnreadable fault
  | .vectorsUnreadable bytes =>
    let path := Files.join dir VectorTable.fileName
    .vectorsUnreadable path (library.tensorsReason path (.ok bytes))
  | .tableMissing => .tableMissing VectorTable.tensorName (Files.join dir VectorTable.fileName)
  | .tableShape shape => .tableShape (library.shapeReason shape)

/-- The bytes of the files of a model, as far as they are found. -/
structure Contents where
  manifest : Option ByteArray
  tokenizer : Except Flaw ByteArray
  vectors : Option ByteArray

def manifestOf : Option ByteArray → Except Flaw Manifest
  | none => .error .manifestMissing
  | some bytes =>
    match String.fromUTF8? bytes with
    | none => .error .manifestNotText
    | some text => (Manifest.decode text.toList).mapError .manifestInvalid

def tokenizerOf (library : Library) (bytes : ByteArray) : Except Flaw Encoder :=
  (library.encoder bytes).mapError .tokenizerUnreadable

/-- The table in the bytes of a file. Without a file there is no table. -/
def tableOf : Option ByteArray → Except Flaw (Option VectorTable)
  | none => .ok none
  | some bytes =>
    match Tensor.ofBytes? bytes with
    | none => .error (.vectorsUnreadable bytes)
    | some tensors =>
      match tensors.lookup VectorTable.tensorName with
      | none => .error .tableMissing
      | some tensor =>
        match VectorTable.ofTensor? tensor with
        | some table => .ok (some table)
        | none => .error (.tableShape tensor.shape)

def tableFor (pipeNames : List String) (file : Option ByteArray) : Except Flaw (Option VectorTable) :=
  if pipeNames.contains vectorsPipe then tableOf file else .ok none

theorem tableFor_none (pipeNames : List String) : tableFor pipeNames none = .ok none :=
  ite_self _

/-- The model of three files. It has no directory yet. -/
def ofContents (library : Library) (c : Contents) (disabled : List String) : Except Flaw LanguageModel := do
  let manifest ← manifestOf c.manifest
  let bytes ← c.tokenizer
  let tokenizer ← tokenizerOf library bytes
  let pipeNames := manifest.enabledPipes disabled
  let vectors ← tableFor pipeNames c.vectors
  .ok {
    manifest := { manifest with fingerprint := some (Blake3.shortHex bytes) }
    path := none
    tokenizer
    vectors
    pipeNames
    disabled }

def placed (path : String) (m : LanguageModel) : LanguageModel :=
  { m with path := some path }

theorem ofContents_eq_ok_iff {library : Library} {c : Contents} {disabled : List String} {m : LanguageModel} :
    ofContents library c disabled = .ok m ↔
      ∃ manifest bytes tokenizer vectors, manifestOf c.manifest = .ok manifest ∧ c.tokenizer = .ok bytes ∧
        tokenizerOf library bytes = .ok tokenizer ∧
        tableFor (manifest.enabledPipes disabled) c.vectors = .ok vectors ∧
        m = {
          manifest := { manifest with fingerprint := some (Blake3.shortHex bytes) }
          path := none
          tokenizer
          vectors
          pipeNames := manifest.enabledPipes disabled
          disabled } := by
  simp only [ofContents, bind_eq_ok_iff, Except.ok.injEq]
  constructor
  · rintro ⟨manifest, hmanifest, bytes, hbytes, tokenizer, htokenizer, vectors, hvectors, rfl⟩
    exact ⟨manifest, bytes, tokenizer, vectors, hmanifest, hbytes, htokenizer, hvectors, rfl⟩
  · rintro ⟨manifest, bytes, tokenizer, vectors, hmanifest, hbytes, htokenizer, hvectors, rfl⟩
    exact ⟨manifest, hmanifest, bytes, hbytes, tokenizer, htokenizer, vectors, hvectors, rfl⟩

/-! ## Directories -/

/-- Whether a directory is called like the file of a tokenizer. -/
def IsNamedTokenizer (dir : String) : Prop :=
  lastName? dir = some Encoder.fileName

instance (dir : String) : Decidable (IsNamedTokenizer dir) :=
  inferInstanceAs (Decidable (_ = _))

/-- Where a directory has its tokenizer. It is not found if the directory is called like it. -/
def tokenizerIn (files : Files) (dir : String) : Except Flaw ByteArray :=
  if IsNamedTokenizer dir then .error .nameTaken
  else (files.fileIn? dir Encoder.fileName).elim (.error .tokenizerMissing) .ok

/-- The files of a model that are found in a directory. -/
def contents (files : Files) (dir : String) : Contents where
  manifest := files.fileIn? dir Manifest.fileName
  tokenizer := tokenizerIn files dir
  vectors := files.fileIn? dir VectorTable.fileName

def placeOf (files : Files) (dir : String) : String :=
  (files.find dir).toOption.elim dir Entry.path

section Load

variable {library : Library} {files : Files} {dir : String}

theorem read_of_isDirectory (h : files.isDirectory dir) : files.read dir = .error .isADirectory := by
  rw [Files.isDirectory] at h
  split at h
  · next hfind => rw [Files.read, hfind]
  · cases h

theorem isFile_eq (files : Files) (path : String) : files.isFile path = (files.read path).isOk := by
  rw [Files.isFile, Files.read]
  rcases files.find path with _ | ⟨_, _ | _⟩ <;> rfl

theorem loadManifest_eq (library : Library) (files : Files) (dir : String) :
    loadManifest files dir = (manifestOf (files.fileIn? dir Manifest.fileName)).mapError (Flaw.at library dir) := by
  rw [loadManifest, fileIn?]
  cases files.read (Files.join dir Manifest.fileName) with
  | error e => rfl
  | ok bytes =>
    dsimp only [manifestOf, Except.toOption]
    cases String.fromUTF8? bytes with
    | none => rfl
    | some text =>
      dsimp only
      cases Manifest.decode text.toList <;> rfl

theorem loadTokenizer_of_named (hdir : files.isDirectory dir) (hname : IsNamedTokenizer dir) :
    loadTokenizer library files dir = .error (Flaw.nameTaken.at library dir) := by
  have hpath : tokenizerPath dir = dir := by rw [tokenizerPath, if_pos (beq_iff_eq.mpr hname)]
  dsimp only [loadTokenizer]
  rw [hpath, read_of_isDirectory hdir]
  rfl

theorem loadTokenizer_of_not_named (hname : ¬IsNamedTokenizer dir) :
    loadTokenizer library files dir =
      (tokenizerIn files dir >>= tokenizerOf library).mapError (Flaw.at library dir) := by
  have hpath : tokenizerPath dir = Files.join dir Encoder.fileName := by
    rw [tokenizerPath, if_neg (mt beq_iff_eq.mp hname)]
  dsimp only [loadTokenizer]
  rw [hpath, tokenizerIn, if_neg hname, fileIn?]
  cases files.read (Files.join dir Encoder.fileName) with
  | error e => rfl
  | ok bytes =>
    change _ = (tokenizerOf library bytes).mapError (Flaw.at library dir)
    dsimp only [tokenizerOf]
    cases library.encoder bytes <;> rfl

theorem loadTokenizer_eq (hdir : files.isDirectory dir) :
    loadTokenizer library files dir =
      (tokenizerIn files dir >>= tokenizerOf library).mapError (Flaw.at library dir) := by
  by_cases hname : IsNamedTokenizer dir
  · rw [loadTokenizer_of_named hdir hname, tokenizerIn, if_pos hname]
    rfl
  · exact loadTokenizer_of_not_named hname

/-- The fingerprint is taken from the bytes that the tokenizer was read from. -/
theorem fingerprint_of_tokenizerIn {bytes : ByteArray} (h : tokenizerIn files dir = .ok bytes) :
    fingerprint files (Files.join dir Encoder.fileName) = .ok (Blake3.shortHex bytes) := by
  rw [tokenizerIn, fileIn?] at h
  rw [fingerprint]
  split at h
  · cases h
  · cases hread : files.read (Files.join dir Encoder.fileName) with
    | error e =>
      rw [hread] at h
      cases h
    | ok found =>
      rw [hread] at h
      cases h
      rfl

theorem loadVectors?_eq (library : Library) (files : Files) (dir : String) :
    loadVectors? library files dir =
      (tableOf (files.fileIn? dir VectorTable.fileName)).mapError (Flaw.at library dir) := by
  dsimp only [loadVectors?]
  rw [isFile_eq, fileIn?, loadVectors]
  cases files.read (Files.join dir VectorTable.fileName) with
  | error e => rfl
  | ok bytes =>
    have hok : (Except.ok bytes : Except ReadFault ByteArray).isOk = true := rfl
    rw [if_pos hok]
    dsimp only [Except.toOption, Option.bind, tableOf]
    cases Tensor.ofBytes? bytes with
    | none => rfl
    | some tensors =>
      dsimp only
      cases tensors.lookup VectorTable.tensorName with
      | none => rfl
      | some tensor =>
        dsimp only
        cases VectorTable.ofTensor? tensor <;> rfl

/-- To load a directory is to make the model of its files. -/
theorem load_eq (hdir : files.isDirectory dir) (disabled : List String) :
    load library files dir disabled =
      ((ofContents library (contents files dir) disabled).map (placed (placeOf files dir))).mapError
        (Flaw.at library dir) := by
  rw [load, loadManifest_eq library, loadTokenizer_eq hdir, loadVectors?_eq]
  dsimp only [ofContents, contents]
  cases manifestOf (files.fileIn? dir Manifest.fileName) with
  | error flaw => rfl
  | ok manifest =>
    cases hbytes : tokenizerIn files dir with
    | error flaw => rfl
    | ok bytes =>
      -- from here on there is a file, so the fingerprint is that of the bytes of the tokenizer
      rw [fingerprint_of_tokenizerIn hbytes]
      cases htokenizer : tokenizerOf library bytes with
      | error flaw => simp only [bind, Except.bind, htokenizer, mapError_ok, mapError_error, Except.map]
      | ok tokenizer =>
        simp only [bind, Except.bind, htokenizer, mapError_ok, tableFor]
        split
        · cases tableOf (files.fileIn? dir VectorTable.fileName) <;> rfl
        · rfl

theorem manifestOf_eq_ok_iff {manifest : Manifest} :
    manifestOf (files.fileIn? dir Manifest.fileName) = .ok manifest ↔
      loadManifest files dir = .ok manifest := by
  -- any library will do, as the faults of a manifest do not come from there
  rw [loadManifest_eq Tokenizer.library]
  cases manifestOf (files.fileIn? dir Manifest.fileName) <;> simp

/-- The parts of a model that was loaded. -/
theorem load_eq_ok_iff (hdir : files.isDirectory dir) {disabled : List String} {m : LanguageModel} :
    load library files dir disabled = .ok m ↔
      ∃ manifest bytes tokenizer vectors, loadManifest files dir = .ok manifest ∧
        tokenizerIn files dir = .ok bytes ∧ tokenizerOf library bytes = .ok tokenizer ∧
        tableFor (manifest.enabledPipes disabled) (files.fileIn? dir VectorTable.fileName) = .ok vectors ∧
        m = {
          manifest := { manifest with fingerprint := some (Blake3.shortHex bytes) }
          path := some (placeOf files dir)
          tokenizer
          vectors
          pipeNames := manifest.enabledPipes disabled
          disabled } := by
  have hload : load library files dir disabled = .ok m ↔
      ∃ m', ofContents library (contents files dir) disabled = .ok m' ∧ m = placed (placeOf files dir) m' := by
    rw [load_eq hdir]
    cases ofContents library (contents files dir) disabled <;> simp [Except.map, eq_comm]
  simp only [hload, ofContents_eq_ok_iff, ← manifestOf_eq_ok_iff]
  constructor
  · rintro ⟨_, ⟨manifest, bytes, tokenizer, vectors, hmanifest, hbytes, htokenizer, hvectors, rfl⟩, rfl⟩
    exact ⟨manifest, bytes, tokenizer, vectors, hmanifest, hbytes, htokenizer, hvectors, rfl⟩
  · rintro ⟨manifest, bytes, tokenizer, vectors, hmanifest, hbytes, htokenizer, hvectors, rfl⟩
    exact ⟨_, ⟨manifest, bytes, tokenizer, vectors, hmanifest, hbytes, htokenizer, hvectors, rfl⟩, rfl⟩

theorem loadManifest_congr {files₁ files₂ : Files} {dir₁ dir₂ : String}
    (h : files₁.fileIn? dir₁ Manifest.fileName = files₂.fileIn? dir₂ Manifest.fileName)
    (manifest : Manifest) :
    loadManifest files₁ dir₁ = .ok manifest ↔ loadManifest files₂ dir₂ = .ok manifest := by
  rw [← manifestOf_eq_ok_iff, ← manifestOf_eq_ok_iff, h]

theorem exists_flaw (h : ¬∃ manifest, loadManifest files dir = .ok manifest) :
    ∃ flaw, manifestOf (files.fileIn? dir Manifest.fileName) = .error flaw := by
  simp only [← manifestOf_eq_ok_iff] at h
  cases hcase : manifestOf (files.fileIn? dir Manifest.fileName) with
  | error flaw => exact ⟨flaw, rfl⟩
  | ok manifest => exact absurd ⟨manifest, hcase⟩ h

theorem load_of_named (hdir : files.isDirectory dir) (hname : IsNamedTokenizer dir) {manifest : Manifest}
    (h : loadManifest files dir = .ok manifest) (disabled : List String) :
    load library files dir disabled = .error (.tokenizerMissing dir) := by
  rw [load, h, loadTokenizer_of_named hdir hname]
  rfl

/-- A directory with a manifest and a tokenizer holds a model, whatever table comes with it. -/
theorem load_of_holds {t : Tree} {current place : Files.Place} {held : List (String × ByteArray)}
    {manifestBytes bytes : ByteArray} {manifest : Manifest} {tokenizer : Encoder} {vectors : Option VectorTable}
    {disabled : List String} (h : t.Holds current dir place held) (hname : ¬IsNamedTokenizer dir)
    (hpaths : ∀ n ∈ [Encoder.fileName, Manifest.fileName], Tree.isUsable (Files.join dir n) = true)
    (hmanifest : held.lookup Manifest.fileName = some manifestBytes)
    (hbytes : held.lookup Encoder.fileName = some bytes)
    (hread : manifestOf (some manifestBytes) = .ok manifest) (htokenizer : tokenizerOf library bytes = .ok tokenizer)
    (hvectors : tableFor (manifest.enabledPipes disabled)
      ((t.files current).fileIn? dir VectorTable.fileName) = .ok vectors) :
    load library (t.files current) dir disabled = .ok {
      manifest := { manifest with fingerprint := some (Blake3.shortHex bytes) }
      path := some (placeOf (t.files current) dir)
      tokenizer
      vectors
      pipeNames := manifest.enabledPipes disabled
      disabled } := by
  have hfound : ∀ n ∈ [Encoder.fileName, Manifest.fileName], ∀ {bytes}, held.lookup n = some bytes →
      (t.files current).fileIn? dir n = some bytes := by
    have hnames : ∀ n ∈ [Encoder.fileName, Manifest.fileName], IsName n := by decide
    exact fun n hn => h.fileIn?_of_lookup (hnames n hn) (hpaths n hn)
  rw [← hfound Manifest.fileName (by decide) hmanifest, manifestOf_eq_ok_iff] at hread
  have hin : tokenizerIn (t.files current) dir = .ok bytes := by
    rw [tokenizerIn, if_neg hname, hfound Encoder.fileName (by decide) hbytes, Option.elim_some]
  exact (load_eq_ok_iff h.isDirectory).mpr ⟨_, _, _, _, hread, hin, htokenizer, hvectors, rfl⟩

end Load

/-! ## Flaws -/

theorem join_ne (dir : String) : Files.join dir Encoder.fileName ≠ dir := by
  have hsize : Encoder.fileName.utf8ByteSize = 14 := by decide
  have hslash : "/".utf8ByteSize = 1 := by decide
  have habsolute : Files.isAbsolute Encoder.fileName = false := by decide
  intro h
  have hlength := congrArg String.utf8ByteSize h
  rw [Files.join, habsolute, Bool.false_or] at hlength
  split at hlength
  · next hempty =>
    rw [String.isEmpty_iff.mp hempty, hsize] at hlength
    exact absurd hlength (by decide)
  · split at hlength <;>
    · simp only [String.utf8ByteSize_append, hsize, hslash] at hlength
      omega

/-- The fault of a directory that is taken for a file is like no other. -/
theorem Flaw.at_eq_nameTaken_iff {library : Library} {dir : String} {flaw : Flaw} :
    flaw.at library dir = nameTaken.at library dir ↔ flaw = nameTaken := by
  refine ⟨fun h => ?_, fun h => h ▸ rfl⟩
  cases flaw
  case nameTaken => rfl
  case tokenizerMissing => exact absurd (LoadFault.tokenizerMissing.inj h) (join_ne dir)
  all_goals cases h

section Flaw

variable {library : Library} {c : Contents} {files : Files} {dir : String} {disabled : List String}

theorem manifestOf_ne_nameTaken (file : Option ByteArray) : manifestOf file ≠ .error .nameTaken := by
  fun_cases manifestOf file with
  | case1 => simp
  | case2 => simp
  | case3 bytes text => cases Manifest.decode text.toList <;> simp

theorem tokenizerOf_ne_nameTaken (bytes : ByteArray) : tokenizerOf library bytes ≠ .error .nameTaken := by
  rw [tokenizerOf]
  cases library.encoder bytes <;> simp

theorem tableFor_ne_nameTaken (pipeNames : List String) (file : Option ByteArray) :
    tableFor pipeNames file ≠ .error .nameTaken := by
  rw [tableFor]
  split
  · fun_cases tableOf file <;> simp
  · simp

theorem ofContents_of_manifest {flaw : Flaw} (h : manifestOf c.manifest = .error flaw) :
    ofContents library c disabled = .error flaw := by
  rw [ofContents, h]
  rfl

theorem tokenizerIn_eq_nameTaken_iff : tokenizerIn files dir = .error .nameTaken ↔ IsNamedTokenizer dir := by
  rw [tokenizerIn]
  split
  · next hname => simp [hname]
  · next hname => cases files.fileIn? dir Encoder.fileName <;> simp [hname]

theorem ofContents_eq_nameTaken_iff : ofContents library c disabled = .error .nameTaken ↔
    c.tokenizer = .error .nameTaken ∧ ∃ manifest, manifestOf c.manifest = .ok manifest := by
  constructor
  · intro h
    rw [ofContents, bind_eq_error_iff] at h
    obtain ⟨manifest, hmanifest, h⟩ := h.resolve_left (manifestOf_ne_nameTaken _)
    obtain htokenizer | ⟨bytes, hbytes, h⟩ := bind_eq_error_iff.mp h
    · exact ⟨htokenizer, manifest, hmanifest⟩
    obtain ⟨tokenizer, -, h⟩ := (bind_eq_error_iff.mp h).resolve_left (tokenizerOf_ne_nameTaken _)
    obtain ⟨vectors, -, h⟩ := (bind_eq_error_iff.mp h).resolve_left (tableFor_ne_nameTaken _ _)
    cases h
  · rintro ⟨htokenizer, manifest, hmanifest⟩
    rw [ofContents, hmanifest, htokenizer]
    rfl

theorem ofContents_contents_eq_nameTaken_iff :
    ofContents library (contents files dir) disabled = .error .nameTaken ↔
      IsNamedTokenizer dir ∧ ∃ manifest, loadManifest files dir = .ok manifest := by
  rw [ofContents_eq_nameTaken_iff]
  exact and_congr tokenizerIn_eq_nameTaken_iff (exists_congr fun _ => manifestOf_eq_ok_iff)

end Flaw

/-! ## Files that are JSON -/

section Json

variable {tree : Json.Tree} {cs : List Char} (h : Json.Spells tree cs)

include h

theorem manifestOf_of_spells : manifestOf (some (String.ofList cs).toUTF8) =
    ((Manifest.ofTree tree).mapError Json.Error.inText).mapError .manifestInvalid := by
  rw [manifestOf, Text.fromUTF8?_toUTF8]
  dsimp only
  rw [String.toList_ofList, Manifest.decode, Json.decode_of_spells _ h]

theorem tokenizerOf_of_spells {t : Tokenizer}
    (ht : (tree.value Json.maxDepth).toOption.bind Tokenizer.ofJson? = some t) :
    tokenizerOf Tokenizer.library (String.ofList cs).toUTF8 = .ok t.encoder := by
  have hread : Tokenizer.ofBytes? (String.ofList cs).toUTF8 = some t := by
    rw [Tokenizer.ofBytes?, Text.fromUTF8?_toUTF8]
    change (Value.parse (String.ofList cs).toList).toOption.bind Tokenizer.ofJson? = some t
    rw [String.toList_ofList, Json.parse_of_spells h, ht]
  dsimp only [tokenizerOf, Tokenizer.library]
  rw [hread]
  rfl

end Json

/-! ## What is written -/

/-- What a manifest says is read back, on one line or on several ones. -/
theorem reread_manifestJson (lang name : String) :
    (Fixture.manifestJson lang name).reread = (Fixture.manifestJson lang name).tree := by
  apply Json.reread_object_eq_tree
  simp only [List.forall_mem_cons]
  refine ⟨Json.reread_string _, Json.reread_string _, ?_, Json.reread_string _, by simp⟩
  exact Json.reread_array_eq_tree (List.forall_mem_map.mpr fun pipe _ => Json.reread_string pipe)

section Tokenizer

variable {vocab : List (String × Nat)} (hids : ∀ p ∈ vocab, p.2 < UInt32.size) (unknown : String)

include hids

theorem settled_vocabJson (hwords : Keyed.Ascending vocab) (depth : Nat) :
    (Value.object (vocab.map fun (word, id) => (word, .nat id))).Settled (depth + 1) := by
  refine Json.settled_object ?_ (List.pairwise_map.mpr hwords)
  rw [List.forall_mem_map]
  intro p hp
  exact (Json.exact_nat (Nat.lt_trans (hids p hp) (by decide))).settled depth

theorem settled_tokenizerJson (hwords : Keyed.Ascending vocab) :
    (Tokenizer.json vocab unknown).Settled Json.maxDepth := by
  have hmodel : ["type", "unk_token", "vocab"].Pairwise (· < ·) := by decide
  have hnames : ["added_tokens", "decoder", "model", "normalizer", "padding", "post_processor",
    "pre_tokenizer", "truncation", "version"].Pairwise (· < ·) := by decide
  have hnull := fun depth => Json.exact_null.settled depth
  have hstring := fun s depth => (Json.exact_string s).settled depth
  refine Json.settled_object ?_ (List.pairwise_map.mp hnames)
  simp only [List.forall_mem_cons]
  refine ⟨Json.settled_array (by simp), hnull _, Json.settled_object ?_ (List.pairwise_map.mp hmodel),
    hnull _, hnull _, hnull _, Json.settled_object ?_ (List.pairwise_singleton _ _), hnull _, hstring _ _,
    by simp⟩
  · simp only [List.forall_mem_cons]
    exact ⟨hstring _ _, hstring _ _, settled_vocabJson hids hwords _, by simp⟩
  · simp only [List.forall_mem_cons]
    exact ⟨hstring _ _, by simp⟩

theorem vocab?_vocabJson :
    Tokenizer.vocab? (.object (vocab.map fun (word, id) => (word, .nat id))) = some vocab := by
  rw [Tokenizer.vocab?]
  induction vocab with
  | nil => rfl
  | cons p ps ih =>
    obtain ⟨word, id⟩ := p
    obtain ⟨hp, hps⟩ := List.forall_mem_cons.mp hids
    have hindex : (Value.nat id).index? = some id := Json.nat?_nat hp
    rw [List.map_cons, List.mapM_cons, ih hps]
    dsimp only
    rw [hindex]
    rfl

theorem ofJson?_tokenizerJson :
    Tokenizer.ofJson? (Tokenizer.json vocab unknown) = some ⟨vocab, unknown, false, true, none, none, []⟩ := by
  have hvocab : Tokenizer.ofJson? (Tokenizer.json vocab unknown) =
      (Tokenizer.vocab? (.object (vocab.map fun (word, id) => (word, .nat id)))).bind fun vocab =>
        some (⟨vocab, unknown, false, true, none, none, []⟩ : Tokenizer) := rfl
  rw [hvocab, vocab?_vocabJson hids, Option.bind_some]

/-- A tokenizer is read back, on one line or on several ones. -/
theorem tokenizerOf_tokenizerJson (hwords : Keyed.Ascending vocab) {cs : List Char}
    (h : Json.Spells (Tokenizer.json vocab unknown).reread cs) :
    tokenizerOf Tokenizer.library (String.ofList cs).toUTF8 =
      .ok (Tokenizer.encoder ⟨vocab, unknown, false, true, none, none, []⟩) := by
  have hsettled := settled_tokenizerJson hids unknown hwords
  refine tokenizerOf_of_spells h ?_
  rw [hsettled.reread, hsettled.value]
  exact ofJson?_tokenizerJson hids unknown

end Tokenizer

theorem manifestOf_manifestJson (lang name : String) {cs : List Char}
    (h : Json.Spells (Fixture.manifestJson lang name).reread cs) :
    manifestOf (some (String.ofList cs).toUTF8) =
      .ok ⟨lang, name, Fixture.version, Manifest.defaultPipeline, none⟩ := by
  rw [manifestOf_of_spells h, reread_manifestJson]
  rfl

/-! ## A trial -/

def compactBytes (v : Value) : ByteArray :=
  (String.ofList v.compact).toUTF8

def trialManifest : Value :=
  Fixture.manifestJson "en" "sm"

def trialTokenizer : Value :=
  Tokenizer.json [("hi", 0)] "hi"

def trial : List (String × ByteArray) :=
  [(Manifest.fileName, compactBytes trialManifest), (Encoder.fileName, compactBytes trialTokenizer)]

theorem manifestOf_trial : manifestOf (trial.lookup Manifest.fileName) =
    .ok ⟨"en", "sm", Fixture.version, Manifest.defaultPipeline, none⟩ :=
  manifestOf_manifestJson "en" "sm" (Json.spells_reread trialManifest)

theorem tokenizerOf_trial :
    tokenizerOf Tokenizer.library (compactBytes trialTokenizer) =
      .ok (Tokenizer.encoder ⟨[("hi", 0)], "hi", false, true, none, none, []⟩) :=
  tokenizerOf_tokenizerJson (by decide) "hi" (List.pairwise_singleton _ _) (Json.spells_reread trialTokenizer)

theorem exists_load_trial {dirs : List String} {dir : String} (hdir : IsName dir) (h : dir ∈ dirs)
    (hname : ¬IsNamedTokenizer dir) (disabled : List String) :
    ∃ m, load Tokenizer.library ((Tree.shelf dirs trial).files []) dir disabled = .ok m := by
  have hfound : ∀ name, IsName name →
      ((Tree.shelf dirs trial).files []).fileIn? dir name = trial.lookup name :=
    fun name => Tree.fileIn?_shelf hdir h
  have hin : tokenizerIn ((Tree.shelf dirs trial).files []) dir = .ok (compactBytes trialTokenizer) := by
    rw [tokenizerIn, if_neg hname, hfound _ (by decide)]
    rfl
  have hmanifest := manifestOf_trial
  rw [← hfound _ (by decide), manifestOf_eq_ok_iff] at hmanifest
  have hvectors : ((Tree.shelf dirs trial).files []).fileIn? dir VectorTable.fileName = none :=
    hfound _ (by decide)
  have htable := fun pipeNames => hvectors ▸ tableFor_none pipeNames
  exact ⟨_, (load_eq_ok_iff (Tree.isDirectory_shelf hdir h)).mpr
    ⟨_, _, _, none, hmanifest, hin, tokenizerOf_trial, htable _, rfl⟩⟩

end TextAnnotation.LanguageModel
