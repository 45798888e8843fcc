import TextAnnotation.Proofs.Fixture.Vocabulary
import TextAnnotation.Proofs.LanguageModel.Contents
import TextAnnotation.Proofs.Tensors.Reading
import TextAnnotation.Proofs.VectorTable.Lookup

/-!
# The files of a small model

Each of the three files is read back as what was written into it.

* `manifestOf_prettyBytes`, `tokenizerOf_prettyBytes`: the two files that are always there.
* `tableOf_fileOfRows`: the file of a table.
* `vector_table`: every row of the table has its number in all places.
-/

namespace TextAnnotation.Fixture

open LanguageModel (manifestOf tokenizerOf tableOf)

theorem manifestOf_prettyBytes (lang name : String) :
    manifestOf (some (prettyBytes (manifestJson lang name))) =
      .ok ⟨lang, name, version, Manifest.defaultPipeline, none⟩ :=
  LanguageModel.manifestOf_manifestJson lang name (Json.spells_pretty _)

theorem tokenizerOf_prettyBytes {words : List String} (h : words.length < UInt32.size) :
    tokenizerOf Tokenizer.library (prettyBytes (Tokenizer.json (vocab words) unknown)) =
      .ok (tokenizer words).encoder :=
  LanguageModel.tokenizerOf_tokenizerJson (lt_of_mem_vocab h) unknown (Keyed.ascending_ofList _)
    (Json.spells_pretty _)

/-! ## The table -/

def table (rows width : Nat) : VectorTable where
  rows
  width
  data := (Tensor.rowEntries rows width).toArray
  size_data := by rw [List.size_toArray, Tensor.length_rowEntries]

variable {rows width : Nat}

theorem tableOf_fileOfRows (hrows : rows ≤ 2 ^ 24) (hwidth : width < UInt64.size)
    (hsize : rows * width * 4 < UInt64.size) :
    tableOf (some (Tensor.fileOfRows VectorTable.tensorName rows width)) = .ok (some (table rows width)) := by
  have hheader := Tensor.size_headerText (Nat.lt_of_le_of_lt hrows (by decide)) hwidth hsize VectorTable.tensorName
  have hread := Tensor.ofBytes?_fileOfRows (by decide) hrows hwidth hsize
    (Nat.le_trans hheader (by decide))
  have htable : VectorTable.ofTensor? ⟨[rows, width], (Tensor.rowEntries rows width).toArray⟩ =
      some (table rows width) := dif_pos (table rows width).size_data
  have hname : [(VectorTable.tensorName, (⟨[rows, width], (Tensor.rowEntries rows width).toArray⟩ : Tensor))].lookup
      VectorTable.tensorName = some ⟨[rows, width], (Tensor.rowEntries rows width).toArray⟩ := rfl
  simp only [tableOf, hread, hname, htable]

/-- A row of the table has its number in all places. -/
theorem extract_rowEntries {i : Nat} (hi : i < rows) (width : Nat) :
    ((Tensor.rowEntries rows width).drop (i * width)).take width =
      List.replicate width (Decimal.singleOfInt i) := by
  obtain ⟨n, rfl⟩ := Nat.exists_eq_add_of_lt hi
  rw [← Tensor.length_rowEntries i width, Nat.add_assoc, Tensor.rowEntries, Tensor.rowEntries, List.range_add,
    List.flatMap_append, List.drop_left, List.range_succ_eq_map, List.map_cons, List.flatMap_cons, Nat.add_zero]
  exact List.take_left' List.length_replicate

theorem vector_table (i : Nat) : (table rows width).vector i =
    List.replicate width (if i < rows then Decimal.singleOfInt i else 0.0) := by
  by_cases hi : i < rows
  · have hrow : (table rows width).row? i = some (List.replicate width (Decimal.singleOfInt i)) := by
      rw [← extract_rowEntries hi width]
      refine (if_pos hi).trans (congrArg some ?_)
      rw [Array.toList_extract, List.extract_eq_take_drop, Nat.add_sub_cancel_left]
      rfl
    rw [VectorTable.vector_of_row hrow, if_pos hi]
  · have hrow : (table rows width).row? i = none := if_neg hi
    rw [VectorTable.vector_of_no_row hrow, if_neg hi]
    rfl

end TextAnnotation.Fixture
