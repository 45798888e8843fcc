import TextAnnotation.Options
import TextAnnotation.Proofs.Json.Records
import TextAnnotation.Proofs.Json.Writing

/-!
# Options and their encoding

Options are encoded as an object with three members. Where the encoding is written as a text and read again,
the members come back in the order of their names.

* `ofJson_json`: options are read from their encoding as they were.
* `decode_compact_json`: so they are from the text of their encoding.
-/

namespace TextAnnotation.Options

open Json (Tree Value Member Record)

/-! ## Members -/

def modelValue (o : Options) : Value :=
  match o.model with
  | some m => .string m
  | none => .null

def members (o : Options) : List (String × Value) :=
  [("model", o.modelValue), ("case_sensitive", .bool o.caseSensitive),
    ("batch_size", .nat o.batchSize.toNat)]

theorem json_eq (o : Options) : o.json = .object o.members := rfl

theorem optional_modelValue (o : Options) : o.modelValue.tree.optional Tree.text = .ok o.model := by
  unfold modelValue
  cases o.model <;> rfl

theorem word_nat (n : UInt64) : (Value.nat n.toNat).tree.word = .ok n := by
  have hbound : (0 : Int) ≤ n.toNat ∧ (n.toNat : Int) < UInt64.size :=
    ⟨Int.natCast_nonneg _, Int.ofNat_lt.mpr n.toNat_lt_size⟩
  rw [Value.nat, Value.tree, Tree.word, Tree.nat, dif_pos hbound]
  rfl

variable (o : Options) {d : Draft} (rest : List Member)

theorem readMembers_model (hd : d.model = none) :
    record.readMembers d ((.ok "model", o.modelValue.tree) :: rest) =
      record.readMembers { d with model := some o.model } rest := by
  refine Record.readMembers_of_read rfl (by simp [hd]) ?_ rest
  simp only [optional_modelValue]
  rfl

theorem readMembers_case (hd : d.caseSensitive = none) :
    record.readMembers d ((.ok "case_sensitive", (Value.bool o.caseSensitive).tree) :: rest) =
      record.readMembers { d with caseSensitive := some o.caseSensitive } rest :=
  Record.readMembers_of_read rfl (by simp [hd]) rfl rest

theorem readMembers_batch (hd : d.batchSize = none) :
    record.readMembers d ((.ok "batch_size", (Value.nat o.batchSize.toNat).tree) :: rest) =
      record.readMembers { d with batchSize := some o.batchSize } rest := by
  refine Record.readMembers_of_read rfl (by simp [hd]) ?_ rest
  simp only [word_nat]
  rfl

/-! ## Reading the encoding -/

/-- Options are read from their encoding as they were, whatever the name of the model and the number of
texts in a batch. -/
theorem ofJson_json : ofJson o.json = .ok o := by
  have htree : ofJson o.json = ofTree (.object (Json.memberTrees o.members) none) := rfl
  rw [htree, ofTree, Record.read, members, Json.memberTrees, readMembers_model o _ rfl, Json.memberTrees,
    readMembers_case o _ rfl, Json.memberTrees, readMembers_batch o _ rfl]
  rfl

theorem exact_members : ∀ m ∈ o.members, m.2.Exact := by
  have hmodel : o.modelValue.Exact := by
    unfold modelValue
    cases o.model with
    | none => exact Json.exact_null
    | some m => exact Json.exact_string m
  simp [members, hmodel, Json.exact_bool, Json.exact_nat o.batchSize.toNat_lt_size]

theorem ofList_members : Keyed.ofList o.members =
    [("batch_size", .nat o.batchSize.toNat), ("case_sensitive", .bool o.caseSensitive),
      ("model", o.modelValue)] := by
  have hcase : "case_sensitive" < "model" := by decide
  have hbatch : "batch_size" < "case_sensitive" := by decide
  simp only [Keyed.ofList, members, List.foldl_cons, List.foldl_nil, Keyed.insert, if_pos hcase,
    if_pos hbatch]

theorem decode_compact_json : decode o.json.compact = .ok o := by
  have htree : ofJson (.object (Keyed.ofList o.members)) =
      ofTree (.object (Json.memberTrees (Keyed.ofList o.members)) none) := rfl
  rw [decode, json_eq, Json.parse_compact_object o.exact_members]
  dsimp only
  rw [htree, ofTree, Record.read, ofList_members, Json.memberTrees, readMembers_batch o _ rfl,
    Json.memberTrees, readMembers_case o _ rfl, Json.memberTrees, readMembers_model o _ rfl]
  rfl

end TextAnnotation.Options
