import TextAnnotation.Proofs.Keyed.Ascending
import TextAnnotation.Proofs.Steps
import TextAnnotation.Proofs.Options.Encoding

/-!
# Defaults and what overrides them

An object may give any of the three fields. A field that is not given has its default, and all other members
are passed over.

* `Acceptable`: the fields that are given have values of the right kind.
* `Overrides`: options are the defaults, overridden by the fields that are given.
* `readMembers_eq_ok_iff`: what a draft has behind the members of an object.
* `readMembers_filter`: other members have no effect on it.
* `ofJson_overrides`: both of them for options.
-/

namespace TextAnnotation.Options

open Json (Tree Value Member Record)

def names : List String :=
  record.fields.map (·.name)

/-- A field is `a`: it is given as the value of `a`, or it is not given and `a` is the default. -/
def Field.Is {α : Type} (given : Option Value) (shown : α → Value) (default a : α) : Prop :=
  match given with
  | some v => v = shown a
  | none => a = default

def nameValue : Option String → Value
  | some name => .string name
  | none => .null

def sizeValue (n : UInt64) : Value :=
  .nat n.toNat

/-- The fields that are given have values of the right kind. -/
@[mk_iff]
structure Acceptable (members : List (String × Value)) : Prop where
  model : ∀ v, members.lookup "model" = some v → v = .null ∨ ∃ name, v = .string name
  caseSensitive : ∀ v, members.lookup "case_sensitive" = some v → ∃ b, v = .bool b
  batchSize : ∀ v, members.lookup "batch_size" = some v → ∃ n < 2 ^ 64, v = .nat n

/-- Options are the defaults, overridden by the fields that are given. -/
@[mk_iff]
structure Overrides (members : List (String × Value)) (o : Options) : Prop where
  model : Field.Is (members.lookup "model") nameValue default.model o.model
  caseSensitive : Field.Is (members.lookup "case_sensitive") .bool default.caseSensitive o.caseSensitive
  batchSize : Field.Is (members.lookup "batch_size") sizeValue default.batchSize o.batchSize

/-! ## Single values -/

section Values

variable {v : Value}

theorem optional_text_eq_ok_iff {name : Option String} :
    v.tree.optional Tree.text = .ok name ↔ v = nameValue name := by
  cases v <;> cases name <;>
    simp [Value.tree, Tree.optional, Tree.text, nameValue, bind, Except.bind]

theorem flag_eq_ok_iff {b : Bool} : v.tree.flag = .ok b ↔ v = .bool b := by
  cases v <;> simp [Value.tree, Tree.flag]

theorem word_eq_ok_iff {n : UInt64} : v.tree.word = .ok n ↔ v = sizeValue n := by
  constructor
  · intro h
    obtain ⟨k, hk, h⟩ := bind_eq_ok_iff.mp h
    cases h
    cases v with
    | number x =>
      cases x with
      | integer i =>
        rw [Value.tree, Tree.nat] at hk
        split at hk
        · next hi =>
          cases hk
          show Value.number (.integer i) = .number (.integer (i.toNat : Int))
          rw [Int.toNat_of_nonneg hi.1]
        · cases hk
      | double x => cases hk
      | single x => cases hk
    | null | bool _ | string _ | array _ | object _ => cases hk
  · rintro rfl
    exact word_nat n

theorem skip_tree (v : Value) : v.tree.skip = .ok () := by
  induction v using Json.Value.induction with
  | null | bool _ | number _ | string _ => rfl
  | array vs ih =>
    rw [Value.tree, Json.itemTrees_eq, Json.skip_array, Json.skipItems_eq_ok_iff]
    exact List.forall_mem_map.mpr ih
  | object ms ih =>
    rw [Value.tree, Json.memberTrees_eq, Json.skip_object, Json.skipMembers_eq_ok_iff]
    exact List.forall_mem_map.mpr ih

end Values

/-! ## Members of an object -/

/-- What a field of a draft has behind a member that may be missing. -/
def Filled {α : Type} (shown : α → Value) (before : Option α) (given : Option Value) (after : Option α) :
    Prop :=
  match given with
  | some v => ∃ a, v = shown a ∧ after = some a
  | none => after = before

theorem filled_some {α : Type} {shown : α → Value} {before after : Option α} {v : Value} :
    Filled shown before (some v) after ↔ ∃ a, v = shown a ∧ after = some a := Iff.rfl

theorem filled_none {α : Type} {shown : α → Value} {before after : Option α} :
    Filled shown before none after ↔ after = before := Iff.rfl

/-- What a draft has behind the members of an object. -/
@[mk_iff]
structure Filling (members : List (String × Value)) (before after : Draft) : Prop where
  model : Filled nameValue before.model (members.lookup "model") after.model
  caseSensitive : Filled .bool before.caseSensitive (members.lookup "case_sensitive") after.caseSensitive
  batchSize : Filled sizeValue before.batchSize (members.lookup "batch_size")
    after.batchSize

/-- A draft has no field yet that is among the members. -/
@[mk_iff]
structure Draft.Lacks (d : Draft) (members : List (String × Value)) : Prop where
  model : members.lookup "model" ≠ none → d.model = none
  caseSensitive : members.lookup "case_sensitive" ≠ none → d.caseSensitive = none
  batchSize : members.lookup "batch_size" ≠ none → d.batchSize = none

theorem field?_of_not_mem {name : String} (h : name ∉ names) : record.field? name = none := by
  rw [Record.field?, List.find?_eq_none]
  intro f hf
  have hmem : f.name ∈ names := List.mem_map_of_mem hf
  intro hname
  exact h (beq_iff_eq.mp hname ▸ hmem)

theorem readMembers_cons_eq_ok_iff {name : String} {t : Tree} {d d' : Draft} {f : Json.Field Draft}
    (h : record.field? name = some f) (hhas : f.has d = false) (rest : List Member) :
    record.readMembers d ((.ok name, t) :: rest) = .ok d' ↔
      ∃ d₁, f.read t d = .ok d₁ ∧ record.readMembers d₁ rest = .ok d' := by
  rw [Record.readMembers_of_field h hhas]
  exact bind_eq_ok_iff

/-- Members that are no fields have no effect, whatever they hold. -/
theorem readMembers_filter (members : List (String × Value)) (d : Draft) :
    record.readMembers d (Json.memberTrees (members.filter fun m => m.1 ∈ names)) =
      record.readMembers d (Json.memberTrees members) := by
  induction members generalizing d with
  | nil => rfl
  | cons m members ih =>
    obtain ⟨name, v⟩ := m
    by_cases hname : name ∈ names
    · rw [List.filter_cons_of_pos (by simpa using hname), Json.memberTrees, Json.memberTrees]
      simp only [Record.readMembers, ih]
    · rw [List.filter_cons_of_neg (by simpa using hname), Json.memberTrees, ih,
        Record.readMembers_of_unknown (field?_of_not_mem hname) (skip_tree v)]

section Fields

variable {d d' : Draft} {v : Value} {rest : List Member}

theorem readMembers_model_eq_ok_iff (hd : d.model = none) :
    record.readMembers d ((.ok "model", v.tree) :: rest) = .ok d' ↔
      ∃ name, v = nameValue name ∧ record.readMembers { d with model := some name } rest = .ok d' := by
  rw [readMembers_cons_eq_ok_iff rfl (by simp [hd])]
  simp only [bind_eq_ok_iff, optional_text_eq_ok_iff, Except.ok.injEq]
  constructor
  · rintro ⟨_, ⟨name, hname, rfl⟩, hrest⟩
    exact ⟨name, hname, hrest⟩
  · rintro ⟨name, hname, hrest⟩
    exact ⟨_, ⟨name, hname, rfl⟩, hrest⟩

theorem readMembers_case_eq_ok_iff (hd : d.caseSensitive = none) :
    record.readMembers d ((.ok "case_sensitive", v.tree) :: rest) = .ok d' ↔
      ∃ b, v = .bool b ∧ record.readMembers { d with caseSensitive := some b } rest = .ok d' := by
  rw [readMembers_cons_eq_ok_iff rfl (by simp [hd])]
  simp only [bind_eq_ok_iff, flag_eq_ok_iff, Except.ok.injEq]
  constructor
  · rintro ⟨_, ⟨b, hb, rfl⟩, hrest⟩
    exact ⟨b, hb, hrest⟩
  · rintro ⟨b, hb, hrest⟩
    exact ⟨_, ⟨b, hb, rfl⟩, hrest⟩

theorem readMembers_batch_eq_ok_iff (hd : d.batchSize = none) :
    record.readMembers d ((.ok "batch_size", v.tree) :: rest) = .ok d' ↔
      ∃ n, v = sizeValue n ∧ record.readMembers { d with batchSize := some n } rest = .ok d' := by
  rw [readMembers_cons_eq_ok_iff rfl (by simp [hd])]
  simp only [bind_eq_ok_iff, word_eq_ok_iff, Except.ok.injEq]
  constructor
  · rintro ⟨_, ⟨n, hn, rfl⟩, hrest⟩
    exact ⟨n, hn, hrest⟩
  · rintro ⟨n, hn, hrest⟩
    exact ⟨_, ⟨n, hn, rfl⟩, hrest⟩

end Fields

section Reading

variable {name : String} {v : Value} {members : List (String × Value)}

theorem lookup_cons (other : String) : ((name, v) :: members).lookup other =
    if other = name then some v else members.lookup other :=
  Keyed.lookup_cons_eq_ite name other v members

/-- Behind the first member a draft has none of the others, if it had only that field changed. -/
theorem Draft.Lacks.of_cons {d d₁ : Draft} (hd : d.Lacks ((name, v) :: members))
    (hname : members.lookup name = none) (hmodel : name = "model" ∨ d₁.model = d.model)
    (hcase : name = "case_sensitive" ∨ d₁.caseSensitive = d.caseSensitive)
    (hbatch : name = "batch_size" ∨ d₁.batchSize = d.batchSize) : d₁.Lacks members := by
  refine ⟨fun h => ?_, fun h => ?_, fun h => ?_⟩
  · have hne : name ≠ "model" := fun heq => h (heq ▸ hname)
    rw [hmodel.resolve_left hne]
    exact hd.model (by rwa [lookup_cons, if_neg hne.symm])
  · have hne : name ≠ "case_sensitive" := fun heq => h (heq ▸ hname)
    rw [hcase.resolve_left hne]
    exact hd.caseSensitive (by rwa [lookup_cons, if_neg hne.symm])
  · have hne : name ≠ "batch_size" := fun heq => h (heq ▸ hname)
    rw [hbatch.resolve_left hne]
    exact hd.batchSize (by rwa [lookup_cons, if_neg hne.symm])

theorem names_cases (h : name ∈ names) : name = "model" ∨ name = "case_sensitive" ∨ name = "batch_size" := by
  simpa [names, record] using h

section Cons

variable {d d' : Draft}

theorem filling_cons_model (h : members.lookup "model" = none) :
    Filling (("model", v) :: members) d d' ↔
      ∃ x, v = nameValue x ∧ Filling members { d with model := some x } d' := by
  simp only [filling_iff, lookup_cons, h, filled_none, String.reduceEq, if_true, if_false, filled_some]
  constructor
  · rintro ⟨⟨x, hx, hmodel⟩, hcase, hbatch⟩
    exact ⟨x, hx, hmodel, hcase, hbatch⟩
  · rintro ⟨x, hx, hmodel, hcase, hbatch⟩
    exact ⟨⟨x, hx, hmodel⟩, hcase, hbatch⟩

theorem filling_cons_case (h : members.lookup "case_sensitive" = none) :
    Filling (("case_sensitive", v) :: members) d d' ↔
      ∃ b, v = .bool b ∧ Filling members { d with caseSensitive := some b } d' := by
  simp only [filling_iff, lookup_cons, h, filled_none, String.reduceEq, if_true, if_false, filled_some]
  constructor
  · rintro ⟨hmodel, ⟨b, hb, hcase⟩, hbatch⟩
    exact ⟨b, hb, hmodel, hcase, hbatch⟩
  · rintro ⟨b, hb, hmodel, hcase, hbatch⟩
    exact ⟨hmodel, ⟨b, hb, hcase⟩, hbatch⟩

theorem filling_cons_batch (h : members.lookup "batch_size" = none) :
    Filling (("batch_size", v) :: members) d d' ↔
      ∃ n, v = sizeValue n ∧ Filling members { d with batchSize := some n } d' := by
  simp only [filling_iff, lookup_cons, h, filled_none, String.reduceEq, if_true, if_false, filled_some]
  constructor
  · rintro ⟨hmodel, hcase, ⟨n, hn, hbatch⟩⟩
    exact ⟨n, hn, hmodel, hcase, hbatch⟩
  · rintro ⟨n, hn, hmodel, hcase, hbatch⟩
    exact ⟨hmodel, hcase, ⟨n, hn, hbatch⟩⟩

theorem filling_cons_of_not_mem (hname : name ∉ names) :
    Filling ((name, v) :: members) d d' ↔ Filling members d d' := by
  have hother : ∀ f ∈ names, ((name, v) :: members).lookup f = members.lookup f := by
    intro f hf
    rw [lookup_cons, if_neg]
    rintro rfl
    exact hname hf
  rw [filling_iff, filling_iff, hother _ (by decide), hother _ (by decide), hother _ (by decide)]

end Cons

/-- Reading succeeds if the fields that are given have values of the right kind, and it fills the draft with
these values. -/
theorem readMembers_eq_ok_iff (hnodup : (members.map Prod.fst).Nodup) {d d' : Draft}
    (hd : d.Lacks members) :
    record.readMembers d (Json.memberTrees members) = .ok d' ↔ Filling members d d' := by
  induction members generalizing d with
  | nil =>
    rw [Json.memberTrees, Record.readMembers, Except.ok.injEq, filling_iff]
    cases d
    cases d'
    simp [filled_none, eq_comm]
  | cons m members ih =>
    obtain ⟨name, v⟩ := m
    obtain ⟨hname, hrest⟩ := List.nodup_cons.mp hnodup
    have hnone : members.lookup name = none := Keyed.lookup_eq_none_iff.mpr hname
    rw [Json.memberTrees]
    by_cases hmem : name ∈ names
    · rcases names_cases hmem with rfl | rfl | rfl
      · have hlacks : ∀ x, Draft.Lacks { d with model := some x } members := fun x =>
          hd.of_cons hnone (.inl rfl) (.inr rfl) (.inr rfl)
        rw [readMembers_model_eq_ok_iff (hd.model (by simp)), filling_cons_model hnone]
        simp only [ih hrest (hlacks _)]
      · have hlacks : ∀ b, Draft.Lacks { d with caseSensitive := some b } members := fun b =>
          hd.of_cons hnone (.inr rfl) (.inl rfl) (.inr rfl)
        rw [readMembers_case_eq_ok_iff (hd.caseSensitive (by simp)), filling_cons_case hnone]
        simp only [ih hrest (hlacks _)]
      · have hlacks : ∀ n, Draft.Lacks { d with batchSize := some n } members := fun n =>
          hd.of_cons hnone (.inr rfl) (.inr rfl) (.inl rfl)
        rw [readMembers_batch_eq_ok_iff (hd.batchSize (by simp)), filling_cons_batch hnone]
        simp only [ih hrest (hlacks _)]
    · rw [Record.readMembers_of_unknown (field?_of_not_mem hmem) (skip_tree v),
        filling_cons_of_not_mem hmem]
      exact ih hrest (hd.of_cons hnone (.inr rfl) (.inr rfl) (.inr rfl))

end Reading

/-! ## Options of an object -/

section Object

variable {members : List (String × Value)} {o : Options}

theorem ofJson_object (members : List (String × Value)) :
    ofJson (.object members) =
      (record.readMembers ⟨none, none, none⟩ (Json.memberTrees members)).map ofDraft := by
  show ofTree (.object (Json.memberTrees members) none) = _
  rw [ofTree, Record.read]
  cases record.readMembers ⟨none, none, none⟩ (Json.memberTrees members) <;> rfl

theorem ofJson_filter (members : List (String × Value)) :
    ofJson (.object (members.filter fun m => m.1 ∈ names)) = ofJson (.object members) := by
  rw [ofJson_object, ofJson_object, readMembers_filter]

/-- A field of options is the default or what has been filled in. -/
theorem exists_filled_iff {α : Type} {given : Option Value} {shown : α → Value} {initial a : α} :
    (∃ after, Filled shown none given after ∧ after.getD initial = a) ↔
      Field.Is given shown initial a := by
  cases given with
  | none => simp [filled_none, Field.Is, eq_comm]
  | some v =>
    constructor
    · rintro ⟨_, ⟨b, hb, rfl⟩, rfl⟩
      exact hb
    · intro h
      exact ⟨some a, ⟨a, h, rfl⟩, rfl⟩

theorem exists_is_iff {α : Type} {given : Option Value} {shown : α → Value} {initial : α} :
    (∃ a, Field.Is given shown initial a) ↔ ∀ v, given = some v → ∃ a, v = shown a := by
  cases given with
  | none => simp [Field.Is]
  | some v => simp [Field.Is]

theorem ofJson_eq_ok_iff (hnodup : (members.map Prod.fst).Nodup) :
    ofJson (.object members) = .ok o ↔ Overrides members o := by
  have hread : ∀ d, record.readMembers ⟨none, none, none⟩ (Json.memberTrees members) = .ok d ↔
      Filling members ⟨none, none, none⟩ d :=
    fun d => readMembers_eq_ok_iff hnodup ⟨fun _ => rfl, fun _ => rfl, fun _ => rfl⟩
  have hmap : ofJson (.object members) = .ok o ↔
      ∃ d, Filling members ⟨none, none, none⟩ d ∧ ofDraft d = o := by
    rw [ofJson_object]
    simp only [← hread]
    cases record.readMembers ⟨none, none, none⟩ (Json.memberTrees members) <;> simp [Except.map]
  rw [hmap, overrides_iff, ← exists_filled_iff, ← exists_filled_iff, ← exists_filled_iff]
  constructor
  · rintro ⟨d, ⟨hmodel, hcase, hbatch⟩, rfl⟩
    exact ⟨⟨_, hmodel, rfl⟩, ⟨_, hcase, rfl⟩, ⟨_, hbatch, rfl⟩⟩
  · rintro ⟨⟨model, hmodel, h₁⟩, ⟨flag, hcase, h₂⟩, ⟨size, hbatch, h₃⟩⟩
    refine ⟨⟨model, flag, size⟩, ⟨hmodel, hcase, hbatch⟩, ?_⟩
    rw [ofDraft, h₁, h₂, h₃]

theorem exists_overrides_iff : (∃ o, Overrides members o) ↔ Acceptable members := by
  have hname : ∀ v, (∃ x, v = nameValue x) ↔ v = .null ∨ ∃ name, v = .string name := by
    intro v
    simp [Option.exists, nameValue]
  have hsize : ∀ v, (∃ n, v = sizeValue n) ↔ ∃ n < 2 ^ 64, v = .nat n := by
    intro v
    constructor
    · rintro ⟨n, rfl⟩
      exact ⟨n.toNat, n.toNat_lt, rfl⟩
    · rintro ⟨n, hn, rfl⟩
      exact ⟨.ofNat n, by rw [sizeValue, UInt64.toNat_ofNat_of_lt' hn]⟩
  have hparts : (∃ o, Overrides members o) ↔
      (∃ x, Field.Is (members.lookup "model") nameValue default.model x) ∧
      (∃ b, Field.Is (members.lookup "case_sensitive") .bool default.caseSensitive b) ∧
      ∃ n, Field.Is (members.lookup "batch_size") sizeValue default.batchSize n := by
    constructor
    · rintro ⟨o, hmodel, hcase, hbatch⟩
      exact ⟨⟨_, hmodel⟩, ⟨_, hcase⟩, ⟨_, hbatch⟩⟩
    · rintro ⟨⟨x, hmodel⟩, ⟨b, hcase⟩, ⟨n, hbatch⟩⟩
      exact ⟨⟨x, b, n⟩, hmodel, hcase, hbatch⟩
  rw [hparts, exists_is_iff, exists_is_iff, exists_is_iff, acceptable_iff]
  simp only [hname, hsize]

/-- The members of an encoding are read as they were, in any order and among any others. -/
theorem overrides_of_subset (hnodup : (members.map Prod.fst).Nodup) (h : o.members ⊆ members) :
    Overrides members o := by
  have hlookup : ∀ m ∈ o.members, members.lookup m.1 = some m.2 :=
    fun m hm => (Keyed.mem_iff_lookup_of_nodup hnodup).mp (h hm)
  rw [Options.members] at hlookup
  simp only [List.forall_mem_cons] at hlookup
  obtain ⟨hmodel, hcase, hbatch, -⟩ := hlookup
  rw [overrides_iff, hmodel, hcase, hbatch]
  exact ⟨rfl, rfl, rfl⟩

/-- Options are read as the defaults, overridden field by field. -/
theorem ofJson_overrides :
    ofJson .null = .ok default ∧ ofJson (.object []) = .ok default ∧
    (∀ members others : List (String × Value),
      (members.filter fun m => m.1 ∈ names) = (others.filter fun m => m.1 ∈ names) →
        ofJson (.object members) = ofJson (.object others)) ∧
    ∀ members : List (String × Value), (members.map Prod.fst).Nodup →
      ((∃ o, ofJson (.object members) = .ok o) ↔ Acceptable members) ∧
      (∀ o, ofJson (.object members) = .ok o ↔ Overrides members o) ∧
      ∀ (o : Options) (encoded : List (String × Value)), o.json = .object encoded → encoded ⊆ members →
        ofJson (.object members) = .ok o := by
  refine ⟨rfl, rfl, fun members others h => ?_, fun members hnodup => ⟨?_, fun o => ?_, ?_⟩⟩
  · rw [← ofJson_filter members, h, ofJson_filter]
  · simp only [ofJson_eq_ok_iff hnodup]
    exact exists_overrides_iff
  · exact ofJson_eq_ok_iff hnodup
  · intro o encoded hencoded hsubset
    rw [json_eq] at hencoded
    cases hencoded
    exact (ofJson_eq_ok_iff hnodup).mpr (overrides_of_subset hnodup hsubset)

/-- Two of the fields are given, one of them as `null`, and there is a member more. An encoding is read with
the same member among its own. -/
theorem ofJson_overrides_sample :
    let extra : String × Value := ("extra", .bool true)
    let given : List (String × Value) := [("batch_size", .nat 7), ("model", .null)]
    let o : Options := ⟨some "en", true, 3⟩
    ((extra :: given).filter fun m => m.1 ∈ names) = (given.filter fun m => m.1 ∈ names) ∧
      ((extra :: given).map Prod.fst).Nodup ∧ Overrides (extra :: given) ⟨none, false, 7⟩ ∧
      ofJson (.object (extra :: given)) = ofJson (.object given) ∧
      ofJson (.object (extra :: given)) = .ok ⟨none, false, 7⟩ ∧
      ((extra :: o.members).map Prod.fst).Nodup ∧ o.members ⊆ extra :: o.members ∧
      ofJson (.object (extra :: o.members)) = .ok o := by
  intro extra given o
  have hfilter : ((extra :: given).filter fun m => m.1 ∈ names) =
      (given.filter fun m => m.1 ∈ names) := rfl
  have hgiven : ((extra :: given).map Prod.fst).Nodup := by decide
  have hstored : ((extra :: o.members).map Prod.fst).Nodup := by decide
  have hoverrides : Overrides (extra :: given) ⟨none, false, 7⟩ := ⟨rfl, rfl, rfl⟩
  have hsubset : o.members ⊆ extra :: o.members := List.subset_cons_self _ _
  obtain ⟨-, -, hsame, hread⟩ := ofJson_overrides
  exact ⟨hfilter, hgiven, hoverrides, hsame _ given hfilter, ((hread _ hgiven).2.1 _).mpr hoverrides,
    hstored, hsubset, (hread _ hstored).2.2 o o.members rfl hsubset⟩

end Object

end TextAnnotation.Options
