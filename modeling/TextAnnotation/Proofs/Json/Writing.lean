import TextAnnotation.Proofs.Json.Numbers
import TextAnnotation.Proofs.Json.Reading

/-!
# Reading back what is written

* `Value.induction`: induction on JSON values through the lists in them.
* `printable_compact`: what is written holds no control character, so it stays on one line.
* `spells_reread`: what is written is JSON. Strings, arrays and objects are read back as they were; numbers
  may be read back as other ones, since they are not all of one kind.
* `parse_compact_object`: an object without containers in it is read back as it was, but for the order of
  its members, if its numbers are natural ones of 64 bits.
-/

namespace TextAnnotation.Json

/-! ## Values and the lists in them -/

theorem Value.induction {P : Value → Prop} (null : P .null) (bool : ∀ b, P (.bool b))
    (number : ∀ n, P (.number n)) (string : ∀ s, P (.string s))
    (array : ∀ vs, (∀ v ∈ vs, P v) → P (.array vs))
    (object : ∀ ms : List (String × Value), (∀ m ∈ ms, P m.2) → P (.object ms)) (v : Value) : P v :=
  @Value.rec P (fun vs => ∀ v ∈ vs, P v) (fun ms => ∀ m ∈ ms, P m.2) (fun m => P m.2)
    null bool number string array object
    (fun _ h => by cases h) (fun _ _ hv hvs => List.forall_mem_cons.mpr ⟨hv, hvs⟩)
    (fun _ h => by cases h) (fun _ _ hm hms => List.forall_mem_cons.mpr ⟨hm, hms⟩)
    (fun _ _ hv => hv) v

def compactMember (m : String × Value) : List Char :=
  quote m.1 ++ ':' :: m.2.compact

theorem compactItems_eq (vs : List Value) :
    compactItems vs = (vs.map Value.compact).flatMap (',' :: ·) ++ [']'] := by
  induction vs with
  | nil => rfl
  | cons v vs ih => simp [compactItems, ih]

theorem compactMembers_eq (ms : List (String × Value)) :
    compactMembers ms = (ms.map compactMember).flatMap (',' :: ·) ++ ['}'] := by
  induction ms with
  | nil => rfl
  | cons m ms ih => simp [compactMembers, ih, compactMember]

theorem compact_array (vs : List Value) :
    (Value.array vs).compact = '[' :: [','].intercalate (vs.map Value.compact) ++ [']'] := by
  cases vs with
  | nil => rfl
  | cons v vs => simp [Value.compact, compactItems_eq, intercalate_comma_cons]

theorem compact_object (ms : List (String × Value)) :
    (Value.object ms).compact = '{' :: [','].intercalate (ms.map compactMember) ++ ['}'] := by
  cases ms with
  | nil => rfl
  | cons m ms => simp [Value.compact, compactMembers_eq, intercalate_comma_cons, compactMember]

/-! ## No control characters -/

/-- No character is a control character below the space. -/
def Printable (cs : List Char) : Prop :=
  ∀ c ∈ cs, 0x20 ≤ c.toNat

instance (cs : List Char) : Decidable (Printable cs) := List.decidableBAll _ cs

theorem Printable.append {cs ds : List Char} (hcs : Printable cs) (hds : Printable ds) :
    Printable (cs ++ ds) := by
  intro c hc
  rcases List.mem_append.mp hc with hc | hc
  · exact hcs c hc
  · exact hds c hc

theorem printable_cons {c : Char} {cs : List Char} :
    Printable (c :: cs) ↔ 0x20 ≤ c.toNat ∧ Printable cs :=
  List.forall_mem_cons

theorem printable_nil : Printable [] := by
  intro c hc
  cases hc

theorem printable_intercalate {xs : List (List Char)} (h : ∀ x ∈ xs, Printable x) :
    Printable ([','].intercalate xs) := by
  cases xs with
  | nil => exact printable_nil
  | cons x xs =>
    rw [intercalate_comma_cons]
    refine (h x List.mem_cons_self).append fun c hc => ?_
    obtain ⟨y, hy, hc⟩ := List.mem_flatMap.mp hc
    exact printable_cons.mpr ⟨by decide, h y (List.mem_cons_of_mem x hy)⟩ c hc

theorem printable_of_isDigit {cs : List Char} (h : ∀ c ∈ cs, c.isDigit = true) : Printable cs := by
  intro c hc
  have hdigit := (Char.isDigit_iff_toNat.mp (h c hc)).1
  exact Nat.le_trans (by decide) hdigit

theorem Numeral.Spells.printable {n : Numeral} {cs : List Char} (h : n.Spells cs) : Printable cs := by
  have hfront : n.Sound → Printable (n.minus ++ n.whole ++ n.decimals) := by
    intro hn
    have hminus : Printable n.minus := by
      unfold Numeral.minus
      split <;> decide
    refine (hminus.append ?_).append ?_
    · rcases hn.whole with hzero | ⟨d, ds, -, -, hdigits⟩
      · rw [hzero]
        decide
      · exact printable_of_isDigit hdigits
    · unfold Numeral.decimals
      split
      · exact printable_nil
      · exact printable_cons.mpr ⟨by decide, printable_of_isDigit hn.fraction⟩
  cases h with
  | plain hn hpower => exact hfront hn
  | @scaled mark sign hn hpower hmark hsign =>
    refine ((hfront hn).append (printable_cons.mpr ⟨?_, ?_⟩)).append (printable_of_isDigit hn.power)
    · rcases hmark with rfl | rfl <;> decide
    · unfold Numeral.PowerSign at hsign
      split at hsign
      · subst hsign; decide
      · rcases hsign with rfl | rfl <;> decide

/-- The three forms in which a character is written: behind a backslash as one letter or as four digits,
and as it is. -/
theorem escapeChar_cases (c : Char) :
    (∃ e, (e, c) ∈ letters ∧ escapeChar c = ['\\', e]) ∨
      (c.toNat < 0x20 ∧ escapeChar c =
        ['\\', 'u', '0', '0', Text.hexDigit (c.toNat / 16), Text.hexDigit c.toNat]) ∨
      (0x20 ≤ c.toNat ∧ c ≠ '"' ∧ c ≠ '\\' ∧ escapeChar c = [c]) := by
  by_cases hletter : c ∈ ['"', '\\', Char.ofNat 8, '\t', '\n', Char.ofNat 12, '\r']
  · left
    simp only [List.mem_cons, List.not_mem_nil, or_false] at hletter
    rcases hletter with rfl | rfl | rfl | rfl | rfl | rfl | rfl
    · exact ⟨'"', by decide, rfl⟩
    · exact ⟨'\\', by decide, rfl⟩
    · exact ⟨'b', by decide, rfl⟩
    · exact ⟨'t', by decide, rfl⟩
    · exact ⟨'n', by decide, rfl⟩
    · exact ⟨'f', by decide, rfl⟩
    · exact ⟨'r', by decide, rfl⟩
  · right
    simp only [List.mem_cons, List.not_mem_nil, or_false, not_or] at hletter
    obtain ⟨hquote, hslash, hb, ht, hn, hf, hr⟩ := hletter
    by_cases hsmall : c.toNat < 0x20
    · exact Or.inl ⟨hsmall, by simp [escapeChar, hquote, hslash, hb, ht, hn, hf, hr, hsmall]⟩
    · exact Or.inr ⟨Nat.le_of_not_lt hsmall, hquote, hslash,
        by simp [escapeChar, hquote, hslash, hb, ht, hn, hf, hr, hsmall]⟩

theorem hexDigit_mod (n : Nat) : Text.hexDigit (n % 16) = Text.hexDigit n := by
  unfold Text.hexDigit
  rw [Nat.mod_mod]

theorem hexDigit_toNat_ge (n : Nat) : 0x20 ≤ (Text.hexDigit n).toNat := by
  have hall : ∀ d < 16, 0x20 ≤ (Text.hexDigit d).toNat := by decide
  rw [← hexDigit_mod]
  exact hall _ (Nat.mod_lt n (by omega))

theorem printable_escapeChar (c : Char) : Printable (escapeChar c) := by
  rcases escapeChar_cases c with ⟨e, he, heq⟩ | ⟨-, heq⟩ | ⟨hc, -, -, heq⟩
  · have hall : ∀ p ∈ letters, 0x20 ≤ p.1.toNat := by decide
    rw [heq, printable_cons, printable_cons]
    exact ⟨by decide, hall _ he, printable_nil⟩
  · simp only [heq, printable_cons]
    exact ⟨by decide, by decide, by decide, by decide, hexDigit_toNat_ge _, hexDigit_toNat_ge _,
      printable_nil⟩
  · rw [heq, printable_cons]
    exact ⟨hc, printable_nil⟩

theorem printable_quote (s : String) : Printable (quote s) := by
  have hbody : Printable (s.toList.flatMap escapeChar) := by
    intro c hc
    obtain ⟨d, -, hd⟩ := List.mem_flatMap.mp hc
    exact printable_escapeChar d c hd
  have hend : Printable ['"'] := printable_cons.mpr ⟨by decide, printable_nil⟩
  exact (printable_cons.mpr ⟨by decide, hbody⟩).append hend

theorem printable_text (n : Number) : Printable n.text := by
  rcases text_cases n with ⟨m, hm⟩ | hnull
  · exact hm.printable
  · rw [hnull]
    decide

theorem printable_compact (v : Value) : Printable v.compact := by
  induction v using Value.induction with
  | null => decide
  | bool b => cases b <;> decide
  | number n => exact printable_text n
  | string s => exact printable_quote s
  | array vs ih =>
    rw [compact_array]
    refine (printable_cons.mpr ⟨by decide, printable_intercalate fun x hx => ?_⟩).append
      (printable_cons.mpr ⟨by decide, printable_nil⟩)
    obtain ⟨v, hv, rfl⟩ := List.mem_map.mp hx
    exact ih v hv
  | object ms ih =>
    rw [compact_object]
    refine (printable_cons.mpr ⟨by decide, printable_intercalate fun x hx => ?_⟩).append
      (printable_cons.mpr ⟨by decide, printable_nil⟩)
    obtain ⟨m, hm, rfl⟩ := List.mem_map.mp hx
    exact (printable_quote m.1).append (printable_cons.mpr ⟨by decide, ih m hm⟩)

/-! ## Reading back -/

theorem hexValue?_hexDigit (n : Nat) : Text.hexValue? (Text.hexDigit n) = some (n % 16) := by
  have hall : ∀ d < 16, Text.hexValue? (Text.hexDigit d) = some d := by decide
  rw [← hexDigit_mod]
  exact hall _ (Nat.mod_lt n (by omega))

theorem codeUnit?_hexDigits {n : Nat} (h : n < 0x20) :
    codeUnit? '0' '0' (Text.hexDigit (n / 16)) (Text.hexDigit n) = some n := by
  have hzero : Text.hexValue? '0' = some 0 := rfl
  simp only [codeUnit?, hzero, hexValue?_hexDigit, Option.bind_eq_bind, Option.bind_some,
    Option.some.injEq]
  omega

/-- The characters of a string are parts of the text between its quotes. -/
theorem exists_pieces (cs : List Char) :
    ∃ ps, Pieces (cs.flatMap escapeChar) ps ∧ joined? ps = some cs := by
  induction cs with
  | nil => exact ⟨[], .nil, rfl⟩
  | cons c cs ih =>
    obtain ⟨ps, hps, hjoined⟩ := ih
    rw [List.flatMap_cons]
    rcases escapeChar_cases c with ⟨e, he, heq⟩ | ⟨hc, heq⟩ | ⟨hc, hquote, hslash, heq⟩
    · rw [heq]
      exact ⟨.char c :: ps, .letter he hps, by simp [joined?, hjoined]⟩
    · rw [heq]
      refine ⟨.unit c.toNat :: ps, .unit (codeUnit?_hexDigits hc) hps, ?_⟩
      have hhigh : ¬ IsHigh c.toNat := by unfold IsHigh; omega
      have hlow : ¬ IsLow c.toNat := by unfold IsLow; omega
      rw [joined?_of_scalar hhigh hlow, hjoined, Char.ofNat_toNat]
      rfl
    · rw [heq]
      exact ⟨.char c :: ps, .plain hquote hslash hc hps, by simp [joined?, hjoined]⟩

theorem exists_pieces_quote (s : String) :
    ∃ ps, Pieces (s.toList.flatMap escapeChar) ps ∧ string? ps = some s := by
  obtain ⟨ps, hps, hjoined⟩ := exists_pieces s.toList
  exact ⟨ps, hps, by rw [string?, hjoined, Option.map_some, String.ofList_toList]⟩

/-- The tree that a reader finds in what is written. -/
def Value.reread (v : Value) : Tree :=
  (read v.compact).root

theorem reread_of_spells {v : Value} {t : Tree} (h : Spells t v.compact) : v.reread = t := by
  rw [Value.reread, read_of_spells h]

theorem spells_string (s : String) : Spells (.string (some s)) (Value.string s).compact := by
  obtain ⟨ps, hps, hs⟩ := exists_pieces_quote s
  exact hs ▸ Spells.string hps

theorem spells_array {vs : List Value} (h : ∀ v ∈ vs, Spells v.reread v.compact) :
    Spells (.array (vs.map Value.reread) none) (Value.array vs).compact := by
  have hitems : ∀ i ∈ vs.map fun v => (v.reread, v.compact), Spells i.1 i.2 := by
    intro i hi
    obtain ⟨v, hv, rfl⟩ := List.mem_map.mp hi
    exact h v hv
  have hspells := Spells.array blanks_nil hitems
  rw [compact_array]
  simpa [Function.comp_def] using hspells

theorem spells_object {ms : List (String × Value)} (h : ∀ m ∈ ms, Spells m.2.reread m.2.compact) :
    Spells (.object (ms.map fun m => (.ok m.1, m.2.reread)) none) (Value.object ms).compact := by
  choose pieces hpieces hstring using exists_pieces_quote
  let spelt (m : String × Value) : SpeltMember :=
    ⟨pieces m.1, [], m.1.toList.flatMap escapeChar, [], m.2.reread, m.2.compact⟩
  have hsound : ∀ s ∈ ms.map spelt, s.Sound := by
    intro s hs
    obtain ⟨m, -, rfl⟩ := List.mem_map.mp hs
    exact ⟨blanks_nil, hpieces m.1, blanks_nil⟩
  have hvalues : ∀ s ∈ ms.map spelt, Spells s.value s.text := by
    intro s hs
    obtain ⟨m, hm, rfl⟩ := List.mem_map.mp hs
    exact h m hm
  have hmembers : (ms.map spelt).map SpeltMember.member = ms.map fun m => (.ok m.1, m.2.reread) := by
    simp [spelt, SpeltMember.member, hstring]
  have htexts : (ms.map spelt).map SpeltMember.spelling = ms.map compactMember := by
    simp [spelt, SpeltMember.spelling, compactMember, quote]
  have hspells := Spells.object blanks_nil hsound hvalues
  rw [hmembers, htexts] at hspells
  rw [compact_object]
  exact hspells

/-- Whatever is written is JSON. -/
theorem spells_reread (v : Value) : Spells v.reread v.compact := by
  have hself : ∀ {v : Value} {t : Tree}, Spells t v.compact → Spells v.reread v.compact :=
    fun h => (reread_of_spells h).symm ▸ h
  induction v using Value.induction with
  | null => exact hself .null
  | bool b => cases b <;> [exact hself .false; exact hself .true]
  | number n =>
    rcases text_cases n with ⟨m, hm⟩ | hnull
    · exact hself (Spells.number hm)
    · have hcompact : (Value.number n).compact = ['n', 'u', 'l', 'l'] := hnull
      exact hself (hcompact ▸ Spells.null)
  | string s => exact hself (spells_string s)
  | array vs ih => exact hself (spells_array ih)
  | object ms ih => exact hself (spells_object ih)

theorem reread_string (s : String) : (Value.string s).reread = .string (some s) :=
  reread_of_spells (spells_string s)

theorem reread_array (vs : List Value) :
    (Value.array vs).reread = .array (vs.map Value.reread) none :=
  reread_of_spells (spells_array fun v _ => spells_reread v)

theorem reread_object (ms : List (String × Value)) :
    (Value.object ms).reread = .object (ms.map fun m => (.ok m.1, m.2.reread)) none :=
  reread_of_spells (spells_object fun m _ => spells_reread m.2)

/-! ## Reading back as a value -/

/-- What is written is read back as the value that it was, however deep it stands. -/
structure Value.Exact (v : Value) : Prop where
  reread : v.reread = v.tree
  value : ∀ depth, v.tree.value depth = .ok v

theorem exact_null : Value.null.Exact :=
  ⟨reread_of_spells .null, fun _ => rfl⟩

theorem exact_bool (b : Bool) : (Value.bool b).Exact := by
  refine ⟨?_, fun _ => rfl⟩
  cases b
  · exact reread_of_spells .false
  · exact reread_of_spells .true

theorem exact_string (s : String) : (Value.string s).Exact :=
  ⟨reread_string s, fun _ => rfl⟩

theorem exact_nat {n : Nat} (h : n < UInt64.size) : (Value.nat n).Exact := by
  have hspells : Spells (.number (digitsNumeral false n).number?) (Value.nat n).compact :=
    Spells.number (spells_digitsNumeral false n)
  refine ⟨?_, fun _ => rfl⟩
  rw [reread_of_spells hspells, number?_digitsNumeral h]
  rfl

theorem nat?_nat {n bound : Nat} (h : n < bound) : (Value.nat n).nat? bound = some n := by
  rw [Value.nat, Value.nat?, if_pos ⟨Int.natCast_nonneg n, Int.ofNat_lt.mpr h⟩, Int.toNat_natCast]

theorem itemTrees_eq (vs : List Value) : itemTrees vs = vs.map Value.tree := by
  induction vs with
  | nil => rfl
  | cons v vs ih => rw [itemTrees, ih, List.map_cons]

theorem memberTrees_eq (ms : List (String × Value)) :
    memberTrees ms = ms.map fun m => (.ok m.1, m.2.tree) := by
  induction ms with
  | nil => rfl
  | cons m ms ih => rw [memberTrees, ih, List.map_cons]

theorem memberValues_memberTrees {ms : List (String × Value)} {depth : Nat}
    (h : ∀ m ∈ ms, m.2.tree.value depth = .ok m.2) (before : List (String × Value)) :
    memberValues depth before (memberTrees ms) =
      .ok (ms.foldl (fun done m => Keyed.insert m.1 m.2 done) before) := by
  induction ms generalizing before with
  | nil => rfl
  | cons m ms ih =>
    have hvalue := h m List.mem_cons_self
    simp only [memberTrees, memberValues, hvalue, bind, Except.bind, List.foldl_cons]
    exact ih (fun m' hm' => h m' (List.mem_cons_of_mem m hm')) _

/-- The members of an object come back in the order of their names, and of those with one name the last. -/
theorem value_object {ms : List (String × Value)} {depth : Nat} (h : ∀ m ∈ ms, m.2.tree.value depth = .ok m.2) :
    (Value.object ms).tree.value (depth + 1) = .ok (.object (Keyed.ofList ms)) := by
  rw [Value.tree, Tree.value, memberValues_memberTrees h]
  rfl

theorem reread_array_eq_tree {vs : List Value} (h : ∀ v ∈ vs, v.reread = v.tree) :
    (Value.array vs).reread = (Value.array vs).tree := by
  rw [reread_array, Value.tree, itemTrees_eq, List.map_congr_left h]

theorem reread_object_eq_tree {ms : List (String × Value)} (h : ∀ m ∈ ms, m.2.reread = m.2.tree) :
    (Value.object ms).reread = (Value.object ms).tree := by
  rw [reread_object, Value.tree, memberTrees_eq]
  congr 1
  exact List.map_congr_left fun m hm => by rw [h m hm]

theorem parse_compact {v : Value} (h : v.reread = v.tree) :
    Value.parse v.compact = v.tree.value maxDepth := by
  rw [parse_of_spells (spells_reread v), h]

theorem parse_compact_object {ms : List (String × Value)} (h : ∀ m ∈ ms, m.2.Exact) :
    Value.parse (Value.object ms).compact = .ok (.object (Keyed.ofList ms)) := by
  rw [parse_compact (reread_object_eq_tree fun m hm => (h m hm).reread)]
  exact value_object fun m hm => (h m hm).value _

end TextAnnotation.Json
