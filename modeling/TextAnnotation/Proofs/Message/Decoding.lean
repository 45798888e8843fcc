import TextAnnotation.Corpus
import TextAnnotation.Proofs.Json.Records
import TextAnnotation.Proofs.Json.Writing

/-!
# What is read of a message

Only the members that have the name of an attribute count. There may be one of each, a string or `null`, and
all other members are passed over, whatever they hold.

* `given?`: what the members of one name say.
* `readMembers_spec`: reading fills the draft of each attribute with what its members say, or fails.
* `ofTree_of_given`, `ofTree_of_not_given`: the message of an object.
* `ofTree_written`: a message is read back with its texts and without its docs.
* `decode_texts`: all of this for texts.
-/

namespace TextAnnotation

open Json (Tree Value Spells)

namespace Message

/-! ## What the members of an object say -/

/-- The values of the members with the name of an attribute. -/
def valuesOf (a : Attribute) (members : List (String × Tree)) : List Tree :=
  (members.filter fun m => m.1 == a.name).map (·.2)

/-- The text or the `null` of a value, if it is one of these. -/
def textOrNull? : Tree → Option (Option String)
  | .null => some none
  | .string (some s) => some (some s)
  | _ => none

/-- The text that is given by the values of one name: none without a value or by `null`. Two values, or one
of another kind, give nothing that could be read. -/
def given? : List Tree → Option (Option String)
  | [] => some none
  | [t] => textOrNull? t
  | _ => none

/-- The members of an object whose names have no fault. -/
def named (members : List (String × Tree)) : List Json.Member :=
  members.map fun m => (.ok m.1, m.2)

theorem valuesOf_cons_self (a : Attribute) (t : Tree) (members : List (String × Tree)) :
    valuesOf a ((a.name, t) :: members) = t :: valuesOf a members := by
  simp [valuesOf]

theorem valuesOf_cons_of_ne {a : Attribute} {name : String} (h : name ≠ a.name) (t : Tree)
    (members : List (String × Tree)) :
    valuesOf a ((name, t) :: members) = valuesOf a members := by
  simp [valuesOf, h]

theorem name_of_ofName? {name : String} {a : Attribute} (h : Attribute.ofName? name = some a) :
    a.name = name := by
  simpa using List.find?_some h

theorem ofName?_eq_some_iff {name : String} {a : Attribute} :
    Attribute.ofName? name = some a ↔ name = a.name := by
  constructor
  · intro h
    exact (name_of_ofName? h).symm
  · rintro rfl
    exact Attribute.ofName?_name a

theorem name_ne_name {a b : Attribute} (h : a ≠ b) : a.name ≠ b.name := by
  intro hname
  have ha := Attribute.ofName?_name a
  rw [hname, Attribute.ofName?_name b] at ha
  exact h (Option.some.inj ha).symm

/-! ## One member -/

section Members

variable {d : Draft} {a : Attribute} {t : Tree} {text : Option String}

theorem field?_eq (name : String) : record.field? name = (Attribute.ofName? name).map field := by
  rw [Json.Record.field?, record, Attribute.ofName?, List.find?_map]
  rfl

theorem field?_name (a : Attribute) : record.field? a.name = some (field a) := by
  rw [field?_eq, Attribute.ofName?_name]
  rfl

theorem readMembers_cons_of_other {name : String} (hname : Attribute.ofName? name = none)
    (hskip : t.skip = .ok ()) (members : List (String × Tree)) :
    record.readMembers d (named ((name, t) :: members)) = record.readMembers d (named members) := by
  have hfield := field?_eq name
  rw [hname] at hfield
  exact Json.Record.readMembers_of_unknown hfield hskip _

theorem readMembers_cons_again (h : (d.get a).isSome = true) (members : List (String × Tree)) :
    record.readMembers d (named ((a.name, t) :: members)) = .error (.duplicateField a.name) :=
  Json.Record.readMembers_of_duplicate (field?_name a) h _

theorem readMembers_cons_first (h : (d.get a).isSome = false) (members : List (String × Tree)) :
    record.readMembers d (named ((a.name, t) :: members)) =
      ((field a).read t d).bind fun d => record.readMembers d (named members) :=
  Json.Record.readMembers_of_field (field?_name a) h _

theorem readMembers_cons_of_text (h : (d.get a).isSome = false)
    (htext : t.optional Tree.text = .ok text) (members : List (String × Tree)) :
    record.readMembers d (named ((a.name, t) :: members)) =
      record.readMembers (d.set a text) (named members) := by
  have hread : (field a).read t d = .ok (d.set a text) := by
    simp only [field, htext]
    rfl
  rw [readMembers_cons_first h, hread]
  rfl

theorem readMembers_cons_of_error {e : Json.Error} (h : (d.get a).isSome = false)
    (htext : t.optional Tree.text = .error e) (members : List (String × Tree)) :
    record.readMembers d (named ((a.name, t) :: members)) = .error e := by
  have hread : (field a).read t d = .error e := by
    simp only [field, htext]
    rfl
  rw [readMembers_cons_first h, hread]
  rfl

end Members

/-! ## Filling a draft -/

/-- What a draft has for an attribute behind further values for it. -/
def fill? (slot : Option (Option String)) : List Tree → Option (Option (Option String))
  | [] => some slot
  | t :: ts => if slot.isSome then none else (textOrNull? t).bind fun text => fill? (some text) ts

theorem fill?_none_eq (values : List Tree) :
    (fill? none values).map Option.join = given? values := by
  match values with
  | [] => rfl
  | [t] =>
    cases htext : textOrNull? t <;> simp [fill?, given?, htext]
  | t :: u :: ts => cases htext : textOrNull? t <;> simp [fill?, given?, htext]

theorem optional_text_cases (t : Tree) :
    (∃ text, textOrNull? t = some text ∧ t.optional Tree.text = .ok text) ∨
      (textOrNull? t = none ∧ ∃ e, t.optional Tree.text = .error e) := by
  cases t with
  | null => exact Or.inl ⟨none, rfl, rfl⟩
  | string s =>
    cases s with
    | some s => exact Or.inl ⟨some s, rfl, rfl⟩
    | none => exact Or.inr ⟨rfl, _, rfl⟩
  | bool _ | number _ | array _ _ | object _ _ | cut _ _ => exact Or.inr ⟨rfl, _, rfl⟩

theorem fill?_of_isSome {slot : Option (Option String)} (h : slot.isSome = true) (t : Tree)
    (ts : List Tree) : fill? slot (t :: ts) = none := by
  rw [fill?, if_pos h]

theorem fill?_of_not_isSome {slot : Option (Option String)} (h : slot.isSome = false) (t : Tree)
    (ts : List Tree) : fill? slot (t :: ts) = (textOrNull? t).bind fun text => fill? (some text) ts := by
  rw [fill?, h, if_neg Bool.false_ne_true]

/-- A member that gives a text fills the draft of its attribute, and no other. -/
theorem fill?_cons_of_text {d : Draft} {a : Attribute} {t : Tree} {text : Option String}
    (h : (d.get a).isSome = false) (htext : textOrNull? t = some text)
    (members : List (String × Tree)) (b : Attribute) :
    fill? (d.get b) (valuesOf b ((a.name, t) :: members)) =
      fill? ((d.set a text).get b) (valuesOf b members) := by
  rw [Slots.get_set]
  by_cases hb : a = b
  · subst hb
    rw [valuesOf_cons_self, fill?_of_not_isSome h, htext, if_pos rfl, Option.bind_some]
  · rw [valuesOf_cons_of_ne (name_ne_name hb), if_neg hb]

/-- Behind the members of an object the draft has what they say, or the reader has failed, and then the
members of one attribute say nothing that could be read. -/
theorem readMembers_spec {members : List (String × Tree)} (hskip : ∀ m ∈ members, m.2.skip = .ok ())
    (d : Draft) :
    (∃ d', record.readMembers d (named members) = .ok d' ∧
        ∀ a, fill? (d.get a) (valuesOf a members) = some (d'.get a)) ∨
      ((∃ e, record.readMembers d (named members) = .error e) ∧
        ∃ a, fill? (d.get a) (valuesOf a members) = none) := by
  induction members generalizing d with
  | nil => exact Or.inl ⟨d, rfl, fun _ => rfl⟩
  | cons m members ih =>
    obtain ⟨name, t⟩ := m
    obtain ⟨hskip, hrest⟩ := List.forall_mem_cons.mp hskip
    cases hname : Attribute.ofName? name with
    | none =>
      have hvalues : ∀ a, valuesOf a ((name, t) :: members) = valuesOf a members := by
        intro a
        apply valuesOf_cons_of_ne
        rintro rfl
        rw [Attribute.ofName?_name] at hname
        cases hname
      simpa only [readMembers_cons_of_other hname hskip, hvalues] using ih hrest d
    | some a =>
      obtain rfl := ofName?_eq_some_iff.mp hname
      cases hslot : (d.get a).isSome with
      | true =>
        refine Or.inr ⟨⟨_, readMembers_cons_again hslot members⟩, a, ?_⟩
        rw [valuesOf_cons_self, fill?_of_isSome hslot]
      | false =>
        rcases optional_text_cases t with ⟨text, htext, hread⟩ | ⟨htext, e, hread⟩
        · simpa only [readMembers_cons_of_text hslot hread, fill?_cons_of_text hslot htext] using
            ih hrest (d.set a text)
        · refine Or.inr ⟨⟨e, readMembers_cons_of_error hslot hread members⟩, a, ?_⟩
          rw [valuesOf_cons_self, fill?_of_not_isSome hslot, htext, Option.bind_none]

/-! ## The message of an object -/

theorem get_ofDraft (d : Draft) (a : Attribute) : (ofDraft d).texts.get a = (d.get a).join := by
  cases a <;> rfl

theorem ofTree_eq (members : List (String × Tree)) :
    ofTree (.object (named members) none) =
      (record.readMembers .empty (named members)).map ofDraft := by
  rw [ofTree, Json.Record.read]
  cases record.readMembers .empty (named members) <;> rfl

theorem ofTree_of_given {members : List (String × Tree)} (hskip : ∀ m ∈ members, m.2.skip = .ok ())
    {texts : Slots String} (h : ∀ a, given? (valuesOf a members) = some (texts.get a)) :
    ofTree (.object (named members) none) = .ok ⟨texts, .empty⟩ := by
  have hspec := readMembers_spec hskip .empty
  simp only [Slots.get_empty] at hspec
  rw [ofTree_eq]
  rcases hspec with ⟨d, hd, hfill⟩ | ⟨-, a, ha⟩
  · have htexts : (ofDraft d).texts = texts := by
      refine Slots.ext_get fun a => ?_
      have hgiven := h a
      rw [← fill?_none_eq, hfill a, Option.map_some, Option.some.injEq] at hgiven
      rw [get_ofDraft, hgiven]
    rw [hd, ← htexts]
    rfl
  · have hgiven := h a
    rw [← fill?_none_eq, ha] at hgiven
    cases hgiven

theorem ofTree_of_not_given {members : List (String × Tree)}
    (hskip : ∀ m ∈ members, m.2.skip = .ok ()) {a : Attribute} (h : given? (valuesOf a members) = none) :
    ∃ e, ofTree (.object (named members) none) = .error e := by
  have hspec := readMembers_spec hskip .empty
  simp only [Slots.get_empty] at hspec
  rw [ofTree_eq]
  rcases hspec with ⟨d, hd, hfill⟩ | ⟨⟨e, he⟩, -⟩
  · rw [← fill?_none_eq, hfill a] at h
    cases h
  · rw [he]
    exact ⟨e, rfl⟩

/-! ## What is written of a message -/

def members (m : Message) : List (String × Value) :=
  textMember m .actionText ++ docsMember m ++ textMember m .response ++ textMember m .text

/-- `v` is the message as a JSON value, with its members in any order. -/
def Written (m : Message) (v : Value) : Prop :=
  ∃ ms, m.members.Perm ms ∧ v = .object ms

theorem written_json (m : Message) : m.Written m.json :=
  ⟨m.members, .refl _, rfl⟩

def rereadMembers (ms : List (String × Value)) : List (String × Tree) :=
  ms.map fun m => (m.1, m.2.reread)

theorem valuesOf_textMember (m : Message) (a b : Attribute) :
    valuesOf a (rereadMembers (textMember m b)) =
      if a = b then ((m.get a).toList).map fun s => .string (some s) else [] := by
  unfold textMember
  cases hget : m.get b with
  | none =>
    by_cases hab : a = b
    · subst hab
      simp [hget, rereadMembers, valuesOf]
    · simp [hab, rereadMembers, valuesOf]
  | some s =>
    by_cases hab : a = b
    · subst hab
      simp [hget, rereadMembers, valuesOf, Json.reread_string]
    · simp [hab, rereadMembers, valuesOf, name_ne_name (Ne.symm hab)]

theorem valuesOf_docsMember (m : Message) (a : Attribute) :
    valuesOf a (rereadMembers (docsMember m)) = [] := by
  have hname : "docs" ≠ a.name := by cases a <;> decide
  unfold docsMember
  split <;> simp [rereadMembers, valuesOf, hname]

theorem valuesOf_members (m : Message) (a : Attribute) :
    valuesOf a (rereadMembers m.members) = ((m.get a).toList).map fun s => .string (some s) := by
  have happend : ∀ xs ys : List (String × Value), valuesOf a (rereadMembers (xs ++ ys)) =
      valuesOf a (rereadMembers xs) ++ valuesOf a (rereadMembers ys) := by
    intro xs ys
    simp [rereadMembers, valuesOf]
  rw [members, happend, happend, happend, valuesOf_docsMember, valuesOf_textMember,
    valuesOf_textMember, valuesOf_textMember]
  cases a <;> simp

theorem given?_of_perm {m : Message} {ms : List (String × Value)} (h : m.members.Perm ms)
    (a : Attribute) : given? (valuesOf a (rereadMembers ms)) = some (m.texts.get a) := by
  have hperm : (valuesOf a (rereadMembers m.members)).Perm (valuesOf a (rereadMembers ms)) :=
    ((h.map _).filter _).map _
  rw [valuesOf_members] at hperm
  rw [← Message.get]
  cases hget : m.get a with
  | none =>
    rw [hget, Option.toList_none, List.map_nil, List.nil_perm] at hperm
    rw [hperm]
    rfl
  | some s =>
    rw [hget, Option.toList_some, List.map_singleton, List.singleton_perm] at hperm
    rw [← hperm]
    rfl

theorem ofTree_written {m : Message} {v : Value} (h : m.Written v) :
    ofTree v.reread = .ok ⟨m.texts, .empty⟩ := by
  obtain ⟨ms, hperm, rfl⟩ := h
  have htree : (Value.object ms).reread = .object (named (rereadMembers ms)) none := by
    rw [Json.reread_object, named, rereadMembers, List.map_map]
    rfl
  rw [htree]
  refine ofTree_of_given (fun x hx => ?_) fun a => given?_of_perm hperm a
  obtain ⟨y, -, rfl⟩ := List.mem_map.mp hx
  exact Json.skip_of_spells (Json.spells_reread y.2)

theorem decode_written {m : Message} {v : Value} (h : m.Written v) :
    decode v.compact = .ok ⟨m.texts, .empty⟩ := by
  rw [decode, Json.decode_of_spells ofTree (Json.spells_reread v), ofTree_written h]
  rfl

/-- No doc is ever read. -/
theorem docs_of_decode {cs : List Char} {m : Message} (h : decode cs = .ok m) : m.docs = .empty := by
  rw [decode, Json.decode] at h
  unfold ofTree at h
  cases hread : record.read .empty (Json.read cs).root with
  | error e =>
    rw [hread] at h
    cases h
  | ok d =>
    rw [hread] at h
    cases htrailing : (Json.read cs).trailing with
    | true =>
      simp only [htrailing] at h
      cases h
    | false =>
      simp only [htrailing] at h
      cases h
      rfl

end Message

/-! ## Corpora -/

namespace Corpus

/-- `v` is the corpus as a JSON value, with the members of each example in any order. -/
def Written (c : Corpus) (v : Value) : Prop :=
  ∃ vs, List.Forall₂ Message.Written c.examples vs ∧ v = .object [("training_examples", .array vs)]

theorem written_json (c : Corpus) : c.Written c.json := by
  refine ⟨c.examples.map Message.json, ?_, rfl⟩
  rw [List.forall₂_map_right_iff]
  exact List.forall₂_same.mpr fun m _ => m.written_json

theorem readList_written {examples : List Message} {vs : List Value}
    (h : List.Forall₂ Message.Written examples vs) :
    Json.readList Message.ofTree (vs.map Value.reread) =
      .ok (examples.map fun m => ⟨m.texts, .empty⟩) := by
  induction h with
  | nil => rfl
  | cons hm _ ih =>
    simp only [List.map_cons, Json.readList, Message.ofTree_written hm, ih, bind, Except.bind]

theorem ofTree_written {c : Corpus} {v : Value} (h : c.Written v) :
    ofTree v.reread = .ok ⟨c.examples.map fun m => ⟨m.texts, .empty⟩⟩ := by
  obtain ⟨vs, hvs, rfl⟩ := h
  have hlist := readList_written hvs
  have hread : (Tree.array (vs.map Value.reread) none).list Message.ofTree =
      .ok (c.examples.map fun m => ⟨m.texts, .empty⟩) := by
    simp only [Json.Tree.list, hlist, bind, Except.bind, Json.endsWith]
  have hfield : record.field? "training_examples" = some ⟨"training_examples", (·.isSome), fun t _ => do
      let v ← t.list Message.ofTree
      .ok (some v), false⟩ := rfl
  have hmembers : record.readMembers none
      [(.ok "training_examples", Tree.array (vs.map Value.reread) none)] =
        .ok (some (c.examples.map fun m => ⟨m.texts, .empty⟩)) := by
    rw [Json.Record.readMembers_of_field hfield rfl]
    simp only [hread, bind, Except.bind]
    rfl
  rw [Json.reread_object, List.map_singleton, Json.reread_array, ofTree, Json.Record.read, hmembers]
  rfl

theorem decode_written {c : Corpus} {v : Value} (h : c.Written v) :
    decode v.compact = .ok ⟨c.examples.map fun m => ⟨m.texts, .empty⟩⟩ := by
  rw [decode, Json.decode_of_spells ofTree (Json.spells_reread v), ofTree_written h]
  rfl

end Corpus

/-! ## Texts -/

namespace Message

/-- From the text of an object, whatever its white space, its escapes and the order of its members, exactly
the texts of the three attributes are read. What is written is read back with its texts and without
docs. -/
theorem decode_texts :
    (∀ (members : List (String × Tree)) (cs : List Char), Spells (.object (named members) none) cs →
      (∀ texts : Slots String, (∀ a, given? (valuesOf a members) = some (texts.get a)) →
        decode cs = .ok ⟨texts, .empty⟩) ∧
      ∀ a, given? (valuesOf a members) = none → ∃ e, decode cs = .error e) ∧
    (∀ (m : Message), m.Written m.json ∧
      ∀ v, m.Written v → decode v.compact = .ok ⟨m.texts, .empty⟩) ∧
    ∀ c : Corpus, c.Written c.json ∧
      ∀ v, c.Written v → Corpus.decode v.compact = .ok ⟨c.examples.map fun m => ⟨m.texts, .empty⟩⟩ := by
  refine ⟨fun members cs h => ?_, fun m => ⟨m.written_json, fun v hv => ?_⟩,
    fun c => ⟨c.written_json, fun v hv => ?_⟩⟩
  · have hskip : ∀ m ∈ members, m.2.skip = .ok () := by
      have hmembers := Json.skip_member_of_spells h
      rwa [named, List.forall_mem_map] at hmembers
    rw [decode, Json.decode_of_spells ofTree h]
    refine ⟨fun texts htexts => ?_, fun a ha => ?_⟩
    · rw [ofTree_of_given hskip htexts]
      rfl
    · obtain ⟨e, he⟩ := ofTree_of_not_given hskip ha
      exact ⟨e.inText, by rw [he]; rfl⟩
  · exact decode_written hv
  · exact Corpus.decode_written hv

/-- A text with escapes, white space, a member that is repeated, and half of a surrogate pair where nothing
is read; an attribute that is no string; a message with a doc. -/
theorem decode_texts_sample :
    let members : List (String × Tree) := [
      ("x", .array [.number (Json.Numeral.number? ⟨false, ['1'], ['5', '0'], false, ['3']⟩),
        .object [(.error .malformed, .null)] none] none),
      ("text", .string (some "\n😀")), ("x", .bool true), ("response", .null)]
    let cs := ("\x7b\"x\":[1.50e3, \x7b\"\\ud800\" : null\x7d], \"te\\u0078t\":\"\\n\\ud83d\\uDE00\","
      ++ "\"x\" :true,\"response\":null\x7d").toList
    let m := (Message.ofText "a\u0007\"").setDoc .text
      (.ofTokens ⟨"en", 1, 1⟩ "a" [⟨"a", 0, 0, 1, some [1.5]⟩])
    Spells (.object (named members) none) cs ∧
    (∀ a, given? (valuesOf a members) = some (Slots.get ⟨some "\n😀", none, none⟩ a)) ∧
    decode cs = .ok ⟨⟨some "\n😀", none, none⟩, .empty⟩ ∧
    Spells (.object (named [("text", .bool true)]) none) "\x7b\"text\":true\x7d".toList ∧
    given? (valuesOf .text [("text", .bool true)]) = none ∧
    (∃ e, decode "\x7b\"text\":true\x7d".toList = .error e) ∧
    m.Written m.json ∧ decode m.json.compact = .ok ⟨m.texts, .empty⟩ ∧
    Corpus.Written ⟨[m, m]⟩ (Corpus.json ⟨[m, m]⟩) ∧
    Corpus.decode (Corpus.json ⟨[m, m]⟩).compact =
      .ok ⟨[m, m].map fun m => ⟨m.texts, .empty⟩⟩ := by
  intro members cs m
  have hspace : Json.Blanks [' '] := by decide
  have hx : Json.Pieces ['x'] _ := Json.pieces_of_plain (by decide)
  have htext : Json.Pieces "text".toList _ := Json.pieces_of_plain (by decide)
  have hresponse : Json.Pieces "response".toList _ := Json.pieces_of_plain (by decide)
  have hescaped : Json.Pieces ['t', 'e', '\\', 'u', '0', '0', '7', '8', 't']
      [.char 't', .char 'e', .unit 0x78, .char 't'] :=
    .plain (by decide) (by decide) (by decide) (.plain (by decide) (by decide) (by decide)
      (.unit rfl (.plain (by decide) (by decide) (by decide) .nil)))
  have hface : Json.Pieces ['\\', 'n', '\\', 'u', 'd', '8', '3', 'd', '\\', 'u', 'D', 'E', '0', '0']
      [.char '\n', .unit 0xD83D, .unit 0xDE00] :=
    .letter (by decide) (.unit rfl (.unit rfl .nil))
  have hnumeral : Json.Numeral.Spells ⟨false, ['1'], ['5', '0'], false, ['3']⟩
      ['1', '.', '5', '0', 'e', '3'] :=
    @Json.Numeral.Spells.scaled _ 'e' [] ⟨Or.inr ⟨'1', [], rfl, by decide, List.all_eq_true.mp rfl⟩,
      List.all_eq_true.mp rfl, List.all_eq_true.mp rfl, fun _ => rfl⟩ (by decide) (Or.inl rfl) (Or.inl rfl)
  have hnull : Spells .null [' ', 'n', 'u', 'l', 'l'] := .padded hspace Json.blanks_nil .null
  have hinner := @Spells.object [] [⟨[.unit 0xD800], [], ['\\', 'u', 'd', '8', '0', '0'], [' '], .null, _⟩]
    Json.blanks_nil (List.forall_mem_singleton.mpr ⟨Json.blanks_nil, .unit rfl .nil, hspace⟩)
    (List.forall_mem_singleton.mpr hnull)
  have harray := @Spells.array [] [(_, _), (_, ' ' :: _)] Json.blanks_nil
    (List.forall_mem_cons.mpr ⟨.number hnumeral, List.forall_mem_singleton.mpr
      (.padded hspace Json.blanks_nil hinner)⟩)
  have hspells : Spells (.object (named members) none) cs :=
    @Spells.object [] [⟨_, [], _, [], _, _⟩, ⟨_, [' '], _, [], _, _⟩, ⟨_, [], _, [' '], _, _⟩,
        ⟨_, [], _, [], _, _⟩] Json.blanks_nil
      (List.forall_mem_cons.mpr ⟨⟨Json.blanks_nil, hx, Json.blanks_nil⟩,
        List.forall_mem_cons.mpr ⟨⟨hspace, hescaped, Json.blanks_nil⟩,
          List.forall_mem_cons.mpr ⟨⟨Json.blanks_nil, hx, hspace⟩,
            List.forall_mem_singleton.mpr ⟨Json.blanks_nil, hresponse, Json.blanks_nil⟩⟩⟩⟩)
      (List.forall_mem_cons.mpr ⟨harray, List.forall_mem_cons.mpr ⟨.string hface,
        List.forall_mem_cons.mpr ⟨.true, List.forall_mem_singleton.mpr .null⟩⟩⟩)
  have hbool : Spells (.object (named [("text", .bool true)]) none) "\x7b\"text\":true\x7d".toList :=
    @Spells.object [] [⟨_, [], _, [], _, _⟩] Json.blanks_nil
      (List.forall_mem_singleton.mpr ⟨Json.blanks_nil, htext, Json.blanks_nil⟩)
      (List.forall_mem_singleton.mpr .true)
  have hgiven : ∀ a, given? (valuesOf a members) = some (Slots.get ⟨some "\n😀", none, none⟩ a) := by
    intro a
    cases a <;> rfl
  have hnot : given? (valuesOf .text [("text", .bool true)]) = none := rfl
  obtain ⟨htexts, hwritten, hcorpus⟩ := decode_texts
  exact ⟨hspells, hgiven, (htexts members cs hspells).1 _ hgiven, hbool, hnot,
    (htexts _ _ hbool).2 .text hnot, (hwritten m).1, (hwritten m).2 m.json (hwritten m).1,
    (hcorpus ⟨[m, m]⟩).1, (hcorpus ⟨[m, m]⟩).2 _ (hcorpus ⟨[m, m]⟩).1⟩

end Message

end TextAnnotation
