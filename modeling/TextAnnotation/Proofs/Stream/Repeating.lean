import TextAnnotation.Proofs.Annotator.Annotating
import TextAnnotation.Proofs.Message.Decoding
import TextAnnotation.Proofs.Stream.Bytes
import TextAnnotation.Proofs.Stream.Running

/-!
# Annotating what has been annotated

What a stream writes can be given to the stream again. Each line that was written is read back as the
message that it was written for, and the docs are made anew.

* `splitLines_replies`: the lines that are written.
* `content_answer`: what such a line holds. `messages_replies`: the messages that are read back.
* `run_of_output`: the output of a stream is a fixed point of the stream.
-/

namespace TextAnnotation.Stream

/-! ## Lines that are written -/

theorem answer_eq (a : Annotator) (m : Message) : ∃ cs, answer a m = '{' :: cs ++ ['}'] := by
  rw [answer, Message.json, Json.compact_object]
  exact ⟨_, rfl⟩

theorem lineFeed_not_mem_answer (a : Annotator) (m : Message) : lineFeed ∉ bytes (answer a m) := by
  intro h
  obtain ⟨c, hc, hfeed⟩ := exists_of_mem_bytes (by decide) h
  have hprintable : 0x20 ≤ c.toNat := Json.printable_compact _ c hc
  have hten : lineFeed.toNat = 10 := rfl
  omega

theorem getLast?_answer (a : Annotator) (m : Message) :
    (bytes (answer a m)).getLast? ≠ some carriageReturn := by
  obtain ⟨cs, hcs⟩ := answer_eq a m
  have hbrace : bytes ['}'] = [125] := by decide
  rw [hcs, bytes_append, hbrace, List.getLast?_concat]
  decide

/-- What is written are the lines of the messages, one after the other. -/
theorem splitLines_replies (a : Annotator) (ms : List Message) :
    splitLines (bytes (replies a ms)) = ms.map fun m => bytes (answer a m) := by
  have hbytes : bytes (replies a ms) = (ms.map fun m => bytes (answer a m)).flatMap (· ++ [lineFeed]) := by
    induction ms with
    | nil => rfl
    | cons m ms ih =>
      rw [replies_cons, bytes_append, ih, reply, bytes_append, List.map_cons, List.flatMap_cons]
      rfl
  rw [hbytes]
  apply splitLines_flatMap_terminated
  rw [List.forall_mem_map]
  exact fun m _ => ⟨lineFeed_not_mem_answer a m, getLast?_answer a m⟩

theorem isBlankText_answer (a : Annotator) (m : Message) :
    Text.isBlankText (String.ofList (answer a m)) = false := by
  obtain ⟨cs, hcs⟩ := answer_eq a m
  rw [hcs, Text.isBlankText, String.toList_ofList, List.cons_append, List.all_cons]
  have hbrace : Text.isBlank '{' = false := by decide
  rw [hbrace, Bool.false_and]

/-- A message without docs is read back as it was. -/
theorem decode_answer (a : Annotator) {m : Message} (h : m.docs = .empty) :
    Message.decode (answer a m) = .ok m := by
  have htexts : (a.annotate m).message.texts = m.texts := a.texts_annotateEach m Attribute.all
  obtain ⟨texts, docs⟩ := m
  rw [answer, Message.decode_written (Message.written_json _), htexts, ← h]

theorem content_answer (a : Annotator) {m : Message} (h : m.docs = .empty) :
    content (bytes (answer a m)) = .message m := by
  rw [content, text?_bytes]
  simp only [isBlankText_answer, Bool.false_eq_true, if_false, String.toList_ofList, decode_answer a h]

/-! ## Messages that are read -/

theorem docs_of_content {line : List UInt8} {m : Message} (h : content line = .message m) :
    m.docs = .empty := by
  unfold content at h
  split at h
  · cases h
  · split at h
    · cases h
    · split at h
      · rename_i hdecode
        cases h
        exact Message.docs_of_decode hdecode
      · cases h

theorem content_of_mem_messages {ls : List (List UInt8)} {m : Message} (h : m ∈ messages ls) :
    ∃ line ∈ ls, content line = .message m := by
  obtain ⟨line, hline, hm⟩ := List.mem_filterMap.mp h
  refine ⟨line, hline, ?_⟩
  unfold Content.message? at hm
  split at hm
  · rename_i hcontent
    rw [hcontent, Option.some.inj hm]
  · cases hm

theorem messages_replies (a : Annotator) {ms : List Message} (h : ∀ m ∈ ms, m.docs = .empty) :
    messages (splitLines (bytes (replies a ms))) = ms := by
  rw [splitLines_replies]
  induction ms with
  | nil => rfl
  | cons m ms ih =>
    obtain ⟨hm, hms⟩ := List.forall_mem_cons.mp h
    rw [List.map_cons, messages_cons_of_message (content_answer a hm), ih hms]

/-! ## Running again -/

theorem eq_ok_of_toOption {ε α : Type} {x : Except ε α} {y : α} (h : x.toOption = some y) :
    x = .ok y := by
  cases x with
  | ok _ => exact congrArg Except.ok (Option.some.inj h)
  | error _ => cases h

/-- A stream that runs to its end, given what it has written, writes the same and does the same. Each line
that it has written is the JSON text of a message, from which the message is read that it stands for. -/
theorem run_of_output (a : Annotator) (s : Sink) (input : List UInt8) (n : Nat)
    (h : (run a s input).result = .ok n) :
    run a s (bytes (run a s input).output) = run a s input ∧
    List.Forall₂ (fun m line => ∃ text, text? line = some text ∧ Text.isBlankText text = false ∧
        (∃ t, Json.Spells t text.toList) ∧ Message.decode text.toList = .ok m)
      (messages (splitLines input)) (splitLines (bytes (run a s input).output)) := by
  rw [run, lines_eq_splitLines] at h
  obtain ⟨hgood, t, ht, hflush⟩ := good_of_runFrom_ok h
  have hdocs : ∀ m ∈ messages (splitLines input), m.docs = .empty := by
    intro m hm
    obtain ⟨line, -, hline⟩ := content_of_mem_messages hm
    exact docs_of_content hline
  rw [run_of_good hgood ht hflush]
  constructor
  · have hmessages := messages_replies a hdocs
    have hreplies : ∀ line ∈ splitLines (bytes (replies a (messages (splitLines input)))),
        (content line).failure? a = none := by
      rw [splitLines_replies, List.forall_mem_map]
      intro m hm
      obtain ⟨line, hmem, hline⟩ := content_of_mem_messages hm
      rw [content_answer a (hdocs m hm), ← hline]
      exact hgood line hmem
    rw [run_of_good hreplies (by rwa [hmessages]) hflush, hmessages]
  · rw [splitLines_replies, List.forall₂_map_right_iff, List.forall₂_same]
    intro m hm
    refine ⟨_, text?_bytes _, isBlankText_answer a m, ?_, ?_⟩
    · rw [String.toList_ofList]
      exact ⟨_, Json.spells_reread _⟩
    · rw [String.toList_ofList]
      exact decode_answer a (hdocs m hm)

/-- A text with an escaped control character, quotes and a letter beyond ASCII, a carriage return, a line of
blanks, and docs whose vectors hold no number. -/
theorem run_of_output_sample :
    let doc text := Doc.ofTokens ⟨"en", 1, 1⟩ text [⟨text, 0, 0, 1, some [0.0 / 0.0]⟩]
    let model : Model :=
      ⟨⟨"en", 1, 1⟩, none, fun text => .ok (doc text), fun texts _ => .ok (texts.map doc)⟩
    let a : Annotator := ⟨.default, model⟩
    let input := bytes ("\x7b\"response\": \"\\u0007 \\\"\u00e9\\\" \\\\\", \"docs\": [1]\x7d\r\n"
      ++ " \n").toList
    (run a .unlimited input).result = .ok 1 ∧
    run a .unlimited (bytes (run a .unlimited input).output) = run a .unlimited input ∧
    List.Forall₂ (fun m line => ∃ text, text? line = some text ∧ Text.isBlankText text = false ∧
        (∃ t, Json.Spells t text.toList) ∧ Message.decode text.toList = .ok m)
      (messages (splitLines input)) (splitLines (bytes (run a .unlimited input).output)) := by
  intro doc model a input
  have hrun : (run a .unlimited input).result = .ok 1 :=
    eq_ok_of_toOption (by decide +kernel)
  exact ⟨hrun, run_of_output a .unlimited input 1 hrun⟩

end TextAnnotation.Stream
