import TextAnnotation.Proofs.Stream.Lines

/-!
# What a stream writes

Each line is judged on its own. The stream writes a message for every line that holds one, up to the first
line that fails.

* `Content`, `failure?`: what a line holds, and why it fails.
* `runFrom_append`: lines that do not fail are written, if the sink takes them, and the stream goes on.
* `run_writes_prefix`: the outcome of a stream whose sink takes everything.
* `good_of_runFrom_ok`, `run_of_good`: when a stream runs to its end, whatever the sink.
-/

namespace TextAnnotation.Stream

/-! ## Lines on their own -/

inductive Content where
  /-- Nothing but blanks. -/
  | blank
  | message (m : Message)
  | notText
  | invalid (e : Json.Error)

inductive Failure where
  | notText
  | invalid (e : Json.Error)
  | model (e : ModelError)

/-- The error of a stream whose line `number` fails. -/
def Failure.error (number : Nat) : Failure → Error
  | .notText => .io .notText
  | .invalid e => .invalidMessage number e
  | .model e => .model number e

namespace Content

def isBlank : Content → Bool
  | .blank => true
  | _ => false

def message? : Content → Option Message
  | .message m => some m
  | _ => none

def failure? (a : Annotator) : Content → Option Failure
  | .blank => none
  | .message m =>
    match (a.annotate m).result with
    | .ok () => none
    | .error e => some (.model e)
  | .notText => some .notText
  | .invalid e => some (.invalid e)

end Content

/-- What a line holds. -/
def content (line : List UInt8) : Content :=
  match text? line with
  | none => .notText
  | some text =>
    if Text.isBlankText text then .blank
    else
      match Message.decode text.toList with
      | .ok m => .message m
      | .error e => .invalid e

def messages (ls : List (List UInt8)) : List Message :=
  ls.filterMap fun line => (content line).message?

/-- A message with its docs, as it is written. -/
def answer (a : Annotator) (m : Message) : List Char :=
  (a.annotate m).message.json.compact

/-- What is written for a message: the message with its docs, and the end of the line. -/
def reply (a : Annotator) (m : Message) : List Char :=
  answer a m ++ ['\n']

def replies (a : Annotator) (ms : List Message) : List Char :=
  ms.flatMap (reply a)

def requests (a : Annotator) (ms : List Message) : List Call :=
  ms.flatMap fun m => (a.annotate m).calls

theorem replies_cons (a : Annotator) (m : Message) (ms : List Message) :
    replies a (m :: ms) = reply a m ++ replies a ms :=
  List.flatMap_cons

theorem requests_cons (a : Annotator) (m : Message) (ms : List Message) :
    requests a (m :: ms) = (a.annotate m).calls ++ requests a ms :=
  List.flatMap_cons

/-- The message of a line that neither fails nor is passed over. -/
theorem content_of_no_failure {a : Annotator} {line : List UInt8}
    (h : (content line).failure? a = none) :
    content line = .blank ∨ ∃ m, content line = .message m ∧ (a.annotate m).result = .ok () := by
  cases hc : content line with
  | blank => exact Or.inl rfl
  | message m =>
    refine Or.inr ⟨m, rfl, ?_⟩
    rw [hc, Content.failure?] at h
    cases hr : (a.annotate m).result with
    | ok _ => rfl
    | error e =>
      rw [hr] at h
      cases h
  | notText =>
    rw [hc] at h
    cases h
  | invalid e =>
    rw [hc] at h
    cases h

theorem messages_cons_of_blank {line : List UInt8} (h : content line = .blank) (ls : List (List UInt8)) :
    messages (line :: ls) = messages ls :=
  List.filterMap_cons_none (by rw [h]; rfl)

theorem messages_cons_of_message {line : List UInt8} {m : Message} (h : content line = .message m)
    (ls : List (List UInt8)) : messages (line :: ls) = m :: messages ls :=
  List.filterMap_cons_some (by rw [h]; rfl)

theorem countP_not_blank {a : Annotator} {ls : List (List UInt8)}
    (h : ∀ line ∈ ls, (content line).failure? a = none) :
    ls.countP (fun line => !(content line).isBlank) = (messages ls).length := by
  induction ls with
  | nil => rfl
  | cons line ls ih =>
    have htail := ih fun l hl => h l (List.mem_cons_of_mem _ hl)
    obtain hblank | ⟨m, hm, -⟩ := content_of_no_failure (h line List.mem_cons_self)
    · rw [List.countP_cons_of_neg (by simp [hblank, Content.isBlank]), htail,
        messages_cons_of_blank hblank]
    · rw [List.countP_cons_of_pos (by simp [hm, Content.isBlank]), htail,
        messages_cons_of_message hm, List.length_cons]

/-! ## Sinks -/

def size (cs : List Char) : Nat :=
  (String.ofList cs).utf8ByteSize

theorem size_append (cs ds : List Char) : size (cs ++ ds) = size cs + size ds := by
  rw [size, String.ofList_append, String.utf8ByteSize_append]
  rfl

/-- Bytes are taken all at once or one part after the other. -/
theorem Sink.take?_add (s : Sink) (m n : Nat) : s.take? (m + n) = (s.take? m).bind (·.take? n) := by
  obtain ⟨room, flushes⟩ := s
  cases room with
  | none => rfl
  | some room =>
    by_cases hm : m ≤ room
    · by_cases hn : n ≤ room - m
      · have h : m + n ≤ room := by omega
        simp only [take?, if_pos hm, Option.bind_some, if_pos hn, if_pos h, Nat.sub_sub]
      · have h : ¬m + n ≤ room := by omega
        simp only [take?, if_pos hm, Option.bind_some, if_neg hn, if_neg h]
    · have h : ¬m + n ≤ room := by omega
      simp only [take?, if_neg hm, Option.bind_none, if_neg h]

@[simp] theorem Sink.take?_zero (s : Sink) : s.take? 0 = some s := by
  obtain ⟨room, flushes⟩ := s
  cases room <;> simp [take?]

@[simp] theorem Sink.take?_unlimited (n : Nat) : Sink.unlimited.take? n = some .unlimited := rfl

/-! ## One line -/

theorem Outcome.after_after (o : Outcome) (out₁ out₂ : List Char) (calls₁ calls₂ : List Call) :
    (o.after out₂ calls₂).after out₁ calls₁ = o.after (out₁ ++ out₂) (calls₁ ++ calls₂) := by
  simp only [after, List.append_assoc]

theorem size_line (cs : List Char) : size (cs ++ ['\n']) = size cs + 1 :=
  size_append cs ['\n']

theorem write_of_take? {m : Message} {s t : Sink}
    (h : s.take? (size (m.json.compact ++ ['\n'])) = some t) (number : Nat) (next : Sink → Outcome) :
    write number m s next = (next t).after (m.json.compact ++ ['\n']) [] := by
  rw [size_line, Sink.take?_add] at h
  obtain ⟨u, hu, ht⟩ := Option.bind_eq_some_iff.mp h
  rw [size] at hu
  simp only [write, hu, ht]

/-- A line that is written without an error has been taken as a whole. -/
theorem take?_of_write_ok {m : Message} {s : Sink} {number n : Nat} {next : Sink → Outcome}
    (h : (write number m s next).result = .ok n) :
    ∃ t, s.take? (size (m.json.compact ++ ['\n'])) = some t ∧ (next t).result = .ok n := by
  simp only [write] at h
  rw [size_line, Sink.take?_add]
  split at h
  · cases h
  · rename_i u hu
    split at h
    · cases h
    · rename_i t ht
      exact ⟨t, Option.bind_eq_some_iff.mpr ⟨u, hu, ht⟩, h⟩

theorem runFrom_cons (a : Annotator) (number count : Nat) (s : Sink) (line : List UInt8)
    (rest : List (List UInt8)) :
    runFrom a number count s (line :: rest) =
      match content line with
      | .blank => runFrom a (number + 1) count s rest
      | .message m =>
        match (a.annotate m).result with
        | .error e => (fail (.model number e)).after [] (a.annotate m).calls
        | .ok () =>
          (write number (a.annotate m).message s fun s =>
            runFrom a (number + 1) (count + 1) s rest).after [] (a.annotate m).calls
      | .notText => fail (.io .notText)
      | .invalid e => fail (.invalidMessage number e) := by
  rw [runFrom, content]
  cases text? line with
  | none => rfl
  | some text =>
    cases hblank : Text.isBlankText text with
    | true => simp only [hblank, if_true]
    | false =>
      simp only [hblank, Bool.false_eq_true, if_false]
      cases Message.decode text.toList <;> rfl

section Line

variable {a : Annotator} {line : List UInt8} {m : Message} {s t : Sink}

theorem runFrom_of_blank (h : content line = .blank) (number count : Nat) (s : Sink)
    (rest : List (List UInt8)) :
    runFrom a number count s (line :: rest) = runFrom a (number + 1) count s rest := by
  rw [runFrom_cons, h]

theorem runFrom_of_message (h : content line = .message m) (hok : (a.annotate m).result = .ok ())
    (number count : Nat) (s : Sink) (rest : List (List UInt8)) :
    runFrom a number count s (line :: rest) =
      (write number (a.annotate m).message s fun s =>
        runFrom a (number + 1) (count + 1) s rest).after [] (a.annotate m).calls := by
  rw [runFrom_cons, h]
  simp only [hok]

theorem runFrom_of_take? (h : content line = .message m) (hok : (a.annotate m).result = .ok ())
    (ht : s.take? (size (reply a m)) = some t) (number count : Nat) (rest : List (List UInt8)) :
    runFrom a number count s (line :: rest) =
      (runFrom a (number + 1) (count + 1) t rest).after (reply a m) (a.annotate m).calls := by
  rw [runFrom_of_message h hok, write_of_take? ht, Outcome.after_after, List.append_nil]
  rfl

theorem runFrom_of_failure {f : Failure} (h : (content line).failure? a = some f) (number count : Nat)
    (s : Sink) (rest : List (List UInt8)) :
    (runFrom a number count s (line :: rest)).result = .error (f.error number) ∧
      (runFrom a number count s (line :: rest)).output = [] := by
  rw [runFrom_cons]
  cases hc : content line with
  | blank =>
    rw [hc] at h
    cases h
  | message m =>
    rw [hc, Content.failure?] at h
    cases hr : (a.annotate m).result with
    | ok _ =>
      rw [hr] at h
      cases h
    | error e =>
      rw [hr] at h
      cases h
      simp only [hr]
      exact ⟨rfl, rfl⟩
  | notText =>
    rw [hc] at h
    cases h
    exact ⟨rfl, rfl⟩
  | invalid e =>
    rw [hc] at h
    cases h
    exact ⟨rfl, rfl⟩

end Line

/-! ## Many lines -/

section Lines

variable {a : Annotator} {ls : List (List UInt8)} {s t : Sink}

/-- Lines that do not fail are written, and the stream goes on behind them. -/
theorem runFrom_append (hgood : ∀ line ∈ ls, (content line).failure? a = none)
    (ht : s.take? (size (replies a (messages ls))) = some t) (number count : Nat)
    (rest : List (List UInt8)) :
    runFrom a number count s (ls ++ rest) =
      (runFrom a (number + ls.length) (count + (messages ls).length) t rest).after
        (replies a (messages ls)) (requests a (messages ls)) := by
  induction ls generalizing s number count with
  | nil =>
    rw [show size (replies a (messages [])) = 0 from rfl, Sink.take?_zero] at ht
    rw [← Option.some.inj ht]
    rfl
  | cons line ls ih =>
    have htail := fun l hl => hgood l (List.mem_cons_of_mem line hl)
    rw [List.cons_append, List.length_cons, Nat.add_comm ls.length, ← Nat.add_assoc]
    obtain hblank | ⟨m, hm, hok⟩ := content_of_no_failure (hgood line List.mem_cons_self)
    · rw [messages_cons_of_blank hblank] at ht ⊢
      rw [runFrom_of_blank hblank, ih htail ht]
    · rw [messages_cons_of_message hm] at ht ⊢
      rw [replies_cons, size_append, Sink.take?_add] at ht
      obtain ⟨u, hu, ht⟩ := Option.bind_eq_some_iff.mp ht
      rw [runFrom_of_take? hm hok hu, ih htail ht, Outcome.after_after, List.length_cons,
        Nat.add_comm (messages ls).length, ← Nat.add_assoc, replies_cons, requests_cons]

/-- A stream that runs to its end has met no line that fails, and its sink has taken everything. -/
theorem good_of_runFrom_ok {number count n : Nat} (h : (runFrom a number count s ls).result = .ok n) :
    (∀ line ∈ ls, (content line).failure? a = none) ∧
      ∃ t, s.take? (size (replies a (messages ls))) = some t ∧ t.flushes = true := by
  induction ls generalizing s number count with
  | nil =>
    refine ⟨fun _ h => absurd h List.not_mem_nil, s, Sink.take?_zero s, ?_⟩
    rw [runFrom] at h
    cases hflush : s.flushes with
    | true => rfl
    | false =>
      rw [hflush] at h
      cases h
  | cons line ls ih =>
    cases hline : (content line).failure? a with
    | some f =>
      rw [(runFrom_of_failure hline number count s ls).1] at h
      cases h
    | none =>
      obtain hblank | ⟨m, hm, hok⟩ := content_of_no_failure hline
      · rw [runFrom_of_blank hblank] at h
        rw [messages_cons_of_blank hblank]
        exact ⟨List.forall_mem_cons.mpr ⟨hline, (ih h).1⟩, (ih h).2⟩
      · rw [runFrom_of_message hm hok] at h
        obtain ⟨u, hu, hrest⟩ := take?_of_write_ok h
        obtain ⟨hgood, t, ht, hflush⟩ := ih hrest
        refine ⟨List.forall_mem_cons.mpr ⟨hline, hgood⟩, t, ?_, hflush⟩
        rw [messages_cons_of_message hm, replies_cons, size_append, Sink.take?_add]
        exact Option.bind_eq_some_iff.mpr ⟨u, hu, ht⟩

end Lines

/-! ## Whole streams -/

/-- A stream that runs to its end writes the replies to all its messages. -/
theorem run_of_good {a : Annotator} {input : List UInt8} {s t : Sink}
    (hgood : ∀ line ∈ splitLines input, (content line).failure? a = none)
    (ht : s.take? (size (replies a (messages (splitLines input)))) = some t) (hflush : t.flushes = true) :
    run a s input =
      ⟨replies a (messages (splitLines input)), .ok (messages (splitLines input)).length,
        requests a (messages (splitLines input))⟩ := by
  have h := runFrom_append hgood ht 1 0 []
  rw [List.append_nil, Nat.zero_add, runFrom, if_pos hflush] at h
  rw [run, lines_eq_splitLines, h]
  simp only [Outcome.after, List.append_nil]

/-- A stream whose sink takes everything writes the replies to the messages in front of the first line
that fails, and nothing else. The error names that line. -/
theorem run_writes_prefix (a : Annotator) (input : List UInt8) :
    ((∀ line ∈ splitLines input, (content line).failure? a = none) ∧
      (run a .unlimited input).result =
        .ok ((splitLines input).countP fun line => !(content line).isBlank) ∧
      (run a .unlimited input).output = replies a (messages (splitLines input))) ∨
    ∃ k line f, (splitLines input)[k]? = some line ∧ (content line).failure? a = some f ∧
      (∀ earlier ∈ (splitLines input).take k, (content earlier).failure? a = none) ∧
      (run a .unlimited input).result = .error (f.error (k + 1)) ∧
      (run a .unlimited input).output = replies a (messages ((splitLines input).take k)) := by
  cases hfind : (splitLines input).find? fun line => ((content line).failure? a).isSome with
  | none =>
    left
    have hgood : ∀ line ∈ splitLines input, (content line).failure? a = none := fun line hline =>
      Option.not_isSome_iff_eq_none.mp (List.find?_eq_none.mp hfind line hline)
    have hrun := run_of_good hgood (Sink.take?_unlimited _) rfl
    rw [hrun, countP_not_blank hgood]
    exact ⟨hgood, rfl, rfl⟩
  | some line =>
    right
    obtain ⟨hline, before, rest, hsplit, hbefore⟩ := List.find?_eq_some_iff_append.mp hfind
    obtain ⟨f, hf⟩ := Option.isSome_iff_exists.mp hline
    have hgood : ∀ earlier ∈ before, (content earlier).failure? a = none := fun earlier hmem => by
      simpa using hbefore earlier hmem
    have htake : (splitLines input).take before.length = before := by rw [hsplit, List.take_left]
    have hrun := runFrom_append hgood (Sink.take?_unlimited _) 1 0 (line :: rest)
    rw [← hsplit, ← lines_eq_splitLines] at hrun
    obtain ⟨hresult, houtput⟩ := runFrom_of_failure hf (1 + before.length)
      (0 + (messages before).length) .unlimited rest
    refine ⟨before.length, line, f, ?_, hf, by rwa [htake], ?_, ?_⟩
    · rw [hsplit, List.getElem?_append_right (Nat.le_refl _), Nat.sub_self]
      rfl
    · rw [run, hrun, Nat.add_comm before.length]
      exact hresult
    · rw [run, hrun, htake, Outcome.after, houtput, List.append_nil]

end TextAnnotation.Stream
