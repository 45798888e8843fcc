import TextAnnotation.Proofs.Cache.History

/-!
# Caches in use

A cache is asked to make annotators, to look them up and to give up keys, in any order. Each annotator that
is made has a number of its own, so that a second one for the same options can be told from the first, and
the session notes what the catalog is asked for.

* `serve`, `run`: the answer to one use, and the session behind a history of uses.
* `serve_create_of_hit`, `serve_create_of_ok`, `serve_create_of_error`: the three ways in which a request
  for an annotator can end.
* `made_run`, `get?_run_of_some`: what every entry comes from, and how long it stays.
* `Consistent`, `consistent_of_room`: what holds of every run of a cache with room for all names.
-/

namespace TextAnnotation

inductive CacheUse where
  | create (options : Options) (language : String)
  | get (key : String)
  | invalidate (key : String)
  deriving DecidableEq, Repr

/-- An annotator with the number of the use that made it. -/
structure Kept where
  use : Nat
  annotator : Annotator

/-- A cache, the number of its uses, and the requests that were made to the catalog. -/
structure CacheSession where
  cache : Cache Kept
  uses : Nat
  loads : List LoadRequest

namespace CacheUse

open Annotator (nameFor keyOf createCached disabledPipes)

variable {capacity : Nat}

def key : CacheUse → String
  | create options language =>
    Annotator.componentKey Annotator.componentName options.model language
  | get key => key
  | invalidate key => key

/-- The answer to a use, and the session behind it. -/
def serve (catalog : Catalog) (s : CacheSession) :
    CacheUse → Except AnnotatorError (Option Kept) × CacheSession
  | create options language =>
    let x := createCached (Kept.mk s.uses) s.cache options language catalog
    (x.1.result.map some, ⟨x.2, s.uses + 1, s.loads ++ x.1.calls⟩)
  | get key => (.ok (s.cache.get? key), { s with uses := s.uses + 1 })
  | invalidate key => (.ok none, ⟨s.cache.invalidate key, s.uses + 1, s.loads⟩)

/-- The session behind a history, with a cache that is empty at first. -/
def run (catalog : Catalog) (eviction : Eviction Kept capacity) (history : List CacheUse) :
    CacheSession :=
  history.foldl (fun s u => (serve catalog s u).2) ⟨.empty eviction, 0, []⟩

def answer (catalog : Catalog) (eviction : Eviction Kept capacity) (before : List CacheUse)
    (u : CacheUse) : Except AnnotatorError (Option Kept) :=
  (serve catalog (run catalog eviction before) u).1

def names (history : List CacheUse) : List String :=
  history.filterMap fun
    | create options language => some (nameFor options language)
    | get _ => none
    | invalidate _ => none

theorem key_create (options : Options) (language : String) :
    (create options language).key = keyOf (nameFor options language) := rfl

section Histories

variable {before history : List CacheUse} {u : CacheUse} {name : String}

theorem mem_names :
    name ∈ names history ↔
      ∃ options language, create options language ∈ history ∧ nameFor options language = name := by
  rw [names, List.mem_filterMap]
  constructor
  · rintro ⟨u, hu, hname⟩
    cases u with
    | create options language => exact ⟨options, language, hu, Option.some.inj hname⟩
    | get key => cases hname
    | invalidate key => cases hname
  · rintro ⟨options, language, hu, rfl⟩
    exact ⟨_, hu, rfl⟩

theorem length_names_le_of_initial (h : before <+: history) :
    (names before).dedup.length ≤ (names history).dedup.length :=
  Cache.length_dedup_le_of_subset (h.filterMap _).subset

theorem length_names_le_snoc (history : List CacheUse) (u : CacheUse) :
    (names history).dedup.length ≤ (names (history ++ [u])).dedup.length :=
  length_names_le_of_initial (List.prefix_append history [u])

end Histories

/-! ## One use -/

section Use

variable {catalog : Catalog} {s : CacheSession} {options : Options} {language : String}

/-- With a cache, the annotator is made as without one, if at all. -/
theorem createCached_eq_getOrInit {α : Type} (make : Annotator → α) (cache : Cache α)
    (options : Options) (language : String) (catalog : Catalog) :
    createCached make cache options language catalog =
      cache.getOrInit (keyOf (nameFor options language))
        ⟨(Annotator.create options language catalog).result.map make,
          (Annotator.create options language catalog).calls⟩ := by
  rw [createCached, Traced.bind_return, Annotator.componentKey_eq]

theorem serve_create_of_hit {b : Kept}
    (h : s.cache.get? (keyOf (nameFor options language)) = some b) :
    serve catalog s (create options language) =
      (.ok (some b), { s with uses := s.uses + 1 }) := by
  rw [serve, createCached_eq_getOrInit, Cache.getOrInit_of_hit h]
  simp [Traced.pure, Except.map]

theorem serve_create_of_ok {a : Annotator}
    (h : s.cache.get? (keyOf (nameFor options language)) = none)
    (ha : (Annotator.create options language catalog).result = .ok a) :
    serve catalog s (create options language) =
      (.ok (some ⟨s.uses, a⟩), ⟨s.cache.insert (keyOf (nameFor options language)) ⟨s.uses, a⟩,
        s.uses + 1, s.loads ++ [⟨nameFor options language, disabledPipes⟩]⟩) := by
  rw [serve, createCached_eq_getOrInit, Cache.getOrInit_of_ok h (by rw [ha]; rfl),
    Annotator.calls_of_create ha, ha]
  rfl

theorem serve_create_of_error {e : AnnotatorError}
    (h : s.cache.get? (keyOf (nameFor options language)) = none)
    (he : (Annotator.create options language catalog).result = .error e) :
    serve catalog s (create options language) =
      (.error e, ⟨s.cache, s.uses + 1,
        s.loads ++ (Annotator.create options language catalog).calls⟩) := by
  rw [serve, createCached_eq_getOrInit, Cache.getOrInit_of_error h (by rw [he]; rfl), he]
  rfl

/-- The three ways in which a request for an annotator can end: it is there, it is made, or it cannot be
made. -/
theorem serve_create_cases (catalog : Catalog) (s : CacheSession) (options : Options)
    (language : String) :
    (∃ b, s.cache.get? (keyOf (nameFor options language)) = some b ∧
      serve catalog s (create options language) = (.ok (some b), { s with uses := s.uses + 1 })) ∨
    s.cache.get? (keyOf (nameFor options language)) = none ∧
      ((∃ a, (Annotator.create options language catalog).result = .ok a ∧
        serve catalog s (create options language) =
          (.ok (some ⟨s.uses, a⟩), ⟨s.cache.insert (keyOf (nameFor options language)) ⟨s.uses, a⟩,
            s.uses + 1, s.loads ++ [⟨nameFor options language, disabledPipes⟩]⟩)) ∨
      ∃ e, (Annotator.create options language catalog).result = .error e ∧
        serve catalog s (create options language) =
          (.error e, ⟨s.cache, s.uses + 1,
            s.loads ++ (Annotator.create options language catalog).calls⟩)) := by
  cases hget : s.cache.get? (keyOf (nameFor options language)) with
  | some b => exact Or.inl ⟨b, rfl, serve_create_of_hit hget⟩
  | none =>
    cases hmade : (Annotator.create options language catalog).result with
    | ok a => exact Or.inr ⟨rfl, Or.inl ⟨a, rfl, serve_create_of_ok hget hmade⟩⟩
    | error e => exact Or.inr ⟨rfl, Or.inr ⟨e, rfl, serve_create_of_error hget hmade⟩⟩

theorem capacity_serve (catalog : Catalog) (s : CacheSession) (u : CacheUse) :
    (serve catalog s u).2.cache.capacity = s.cache.capacity := by
  cases u with
  | create options language =>
    rw [serve, createCached_eq_getOrInit]
    exact Cache.capacity_getOrInit _ _ _
  | get key => rfl
  | invalidate key => rfl

theorem nodup_keys_serve (h : s.cache.keys.Nodup) (u : CacheUse) :
    (serve catalog s u).2.cache.keys.Nodup := by
  cases u with
  | create options language =>
    rw [serve, createCached_eq_getOrInit]
    exact Cache.nodup_keys_getOrInit h _ _
  | get key => exact h
  | invalidate key => exact Cache.nodup_keys_invalidate h key

end Use

/-! ## Whole runs -/

section Run

variable {catalog : Catalog} {eviction : Eviction Kept capacity} {history : List CacheUse}

theorem run_snoc (catalog : Catalog) (eviction : Eviction Kept capacity) (history : List CacheUse)
    (u : CacheUse) :
    run catalog eviction (history ++ [u]) = (serve catalog (run catalog eviction history) u).2 :=
  List.foldl_append

theorem uses_run (catalog : Catalog) (eviction : Eviction Kept capacity) (history : List CacheUse) :
    (run catalog eviction history).uses = history.length := by
  induction history using List.reverseRecOn with
  | nil => rfl
  | append_singleton history u ih =>
    rw [run_snoc, List.length_append, List.length_singleton, ← ih]
    cases u <;> rfl

theorem capacity_run (catalog : Catalog) (eviction : Eviction Kept capacity) (history : List CacheUse) :
    (run catalog eviction history).cache.capacity = capacity := by
  induction history using List.reverseRecOn with
  | nil => rfl
  | append_singleton history u ih => rw [run_snoc, capacity_serve, ih]

theorem nodup_keys_run (catalog : Catalog) (eviction : Eviction Kept capacity) (history : List CacheUse) :
    (run catalog eviction history).cache.keys.Nodup := by
  induction history using List.reverseRecOn with
  | nil => exact List.nodup_nil
  | append_singleton history u ih =>
    rw [run_snoc]
    exact nodup_keys_serve ih u

/-- `b` was made by a request of the history, whose name has the key `key`. -/
def Made (catalog : Catalog) (history : List CacheUse) (key : String) (b : Kept) : Prop :=
  ∃ before options language, before ++ [create options language] <+: history ∧
    before.length = b.use ∧ key = keyOf (nameFor options language) ∧
    (Annotator.create options language catalog).result = .ok b.annotator

theorem Made.snoc {key : String} {b : Kept} (h : Made catalog history key b) (u : CacheUse) :
    Made catalog (history ++ [u]) key b := by
  obtain ⟨before, options, language, hstart, hrest⟩ := h
  exact ⟨before, options, language, hstart.trans (List.prefix_append history [u]), hrest⟩

theorem Made.key_eq {key : String} {b : Kept} (h : Made catalog history key b) :
    b.annotator.key = key := by
  obtain ⟨-, options, language, -, -, hkey, hmade⟩ := h
  rw [hkey, Annotator.key_of_create hmade]

theorem made_run (p : String × Kept) (hp : p ∈ (run catalog eviction history).cache.entries) :
    Made catalog history p.1 p.2 := by
  induction history using List.reverseRecOn with
  | nil => cases hp
  | append_singleton history u ih =>
    rw [run_snoc] at hp
    cases u with
    | create options language =>
      rcases serve_create_cases catalog (run catalog eviction history) options language with
        ⟨b, -, hserve⟩ | ⟨-, ⟨a, ha, hserve⟩ | ⟨e, -, hserve⟩⟩
      · rw [hserve] at hp
        exact (ih hp).snoc _
      · rw [hserve] at hp
        rcases Cache.mem_insert hp with rfl | ⟨hold, -⟩
        · exact ⟨history, options, language, List.prefix_rfl, (uses_run catalog eviction history).symm,
            rfl, ha⟩
        · exact (ih hold).snoc _
      · rw [hserve] at hp
        exact (ih hp).snoc _
    | get key => exact (ih hp).snoc _
    | invalidate key => exact (ih (Cache.mem_invalidate.mp hp).1).snoc _

theorem room_of_names {options : Options} {language : String}
    (hroom : (names (history ++ [create options language])).dedup.length ≤ capacity) :
    ((run catalog eviction history).cache.invalidate
      (keyOf (nameFor options language))).entries.length <
        (run catalog eviction history).cache.capacity := by
  have hmem : ∀ {name}, name ∈ names (history ++ [create options language]) →
      keyOf name ∈ (names (history ++ [create options language])).dedup.map keyOf :=
    fun hname => List.mem_map_of_mem (List.mem_dedup.mpr hname)
  refine Cache.room_of_subset (nodup_keys_run catalog eviction history) (fun key hkey => ?_)
    (hmem (mem_names.mpr ⟨options, language, by simp, rfl⟩)) (by rwa [List.length_map, capacity_run])
  obtain ⟨p, hp, rfl⟩ := List.mem_map.mp hkey
  obtain ⟨before, options', language', hstart, -, hkey', -⟩ := made_run p hp
  rw [hkey']
  refine hmem (mem_names.mpr ⟨options', language', ?_, rfl⟩)
  exact List.mem_append_left _ (hstart.subset (by simp))

/-- An entry stays until its key is given up. -/
theorem get?_run_of_some {key : String} {b : Kept} {between : List CacheUse}
    (hroom : (names (history ++ between)).dedup.length ≤ capacity)
    (h : (run catalog eviction history).cache.get? key = some b)
    (hkept : invalidate key ∉ between) :
    (run catalog eviction (history ++ between)).cache.get? key = some b := by
  induction between using List.reverseRecOn with
  | nil => rwa [List.append_nil]
  | append_singleton between u ih =>
    rw [List.mem_append, List.mem_singleton, not_or] at hkept
    rw [← List.append_assoc] at hroom ⊢
    have hbefore := ih ((length_names_le_snoc _ u).trans hroom) hkept.1
    rw [run_snoc]
    cases u with
    | create options language =>
      rw [serve, createCached_eq_getOrInit]
      dsimp only
      rw [Cache.get?_getOrInit_of_room _ (room_of_names hroom)]
      split
      · next hkey => rw [← hkey, hbefore, Option.some_or]
      · exact hbefore
    | get k => exact hbefore
    | invalidate k =>
      have hne : key ≠ k := fun heq => hkept.2 (by rw [heq])
      rw [serve, Cache.get?_invalidate, if_neg hne, hbefore]

end Run

/-! ## Consistency -/

section Consistency

variable {catalog : Catalog} {eviction : Eviction Kept capacity} {before history : List CacheUse}
  {options : Options} {language : String} {b : Kept}

/-- The answer to a request for an annotator is the one that is kept under the key from then on. -/
theorem get?_of_answer (hroom : (names (before ++ [create options language])).dedup.length ≤ capacity)
    (h : answer catalog eviction before (create options language) = .ok (some b)) :
    (run catalog eviction (before ++ [create options language])).cache.get?
      (keyOf (nameFor options language)) = some b := by
  rw [run_snoc]
  rcases serve_create_cases catalog (run catalog eviction before) options language with
    ⟨c, hget, hserve⟩ | ⟨hget, ⟨a, -, hserve⟩ | ⟨e, -, hserve⟩⟩
  all_goals rw [answer, hserve] at h
  · cases h
    rw [hserve]
    exact hget
  · cases h
    rw [hserve, Cache.get?_insert_of_room _ (room_of_names hroom), if_pos rfl]
  · cases h

theorem key_of_answer (hroom : (names (before ++ [create options language])).dedup.length ≤ capacity)
    (h : answer catalog eviction before (create options language) = .ok (some b)) :
    b.annotator.key = keyOf (nameFor options language) :=
  (made_run _ (Cache.mem_of_get? (get?_of_answer hroom h))).key_eq

/-- Behind a success and until the key is given up, the annotator is found under its key. -/
theorem get?_behind_answer {between : List CacheUse}
    (hroom : (names (before ++ create options language :: between)).dedup.length ≤ capacity)
    (h : answer catalog eviction before (create options language) = .ok (some b))
    (hkept : invalidate (keyOf (nameFor options language)) ∉ between) :
    (run catalog eviction (before ++ create options language :: between)).cache.get?
      (keyOf (nameFor options language)) = some b := by
  rw [List.append_cons] at hroom ⊢
  have hfirst := (length_names_le_of_initial (List.prefix_append _ between)).trans hroom
  exact get?_run_of_some hroom (get?_of_answer hfirst h) hkept

theorem answer_create_cases (catalog : Catalog) (eviction : Eviction Kept capacity) (before : List CacheUse)
    (options : Options) (language : String) :
    (∃ b, answer catalog eviction before (create options language) = .ok (some b)) ∨
      ∃ e, answer catalog eviction before (create options language) = .error e := by
  rcases serve_create_cases catalog (run catalog eviction before) options language with
    ⟨b, -, hserve⟩ | ⟨-, ⟨a, -, hserve⟩ | ⟨e, -, hserve⟩⟩
  · exact Or.inl ⟨b, by rw [answer, hserve]⟩
  · exact Or.inl ⟨_, by rw [answer, hserve]⟩
  · exact Or.inr ⟨e, by rw [answer, hserve]⟩

/-- Each request for a name in a history has failed, or the key of the name was given up since. -/
def Unanswered (catalog : Catalog) (eviction : Eviction Kept capacity) (name : String)
    (history : List CacheUse) : Prop :=
  ∀ before options language between, history = before ++ create options language :: between →
    nameFor options language = name →
    (∃ e, answer catalog eviction before (create options language) = .error e) ∨
      invalidate (keyOf name) ∈ between

theorem unanswered_of_miss {name : String} (hroom : (names history).dedup.length ≤ capacity)
    (hmiss : (run catalog eviction history).cache.get? (keyOf name) = none) :
    Unanswered catalog eviction name history := by
  rintro before options language between rfl rfl
  rcases answer_create_cases catalog eviction before options language with ⟨b, hb⟩ | herror
  -- had it succeeded and its key been kept, its entry would still be there
  · by_cases hkept : invalidate (keyOf (nameFor options language)) ∈ between
    · exact Or.inr hkept
    · rw [get?_behind_answer hroom hb hkept] at hmiss
      cases hmiss
  · exact Or.inl herror

/-- The catalog is asked for a model that it has once, namely when its name gets an entry. -/
theorem loads_run {name : String}
    (hmodel : ∀ options language, nameFor options language = name →
      ∃ a, (Annotator.create options language catalog).result = .ok a)
    (hroom : (names history).dedup.length ≤ capacity) (hkept : invalidate (keyOf name) ∉ history) :
    (run catalog eviction history).loads.filter (·.name = name) =
      if ((run catalog eviction history).cache.get? (keyOf name)).isSome then [⟨name, disabledPipes⟩]
      else [] := by
  induction history using List.reverseRecOn with
  | nil => rfl
  | append_singleton history u ih =>
    rw [List.mem_append, List.mem_singleton, not_or] at hkept
    have hbefore := ih ((length_names_le_snoc history u).trans hroom) hkept.1
    rw [run_snoc]
    cases u with
    | create options language =>
      rcases serve_create_cases catalog (run catalog eviction history) options language with
        ⟨b, -, hserve⟩ | ⟨hget, ⟨a, -, hserve⟩ | ⟨e, he, hserve⟩⟩
      · rw [hserve]
        exact hbefore
      -- an entry is made: it is the one of the name, or the request is not among those that are counted
      · rw [hserve]
        dsimp only
        rw [Cache.get?_insert_of_room _ (room_of_names hroom), List.filter_append, hbefore]
        by_cases hname : nameFor options language = name
        · subst hname
          simp [hget]
        · have hkey : keyOf name ≠ keyOf (nameFor options language) := fun heq =>
            hname (Annotator.keyOf_inj.mp heq).symm
          simp [hname, hkey]
      -- what fails is a request for another name, since the catalog has a model for this one
      · have hname : nameFor options language ≠ name := by
          intro hname
          obtain ⟨a, ha⟩ := hmodel options language hname
          rw [ha] at he
          cases he
        have hcalls : (Annotator.create options language catalog).calls.filter (·.name = name) = [] := by
          rw [Annotator.create_calls]
          split
          · rfl
          · simp [hname]
        rw [hserve]
        dsimp only
        rw [List.filter_append, hbefore, hcalls, List.append_nil]
    | get key => exact hbefore
    | invalidate key =>
      have hne : keyOf name ≠ key := fun heq => hkept.2 (by rw [heq])
      rw [serve, Cache.get?_invalidate, if_neg hne]
      exact hbefore

end Consistency

/-- What holds of a history of uses of a cache. Each use in it is described by the uses in front of it,
which are a prefix of the history. -/
structure Consistent (catalog : Catalog) (eviction : Eviction Kept capacity) (history : List CacheUse) :
    Prop where
  /-- An entry was made by a request whose name gives its key, and that is also the key of its
  annotator. -/
  made : ∀ p ∈ (run catalog eviction history).cache.entries,
    p.2.annotator.key = p.1 ∧ Made catalog history p.1 p.2
  /-- The annotators that two requests are given have one key if and only if the names are the same. -/
  shared : ∀ before options language between options' language' b b',
    before ++ create options language :: (between ++ [create options' language']) <+: history →
    answer catalog eviction before (create options language) = .ok (some b) →
    answer catalog eviction (before ++ create options language :: between)
      (create options' language') = .ok (some b') →
    (b'.annotator.key = b.annotator.key ↔ nameFor options' language' = nameFor options language)
  /-- Until the key is given up, the annotator itself is given again, to those who ask for its name and to
  no others. -/
  again : ∀ before options language between options' language' b,
    before ++ create options language :: (between ++ [create options' language']) <+: history →
    answer catalog eviction before (create options language) = .ok (some b) →
    invalidate (keyOf (nameFor options language)) ∉ between →
    (answer catalog eviction (before ++ create options language :: between)
      (create options' language') = .ok (some b) ↔
        nameFor options' language' = nameFor options language)
  /-- A request asks the catalog at most once, and only if each earlier request for its name has failed or
  the key was given up since. -/
  loaded : ∀ before options language, before ++ [create options language] <+: history →
    (run catalog eviction (before ++ [create options language])).loads =
        (run catalog eviction before).loads ∨
      (run catalog eviction (before ++ [create options language])).loads =
        (run catalog eviction before).loads ++ [⟨nameFor options language, disabledPipes⟩] ∧
      Unanswered catalog eviction (nameFor options language) before
  /-- If a request succeeds and its key is never given up, the catalog is asked once for its name. -/
  once : ∀ before options language b, before ++ [create options language] <+: history →
    answer catalog eviction before (create options language) = .ok (some b) →
    invalidate (keyOf (nameFor options language)) ∉ history →
    (run catalog eviction history).loads.filter (·.name = nameFor options language) =
      [⟨nameFor options language, disabledPipes⟩]
  /-- A request that fails gives the error that there is without a cache, and changes no entry. -/
  failed : ∀ before options language e, before ++ [create options language] <+: history →
    answer catalog eviction before (create options language) = .error e →
    (Annotator.create options language catalog).result = .error e ∧
      (run catalog eviction (before ++ [create options language])).cache =
        (run catalog eviction before).cache
  /-- An annotator that is given is the one that is kept under the key of the use, also before the use if
  there was one then. -/
  given : ∀ before u b, before ++ [u] <+: history → answer catalog eviction before u = .ok (some b) →
    (run catalog eviction (before ++ [u])).cache.get? u.key = some b ∧
      ∀ c, (run catalog eviction before).cache.get? u.key = some c → c = b

section Consistent

variable {catalog : Catalog} {eviction : Eviction Kept capacity} {history before between : List CacheUse}
  {options options' : Options} {language language' : String} {b b' : Kept}

theorem length_names_le_of_two (hroom : (names history).dedup.length ≤ capacity)
    (hstart : before ++ create options language :: (between ++ [create options' language']) <+: history) :
    (names (before ++ [create options language])).dedup.length ≤ capacity ∧
      (names (before ++ create options language :: between ++
        [create options' language'])).dedup.length ≤ capacity := by
  rw [← List.cons_append, ← List.append_assoc] at hstart
  have hall := (length_names_le_of_initial hstart).trans hroom
  refine ⟨(length_names_le_of_initial ?_).trans hall, hall⟩
  exact ⟨between ++ [create options' language'], by simp⟩

theorem shared_of_room (hroom : (names history).dedup.length ≤ capacity)
    (hstart : before ++ create options language :: (between ++ [create options' language']) <+: history)
    (hb : answer catalog eviction before (create options language) = .ok (some b))
    (hb' : answer catalog eviction (before ++ create options language :: between)
      (create options' language') = .ok (some b')) :
    b'.annotator.key = b.annotator.key ↔ nameFor options' language' = nameFor options language := by
  obtain ⟨hfirst, hall⟩ := length_names_le_of_two hroom hstart
  rw [key_of_answer hfirst hb, key_of_answer hall hb', Annotator.keyOf_inj]

theorem again_of_room (hroom : (names history).dedup.length ≤ capacity)
    (hstart : before ++ create options language :: (between ++ [create options' language']) <+: history)
    (hb : answer catalog eviction before (create options language) = .ok (some b))
    (hkept : invalidate (keyOf (nameFor options language)) ∉ between) :
    answer catalog eviction (before ++ create options language :: between)
      (create options' language') = .ok (some b) ↔
        nameFor options' language' = nameFor options language := by
  refine ⟨fun hb' => (shared_of_room hroom hstart hb hb').mp rfl, fun hname => ?_⟩
  obtain ⟨-, hall⟩ := length_names_le_of_two hroom hstart
  have hget := get?_behind_answer ((length_names_le_snoc _ _).trans hall) hb hkept
  rw [answer, serve_create_of_hit (by rw [hname]; exact hget)]

theorem loaded_of_room (hroom : (names history).dedup.length ≤ capacity)
    (hstart : before ++ [create options language] <+: history) :
    (run catalog eviction (before ++ [create options language])).loads =
        (run catalog eviction before).loads ∨
      (run catalog eviction (before ++ [create options language])).loads =
        (run catalog eviction before).loads ++ [⟨nameFor options language, disabledPipes⟩] ∧
      Unanswered catalog eviction (nameFor options language) before := by
  have hbefore := (length_names_le_of_initial ((List.prefix_append before _).trans hstart)).trans hroom
  rw [run_snoc]
  rcases serve_create_cases catalog (run catalog eviction before) options language with
    ⟨b, -, hserve⟩ | ⟨hmiss, ⟨a, -, hserve⟩ | ⟨e, -, hserve⟩⟩
  · rw [hserve]
    exact Or.inl rfl
  · rw [hserve]
    exact Or.inr ⟨rfl, unanswered_of_miss hbefore hmiss⟩
  · rw [hserve, Annotator.create_calls]
    split
    · exact Or.inl (List.append_nil _)
    · exact Or.inr ⟨rfl, unanswered_of_miss hbefore hmiss⟩

theorem once_of_room (hroom : (names history).dedup.length ≤ capacity)
    (hstart : before ++ [create options language] <+: history)
    (hb : answer catalog eviction before (create options language) = .ok (some b))
    (hkept : invalidate (keyOf (nameFor options language)) ∉ history) :
    (run catalog eviction history).loads.filter (·.name = nameFor options language) =
      [⟨nameFor options language, disabledPipes⟩] := by
  have hfirst := (length_names_le_of_initial hstart).trans hroom
  have hget := get?_of_answer hfirst hb
  obtain ⟨-, options₁, language₁, -, -, hkey, hmade⟩ := made_run _ (Cache.mem_of_get? hget)
  have hmodel : ∀ options' language', nameFor options' language' = nameFor options language →
      ∃ a, (Annotator.create options' language' catalog).result = .ok a := by
    intro options' language' hname
    rw [Annotator.create_result, ← Annotator.keyOf_inj.mp hkey] at hmade
    exact ⟨_, by rw [Annotator.create_result, hname, (Annotator.annotatorFor_of_ok hmade options').2]⟩
  obtain ⟨between, rfl⟩ := hstart
  have hlast := get?_run_of_some hroom hget fun hmem => hkept (List.mem_append_right _ hmem)
  rw [loads_run hmodel hroom hkept, hlast]
  rfl

theorem failed_of_error {e : AnnotatorError}
    (h : answer catalog eviction before (create options language) = .error e) :
    (Annotator.create options language catalog).result = .error e ∧
      (run catalog eviction (before ++ [create options language])).cache =
        (run catalog eviction before).cache := by
  rw [run_snoc]
  rcases serve_create_cases catalog (run catalog eviction before) options language with
    ⟨b, -, hserve⟩ | ⟨-, ⟨a, -, hserve⟩ | ⟨e', he', hserve⟩⟩
  all_goals rw [answer, hserve] at h
  · cases h
  · cases h
  · cases h
    rw [hserve]
    exact ⟨he', rfl⟩

theorem given_of_room {u : CacheUse}
    (hroom : (names (before ++ [u])).dedup.length ≤ capacity)
    (h : answer catalog eviction before u = .ok (some b)) :
    (run catalog eviction (before ++ [u])).cache.get? u.key = some b ∧
      ∀ c, (run catalog eviction before).cache.get? u.key = some c → c = b := by
  cases u with
  | create options language =>
    rw [key_create]
    refine ⟨get?_of_answer hroom h, fun c hc => ?_⟩
    rw [answer, serve_create_of_hit hc] at h
    cases h
    rfl
  | get key =>
    have hget : (run catalog eviction before).cache.get? key = some b := Except.ok.inj h
    refine ⟨by rw [run_snoc]; exact hget, fun c hc => ?_⟩
    rw [CacheUse.key, hget] at hc
    exact (Option.some.inj hc).symm
  | invalidate key => cases h

/-- With room for all names that are asked for, every run of a cache is consistent. -/
theorem consistent_of_room (catalog : Catalog) (eviction : Eviction Kept capacity)
    (hroom : (names history).dedup.length ≤ capacity) :
    Consistent catalog eviction history where
  made p hp := ⟨(made_run p hp).key_eq, made_run p hp⟩
  shared _ _ _ _ _ _ _ _ hstart hb hb' := shared_of_room hroom hstart hb hb'
  again _ _ _ _ _ _ _ hstart hb hkept := again_of_room hroom hstart hb hkept
  loaded _ _ _ hstart := loaded_of_room hroom hstart
  once _ _ _ _ hstart hb hkept := once_of_room hroom hstart hb hkept
  failed _ _ _ _ _ h := failed_of_error h
  given _ _ _ hstart h := given_of_room ((length_names_le_of_initial hstart).trans hroom) h

/-- A name for which the language of the model is another one, with two spellings of the request; a model
that is refused; a key that is given up. -/
theorem consistent_of_room_stub :
    let catalog := Stub.catalog [("en", some ⟨"de", true, false⟩), ("xx", some ⟨"xx", false, false⟩)]
    let keen : Options := ⟨some "en", true, 7⟩
    let history : List CacheUse := [.create Options.default "en", .create keen "fr",
      .create Options.default "xx", .get "LanguageModelAdapter-en",
      .invalidate "LanguageModelAdapter-en", .create keen "fr"]
    (names history).dedup.length ≤ 2 ∧ Consistent catalog (.oldest Kept 2) history ∧
    (run catalog (.oldest Kept 2) history).loads =
      [⟨"en", ["parser"]⟩, ⟨"xx", ["parser"]⟩, ⟨"en", ["parser"]⟩] ∧
    (run catalog (.oldest Kept 2) history).cache.entries.map (fun p => (p.1, p.2.use)) =
      [("LanguageModelAdapter-en", 5)] := by
  intro catalog keen history
  have hroom : (names history).dedup.length ≤ 2 := by decide
  exact ⟨hroom, consistent_of_room catalog (.oldest Kept 2) hroom, rfl, rfl⟩

end Consistent

end CacheUse

end TextAnnotation
