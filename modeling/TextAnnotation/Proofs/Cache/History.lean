import TextAnnotation.Cache
import TextAnnotation.Proofs.Annotator.Making
import TextAnnotation.Stub
import Mathlib.Data.List.Dedup
import Mathlib.Data.List.Infix
import Mathlib.Data.List.Perm.Subperm
import Mathlib.Data.List.Induction

/-!
# What a cache of annotators holds

The key of an annotator is made of the name of its model, so annotators that differ in their other options
share a key, and it is the first one that stays.

* `Sound`: every annotator in a cache is one that was asked for since its key was last given up.
* `get?_run`: with room for all names, it is the first of these, whatever gives way where there is none.
* `createCached_after_history`: the annotator from a cache beside the one that is made without it.
* `createCached_keeps_first_options`: the two can differ.
-/

namespace TextAnnotation

namespace Cache

theorem length_dedup_le_of_subset {l l' : List String} (h : l ⊆ l') :
    l.dedup.length ≤ l'.dedup.length := by
  have hsubset : l.dedup ⊆ l'.dedup := fun x hx => List.mem_dedup.mpr (h (List.mem_dedup.mp hx))
  exact (List.subperm_of_subset (List.nodup_dedup l) hsubset).length_le

/-- There is room for a key if there is room for more keys than those of the entries. -/
theorem room_of_subset {α : Type} {c : Cache α} (hnodup : c.keys.Nodup) {keys : List String}
    (hkeys : c.keys ⊆ keys) {key : String} (hkey : key ∈ keys) (hroom : keys.length ≤ c.capacity) :
    (c.invalidate key).entries.length < c.capacity := by
  have hfresh : key ∉ (c.invalidate key).keys := by
    intro hmem
    obtain ⟨p, hp, hpkey⟩ := List.mem_map.mp hmem
    exact (mem_invalidate.mp hp).2 hpkey
  have hnew : (key :: (c.invalidate key).keys).Nodup :=
    List.nodup_cons.mpr ⟨hfresh, nodup_keys_invalidate hnodup key⟩
  have hsubset : key :: (c.invalidate key).keys ⊆ keys := by
    refine List.cons_subset.mpr ⟨hkey, fun k hk => hkeys ?_⟩
    obtain ⟨p, hp, rfl⟩ := List.mem_map.mp hk
    exact List.mem_map_of_mem (mem_invalidate.mp hp).1
  have hlength := (List.subperm_of_subset hnew hsubset).length_le
  rw [List.length_cons, Cache.keys, List.length_map] at hlength
  omega

end Cache

inductive CacheRequest where
  | create (options : Options) (language : String)
  | invalidate (key : String)
  deriving DecidableEq, Repr

namespace CacheRequest

open Annotator (nameFor keyOf annotatorFor createCached)

def step (catalog : Catalog) (cache : Cache Annotator) : CacheRequest → Cache Annotator
  | create options language => (createCached id cache options language catalog).2
  | invalidate key => cache.invalidate key

def run (catalog : Catalog) (cache : Cache Annotator) (history : List CacheRequest) :
    Cache Annotator :=
  history.foldl (step catalog) cache

/-- Notes the options of a request for a name; they are forgotten when its key is given up. -/
def note (name : String) (asked : List Options) : CacheRequest → List Options
  | create options language =>
    if nameFor options language = name then asked ++ [options] else asked
  | invalidate key => if key = keyOf name then [] else asked

/-- The options with which a name was asked for since its key was last given up. -/
def asked (name : String) (history : List CacheRequest) : List Options :=
  history.foldl (note name) []

def names (history : List CacheRequest) : List String :=
  history.filterMap fun
    | create options language => some (nameFor options language)
    | invalidate _ => none

theorem run_snoc (catalog : Catalog) (cache : Cache Annotator) (history : List CacheRequest)
    (r : CacheRequest) : run catalog cache (history ++ [r]) = step catalog (run catalog cache history) r :=
  List.foldl_append

theorem asked_snoc (name : String) (history : List CacheRequest) (r : CacheRequest) :
    asked name (history ++ [r]) = note name (asked name history) r :=
  List.foldl_append

theorem mem_names_of_mem_asked {name : String} {history : List CacheRequest} {o : Options}
    (h : o ∈ asked name history) : name ∈ names history := by
  induction history using List.reverseRecOn with
  | nil => cases h
  | append_singleton history r ih =>
    rw [names, List.filterMap_append]
    rw [asked_snoc] at h
    cases r with
    | create options language =>
      rw [note] at h
      split at h
      · next hname => exact List.mem_append_right _ (by simp [hname])
      · exact List.mem_append_left _ (ih h)
    | invalidate key =>
      rw [note] at h
      split at h
      · cases h
      · exact List.mem_append_left _ (ih h)

theorem length_dedup_names_le_snoc (history : List CacheRequest) (r : CacheRequest) :
    (names history).dedup.length ≤ (names (history ++ [r])).dedup.length := by
  refine Cache.length_dedup_le_of_subset fun name hname => ?_
  rw [names, List.filterMap_append]
  exact List.mem_append_left _ hname

/-! ## What is in a cache -/

theorem createCached_eq (cache : Cache Annotator) (options : Options) (language : String)
    (catalog : Catalog) :
    createCached id cache options language catalog =
      cache.getOrInit (keyOf (nameFor options language))
        (Annotator.create options language catalog) := by
  rw [createCached, Annotator.componentKey_eq]
  exact congrArg (cache.getOrInit _) (Traced.bind_pure (Annotator.create options language catalog))

/-- A cache has one entry at most for a key, and every entry is an annotator that was asked for by the
name of its key since that key was last given up. -/
structure Sound (catalog : Catalog) (history : List CacheRequest) (cache : Cache Annotator) :
    Prop where
  nodup_keys : cache.keys.Nodup
  origin : ∀ p ∈ cache.entries, ∃ name, p.1 = keyOf name ∧
    ∃ o ∈ asked name history, annotatorFor catalog name o = .ok p.2

theorem sound_empty (catalog : Catalog) {capacity : Nat} (eviction : Eviction Annotator capacity) :
    Sound catalog [] (Cache.empty eviction) :=
  ⟨List.nodup_nil, fun _ hp => by cases hp⟩

theorem Sound.step {catalog : Catalog} {history : List CacheRequest} {cache : Cache Annotator}
    (h : Sound catalog history cache) (r : CacheRequest) :
    Sound catalog (history ++ [r]) (step catalog cache r) := by
  cases r with
  | create options language =>
    rw [CacheRequest.step, createCached_eq]
    refine ⟨Cache.nodup_keys_getOrInit h.nodup_keys _ _, ?_⟩
    intro p hp
    rcases Cache.mem_getOrInit hp with hold | ⟨hkey, hmade⟩
    · obtain ⟨name, hkey, o, ho, hp⟩ := h.origin p hold
      refine ⟨name, hkey, o, ?_, hp⟩
      rw [asked_snoc, note]
      split
      · exact List.mem_append_left _ ho
      · exact ho
    · rw [Annotator.create_result] at hmade
      refine ⟨nameFor options language, hkey, options, ?_, hmade⟩
      rw [asked_snoc, note, if_pos rfl]
      exact List.mem_append_right _ (List.mem_singleton_self _)
  | invalidate key =>
    refine ⟨Cache.nodup_keys_invalidate h.nodup_keys key, ?_⟩
    intro p hp
    obtain ⟨hold, hne⟩ := Cache.mem_invalidate.mp hp
    obtain ⟨name, hkey, o, ho, hp⟩ := h.origin p hold
    refine ⟨name, hkey, o, ?_, hp⟩
    have hother : key ≠ keyOf name := fun heq => hne (hkey.trans heq.symm)
    rw [asked_snoc, note, if_neg hother]
    exact ho

theorem sound_run (catalog : Catalog) {capacity : Nat} (eviction : Eviction Annotator capacity)
    (history : List CacheRequest) : Sound catalog history (run catalog (Cache.empty eviction) history) := by
  induction history using List.reverseRecOn with
  | nil => exact sound_empty catalog eviction
  | append_singleton history r ih =>
    rw [run_snoc]
    exact ih.step r

theorem capacity_run (catalog : Catalog) {capacity : Nat} (eviction : Eviction Annotator capacity)
    (history : List CacheRequest) : (run catalog (Cache.empty eviction) history).capacity = capacity := by
  induction history using List.reverseRecOn with
  | nil => rfl
  | append_singleton history r ih =>
    rw [run_snoc]
    cases r with
    | create options language =>
      rw [step, createCached_eq, Cache.capacity_getOrInit]
      exact ih
    | invalidate key => exact ih

/-! ## With room for all names -/

theorem Sound.room {catalog : Catalog} {history : List CacheRequest} {cache : Cache Annotator}
    (h : Sound catalog history cache) {options : Options} {language : String}
    (hroom : (names (history ++ [create options language])).dedup.length ≤ cache.capacity) :
    (cache.invalidate (keyOf (nameFor options language))).entries.length < cache.capacity := by
  set name := nameFor options language with hname
  have hnew : name ∈ names (history ++ [create options language]) := by
    rw [names, List.filterMap_append]
    exact List.mem_append_right _ (by simp [hname])
  refine Cache.room_of_subset h.nodup_keys (fun key hkey => ?_)
    (List.mem_map_of_mem (List.mem_dedup.mpr hnew)) (by rwa [List.length_map])
  obtain ⟨p, hp, rfl⟩ := List.mem_map.mp hkey
  obtain ⟨name', hkey', o, ho, -⟩ := h.origin p hp
  rw [hkey']
  refine List.mem_map_of_mem (List.mem_dedup.mpr ?_)
  rw [names, List.filterMap_append]
  exact List.mem_append_left _ (mem_names_of_mem_asked ho)

/-- The annotator that the first of some requests for a name has made. -/
def firstMade (catalog : Catalog) (name : String) (asked : List Options) : Option Annotator :=
  asked.head?.bind fun o => (annotatorFor catalog name o).toOption

theorem firstMade_snoc (catalog : Catalog) (name : String) (asked : List Options) (o : Options) :
    firstMade catalog name (asked ++ [o]) =
      (firstMade catalog name asked).or (annotatorFor catalog name o).toOption := by
  cases asked with
  | nil => rfl
  | cons first rest =>
    change (annotatorFor catalog name first).toOption =
      (annotatorFor catalog name first).toOption.or (annotatorFor catalog name o).toOption
    cases hfirst : annotatorFor catalog name first with
    | ok a => rfl
    | error e =>
      rw [Annotator.annotatorFor_of_error hfirst o]
      rfl

theorem get?_step {catalog : Catalog} {history : List CacheRequest} {cache : Cache Annotator}
    (h : Sound catalog history cache) {r : CacheRequest}
    (hroom : (names (history ++ [r])).dedup.length ≤ cache.capacity)
    (hget : ∀ name, cache.get? (keyOf name) = firstMade catalog name (asked name history))
    (name : String) :
    (step catalog cache r).get? (keyOf name) =
      firstMade catalog name (asked name (history ++ [r])) := by
  rw [asked_snoc]
  cases r with
  | create options language =>
    rw [step, createCached_eq, Cache.get?_getOrInit_of_room _ (h.room hroom),
      Annotator.create_result, note]
    by_cases hname : nameFor options language = name
    · rw [if_pos (congrArg keyOf hname.symm), if_pos hname, hname, firstMade_snoc, hget]
    · have hkey : keyOf name ≠ keyOf (nameFor options language) := fun heq =>
        hname (Annotator.keyOf_inj.mp heq).symm
      rw [if_neg hkey, if_neg hname, hget]
  | invalidate key =>
    rw [step, Cache.get?_invalidate, note]
    by_cases hkey : key = keyOf name
    · rw [if_pos hkey.symm, if_pos hkey]
      rfl
    · rw [if_neg (Ne.symm hkey), if_neg hkey, hget]

/-- With room for all names, a cache holds the annotator that was asked for first. -/
theorem get?_run {catalog : Catalog} {capacity : Nat} {eviction : Eviction Annotator capacity}
    {history : List CacheRequest} (hroom : (names history).dedup.length ≤ capacity) (name : String) :
    (run catalog (Cache.empty eviction) history).get? (keyOf name) =
      firstMade catalog name (asked name history) := by
  induction history using List.reverseRecOn generalizing name with
  | nil => exact Cache.get?_empty eviction (keyOf name)
  | append_singleton history r ih =>
    have hbefore := (length_dedup_names_le_snoc history r).trans hroom
    rw [run_snoc]
    refine get?_step (sound_run catalog eviction history) ?_ (fun name => ih hbefore name) name
    rwa [capacity_run]

/-! ## With and without a cache -/

theorem result_of_hit {cache : Cache Annotator} {options : Options} {language : String}
    {b : Annotator} (h : cache.get? (keyOf (nameFor options language)) = some b)
    (catalog : Catalog) : (createCached id cache options language catalog).1.result = .ok b := by
  rw [createCached_eq, Cache.getOrInit_of_hit h]
  rfl

theorem result_of_miss {cache : Cache Annotator} {options : Options} {language : String}
    (h : cache.get? (keyOf (nameFor options language)) = none) (catalog : Catalog) :
    (createCached id cache options language catalog).1.result =
      annotatorFor catalog (nameFor options language) options := by
  rw [createCached_eq, ← Annotator.create_result]
  cases hmade : (Annotator.create options language catalog).result with
  | ok a => rw [Cache.getOrInit_of_ok h hmade, hmade]
  | error e => rw [Cache.getOrInit_of_error h hmade, hmade]

/-- What a sound cache gives is what is made for some options with which the name was asked for. -/
theorem Sound.result {catalog : Catalog} {history : List CacheRequest} {cache : Cache Annotator}
    (h : Sound catalog history cache) (options : Options) (language : String) :
    ∃ o ∈ asked (nameFor options language) history ++ [options],
      (createCached id cache options language catalog).1.result =
        annotatorFor catalog (nameFor options language) o := by
  cases hget : cache.get? (keyOf (nameFor options language)) with
  | some b =>
    obtain ⟨name, hkey, o, ho, hb⟩ := h.origin _ (Cache.mem_of_get? hget)
    have hname : name = nameFor options language := Annotator.keyOf_inj.mp hkey.symm
    rw [hname] at ho hb
    exact ⟨o, List.mem_append_left _ ho, (result_of_hit hget catalog).trans hb.symm⟩
  | none =>
    exact ⟨options, List.mem_append_right _ (List.mem_singleton_self _),
      result_of_miss hget catalog⟩

theorem result_of_room {catalog : Catalog} {capacity : Nat} {eviction : Eviction Annotator capacity}
    {history : List CacheRequest}
    (hroom : (names history).dedup.length ≤ capacity) {options first : Options} {language : String}
    (hfirst : (asked (nameFor options language) history ++ [options]).head? = some first) :
    (createCached id (run catalog (Cache.empty eviction) history) options language catalog).1.result =
      annotatorFor catalog (nameFor options language) first := by
  have hget : (run catalog (Cache.empty eviction) history).get? (keyOf (nameFor options language)) =
      firstMade catalog (nameFor options language) (asked (nameFor options language) history) :=
    get?_run hroom _
  cases hasked : asked (nameFor options language) history with
  | nil =>
    rw [hasked] at hget hfirst
    cases hfirst
    exact result_of_miss hget catalog
  | cons o rest =>
    rw [hasked] at hget hfirst
    cases hfirst
    cases hmade : annotatorFor catalog (nameFor options language) first with
    | ok b =>
      rw [firstMade, List.head?_cons, Option.bind_some, hmade] at hget
      exact result_of_hit hget catalog
    | error e =>
      rw [firstMade, List.head?_cons, Option.bind_some, hmade] at hget
      rw [result_of_miss hget catalog]
      exact Annotator.annotatorFor_of_error hmade options

/-- What the cache behind a history gives is what is made for some options with which the name was asked
for, and for the first of them if there is room for all names. -/
theorem result_run (catalog : Catalog) {capacity : Nat} (eviction : Eviction Annotator capacity)
    (history : List CacheRequest) (options : Options) (language : String) :
    ∃ o ∈ asked (nameFor options language) history ++ [options],
      (createCached id (run catalog (Cache.empty eviction) history) options language
        catalog).1.result = annotatorFor catalog (nameFor options language) o ∧
      ((names history).dedup.length ≤ capacity →
        (asked (nameFor options language) history ++ [options]).head? = some o) := by
  by_cases hroom : (names history).dedup.length ≤ capacity
  · cases hhead : (asked (nameFor options language) history ++ [options]).head? with
    | none =>
      rw [List.head?_eq_none_iff] at hhead
      exact absurd hhead (List.append_ne_nil_of_right_ne_nil _ (List.cons_ne_nil _ _))
    | some o =>
      exact ⟨o, List.mem_of_mem_head? hhead, result_of_room hroom hhead, fun _ => rfl⟩
  · obtain ⟨o, ho, hcached⟩ := (sound_run catalog eviction history).result options language
    exact ⟨o, ho, hcached, fun h => absurd h hroom⟩

end CacheRequest

namespace Annotator

/-- With a cache there is an annotator if and only if there is one without it, and it has the same model
under the same name. Its other options are those of some request for the name since its key was last given
up; with room for all names, those of the first. -/
theorem createCached_after_history (catalog : Catalog) {capacity : Nat}
    (eviction : Eviction Annotator capacity) (history : List CacheRequest) (options : Options)
    (language : String) :
    let cache := CacheRequest.run catalog (Cache.empty eviction) history
    let asked := CacheRequest.asked (nameFor options language) history ++ [options]
    let cached := (createCached id cache options language catalog).1.result
    match (create options language catalog).result with
    | .error e => cached = .error e
    | .ok a => ∃ o ∈ asked, ∃ b, cached = .ok b ∧ b.model = a.model ∧
        b.options = { o with model := a.options.model } ∧
        (b = a ↔ o.caseSensitive = options.caseSensitive ∧ o.batchSize = options.batchSize) ∧
        (o.caseSensitive = options.caseSensitive → ∀ m, b.annotate m = a.annotate m) ∧
        (o.caseSensitive = options.caseSensitive →
          (∀ texts, a.model.pipe texts o.batchSize.toNat =
            a.model.pipe texts options.batchSize.toNat) →
          ∀ examples, b.learnInPlace examples = a.learnInPlace examples) ∧
        ((CacheRequest.names history).dedup.length ≤ capacity → asked.head? = some o) := by
  intro cache asked cached
  obtain ⟨o, ho, hcached, hfirst⟩ : ∃ o ∈ asked,
      cached = annotatorFor catalog (nameFor options language) o ∧
      ((CacheRequest.names history).dedup.length ≤ capacity → asked.head? = some o) :=
    CacheRequest.result_run catalog eviction history options language
  rw [hcached, create_result]
  cases hmade : annotatorFor catalog (nameFor options language) options with
  | error e => exact annotatorFor_of_error hmade o
  | ok a =>
    obtain ⟨hoptions, hb⟩ := annotatorFor_of_ok hmade o
    have hcase : o.caseSensitive = options.caseSensitive →
        o.caseSensitive = a.options.caseSensitive := by
      rw [hoptions]
      exact id
    refine ⟨o, ho, _, hb, rfl, by rw [hoptions], ?_, fun h => annotate_congr rfl (hcase h),
      fun h hpipe => learnInPlace_congr rfl (hcase h) (by rw [hoptions]; exact hpipe), hfirst⟩
    obtain ⟨aoptions, model⟩ := a
    cases hoptions
    simp

/-- A cached annotator keeps the options with which it was made. -/
theorem createCached_keeps_first_options :
    let catalog := Stub.catalog [("en", some ⟨"en", true, false⟩)]
    let keen : Options := { Options.default with caseSensitive := true }
    let cache := CacheRequest.run catalog (Cache.empty (.oldest Annotator 16)) [.create keen "en"]
    let m := Message.ofText "Hi"
    ∃ a b, (create Options.default "en" catalog).result = .ok a ∧
      (createCached id cache Options.default "en" catalog).1.result = .ok b ∧
      b.options ≠ a.options ∧
      ((a.annotate m).message.doc .text).map (·.text) = some "hi" ∧
      ((b.annotate m).message.doc .text).map (·.text) = some "Hi" :=
  ⟨_, _, rfl, rfl, by decide, rfl, rfl⟩

end Annotator

end TextAnnotation
