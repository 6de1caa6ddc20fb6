import Mathlib.Data.List.Nodup
import PhpAudit.Proofs.CacheSteps

/-!
Any number of fetches at once. A fetch runs in two steps, its lookup and, after a miss, the end of
its parse; between them other fetches may look up and store, the clock may be set to anything, and
the cache may be pruned or cleared. Each step keeps the cache well formed and sound, so that every
reachable state is safe and every fetch is answered with what reading its content afresh gives.
-/

namespace PhpAudit

namespace TreeCache

theorem nodup_keys_lookup {cache : TreeCache} (h : cache.keys.Nodup) (key : String) (now : Float) :
    (cache.lookup key now).2.keys.Nodup := by
  obtain ⟨entry, hfind, _, hlookup⟩ | ⟨_, hlookup⟩ := cache.lookup_cases key now
  · rw [hlookup, keys_touched]
    simpa using (h.filter _).concat (by simp)
  · rw [hlookup, keys_missed]
    exact h.filter _

theorem length_lookup_le (cache : TreeCache) (key : String) (now : Float) :
    (cache.lookup key now).2.entries.length ≤ cache.entries.length := by
  obtain ⟨entry, hfind, _, hlookup⟩ | ⟨_, hlookup⟩ := cache.lookup_cases key now
  · obtain ⟨hentry, hkey⟩ := of_find?_eq_some hfind
    have hdropped : (without cache.entries entry.key).length < cache.entries.length :=
      List.length_filter_lt_length_iff_exists.mpr ⟨entry, hentry, by simp⟩
    rw [hlookup]
    simp only [touched, List.length_append, List.length_singleton]
    omega
  · rw [hlookup]
    exact List.length_filter_le _ _

theorem nodup_keys_store {cache : TreeCache} (h : cache.keys.Nodup) (key : String)
    (tree : SyntaxTree) (now : Float) : (cache.store key tree now).keys.Nodup := by
  have hkept : ((cache.kept key).map (·.key)).Nodup := h.sublist ((cache.kept_sublist key).map _)
  rw [keys_store]
  simpa using hkept.concat (cache.notMem_kept key)

theorem length_store_le (cache : TreeCache) (key : String) (tree : SyntaxTree) (now : Float)
    (hcapacity : 0 < cache.capacity) (hbounded : cache.entries.length ≤ cache.capacity) :
    (cache.store key tree now).entries.length ≤ cache.capacity := by
  obtain ⟨entry, _, _, _, hstore⟩ := cache.store_entries key tree now
  have hkept := cache.kept_length_lt key hcapacity hbounded
  rw [hstore]
  simp only [List.length_append, List.length_singleton]
  omega

@[simp] theorem lookup_capacity (cache : TreeCache) (key : String) (now : Float) :
    (cache.lookup key now).2.capacity = cache.capacity := by
  obtain ⟨_, _, _, hlookup⟩ | ⟨_, hlookup⟩ := cache.lookup_cases key now
  · rw [hlookup]; rfl
  · rw [hlookup]; rfl

@[simp] theorem store_capacity (cache : TreeCache) (key : String) (tree : SyntaxTree)
    (now : Float) :
    (cache.store key tree now).capacity = cache.capacity := by
  obtain ⟨_, _, _, _, hstore⟩ := cache.store_entries key tree now
  rw [hstore]

/-- What the operations keep true of a cache: it has room, its keys are distinct and not too many,
and every entry holds the tree of a known content that it is filed under. -/
structure WellKept (g : Grammar) (known : Set Bytes) (cache : TreeCache) : Prop where
  capacity : 0 < cache.capacity
  distinct : cache.keys.Nodup
  bounded : cache.entries.length ≤ cache.capacity
  sound : cache.Sound g known

variable {g : Grammar} {known : Set Bytes} {cache : TreeCache}

theorem WellKept.lookup (h : cache.WellKept g known) (key : String) (now : Float) :
    (cache.lookup key now).2.WellKept g known where
  capacity := by
    rw [lookup_capacity]
    exact h.capacity
  distinct := nodup_keys_lookup h.distinct key now
  bounded := by
    rw [lookup_capacity]
    exact (cache.length_lookup_le key now).trans h.bounded
  sound := h.sound.lookup key now

theorem WellKept.store (h : cache.WellKept g known) {content : Bytes} (hcontent : content ∈ known)
    (mtime : Value) {tree : SyntaxTree} (htree : g.fresh content = .ok tree) (now : Float) :
    (cache.store (fingerprint content mtime) tree now).WellKept g known where
  capacity := by
    rw [store_capacity]
    exact h.capacity
  distinct := nodup_keys_store h.distinct _ tree now
  bounded := by
    rw [store_capacity]
    exact cache.length_store_le _ tree now h.capacity h.bounded
  sound := h.sound.store hcontent mtime htree now

theorem WellKept.prune (h : cache.WellKept g known) (now : Float) :
    (cache.prune now).2.WellKept g known where
  capacity := h.capacity
  distinct := h.distinct.sublist (List.filter_sublist.map _)
  bounded := (List.length_filter_le _ _).trans h.bounded
  sound := h.sound.prune now

theorem WellKept.clear (h : cache.WellKept g known) : cache.clear.2.WellKept g known where
  capacity := h.capacity
  distinct := List.nodup_nil
  bounded := Nat.zero_le _
  sound := by simp [Sound, TreeCache.clear]

end TreeCache

namespace FetchEvent

/-- The contents that are fetched. -/
def asked (events : List FetchEvent) : Set Bytes :=
  { content | ∃ path mtime, lookup path content mtime ∈ events }

end FetchEvent

namespace Fetching

/-- What holds of every reachable state: the cache is well kept, and fetches that have been
answered were answered with what reading afresh gives. -/
structure Safe (g : Grammar) (known : Set Bytes) (state : Fetching) : Prop where
  cache : state.session.cache.WellKept g known
  started : ∀ call ∈ state.calls, call.content ∈ known
  answered : ∀ call ∈ state.calls, ∀ result, call.outcome = some result →
    result = g.fresh call.content

variable {g : Grammar} {known : Set Bytes} {state : Fetching}

theorem Safe.lookup (h : Safe g known state) (hdigest : Set.InjOn Sha256.hexDigest known)
    (path : String) {content : Bytes} (hcontent : content ∈ known) (mtime : Value) :
    Safe g known (step g state (.lookup path content mtime)) where
  cache := h.cache.lookup _ _
  started := by
    intro call hcall
    rcases List.mem_append.mp hcall with hold | hnew
    · exact h.started call hold
    · cases List.mem_singleton.mp hnew
      exact hcontent
  answered := by
    intro call hcall result hresult
    rcases List.mem_append.mp hcall with hold | hnew
    · exact h.answered call hold result hresult
    · cases List.mem_singleton.mp hnew
      obtain ⟨tree, hhit, hok⟩ := Option.map_eq_some_iff.mp hresult
      rw [← hok]
      exact (h.cache.sound.fresh_of_hit hdigest hcontent hhit).symm

/-- The end of a parse answers the fetch that waits for it and stores its tree, if there is one;
where no fetch waits, nothing happens. -/
theorem finish_cases (g : Grammar) (state : Fetching) (i : Nat) :
    (step g state (.finish i) = state ∧
      ∀ call, state.calls[i]? = some call → call.outcome ≠ none) ∨
    ∃ path content mtime, state.calls[i]? = some ⟨path, content, mtime, none⟩ ∧
      (step g state (.finish i)).calls =
        state.calls.set i ⟨path, content, mtime, some (g.fresh content)⟩ ∧
      ((step g state (.finish i)).session.cache = state.session.cache ∨
        ∃ tree now, g.fresh content = .ok tree ∧ (step g state (.finish i)).session.cache =
          state.session.cache.store (TreeCache.fingerprint content mtime) tree now) := by
  by_cases hwaiting : ∃ path content mtime, state.calls[i]? = some ⟨path, content, mtime, none⟩
  · obtain ⟨path, content, mtime, hcall⟩ := hwaiting
    refine Or.inr ⟨path, content, mtime, hcall, ?_, ?_⟩
    · simp only [step, hcall, Session.parseAndStore_result]
    · simp only [step, hcall]
      obtain ⟨_, _, hparse⟩ | ⟨tree, lines, hfresh, hparse⟩ :=
        state.session.parseAndStore_cases g path (TreeCache.fingerprint content mtime) content
      · rw [hparse]
        exact Or.inl rfl
      · rw [hparse]
        exact Or.inr ⟨tree, _, hfresh, rfl⟩
  · have hnone : ∀ call, state.calls[i]? = some call → call.outcome ≠ none := by
      rintro ⟨path, content, mtime, outcome⟩ hcall rfl
      exact hwaiting ⟨path, content, mtime, hcall⟩
    refine Or.inl ⟨?_, hnone⟩
    simp only [step]
    split
    · rename_i path content mtime hcall
      exact absurd rfl (hnone _ hcall)
    · rfl

theorem Safe.finish (h : Safe g known state) (i : Nat) :
    Safe g known (step g state (.finish i)) := by
  obtain ⟨hidle, _⟩ | ⟨path, content, mtime, hcall, hcalls, hcache⟩ := finish_cases g state i
  · rw [hidle]
    exact h
  · have hcontent : content ∈ known := h.started _ (List.mem_of_getElem? hcall)
    refine ⟨?_, ?_, ?_⟩
    · obtain hsame | ⟨tree, now, hfresh, hstore⟩ := hcache
      · rw [hsame]
        exact h.cache
      · rw [hstore]
        exact h.cache.store hcontent mtime hfresh now
    · intro call hset
      rw [hcalls] at hset
      rcases List.mem_or_eq_of_mem_set hset with hold | rfl
      · exact h.started call hold
      · exact hcontent
    · intro call hset result hresult
      rw [hcalls] at hset
      rcases List.mem_or_eq_of_mem_set hset with hold | rfl
      · exact h.answered call hold result hresult
      · exact (Option.some.inj hresult).symm

/-- Every single step keeps a state safe. -/
theorem Safe.step (h : Safe g known state) (hdigest : Set.InjOn Sha256.hexDigest known)
    (event : FetchEvent) (hevent : FetchEvent.asked [event] ⊆ known) :
    Safe g known (step g state event) := by
  cases event with
  | lookup path content mtime =>
      have hcontent : content ∈ known := hevent ⟨path, mtime, List.mem_singleton.mpr rfl⟩
      exact h.lookup hdigest path hcontent mtime
  | finish i => exact h.finish i
  | clock now => exact ⟨h.cache, h.started, h.answered⟩
  | prune => exact ⟨h.cache.prune _, h.started, h.answered⟩
  | clear => exact ⟨h.cache.clear, h.started, h.answered⟩

theorem Safe.run (h : Safe g known state) (hdigest : Set.InjOn Sha256.hexDigest known)
    (events : List FetchEvent) (hevents : FetchEvent.asked events ⊆ known) :
    Safe g known (run g events state) := by
  induction events generalizing state with
  | nil => exact h
  | cons event rest ih =>
      have hfirst : FetchEvent.asked [event] ⊆ known := by
        rintro content ⟨path, mtime, hmem⟩
        exact hevents ⟨path, mtime, List.mem_cons.mpr (Or.inl (List.mem_singleton.mp hmem))⟩
      have hrest : FetchEvent.asked rest ⊆ known := by
        rintro content ⟨path, mtime, hmem⟩
        exact hevents ⟨path, mtime, List.mem_cons_of_mem event hmem⟩
      exact ih (h.step hdigest event hfirst) hrest

end Fetching

end PhpAudit
