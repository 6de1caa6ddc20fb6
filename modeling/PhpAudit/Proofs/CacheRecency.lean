import Mathlib.Data.List.DropRight
import PhpAudit.Proofs.CacheInterleaving

/-!
The order of a cache as a function of its history. When contents are fetched one after another from
an empty cache, the keys it holds are the last distinct ones that were fetched with success, as many
as it has room for and in the order of their last use. Expiry does not show in this list: an entry
that is too old is parsed again and takes the same place it would have had after a hit. It only
decides whether the grammar is called, so the calls of the grammar are recorded along with the
history.
-/

namespace PhpAudit

/-- The last distinct keys, at most as many as fit, in the order of their last occurrence. -/
def recentKeys (capacity : Nat) (keys : List String) : List String := keys.dedup.rtake capacity

/-- Keys in the order of their last use after one more use. The oldest ones make room for a key
that is new. -/
def promote (capacity : Nat) (keys : List String) (key : String) : List String :=
  (if key ∈ keys then keys.filter (· != key) else keys.drop (keys.length + 1 - capacity)) ++ [key]

theorem recentKeys_length_le (capacity : Nat) (keys : List String) :
    (recentKeys capacity keys).length ≤ capacity := by
  simp only [recentKeys, List.rtake, List.length_drop]
  omega

/-- Distinct keys split into those that have been dropped and the recent ones; if any have been
dropped, the recent ones fill the cache. -/
theorem dedup_eq_dropped_append (capacity : Nat) (keys : List String) :
    ∃ dropped, keys.dedup = dropped ++ recentKeys capacity keys ∧
      (dropped = [] ∨ (recentKeys capacity keys).length = capacity) := by
  refine ⟨keys.dedup.take (keys.dedup.length - capacity), ?_, ?_⟩
  · exact (List.take_append_drop _ _).symm
  · by_cases hfits : keys.dedup.length ≤ capacity
    · left
      simp [Nat.sub_eq_zero_of_le hfits]
    · right
      simp only [recentKeys, List.rtake, List.length_drop]
      omega

theorem rtake_append_of_le {front back : List String} {n : Nat} (h : n ≤ back.length) :
    (front ++ back).rtake n = back.rtake n := by
  simp only [List.rtake, List.length_append]
  rw [List.drop_append, List.drop_of_length_le (by omega), List.nil_append]
  congr 1
  omega

theorem rtake_of_length_le {keys : List String} {n : Nat} (h : keys.length ≤ n) :
    keys.rtake n = keys := by
  simp [List.rtake, Nat.sub_eq_zero_of_le h]

theorem filter_ne_of_notMem {keys : List String} {key : String} (h : key ∉ keys) :
    keys.filter (· != key) = keys := by
  apply List.filter_eq_self.mpr
  intro other hother
  have hne : other ≠ key := by
    rintro rfl
    exact h hother
  simpa using hne

/-- A distinct list loses exactly one key. -/
theorem length_filter_ne {keys : List String} (hkeys : keys.Nodup) {key : String}
    (h : key ∈ keys) : (keys.filter (· != key)).length + 1 = keys.length := by
  rw [← hkeys.erase_eq_filter key]
  exact List.length_erase_add_one h

/-- One more use turns the recent keys into what promoting the key makes of them. -/
theorem recentKeys_concat {capacity : Nat} (hcapacity : 0 < capacity) (keys : List String)
    (key : String) :
    recentKeys capacity (keys ++ [key]) = promote capacity (recentKeys capacity keys) key := by
  obtain ⟨room, rfl⟩ : ∃ room, capacity = room + 1 := ⟨capacity - 1, by omega⟩
  obtain ⟨dropped, hsplit, hfull⟩ := dedup_eq_dropped_append (room + 1) keys
  have hlength := recentKeys_length_le (room + 1) keys
  have hnodup : (dropped ++ recentKeys (room + 1) keys).Nodup := by
    rw [← hsplit]
    exact List.nodup_dedup keys
  have hconcat : recentKeys (room + 1) (keys ++ [key]) =
      ((dropped ++ recentKeys (room + 1) keys).filter (· != key)).rtake room ++ [key] := by
    rw [recentKeys, dedup_concat, List.rtake_concat_succ, hsplit]
  rw [hconcat, promote, List.filter_append]
  congr 1
  by_cases hmem : key ∈ recentKeys (room + 1) keys
  · have hone := length_filter_ne (List.Nodup.of_append_right hnodup) hmem
    rw [if_pos hmem]
    rcases hfull with rfl | hfull
    · exact rtake_of_length_le (by simp only [List.filter_nil, List.nil_append]; omega)
    · rw [rtake_append_of_le (by omega), rtake_of_length_le (by omega)]
  · rw [if_neg hmem, filter_ne_of_notMem hmem]
    rcases hfull with rfl | hfull
    · simp [List.rtake]
    · rw [rtake_append_of_le (by omega)]
      simp [List.rtake]

namespace TreeCache

theorem keys_touched_eq_promote {cache : TreeCache} {key : String} {entry : CacheEntry}
    (hfind : cache.find? key = some entry) (capacity : Nat) (now : Float) :
    (cache.touched entry now).keys = promote capacity cache.keys key := by
  have hkey := (of_find?_eq_some hfind).2
  rw [keys_touched, promote, if_pos (mem_keys_of_find? hfind), hkey]

/-- Storing after a miss. If the key was there but too old, dropping it has made room already. -/
theorem keys_missed_store {cache : TreeCache} (hbounded : cache.keys.length ≤ cache.capacity)
    (key : String) (tree : SyntaxTree) (now : Float) :
    ((cache.missed key).store key tree now).keys = promote cache.capacity cache.keys key := by
  have habsent : key ∉ (cache.missed key).keys := by simp [keys_missed]
  have hkept : ((cache.missed key).kept key).map (·.key) =
      (cache.missed key).keys.drop ((cache.missed key).keys.length + 1 - cache.capacity) := by
    rw [kept, if_neg habsent, List.map_drop]
    apply List.drop_eq_drop_iff.mpr
    simp only [surplus, keys, missed, List.length_take, List.length_map]
    omega
  rw [keys_store, hkept, promote, keys_missed]
  congr 1
  by_cases hmem : key ∈ cache.keys
  · have hfewer : (cache.keys.filter (· != key)).length < cache.keys.length :=
      List.length_filter_lt_length_iff_exists.mpr ⟨key, hmem, by simp⟩
    have hroom : (cache.keys.filter (· != key)).length + 1 - cache.capacity = 0 := by omega
    rw [if_pos hmem, hroom, List.drop_zero]
  · rw [if_neg hmem, filter_ne_of_notMem hmem]

end TreeCache

namespace CacheUse

/-- The contents that are fetched. -/
def fetched (uses : List CacheUse) : Set Bytes :=
  { content | ∃ path mtime, fetch path content mtime ∈ uses }

/-- The key of a fetch that succeeds. -/
def success? (g : Grammar) : CacheUse → Option String
  | .fetch _ content mtime =>
      match g.fresh content with
      | .ok _ => some (TreeCache.fingerprint content mtime)
      | .error _ => none
  | .clock _ => none

end CacheUse

/-- When the last call for a key ended. -/
def ParserCall.lastFor? (parses : List ParserCall) (key : String) : Option Float :=
  (parses.filter (·.key == key)).getLast?.map (·.ended)

theorem ParserCall.lastFor?_concat_self (parses : List ParserCall) (key : String) (ended : Float) :
    lastFor? (parses ++ [⟨key, ended⟩]) key = some ended := by
  simp [lastFor?, List.filter_append]

theorem ParserCall.lastFor?_concat_of_ne (parses : List ParserCall) {key other : String}
    (hne : other ≠ key) (ended : Float) :
    lastFor? (parses ++ [⟨key, ended⟩]) other = lastFor? parses other := by
  simp [lastFor?, List.filter_append, Ne.symm hne]

namespace Replay

/-- A fetch hits a live entry and calls nothing, or misses and calls the grammar once. -/
theorem fetch_cases (g : Grammar) (path : String) (content : Bytes) (mtime : Value) (r : Replay) :
    let key := TreeCache.fingerprint content mtime
    let cache := r.session.cache
    (∃ entry, cache.find? key = some entry ∧ cache.isExpired entry r.session.clock = false ∧
      r.fetch g path content mtime = (.ok entry.tree,
        { r with session := { r.session with cache := cache.touched entry r.session.clock } })) ∨
    ((∀ entry, cache.find? key = some entry → cache.isExpired entry r.session.clock = true) ∧
      ∃ session, r.fetch g path content mtime =
          (g.fresh content, ⟨session, r.parses ++ [⟨key, session.clock⟩]⟩) ∧
        ((∃ f, g.fresh content = .error f ∧ session.cache = cache.missed key) ∨
          ∃ tree, g.fresh content = .ok tree ∧
            session.cache = (cache.missed key).store key tree session.clock)) := by
  intro key cache
  obtain ⟨entry, hfind, hlive, hlookup⟩ | ⟨hexpired, hlookup⟩ :=
    cache.lookup_cases key r.session.clock
  · refine Or.inl ⟨entry, hfind, hlive, ?_⟩
    simp only [fetch]
    rw [hlookup]
  · let missed : Session := { r.session with cache := cache.missed key }
    refine Or.inr ⟨hexpired, (missed.parseAndStore g path key content).2, ?_, ?_⟩
    · simp only [fetch]
      rw [hlookup, ← Session.parseAndStore_result g path key content missed]
    · obtain ⟨f, hfresh, hparse⟩ | ⟨tree, lines, hfresh, hparse⟩ :=
        missed.parseAndStore_cases g path key content
      · rw [hparse]
        exact Or.inl ⟨f, hfresh, rfl⟩
      · rw [hparse]
        exact Or.inr ⟨tree, hfresh, rfl⟩

/-- What the history of uses says about a replay: which keys are there and in which order, when
each entry was parsed, and that every miss called the grammar once. -/
structure Tracks (g : Grammar) (capacity : Nat) (ttl : Value.Num) (known : Set Bytes)
    (history : List CacheUse) (r : Replay) : Prop where
  room : r.session.cache.capacity = capacity
  lifetime : r.session.cache.ttl = ttl
  keys : r.session.cache.keys = recentKeys capacity (history.filterMap (CacheUse.success? g))
  sound : r.session.cache.Sound g known
  created : ∀ entry ∈ r.session.cache.entries,
    ParserCall.lastFor? r.parses entry.key = some entry.createdAt
  counted : r.parses.length = r.session.cache.misses

variable {g : Grammar} {capacity : Nat} {ttl : Value.Num} {known : Set Bytes}
  {history : List CacheUse} {r : Replay}

theorem Tracks.hit (h : Tracks g capacity ttl known history r) (hcapacity : 0 < capacity)
    (hdigest : Set.InjOn Sha256.hexDigest known) (path : String) {content : Bytes}
    (hcontent : content ∈ known) (mtime : Value) {entry : CacheEntry} {now : Float}
    (hfind : r.session.cache.find? (TreeCache.fingerprint content mtime) = some entry) :
    Tracks g capacity ttl known (history ++ [.fetch path content mtime])
      { r with session := { r.session with cache := r.session.cache.touched entry now } } := by
  obtain ⟨hentry, hkey⟩ := TreeCache.of_find?_eq_some hfind
  obtain ⟨other, hother, time, hfiled, htree⟩ := h.sound entry hentry
  have hsame : content = other :=
    TreeCache.content_eq_of_fingerprint_eq hdigest hcontent hother (hkey.symm.trans hfiled)
  have hmem : ∀ e ∈ (r.session.cache.touched entry now).entries,
      ∃ old ∈ r.session.cache.entries,
        e.key = old.key ∧ e.tree = old.tree ∧ e.createdAt = old.createdAt := by
    intro e he
    rcases List.mem_append.mp he with hold | hnew
    · exact ⟨e, (List.mem_filter.mp hold).1, rfl, rfl, rfl⟩
    · cases List.mem_singleton.mp hnew
      exact ⟨entry, hentry, rfl, rfl, rfl⟩
  refine ⟨h.room, h.lifetime, ?_, ?_, ?_, h.counted⟩
  · have hsuccess : CacheUse.success? g (.fetch path content mtime) =
        some (TreeCache.fingerprint content mtime) := by
      simp [CacheUse.success?, hsame, htree]
    rw [List.filterMap_append, List.filterMap_cons_some hsuccess, List.filterMap_nil,
      recentKeys_concat hcapacity, ← h.keys]
    exact TreeCache.keys_touched_eq_promote hfind capacity now
  · intro e he
    obtain ⟨old, hold, holdKey, holdTree, _⟩ := hmem e he
    simpa only [CacheEntry.HoldsParse, holdKey, holdTree] using h.sound old hold
  · intro e he
    obtain ⟨old, hold, holdKey, _, holdTime⟩ := hmem e he
    simpa only [holdKey, holdTime] using h.created old hold

theorem Tracks.fault (h : Tracks g capacity ttl known history r)
    (hdigest : Set.InjOn Sha256.hexDigest known) (path : String) {content : Bytes}
    (hcontent : content ∈ known) (mtime : Value) {f : Failure}
    (hfresh : g.fresh content = .error f) {session : Session}
    (hcache : session.cache = r.session.cache.missed (TreeCache.fingerprint content mtime)) :
    session.cache.entries = r.session.cache.entries ∧
    Tracks g capacity ttl known (history ++ [.fetch path content mtime])
      ⟨session, r.parses ++ [⟨TreeCache.fingerprint content mtime, session.clock⟩]⟩ := by
  have habsent := h.sound.notMem_keys_of_fault hdigest hcontent mtime hfresh
  have hentries : session.cache.entries = r.session.cache.entries := by
    rw [hcache]
    exact TreeCache.without_of_notMem habsent
  refine ⟨hentries, ?_, ?_, ?_, ?_, ?_, ?_⟩
  · rw [hcache]
    exact h.room
  · rw [hcache]
    exact h.lifetime
  · have hsuccess : CacheUse.success? g (.fetch path content mtime) = none := by
      simp [CacheUse.success?, hfresh]
    rw [List.filterMap_append, List.filterMap_cons_none hsuccess, List.filterMap_nil,
      List.append_nil, ← h.keys]
    simp only [TreeCache.keys, hentries]
  · intro entry hentry
    exact h.sound entry (hentries ▸ hentry)
  · intro entry hentry
    have hold : entry ∈ r.session.cache.entries := hentries ▸ hentry
    have hne : entry.key ≠ TreeCache.fingerprint content mtime := by
      intro hsame
      exact habsent (List.mem_map.mpr ⟨entry, hold, hsame⟩)
    rw [ParserCall.lastFor?_concat_of_ne r.parses hne]
    exact h.created entry hold
  · rw [hcache]
    simp [h.counted, TreeCache.missed]

theorem Tracks.parsed (h : Tracks g capacity ttl known history r) (hcapacity : 0 < capacity)
    (path : String) {content : Bytes} (hcontent : content ∈ known) (mtime : Value)
    {tree : SyntaxTree} (hfresh : g.fresh content = .ok tree) {session : Session}
    (hcache : session.cache = (r.session.cache.missed (TreeCache.fingerprint content mtime)).store
      (TreeCache.fingerprint content mtime) tree session.clock) :
    Tracks g capacity ttl known (history ++ [.fetch path content mtime])
      ⟨session, r.parses ++ [⟨TreeCache.fingerprint content mtime, session.clock⟩]⟩ := by
  have hmissed : (r.session.cache.missed (TreeCache.fingerprint content mtime)).Sound g known :=
    fun entry hentry => h.sound entry (List.mem_filter.mp hentry).1
  obtain ⟨made, hkey, _, htime, hstore⟩ :=
    (r.session.cache.missed (TreeCache.fingerprint content mtime)).store_entries
      (TreeCache.fingerprint content mtime) tree session.clock
  refine ⟨?_, ?_, ?_, ?_, ?_, ?_⟩
  · rw [hcache, TreeCache.store_capacity]
    exact h.room
  · rw [hcache, hstore]
    exact h.lifetime
  · have hsuccess : CacheUse.success? g (.fetch path content mtime) =
        some (TreeCache.fingerprint content mtime) := by
      simp [CacheUse.success?, hfresh]
    have hbounded : r.session.cache.keys.length ≤ r.session.cache.capacity := by
      rw [h.keys, h.room]
      exact recentKeys_length_le _ _
    rw [List.filterMap_append, List.filterMap_cons_some hsuccess, List.filterMap_nil,
      recentKeys_concat hcapacity, ← h.keys, ← h.room, hcache]
    exact TreeCache.keys_missed_store hbounded _ tree session.clock
  · rw [hcache]
    exact hmissed.store hcontent mtime hfresh session.clock
  · intro entry hentry
    rw [hcache, hstore] at hentry
    rcases List.mem_append.mp hentry with hold | hnew
    · have hne : entry.key ≠ TreeCache.fingerprint content mtime := by
        intro hsame
        exact TreeCache.notMem_kept _ _ (List.mem_map.mpr ⟨entry, hold, hsame⟩)
      have hbefore := (TreeCache.kept_sublist _ _).subset hold
      rw [ParserCall.lastFor?_concat_of_ne r.parses hne]
      exact h.created entry (List.mem_filter.mp hbefore).1
    · cases List.mem_singleton.mp hnew
      rw [hkey, htime]
      exact ParserCall.lastFor?_concat_self r.parses _ session.clock
  · rw [hcache, hstore]
    simp [h.counted, TreeCache.missed]

/-- Every use keeps the replay in step with its history. -/
theorem Tracks.step (h : Tracks g capacity ttl known history r) (hcapacity : 0 < capacity)
    (hdigest : Set.InjOn Sha256.hexDigest known) (use : CacheUse)
    (huse : CacheUse.fetched [use] ⊆ known) :
    Tracks g capacity ttl known (history ++ [use]) (step g r use) := by
  cases use with
  | clock now =>
      refine ⟨h.room, h.lifetime, ?_, h.sound, h.created, h.counted⟩
      rw [List.filterMap_append, List.filterMap_cons_none rfl, List.filterMap_nil, List.append_nil]
      exact h.keys
  | fetch path content mtime =>
      have hcontent : content ∈ known := huse ⟨path, mtime, List.mem_singleton.mpr rfl⟩
      obtain ⟨entry, hfind, _, hfetch⟩ | ⟨_, session, hfetch, hresult⟩ :=
        r.fetch_cases g path content mtime
      · simp only [Replay.step, hfetch]
        exact h.hit hcapacity hdigest path hcontent mtime hfind
      · simp only [Replay.step, hfetch]
        obtain ⟨f, hfresh, hcache⟩ | ⟨tree, hfresh, hcache⟩ := hresult
        · exact (h.fault hdigest path hcontent mtime hfresh hcache).2
        · exact h.parsed hcapacity path hcontent mtime hfresh hcache

theorem Tracks.run (h : Tracks g capacity ttl known history r) (hcapacity : 0 < capacity)
    (hdigest : Set.InjOn Sha256.hexDigest known) (uses : List CacheUse)
    (huses : CacheUse.fetched uses ⊆ known) :
    Tracks g capacity ttl known (history ++ uses) (run g uses r) := by
  induction uses generalizing history r with
  | nil =>
      rw [List.append_nil]
      exact h
  | cons use rest ih =>
      have hfirst : CacheUse.fetched [use] ⊆ known := by
        rintro content ⟨path, mtime, hmem⟩
        exact huses ⟨path, mtime, List.mem_cons.mpr (Or.inl (List.mem_singleton.mp hmem))⟩
      have hrest : CacheUse.fetched rest ⊆ known := by
        rintro content ⟨path, mtime, hmem⟩
        exact huses ⟨path, mtime, List.mem_cons_of_mem use hmem⟩
      have htail := ih (h.step hcapacity hdigest use hfirst) hrest
      rw [List.append_assoc, List.singleton_append] at htail
      exact htail

end Replay

end PhpAudit
