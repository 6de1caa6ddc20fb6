import Mathlib.Data.List.Dedup
import PhpAudit.Proofs.Fingerprint
import PhpAudit.Fetching

/-!
What each operation of the tree cache does, said once. A lookup either touches a live entry or
drops the entry under its key; storing puts one entry at the end of those that are kept. Everything
known about longer histories is derived from these two facts.

A cache is sound when every entry holds the tree of some content it is filed under. Where digests
do not collide on the contents in question, a sound cache can only give the tree that reading the
content afresh would give.
-/

namespace PhpAudit

/-- What reading a content afresh gives: its tree, or the failure that tells its first fault. -/
def Grammar.fresh (g : Grammar) (content : Bytes) : Except Failure SyntaxTree :=
  ((g.read content).parse content).mapError ParseFault.toFailure

theorem Grammar.exists_fault {g : Grammar} {content : Bytes} {f : Failure}
    (h : g.fresh content = .error f) : ∃ fault : ParseFault, f = fault.toFailure := by
  unfold fresh at h
  cases hparse : (g.read content).parse content with
  | error fault =>
      rw [hparse] at h
      exact ⟨fault, (Except.error.inj h).symm⟩
  | ok tree =>
      rw [hparse] at h
      cases h

/-- The smallest grammar with both outcomes: the empty text is clean and any other is faulty. -/
def Grammar.blank : Grammar where
  read content :=
    ⟨⟨"program", none, 0, content.length, 0, 0, true, false, false, []⟩, !content.isEmpty⟩
  seconds _ := 0.5

/-- One more use of a key takes it out of its old place. -/
theorem dedup_concat {α : Type} [DecidableEq α] (keys : List α) (key : α) :
    (keys ++ [key]).dedup = keys.dedup.filter (· != key) ++ [key] := by
  induction keys with
  | nil => simp
  | cons first rest ih =>
      by_cases hsame : first = key
      · subst hsame
        rw [List.cons_append, List.dedup_cons_of_mem (by simp), ih]
        by_cases hmem : first ∈ rest
        · rw [List.dedup_cons_of_mem hmem]
        · rw [List.dedup_cons_of_notMem hmem]
          simp
      · by_cases hmem : first ∈ rest
        · rw [List.cons_append, List.dedup_cons_of_mem (by simp [hmem]), ih,
            List.dedup_cons_of_mem hmem]
        · rw [List.cons_append, List.dedup_cons_of_notMem (by simp [hmem, hsame]), ih,
            List.dedup_cons_of_notMem hmem]
          simp [hsame]

namespace TreeCache

/-- Keys of the entries, from the least to the most recently used. -/
def keys (cache : TreeCache) : List String := cache.entries.map (·.key)

theorem find?_eq_none_iff (cache : TreeCache) (key : String) :
    cache.find? key = none ↔ key ∉ cache.keys := by
  simp [find?, keys]

theorem of_find?_eq_some {cache : TreeCache} {key : String} {entry : CacheEntry}
    (h : cache.find? key = some entry) : entry ∈ cache.entries ∧ entry.key = key := by
  refine ⟨List.mem_of_find?_eq_some h, ?_⟩
  have hkey := List.find?_some h
  simpa using hkey

theorem mem_keys_of_find? {cache : TreeCache} {key : String} {entry : CacheEntry}
    (h : cache.find? key = some entry) : key ∈ cache.keys := by
  obtain ⟨hmem, hkey⟩ := of_find?_eq_some h
  exact List.mem_map.mpr ⟨entry, hmem, hkey⟩

theorem map_key_without (entries : List CacheEntry) (key : String) :
    (without entries key).map (·.key) = (entries.map (·.key)).filter (· != key) := by
  simp [without, List.filter_map, Function.comp_def]

theorem without_of_notMem {cache : TreeCache} {key : String} (h : key ∉ cache.keys) :
    without cache.entries key = cache.entries := by
  apply List.filter_eq_self.mpr
  intro entry hentry
  have hne : entry.key ≠ key := by
    rintro rfl
    exact h (List.mem_map.mpr ⟨entry, hentry, rfl⟩)
  simpa using hne

/-- The cache after a hit on an entry. -/
def touched (cache : TreeCache) (entry : CacheEntry) (now : Float) : TreeCache :=
  { cache with
    entries := without cache.entries entry.key ++
      [{ entry with lastAccess := now, hits := entry.hits + 1 }]
    hits := cache.hits + 1 }

/-- The cache after a miss. -/
def missed (cache : TreeCache) (key : String) : TreeCache :=
  { cache with entries := without cache.entries key, misses := cache.misses + 1 }

theorem keys_touched (cache : TreeCache) (entry : CacheEntry) (now : Float) :
    (cache.touched entry now).keys = cache.keys.filter (· != entry.key) ++ [entry.key] := by
  simp only [keys, touched, List.map_append, List.map_cons, List.map_nil, map_key_without]

theorem keys_missed (cache : TreeCache) (key : String) :
    (cache.missed key).keys = cache.keys.filter (· != key) := by
  simp only [keys, missed, map_key_without]

/-- The first phase hits the entry that is found and live; in every other case it misses, and
nothing is left under the key. -/
theorem lookup_cases (cache : TreeCache) (key : String) (now : Float) :
    (∃ entry, cache.find? key = some entry ∧ cache.isExpired entry now = false ∧
      cache.lookup key now = (some entry.tree, cache.touched entry now)) ∨
    ((∀ entry, cache.find? key = some entry → cache.isExpired entry now = true) ∧
      cache.lookup key now = (none, cache.missed key)) := by
  cases hfind : cache.find? key with
  | none =>
      have habsent := (find?_eq_none_iff cache key).mp hfind
      refine Or.inr ⟨by simp, ?_⟩
      simp [lookup, hfind, missed, without_of_notMem habsent]
  | some entry =>
      have hkey := (of_find?_eq_some hfind).2
      cases hexpired : cache.isExpired entry now with
      | false =>
          refine Or.inl ⟨entry, rfl, hexpired, ?_⟩
          simp [lookup, hfind, hexpired, touched, hkey]
      | true =>
          refine Or.inr ⟨?_, ?_⟩
          · intro other hother
            cases hother
            exact hexpired
          · simp [lookup, hfind, hexpired, missed]

/-- The entries that stay when something is stored under a key. -/
def kept (cache : TreeCache) (key : String) : List CacheEntry :=
  if key ∈ cache.keys then without cache.entries key
  else cache.entries.drop cache.surplus.length

/-- The second phase puts one entry, made now, behind those that are kept. -/
theorem store_entries (cache : TreeCache) (key : String) (tree : SyntaxTree) (now : Float) :
    ∃ entry : CacheEntry, entry.key = key ∧ entry.tree = tree ∧ entry.createdAt = now ∧
      cache.store key tree now = { cache with entries := cache.kept key ++ [entry] } := by
  cases hfind : cache.find? key with
  | none =>
      have habsent := (find?_eq_none_iff cache key).mp hfind
      refine ⟨{ key := key, tree := tree, createdAt := now, lastAccess := now }, rfl, rfl, rfl, ?_⟩
      simp [store, hfind, kept, habsent]
  | some entry =>
      have hkey := (of_find?_eq_some hfind).2
      have hpresent := mem_keys_of_find? hfind
      refine ⟨{ entry with tree := tree, createdAt := now }, hkey, rfl, rfl, ?_⟩
      simp [store, hfind, kept, hpresent]

theorem keys_store (cache : TreeCache) (key : String) (tree : SyntaxTree) (now : Float) :
    (cache.store key tree now).keys = (cache.kept key).map (·.key) ++ [key] := by
  obtain ⟨entry, hkey, _, _, hstore⟩ := cache.store_entries key tree now
  simp only [keys, hstore, List.map_append, List.map_cons, List.map_nil, hkey]

theorem kept_sublist (cache : TreeCache) (key : String) :
    (cache.kept key).Sublist cache.entries := by
  unfold kept
  split
  · exact List.filter_sublist
  · exact List.drop_sublist _ _

/-- Nothing that is kept stands under the key. -/
theorem notMem_kept (cache : TreeCache) (key : String) :
    key ∉ (cache.kept key).map (·.key) := by
  by_cases hpresent : key ∈ cache.keys
  · simp only [kept, hpresent, if_true, map_key_without]
    simp
  · intro hkept
    have hsub := ((cache.kept_sublist key).map (·.key)).subset hkept
    exact hpresent hsub

/-- What is kept leaves room for one more. -/
theorem kept_length_lt (cache : TreeCache) (key : String) (hcapacity : 0 < cache.capacity)
    (hbounded : cache.entries.length ≤ cache.capacity) :
    (cache.kept key).length < cache.capacity := by
  by_cases hpresent : key ∈ cache.keys
  · obtain ⟨entry, hentry, hkey⟩ := List.mem_map.mp hpresent
    have hdropped : (without cache.entries key).length < cache.entries.length := by
      apply List.length_filter_lt_length_iff_exists.mpr
      exact ⟨entry, hentry, by simp [hkey]⟩
    simp only [kept, hpresent, if_true]
    omega
  · simp only [kept, hpresent, if_false, surplus, List.length_drop, List.length_take]
    omega

end TreeCache

/-- Whether an entry holds the tree of a known content that it is filed under. -/
def CacheEntry.HoldsParse (g : Grammar) (known : Set Bytes) (entry : CacheEntry) : Prop :=
  ∃ content ∈ known, ∃ mtime,
    entry.key = TreeCache.fingerprint content mtime ∧ g.fresh content = .ok entry.tree

namespace TreeCache

variable {g : Grammar} {known : Set Bytes} {cache : TreeCache}

/-- Every entry holds the tree of a known content that it is filed under. -/
def Sound (g : Grammar) (known : Set Bytes) (cache : TreeCache) : Prop :=
  ∀ entry ∈ cache.entries, entry.HoldsParse g known

theorem Sound.lookup (h : cache.Sound g known) (key : String) (now : Float) :
    (cache.lookup key now).2.Sound g known := by
  have hothers (k : String) : ∀ entry ∈ without cache.entries k, entry.HoldsParse g known :=
    fun entry hentry => h entry (List.mem_filter.mp hentry).1
  obtain ⟨entry, hfind, _, hlookup⟩ | ⟨_, hlookup⟩ := cache.lookup_cases key now
  · rw [hlookup]
    intro other hother
    rcases List.mem_append.mp hother with hold | hnew
    · exact hothers entry.key other hold
    · cases List.mem_singleton.mp hnew
      exact h entry (of_find?_eq_some hfind).1
  · rw [hlookup]
    exact hothers key

theorem Sound.store (h : cache.Sound g known) {content : Bytes} (hcontent : content ∈ known)
    (mtime : Value) {tree : SyntaxTree} (htree : g.fresh content = .ok tree) (now : Float) :
    (cache.store (fingerprint content mtime) tree now).Sound g known := by
  obtain ⟨entry, hkey, hheld, _, hstore⟩ :=
    cache.store_entries (fingerprint content mtime) tree now
  rw [hstore]
  intro other hother
  rcases List.mem_append.mp hother with hold | hnew
  · exact h other ((cache.kept_sublist _).subset hold)
  · cases List.mem_singleton.mp hnew
    exact ⟨content, hcontent, mtime, hkey, by rw [htree, hheld]⟩

theorem Sound.prune (h : cache.Sound g known) (now : Float) : (cache.prune now).2.Sound g known :=
  fun entry hentry => h entry (List.mem_filter.mp hentry).1

/-- Nothing is filed under a content that has a fault. -/
theorem Sound.notMem_keys_of_fault (h : cache.Sound g known)
    (hdigest : Set.InjOn Sha256.hexDigest known) {content : Bytes} (hcontent : content ∈ known)
    (mtime : Value) {f : Failure} (hfault : g.fresh content = .error f) :
    fingerprint content mtime ∉ cache.keys := by
  intro hkey
  obtain ⟨entry, hentry, hfiled⟩ := List.mem_map.mp hkey
  obtain ⟨other, hother, time, hheld, htree⟩ := h entry hentry
  have hsame : content = other :=
    content_eq_of_fingerprint_eq hdigest hcontent hother (hfiled.symm.trans hheld)
  rw [hsame, htree] at hfault
  cases hfault

/-- A sound cache hands out what reading afresh would give. -/
theorem Sound.fresh_of_hit (h : cache.Sound g known) (hdigest : Set.InjOn Sha256.hexDigest known)
    {content : Bytes} (hcontent : content ∈ known) {mtime : Value} {now : Float}
    {tree : SyntaxTree} (hhit : (cache.lookup (fingerprint content mtime) now).1 = some tree) :
    g.fresh content = .ok tree := by
  obtain ⟨entry, hfind, _, hlookup⟩ | ⟨_, hlookup⟩ :=
    cache.lookup_cases (fingerprint content mtime) now
  · rw [hlookup] at hhit
    obtain ⟨hentry, hkey⟩ := of_find?_eq_some hfind
    obtain ⟨other, hother, time, hfiled, htree⟩ := h entry hentry
    have hsame : content = other :=
      content_eq_of_fingerprint_eq hdigest hcontent hother (hkey.symm.trans hfiled)
    rw [hsame, htree]
    exact congrArg Except.ok (Option.some.inj hhit)
  · rw [hlookup] at hhit
    cases hhit

end TreeCache

namespace Session

/-- Parsing after a miss gives what reading afresh gives. A tree is stored at the time the parse
ends; a fault stores nothing. -/
theorem parseAndStore_cases (g : Grammar) (path key : String) (content : Bytes) (s : Session) :
    (∃ f, g.fresh content = .error f ∧
      parseAndStore g path key content s = (.error f, s.wait (g.seconds content))) ∨
    (∃ tree lines, g.fresh content = .ok tree ∧
      parseAndStore g path key content s =
        (.ok tree, { s.wait (g.seconds content) with
          cache := s.cache.store key tree (s.clock + g.seconds content)
          journal := s.journal ++ lines })) := by
  cases hparse : (g.read content).parse content with
  | error fault =>
      refine Or.inl ⟨fault.toFailure, ?_, ?_⟩
      · simp [Grammar.fresh, hparse, Except.mapError]
      · simp [parseAndStore, hparse]
  | ok tree =>
      refine Or.inr ⟨tree, TreeCache.parsedLine path tree.source.length ::
        s.cache.evictionLines key, ?_, ?_⟩
      · simp [Grammar.fresh, hparse, Except.mapError]
      · simp [parseAndStore, hparse, wait, log, logAll]

theorem parseAndStore_result (g : Grammar) (path key : String) (content : Bytes) (s : Session) :
    (parseAndStore g path key content s).1 = g.fresh content := by
  obtain ⟨f, hfresh, hparse⟩ | ⟨tree, lines, hfresh, hparse⟩ :=
    parseAndStore_cases g path key content s
  · rw [hparse, hfresh]
  · rw [hparse, hfresh]

/-- A fetch is a hit on a live entry, or a miss followed by a parse. -/
theorem fetch_cases (g : Grammar) (path : String) (content : Bytes) (mtime : Value) (s : Session) :
    let key := TreeCache.fingerprint content mtime
    (∃ entry, s.cache.find? key = some entry ∧ s.cache.isExpired entry s.clock = false ∧
      s.fetch g path content mtime =
        (.ok entry.tree, { s with cache := s.cache.touched entry s.clock })) ∨
    ((∀ entry, s.cache.find? key = some entry → s.cache.isExpired entry s.clock = true) ∧
      s.fetch g path content mtime =
        parseAndStore g path key content { s with cache := s.cache.missed key }) := by
  intro key
  obtain ⟨entry, hfind, hlive, hlookup⟩ | ⟨hexpired, hlookup⟩ := s.cache.lookup_cases key s.clock
  · refine Or.inl ⟨entry, hfind, hlive, ?_⟩
    simp only [fetch, fetchWith]
    rw [hlookup]
  · refine Or.inr ⟨hexpired, ?_⟩
    simp only [fetch, fetchWith]
    rw [hlookup]

/-- What a fetch fails with tells a fault of the content. -/
theorem exists_fault_of_fetch {g : Grammar} {path : String} {content : Bytes} {mtime : Value}
    {s : Session} {f : Failure} (h : (s.fetch g path content mtime).1 = .error f) :
    ∃ fault : ParseFault, f = fault.toFailure := by
  obtain ⟨entry, _, _, hfetch⟩ | ⟨_, hfetch⟩ := fetch_cases g path content mtime s
  · rw [hfetch] at h
    cases h
  · rw [hfetch, parseAndStore_result] at h
    exact Grammar.exists_fault h

/-- Whatever a fetch gives, it touches the clock, the cache and the journal only. -/
theorem exists_fetch_eq (s : Session) (g : Grammar) (path : String) (content : Bytes)
    (mtime : Value) :
    ∃ clock cache journal, (s.fetch g path content mtime).2 =
      { s with clock := clock, cache := cache, journal := journal } := by
  obtain ⟨entry, _, _, hfetch⟩ | ⟨_, hfetch⟩ := fetch_cases g path content mtime s
  · rw [hfetch]
    exact ⟨_, _, _, rfl⟩
  · rw [hfetch]
    obtain ⟨f, _, hparse⟩ | ⟨tree, lines, _, hparse⟩ := parseAndStore_cases g path
      (TreeCache.fingerprint content mtime) content
      { s with cache := s.cache.missed (TreeCache.fingerprint content mtime) }
    · rw [hparse]
      exact ⟨_, _, _, rfl⟩
    · rw [hparse]
      exact ⟨_, _, _, rfl⟩

/-- In particular it changes no settings and files nothing. -/
theorem fetch_keeps (s : Session) (g : Grammar) (path : String) (content : Bytes) (mtime : Value) :
    (s.fetch g path content mtime).2.settings = s.settings ∧
      (s.fetch g path content mtime).2.incidents = s.incidents := by
  obtain ⟨clock, cache, journal, hfetch⟩ := s.exists_fetch_eq g path content mtime
  rw [hfetch]
  exact ⟨rfl, rfl⟩

end Session

end PhpAudit
