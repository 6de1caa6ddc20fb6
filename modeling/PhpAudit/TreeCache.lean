import PhpAudit.Digest.Sha256
import PhpAudit.Journal
import PhpAudit.Syntax.Parsing
import PhpAudit.Value.Reading

/-!
A cache of syntax trees by content. Entries stand in the order of their last use, the oldest first;
an entry that is too old counts as absent when it is asked for, and the oldest ones make room for a
new one. Fetching a tree has two phases, looking up and, after parsing, storing; both are single
steps on the cache, so that fetches may interleave between them.
-/

namespace PhpAudit

structure CacheEntry where
  key : String
  tree : SyntaxTree
  createdAt : Float
  lastAccess : Float
  hits : Nat := 0

structure TreeCache where
  capacity : Nat
  ttl : Value.Num
  /-- From the least to the most recently used. -/
  entries : List CacheEntry := []
  hits : Nat := 0
  misses : Nat := 0

namespace TreeCache

/-- Key of a version of a file: the digest of its content, and its modification time if known. -/
def fingerprint (content : Bytes) (mtime : Value) : String :=
  let digest := Sha256.hexDigest content
  match mtime with
  | .null => digest
  | v => digest ++ ":" ++ v.display

/-- A cache has room for at least one tree. -/
def create (maxSize : Int) (ttl : Value.Num) : Except Failure TreeCache :=
  if maxSize < 1 then .error (.wrongValue "max_size must be at least 1")
  else .ok { capacity := maxSize.toNat, ttl := ttl }

def find? (cache : TreeCache) (key : String) : Option CacheEntry :=
  cache.entries.find? (·.key == key)

def without (entries : List CacheEntry) (key : String) : List CacheEntry :=
  entries.filter (·.key != key)

/-- Whether more time has passed since the tree was parsed than the cache allows. -/
def isExpired (cache : TreeCache) (entry : CacheEntry) (now : Float) : Bool :=
  Value.Num.lt cache.ttl (.float (now - entry.createdAt))

/-- First phase: the tree of a live entry, which becomes the most recently used. Otherwise the
entry, if there is one, is dropped, and the fetch counts as a miss. -/
def lookup (cache : TreeCache) (key : String) (now : Float) : Option SyntaxTree × TreeCache :=
  match cache.find? key with
  | some entry =>
      let others := without cache.entries key
      if cache.isExpired entry now then
        (none, { cache with entries := others, misses := cache.misses + 1 })
      else
        (some entry.tree,
          { cache with
            entries := others ++ [{ entry with lastAccess := now, hits := entry.hits + 1 }]
            hits := cache.hits + 1 })
  | none => (none, { cache with misses := cache.misses + 1 })

/-- The oldest entries, as many as have to go before one more fits. -/
def surplus (cache : TreeCache) : List CacheEntry :=
  cache.entries.take (cache.entries.length + 1 - cache.capacity)

/-- Second phase: stores a parsed tree as the most recently used. An entry that another fetch
stored meanwhile is renewed in place; otherwise the oldest ones make room. -/
def store (cache : TreeCache) (key : String) (tree : SyntaxTree) (now : Float) : TreeCache :=
  match cache.find? key with
  | some entry =>
      { cache with
        entries := without cache.entries key ++ [{ entry with tree := tree, createdAt := now }] }
  | none =>
      { cache with
        entries := cache.entries.drop cache.surplus.length ++
          [{ key := key, tree := tree, createdAt := now, lastAccess := now }] }

/-- What storing under a key says in the log. -/
def evictionLines (cache : TreeCache) (key : String) : List LogLine :=
  match cache.find? key with
  | some _ => []
  | none => cache.surplus.map fun entry =>
      ⟨.cache, .debug, "Evicted AST cache entry " ++ String.ofList (entry.key.toList.take 12)⟩

def parsedLine (path : String) (size : Nat) : LogLine :=
  ⟨.cache, .debug, "Parsed " ++ path ++ " (" ++ toString size ++ " bytes)"⟩

/-- Drops all entries that are too old, and counts them. -/
def prune (cache : TreeCache) (now : Float) : Nat × TreeCache :=
  let live := cache.entries.filter fun entry => !cache.isExpired entry now
  (cache.entries.length - live.length, { cache with entries := live })

/-- Drops everything, the counters included, and counts the entries. -/
def clear (cache : TreeCache) : Nat × TreeCache :=
  (cache.entries.length, { cache with entries := [], hits := 0, misses := 0 })

/-- Share of fetches that were hits; zero before the first. -/
def hitRate (cache : TreeCache) : Float :=
  if cache.hits + cache.misses = 0 then 0.0
  else Float.ofNat cache.hits / Float.ofNat (cache.hits + cache.misses)

def stats (cache : TreeCache) : Mapping String Value :=
  [("size", .int cache.entries.length), ("max_size", .int cache.capacity),
    ("ttl", match cache.ttl with
      | .int n => .int n
      | .float x => .float x),
    ("hits", .int cache.hits), ("misses", .int cache.misses), ("hit_rate", .float cache.hitRate)]

end TreeCache

end PhpAudit
