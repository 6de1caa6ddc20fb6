import PhpAudit.Session

/-!
Histories of fetches. Fetches of several threads interleave between their two phases, so that a
history is a list of events of which each one is a single step on the shared session. Where fetches
follow one another, a replay of them also records which of them called the grammar.
-/

namespace PhpAudit

/-- A fetch under way or done. -/
structure FetchCall where
  path : String
  content : Bytes
  mtime : Value
  /-- None until the parse after a miss has ended. -/
  outcome : Option (Except Failure SyntaxTree)

inductive FetchEvent where
  /-- A new fetch runs its first phase. -/
  | lookup (path : String) (content : Bytes) (mtime : Value)
  /-- The parse of a fetch ends and, if it gave a tree, its second phase runs. -/
  | finish (call : Nat)
  | clock (now : Float)
  | prune
  | clear

/-- A session and the fetches that have been started in it, in order. -/
structure Fetching where
  session : Session
  calls : List FetchCall := []

namespace Fetching

def step (g : Grammar) (state : Fetching) : FetchEvent → Fetching
  | .lookup path content mtime =>
      let (found, cache) :=
        state.session.cache.lookup (TreeCache.fingerprint content mtime) state.session.clock
      { session := { state.session with cache := cache }
        calls := state.calls ++ [⟨path, content, mtime, found.map .ok⟩] }
  | .finish i =>
      match state.calls[i]? with
      | some ⟨path, content, mtime, none⟩ =>
          let (result, session) := state.session.parseAndStore g path
            (TreeCache.fingerprint content mtime) content
          { session := session, calls := state.calls.set i ⟨path, content, mtime, some result⟩ }
      | _ => state
  | .clock now => { state with session := { state.session with clock := now } }
  | .prune =>
      { state with session :=
          { state.session with cache := (state.session.cache.prune state.session.clock).2 } }
  | .clear => { state with session := { state.session with cache := state.session.cache.clear.2 } }

def run (g : Grammar) (events : List FetchEvent) (state : Fetching) : Fetching :=
  events.foldl (step g) state

end Fetching

/-- One use of a session's cache: a fetch, or the clock set to any time. -/
inductive CacheUse where
  | fetch (path : String) (content : Bytes) (mtime : Value)
  | clock (now : Float)

def CacheUse.apply (g : Grammar) (s : Session) : CacheUse → Session
  | .fetch path content mtime => (s.fetch g path content mtime).2
  | .clock now => { s with clock := now }

/-- A call of the grammar: the key it was made for, and when it ended. -/
structure ParserCall where
  key : String
  ended : Float

/-- A session that keeps a record of the calls of the grammar made in it. -/
structure Replay where
  session : Session
  parses : List ParserCall := []

namespace Replay

/-- A fetch that records the call of the grammar it makes, if it makes one. -/
def fetch (g : Grammar) (path : String) (content : Bytes) (mtime : Value) (r : Replay) :
    Except Failure SyntaxTree × Replay :=
  let key := TreeCache.fingerprint content mtime
  match r.session.cache.lookup key r.session.clock with
  | (some tree, cache) => (.ok tree, { r with session := { r.session with cache := cache } })
  | (none, cache) =>
      let (result, session) :=
        Session.parseAndStore g path key content { r.session with cache := cache }
      (result, { session := session, parses := r.parses ++ [⟨key, session.clock⟩] })

def step (g : Grammar) (r : Replay) : CacheUse → Replay
  | .fetch path content mtime => (r.fetch g path content mtime).2
  | .clock now => { r with session := { r.session with clock := now } }

def run (g : Grammar) (uses : List CacheUse) (r : Replay) : Replay := uses.foldl (step g) r

end Replay

end PhpAudit
