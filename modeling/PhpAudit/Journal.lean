/-!
Log lines of the engine: the channel that wrote them, their level and their text.
-/

namespace PhpAudit

inductive Level where
  | debug
  | info
  | warning
  | error
  deriving DecidableEq, Repr

namespace Level

def number : Level → Nat
  | .debug => 10
  | .info => 20
  | .warning => 30
  | .error => 40

def name : Level → String
  | .debug => "DEBUG"
  | .info => "INFO"
  | .warning => "WARNING"
  | .error => "ERROR"

end Level

/-- Parts of the engine that write log lines. -/
inductive Channel where
  | incidents
  | rules
  | cache
  | audit
  | catalogue
  deriving DecidableEq, Repr

/-- The name of the logger that all channels belong to. -/
def rootChannelName : String := "php_review"

def Channel.name : Channel → String
  | .incidents => rootChannelName ++ ".engine.errors"
  | .rules => rootChannelName ++ ".engine.base"
  | .cache => rootChannelName ++ ".engine.cache"
  | .audit => rootChannelName ++ ".engine.runner"
  | .catalogue => rootChannelName ++ ".engine.registry"

structure LogLine where
  channel : Channel
  level : Level
  text : String
  deriving DecidableEq, Repr

end PhpAudit
