import PhpAudit.Value.Basic

/-!
Settings of a run, with their defaults.
-/

namespace PhpAudit

structure CacheSettings where
  maxSize : Int := 100
  ttlSeconds : Float := 300.0

/-- Ceilings for time and size. -/
structure LimitSettings where
  slowCheckSeconds : Float := 1.0
  maxFileSeconds : Option Float := none
  maxFileBytes : Option Int := some 5242880

structure EngineSettings where
  cache : CacheSettings := {}
  limits : LimitSettings := {}
  maxWorkers : Int := 1

/-- Criteria that narrow the loaded rules; empty lists accept everything. -/
structure FilterSettings where
  categories : List String := []
  severities : List String := []
  tags : List String := []
  enabled : Option Bool := none
  authors : List String := []
  classPattern : Option String := none
  minPriority : Int := 1
  maxPriority : Int := 10

structure RunSettings where
  scanPaths : List String := []
  rules : List String := []
  ruleOptions : Mapping String (Mapping String Value) := []
  engine : EngineSettings := {}
  filter : Option FilterSettings := none
  /-- Keys without a meaning, kept as they are. -/
  extra : Mapping String Value := []

namespace CacheSettings

def toValue (s : CacheSettings) : Value :=
  .map [("max_size", .int s.maxSize), ("ttl_seconds", .float s.ttlSeconds)]

end CacheSettings

def Value.ofOption {α : Type} (f : α → Value) : Option α → Value
  | some a => f a
  | none => .null

def Value.texts (items : List String) : Value := .list (items.map .text)

namespace LimitSettings

def toValue (s : LimitSettings) : Value :=
  .map [("slow_check_seconds", .float s.slowCheckSeconds),
    ("max_file_seconds", .ofOption .float s.maxFileSeconds),
    ("max_file_bytes", .ofOption .int s.maxFileBytes)]

end LimitSettings

namespace EngineSettings

def toValue (s : EngineSettings) : Value :=
  .map [("cache", s.cache.toValue), ("performance", s.limits.toValue),
    ("max_workers", .int s.maxWorkers)]

end EngineSettings

namespace FilterSettings

def toValue (s : FilterSettings) : Value :=
  .map [("categories", .texts s.categories), ("severities", .texts s.severities),
    ("tags", .texts s.tags), ("enabled", .ofOption .bool s.enabled), ("authors", .texts s.authors),
    ("class_pattern", .ofOption .text s.classPattern), ("min_priority", .int s.minPriority),
    ("max_priority", .int s.maxPriority)]

end FilterSettings

namespace RunSettings

def toValue (s : RunSettings) : Value :=
  .map (Mapping.overlay
    [("scan_paths", .texts s.scanPaths), ("rules", .texts s.rules),
      ("rule_options", .map (s.ruleOptions.map fun e => (e.1, .map e.2))),
      ("engine", s.engine.toValue), ("filter", .ofOption FilterSettings.toValue s.filter)]
    s.extra)

end RunSettings

end PhpAudit
