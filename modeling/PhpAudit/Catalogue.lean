import PhpAudit.Bundled.CodeStyle
import PhpAudit.Bundled.LaravelPractices
import PhpAudit.Bundled.MongoAccess
import PhpAudit.Selection.Criteria

/-!
A catalogue of rules: stable identifiers, further names for them, and a factory for each that
builds the rule from options. A name is given away once; registering a taken one changes nothing.
-/

namespace PhpAudit

/-- What a factory makes; it ought to be a rule. -/
inductive Product where
  | rule (r : Rule)
  | other (v : Value)

abbrev Factory := Mapping String Value → Except Failure Product

structure Catalogue where
  factories : Mapping String Factory := []
  /-- Further names with the identifiers they stand for. -/
  aliases : Mapping String String := []

namespace Catalogue

def size (c : Catalogue) : Nat := c.factories.length

def identifiers (c : Catalogue) : List String := Mapping.keys c.factories

/-- Whether a name is an identifier or stands for one. -/
def isTaken (c : Catalogue) (name : String) : Bool :=
  Mapping.has c.factories name || Mapping.has c.aliases name

def register (c : Catalogue) (identifier : String) (factory : Factory) (aliases : List String) :
    Except Failure Catalogue :=
  if c.isTaken identifier then
    .error (.wrongValue ("Rule " ++ identifier ++ " is already registered"))
  else
    match aliases.find? c.isTaken with
    | some name => .error (.wrongValue ("Rule alias " ++ name ++ " is already registered"))
    | none => .ok {
        factories := Mapping.put c.factories identifier factory
        aliases := Mapping.overlay c.aliases (aliases.map fun name => (name, identifier)) }

/-- One call that registers a factory. -/
structure Registration where
  identifier : String
  factory : Factory
  aliases : List String

/-- All names that a call asks for. -/
def Registration.names (call : Registration) : List String := call.identifier :: call.aliases

/-- The single steps of registering on a catalogue that is changed in place. -/
inductive Step where
  /-- Stops with the failure if the name is taken. -/
  | refuse (name : String) (f : Failure)
  | writeFactory (identifier : String) (factory : Factory)
  | writeAlias (identifier name : String)

/-- All names are looked at before the first is written. -/
def Registration.steps (call : Registration) : List Step :=
  .refuse call.identifier
      (.wrongValue ("Rule " ++ call.identifier ++ " is already registered")) ::
    (call.aliases.map fun name =>
      .refuse name (.wrongValue ("Rule alias " ++ name ++ " is already registered"))) ++
    .writeFactory call.identifier call.factory :: call.aliases.map (.writeAlias call.identifier)

/-- Takes one step after another and stops at the first failure. What has been written by then
stays written. -/
def follow (c : Catalogue) : List Step → Except Failure Unit × Catalogue
  | [] => (.ok (), c)
  | .refuse name f :: rest => if c.isTaken name then (.error f, c) else follow c rest
  | .writeFactory identifier factory :: rest =>
      follow { c with factories := Mapping.put c.factories identifier factory } rest
  | .writeAlias identifier name :: rest =>
      follow { c with aliases := Mapping.put c.aliases name identifier } rest

/-- The answer to a call, and the catalogue it leaves. -/
def enter (c : Catalogue) (call : Registration) : Except Failure Unit × Catalogue :=
  c.follow call.steps

def resolve? (c : Catalogue) (name : String) : Option String :=
  if Mapping.has c.factories name then some name else Mapping.get? c.aliases name

/-- The identifier that a name stands for. -/
def resolve (c : Catalogue) (name : String) : Except Failure String :=
  match c.resolve? name with
  | some identifier => .ok identifier
  | none => .error (.unknownRule name)

/-- A failure of a factory as the catalogue reports it; one about configuration stays as it is. -/
def failedToBuild (identifier : String) (f : Failure) : Failure :=
  if f.isA .configuration then f
  else
    match f.text with
    | .ok text => .configuration ("Rule '" ++ identifier ++ "' failed to initialise: " ++ text)
    | .error g => g

/-- Builds with a factory. -/
def produce (identifier : String) (factory : Factory) (options : Value) : Except Failure Rule :=
  match (options.orElse (.map [])).entries.bind factory with
  | .ok (.rule r) => .ok r
  | .ok (.other v) => .error (.configuration
      ("Rule '" ++ identifier ++ "' factory returned " ++ v.kindName ++ ", not a rule"))
  | .error f => .error (failedToBuild identifier f)

/-- Builds the rule of a name. -/
def create (c : Catalogue) (name : String) (options : Value) : Except Failure Rule := do
  let identifier ← c.resolve name
  match Mapping.get? c.factories identifier with
  | some factory => produce identifier factory options
  | none => throw (.unknownRule name)

/-- What is logged of a rule that cannot be built and is skipped. Only failures about configuration
are skipped, and only if they can be told. -/
def skippedLine (identifier : String) (f : Failure) : Except Failure LogLine :=
  if f.isA .configuration then
    (fun text => ⟨.catalogue, .warning, "Skipping rule " ++ identifier ++ ": " ++ text⟩) <$> f.text
  else .error f

/-- The rules of the identifiers, built without options. Those that cannot be built are skipped, each
with a line in the log. -/
def builtFrom (c : Catalogue) : List String → Except Failure (List (String × Rule)) × List LogLine
  | [] => (.ok [], [])
  | identifier :: rest =>
      match c.create identifier .null with
      | .ok rule =>
          let others := builtFrom c rest
          (((identifier, rule) :: ·) <$> others.1, others.2)
      | .error f =>
          match skippedLine identifier f with
          | .error g => (.error g, [])
          | .ok line =>
              let others := builtFrom c rest
              (others.1, line :: others.2)

/-- Identifiers of the rules that are enabled by default. -/
def defaults (c : Catalogue) : Except Failure (List String) × List LogLine :=
  let built := c.builtFrom c.identifiers
  ((fun rules => (rules.filter (!·.2.enabledByDefault.isEmpty)).map (·.1)) <$> built.1, built.2)

/-- The identifiers whose rules meet the criteria, up to the first rule that cannot be judged. -/
def matchingFrom (c : Catalogue) (criteria : Criteria) :
    List String → Except Failure (List String) × List LogLine
  | [] => (.ok [], [])
  | identifier :: rest =>
      match c.create identifier .null with
      | .error f =>
          match skippedLine identifier f with
          | .error g => (.error g, [])
          | .ok line =>
              let others := matchingFrom c criteria rest
              (others.1, line :: others.2)
      | .ok rule =>
          match criteria.accepts rule with
          | .error f => (.error f, [])
          | .ok accepted =>
              let others := matchingFrom c criteria rest
              ((fun names => if accepted then identifier :: names else names) <$> others.1, others.2)

/-- Identifiers of the rules that meet the criteria. -/
def matching (c : Catalogue) (criteria : Criteria) : Except Failure (List String) × List LogLine :=
  c.matchingFrom criteria c.identifiers

/-- A factory that always makes a rule. -/
def ruleFactory (build : Value → Except Failure Rule) : Factory := fun options =>
  .rule <$> build (.map options)

/-- The rules that come with the engine, each with what builds it. -/
def bundledRules : List (RuleCard × (Value → Except Failure Rule)) :=
  [(MongoAccess.card, MongoAccess.build), (LaravelPractices.card, LaravelPractices.build),
    (CodeStyle.card, CodeStyle.build)]

/-- The catalogue of the bundled rules; the type name of each is a further name for it. -/
def bundled : Catalogue where
  factories := bundledRules.map fun (card, build) => (card.identifier, ruleFactory build)
  aliases := bundledRules.map fun (card, _) => (card.typeName, card.identifier)

end Catalogue

end PhpAudit
