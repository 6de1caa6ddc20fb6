import PhpAudit.Selection.Criteria

/-!
Groups of rules by category, severity and priority, and counts of rules by what their descriptions
say. Inside a group rules keep their order.
-/

namespace PhpAudit

/-- Groups in the order of their first members. -/
abbrev Groups (κ α : Type) := List (κ × List α)

namespace Groups

variable {κ α : Type}

/-- Adds a member to the group of its key, or starts one. -/
def add (same : κ → κ → Bool) (key : κ) (member : α) : Groups κ α → Groups κ α
  | [] => [(key, [member])]
  | (k, members) :: rest =>
      if same k key then (k, members ++ [member]) :: rest
      else (k, members) :: add same key member rest

def ofKeyed (same : κ → κ → Bool) (keyed : List (κ × α)) : Groups κ α :=
  keyed.foldl (fun groups e => add same e.1 e.2 groups) []

/-- Number of members of each group. -/
def counts (groups : Groups κ α) : List (κ × Nat) := groups.map fun g => (g.1, g.2.length)

end Groups

namespace Rule

/-- Pairs each rule with its key; the first key that fails is reported. -/
def keyed {κ : Type} (key : Rule → Except Failure κ) (rules : List Rule) :
    Except Failure (List (κ × Rule)) :=
  rules.mapM fun rule => (·, rule) <$> key rule

/-- Place of a category in the order of priority; custom ones come last. -/
def categoryRank : Value → Nat
  | .text name =>
      match Category.ofName? name with
      | some c => Category.byPriority.idxOf c
      | none => Category.byPriority.length
  | _ => Category.byPriority.length

def groupByCategory (rules : List Rule) : Except Failure (Groups Value Rule) := do
  let groups := Groups.ofKeyed Value.equals (← keyed (fun rule => rule.category.key) rules)
  return groups.mergeSort fun a b => decide (categoryRank a.1 ≤ categoryRank b.1)

/-- The most severe group first. -/
def groupBySeverity (rules : List Rule) : Except Failure (Groups Severity Rule) := do
  let groups := Groups.ofKeyed (· == ·) (← keyed (fun rule => rule.severity.toSeverity) rules)
  return Severity.all.reverse.filterMap fun s => groups.find? (·.1 == s)

def groupByPriority (rules : List Rule) : Except Failure (Groups Nat Rule) := do
  let groups := Groups.ofKeyed (· == ·) (← keyed priority rules)
  return groups.mergeSort fun a b => decide (a.1 ≤ b.1)

/-- How many rules there are of each kind. -/
structure Counts where
  total : Nat
  byCategory : List (Value × Nat)
  bySeverity : List (Severity × Nat)
  byTag : List (Value × Nat)
  byAuthor : List (Value × Nat)

/-- The description of a rule if its category and author can be keys. -/
def countedProfile (rule : Rule) : Except Failure RuleProfile := do
  let p ← rule.profile
  let _ ← rule.category.key
  let _ ← rule.author.key
  return p

def countBy {κ α : Type} (same : κ → κ → Bool) (key : α → κ) (members : List α) : List (κ × Nat) :=
  (Groups.ofKeyed same (members.map fun m => (key m, m))).counts

def counts (rules : List Rule) : Except Failure Counts := do
  let profiles ← rules.mapM countedProfile
  return {
    total := rules.length
    byCategory := countBy Value.equals (·.category) profiles
    bySeverity := countBy (· == ·) (·.severity) profiles
    byTag := countBy Value.equals id (profiles.flatMap (·.tags))
    byAuthor := countBy Value.equals (·.author) profiles }

def Counts.toMapping (c : Counts) : Mapping String Value :=
  let shown {κ : Type} (name : κ → String) (counts : List (κ × Nat)) : Value :=
    .map (counts.map fun e => (name e.1, .int e.2))
  [("total_rules", .int c.total), ("by_category", shown Value.display c.byCategory),
    ("by_severity", shown Severity.name c.bySeverity), ("by_tag", shown Value.display c.byTag),
    ("by_author", shown Value.display c.byAuthor)]

/-- What is known about a rule, with the details of its category. -/
def detailedMetadata (rule : Rule) : Except Failure (Mapping String Value) := do
  let category ← rule.standardCategory
  let data ← rule.metadata
  return data ++ [("priority", .int category.priority),
    ("category_display_name", .text category.displayName),
    ("category_description", .text category.description),
    ("category_default_severity", .text category.defaultSeverity.name)]

end Rule

end PhpAudit
