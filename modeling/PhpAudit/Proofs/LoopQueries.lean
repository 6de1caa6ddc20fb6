import PhpAudit.Proofs.ControllerMethods

/-!
Loops that run queries. The search for loops goes through the whole tree and the search for calls
through the body of each loop found, so a loop is reported exactly if a call that reaches the
database stands somewhere in its body, however deep. What stands in the body of an inner loop also
stands in the body of the outer one.
-/

namespace PhpAudit

namespace LaravelPractices

/-- A call by the name of a method that reaches the database, in whatever case it is written. -/
structure IsQuery (source : Bytes) (call : Node) : Prop where
  kind : call.kind ∈ [Kind.memberCall, Kind.nullsafeMemberCall, Kind.scopedCall]
  named : ∃ name, call.childByField? "name" = some name ∧
    Text.lower (name.text source) ∈ queryMethods

theorem isQuery_iff {source : Bytes} {call : Node} :
    isQuery source call = true ↔ IsQuery source call := by
  have hname : Text.lower ((call.fieldText? source "name").getD "") ∈ queryMethods ↔
      ∃ name, call.childByField? "name" = some name ∧
        Text.lower (name.text source) ∈ queryMethods := by
    rw [Node.fieldText?]
    cases call.childByField? "name" with
    | none => simpa using (by decide : Text.lower "" ∉ queryMethods)
    | some name => simp
  rw [isQuery, Bool.and_eq_true, Node.isKind, List.contains_iff_mem, List.contains_iff_mem, hname]
  constructor
  · rintro ⟨hkind, hnamed⟩
    exact ⟨hkind, hnamed⟩
  · intro h
    exact ⟨h.kind, h.named⟩

/-- What a loop repeats: the child in the field for it, or else the last child. -/
def IsBody (loop body : Node) : Prop :=
  loop.childByField? "body" = some body ∨
    loop.childByField? "body" = none ∧ loop.children.getLast? = some body

theorem loopBody?_eq_some_iff {loop body : Node} :
    loopBody? loop = some body ↔ IsBody loop body := by
  rw [loopBody?, IsBody]
  cases loop.childByField? "body" <;> simp

theorem IsBody.exists_nodeAt? {loop body : Node} (h : IsBody loop body) :
    ∃ index, loop.nodeAt? [index] = some body := by
  have hchild : body ∈ loop.children := by
    rcases h with hfield | ⟨_, hlast⟩
    · obtain ⟨⟨child, field⟩, hfound, rfl⟩ := Option.map_eq_some_iff.mp hfield
      exact (List.of_mem_zip (List.mem_of_find?_eq_some hfound)).1
    · exact List.mem_of_getLast? hlast
  obtain ⟨index, hindex⟩ := List.getElem?_of_mem hchild
  exact ⟨index, Node.nodeAt?_cons_eq_some_iff.mpr ⟨body, hindex, rfl⟩⟩

/-- A query stands in the body of the loop, as the body itself or anywhere below it. -/
def RunsQuery (source : Bytes) (loop : Node) : Prop :=
  ∃ body, IsBody loop body ∧
    ∃ position call, body.nodeAt? position = some call ∧ IsQuery source call

theorem runsQuery_iff {source : Bytes} {loop : Node} :
    runsQuery source loop = true ↔ RunsQuery source loop := by
  rw [runsQuery, Option.any_eq_true, RunsQuery]
  simp only [loopBody?_eq_some_iff, List.any_eq_true, Node.mem_walk_iff, isQuery_iff]
  constructor
  · rintro ⟨body, hbody, call, ⟨position, hat⟩, hcall⟩
    exact ⟨body, hbody, position, call, hat, hcall⟩
  · rintro ⟨body, hbody, position, call, hat, hcall⟩
    exact ⟨body, hbody, call, ⟨position, hat⟩, hcall⟩

/-- A loop runs what the loops in its body run. -/
theorem RunsQuery.of_inner {source : Bytes} {inner outer body : Node} {below : List Nat}
    (h : RunsQuery source inner) (hbody : IsBody outer body)
    (hinner : body.nodeAt? below = some inner) : RunsQuery source outer := by
  obtain ⟨innerBody, hinnerBody, position, call, hat, hcall⟩ := h
  obtain ⟨index, hindex⟩ := hinnerBody.exists_nodeAt?
  refine ⟨body, hbody, below ++ ([index] ++ position), call, ?_, hcall⟩
  rw [Node.nodeAt?_append, hinner, Option.bind_some, Node.nodeAt?_append, hindex]
  exact hat

/-- The loops that are reported, with their positions. -/
def queryingLoops (tree : SyntaxTree) : List (List Nat × Node) :=
  tree.root.places.filter fun place =>
    place.2.isKind [Kind.foreachStatement] && runsQuery tree.source place.2

theorem mem_queryingLoops {tree : SyntaxTree} {position : List Nat} {loop : Node} :
    (position, loop) ∈ queryingLoops tree ↔ tree.root.nodeAt? position = some loop ∧
      loop.kind = Kind.foreachStatement ∧ RunsQuery tree.source loop := by
  rw [queryingLoops, List.mem_filter, Node.mem_places, Bool.and_eq_true, Node.isKind_singleton,
    runsQuery_iff]

/-- The warning about a loop. -/
def loopFinding (path : String) (loop : Node) : Finding :=
  card.finding path loop.startLine "Potential N+1 query issue detected in foreach loop."
    "foreach($items as $item) \x7b $item->relation; \x7d"
    "Use eager loading: Model::with('relation')->get()" .warning Category.performance.name []

theorem filter_perform_performance {chosen : Mapping String Value} {tree : SyntaxTree}
    {path : String} {findings : List Finding} (h : perform chosen tree path = .ok findings) :
    findings.filter (·.category == "performance") =
      (queryingLoops tree).map fun place => loopFinding path place.2 := by
  obtain ⟨limit, _, rfl⟩ := perform_eq_ok_iff.mp h
  have hpart : ("performance", checkLoops tree path) ∈ parts limit tree path := by
    simp [parts]
  rw [filter_category_parts hpart, checkLoops, Node.filter_findKind, List.map_map]
  rfl

/-- The rule comes to an end exactly if its longest method is a number. Its warnings about loops are
then those for the loops in whose body a query stands, at whatever depth, each once and in the order
of the source. If one of them stands in the body of another loop, this one is among them too. -/
theorem querying_loops_reported {options : Value} {rule : Rule}
    (hbuilt : build options = .ok rule) (tree : SyntaxTree) (path : String) :
    rule.body = .tree (fun tree path => RuleCard.script (perform rule.chosen tree path)) ∧
    ((∃ findings, perform rule.chosen tree path = .ok findings) ↔
      ∃ limit, card.integerOption rule.chosen "max_method_lines" = .ok limit) ∧
    ∃ places : List (List Nat × Node),
      (∀ findings, perform rule.chosen tree path = .ok findings →
        findings.filter (·.category == "performance") =
          places.map fun place => loopFinding path place.2) ∧
      places.Pairwise (fun first second => first.1 < second.1) ∧
      (∀ position loop, (position, loop) ∈ places ↔ tree.root.nodeAt? position = some loop ∧
        loop.kind = Kind.foreachStatement ∧ ∃ body, IsBody loop body ∧
          ∃ below call, body.nodeAt? below = some call ∧ IsQuery tree.source call) ∧
      ∀ inner loop outer enclosing body below, (inner, loop) ∈ places →
        tree.root.nodeAt? outer = some enclosing → enclosing.kind = Kind.foreachStatement →
        IsBody enclosing body → body.nodeAt? below = some loop → (outer, enclosing) ∈ places := by
  refine ⟨RuleCard.body_of_build hbuilt, exists_perform_iff _ _ _, queryingLoops tree,
    fun findings => filter_perform_performance, (Node.pairwise_places _).filter _,
    fun position loop => mem_queryingLoops, ?_⟩
  intro inner loop outer enclosing body below hloop hat hkind hbody hbelow
  obtain ⟨_, _, hquery⟩ := mem_queryingLoops.mp hloop
  exact mem_queryingLoops.mpr ⟨hat, hkind, hquery.of_inner hbody hbelow⟩

def findCall : Node :=
  .onFirstLine Kind.scopedCall 34 43
    [(.onFirstLine Kind.name 34 35 [], some "scope"), (.onFirstLine Kind.name 37 41 [], some "name")]

/-- A loop without a field for its body. -/
def innerLoop : Node :=
  .onFirstLine Kind.foreachStatement 17 44
    [(.onFirstLine Kind.variableName 25 27 [], none), (.onFirstLine Kind.variableName 31 33 [], none),
      (.onFirstLine "expression_statement" 34 44 [(findCall, none)], none)]

def outerLoop : Node :=
  .onFirstLine Kind.foreachStatement 0 44
    [(.onFirstLine Kind.variableName 8 10 [], none), (.onFirstLine Kind.variableName 14 16 [], none),
      (innerLoop, some "body")]

def nestedLoops : SyntaxTree where
  root := .onFirstLine "program" 0 44 [(outerLoop, none)]
  source := Utf8.ofAscii "foreach($a as $b)foreach($b as $c)C::Find();"

theorem isQuery_findCall : IsQuery nestedLoops.source findCall :=
  ⟨by simp [findCall, Node.onFirstLine], .onFirstLine Kind.name 37 41 [], rfl, by decide +kernel⟩

theorem nestedLoops_reported :
    ∃ rule, build (.map []) = .ok rule ∧
      (∃ findings, perform rule.chosen nestedLoops "app/Loops.php" = .ok findings) ∧
      ∃ places : List (List Nat × Node),
        (∀ findings, perform rule.chosen nestedLoops "app/Loops.php" = .ok findings →
          findings.filter (·.category == "performance") =
            places.map fun place => loopFinding "app/Loops.php" place.2) ∧
        ([0, 2], innerLoop) ∈ places ∧ ([0], outerLoop) ∈ places := by
  obtain ⟨rule, hbuilt, hlimit⟩ : ∃ rule, build (.map []) = .ok rule ∧
      card.integerOption rule.chosen "max_method_lines" = .ok 50 := ⟨_, rfl, rfl⟩
  obtain ⟨_, hends, places, hfindings, _, hplaces, houter⟩ :=
    querying_loops_reported hbuilt nestedLoops "app/Loops.php"
  have hinner : ([0, 2], innerLoop) ∈ places := by
    refine (hplaces _ _).mpr ⟨rfl, rfl, _, .inr ⟨rfl, rfl⟩, [0], findCall, rfl, isQuery_findCall⟩
  refine ⟨rule, hbuilt, hends.mpr ⟨50, hlimit⟩, places, hfindings, hinner, ?_⟩
  exact houter _ _ [0] outerLoop innerLoop [] hinner rfl rfl (.inl rfl) rfl

end LaravelPractices

end PhpAudit
