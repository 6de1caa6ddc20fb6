import PhpAudit.Proofs.CheckEffects
import PhpAudit.Proofs.DriverNames
import PhpAudit.Proofs.TreeConversion
import PhpAudit.Proofs.UnwritableLiterals

/-!
The usages of the driver in a file, asked for in two ways: as a list of usages, and as the findings
of a check. Each reads the file, fetches its tree and deals with failures by itself, and the two may
run in sessions that know different trees. The answers are the same all the same: by line, on one
line the imports before the nodes, and each import and each node that is a usage once.
-/

namespace PhpAudit

/-- A node that a conversion gives. -/
def Node.Converted (node : Node) : Prop := ∃ raw : RawNode, node = raw.prune

namespace Node.Converted

variable {node : Node}

theorem one_le_startLine (h : node.Converted) : 1 ≤ node.startLine := by
  obtain ⟨raw, rfl⟩ := h
  rw [RawNode.prune_eq]
  exact Nat.le_add_left 1 raw.startRow

theorem child (h : node.Converted) {child : Node} (hchild : child ∈ node.children) :
    child.Converted := by
  obtain ⟨raw, rfl⟩ := h
  rw [RawNode.prune_eq, RawNode.pruneAll_eq] at hchild
  obtain ⟨inner, _, rfl⟩ := List.mem_map.mp hchild
  exact ⟨inner, rfl⟩

end Node.Converted

theorem Grammar.converted_of_fresh {g : Grammar} {content : Bytes} {tree : SyntaxTree}
    (h : g.fresh content = .ok tree) : ∀ node ∈ tree.root.walk, node.Converted := by
  intro node hnode
  unfold fresh Reading.parse at h
  dsimp only at h
  split at h
  · cases h
  · cases h
    rw [RawNode.convert_eq_prune, RawNode.walk_prune _ List.all_nil] at hnode
    obtain ⟨occurrence, _, rfl⟩ := List.mem_map.mp hnode
    exact ⟨occurrence.node, rfl⟩

namespace Import

/-- The line of an import is that of its clause. -/
theorem exists_clause {source : Bytes} {declaration : Node} {i : Import}
    (h : i ∈ ofDeclaration source declaration) :
    ∃ clause : Node, i.line = clause.startLine ∧ (clause ∈ declaration.children ∨
      ∃ group ∈ declaration.children, clause ∈ group.children) := by
  unfold ofDeclaration at h
  dsimp only at h
  split at h
  · next group hgroup =>
      obtain ⟨clause, hclause, hsome⟩ := List.mem_filterMap.mp h
      have hbelow : clause ∈ group.children := (List.mem_filter.mp hclause).1
      split at hsome
      · cases hsome
        exact ⟨clause, rfl, .inr ⟨group, List.mem_of_find?_eq_some hgroup, hbelow⟩⟩
      · cases hsome
  · obtain ⟨clause, hclause, hsome⟩ := List.mem_filterMap.mp h
    have hbelow : clause ∈ declaration.children := (List.mem_filter.mp hclause).1
    split at hsome
    · cases hsome
      exact ⟨clause, rfl, .inl hbelow⟩
    · cases hsome

theorem one_le_line {tree : SyntaxTree} (htree : ∀ node ∈ tree.root.walk, node.Converted)
    {i : Import} (h : i ∈ ofTree tree) : 1 ≤ i.line := by
  obtain ⟨declaration, hdeclaration, hi⟩ := List.mem_flatMap.mp h
  have hconverted := htree declaration (List.mem_filter.mp hdeclaration).1
  obtain ⟨clause, hline, hclause | ⟨group, hgroup, hclause⟩⟩ := exists_clause hi
  · rw [hline]
    exact (hconverted.child hclause).one_le_startLine
  · rw [hline]
    exact ((hconverted.child hgroup).child hclause).one_le_startLine

end Import

namespace MongoAccess

theorem classUsage?_eq_some {patterns : List Value} {name : String} {usage u : Usage}
    (h : classUsage? patterns name usage = .ok (some u)) : u = usage := by
  obtain ⟨flagged, _, h⟩ := exists_ok_of_bind h
  cases flagged with
  | true =>
      cases h
      rfl
  | false => cases h

theorem classify_line {patterns : List Value} {aliases : Name.Aliases} {source : Bytes}
    {node : Node} {u : Usage} (h : classify patterns aliases source node = .ok (some u)) :
    u.line = node.startLine := by
  unfold classify at h
  split at h
  · split at h
    · cases h
    · rw [classUsage?_eq_some h]
  split at h
  · dsimp only at h
    split at h
    · cases h
    · rw [classUsage?_eq_some h]
  split at h
  · dsimp only at h
    split at h
    · cases h
      rfl
    · cases h
  split at h
  · dsimp only at h
    split at h
    · cases h
      rfl
    · cases h
  · cases h

/-- Sorting by line keeps the order of what stands on one line. -/
theorem filter_mergeSort_line (found : List Usage) (line : Nat) :
    (found.mergeSort fun a b => decide (a.line ≤ b.line)).filter (·.line == line) =
      found.filter (·.line == line) := by
  have hsorted : (found.filter (·.line == line)).Pairwise
      fun a b => decide (a.line ≤ b.line) = true := by
    apply List.pairwise_of_forall_mem_list
    intro a ha b hb
    have hfirst : a.line = line := by simpa using (List.mem_filter.mp ha).2
    have hsecond : b.line = line := by simpa using (List.mem_filter.mp hb).2
    rw [hfirst, hsecond]
    exact decide_eq_true (Nat.le_refl line)
  have hkept : (found.filter (·.line == line)).Sublist
      (found.mergeSort fun a b => decide (a.line ≤ b.line)) :=
    List.sublist_mergeSort (by simp; omega) (by simp; omega) hsorted List.filter_sublist
  have hfiltered := hkept.filter (·.line == line)
  rw [List.filter_filter] at hfiltered
  simp only [Bool.and_self] at hfiltered
  -- a sublist of the same length is the whole list
  have hlength := ((List.mergeSort_perm found fun a b => decide (a.line ≤ b.line)).filter
    (·.line == line)).length_eq
  exact (hfiltered.eq_of_length hlength.symm).symm

/-- What a list of usages has to be: by line, with each import and each node that is a usage once,
and on one line the imports first and then the nodes, in the order of the source. -/
structure Lists (patterns : List String) (tree : SyntaxTree) (found : List Usage) : Prop where
  sorted : found.Pairwise fun a b => a.line ≤ b.line
  perm : found.Perm ((Import.ofTree tree).filterMap (importUsage? patterns) ++
    tree.root.walk.filterMap (nodeUsage? patterns tree))
  byLine : ∀ line, found.filter (·.line == line) =
    ((Import.ofTree tree).filterMap (importUsage? patterns)).filter (·.line == line) ++
      (tree.root.walk.filterMap (nodeUsage? patterns tree)).filter (·.line == line)

theorem exists_lists (patterns : List String) (tree : SyntaxTree) :
    ∃ found, usages (patterns.map .text) tree = .ok found ∧ Lists patterns tree found := by
  refine ⟨_, usages_eq patterns tree, ?_, List.mergeSort_perm _ _, fun line => ?_⟩
  · exact (List.pairwise_mergeSort (by simp; omega) (by simp; omega) _).imp of_decide_eq_true
  · rw [filter_mergeSort_line, List.filter_append]

theorem Lists.one_le_line {patterns : List String} {tree : SyntaxTree} {found : List Usage}
    (h : Lists patterns tree found) (htree : ∀ node ∈ tree.root.walk, node.Converted) :
    ∀ u ∈ found, 1 ≤ u.line := by
  intro u hu
  rcases List.mem_append.mp (h.perm.mem_iff.mp hu) with hu | hu
  · obtain ⟨i, hi, hsome⟩ := List.mem_filterMap.mp hu
    unfold importUsage? at hsome
    split at hsome
    · cases hsome
      exact Import.one_le_line htree hi
    · cases hsome
  · obtain ⟨node, hnode, hsome⟩ := List.mem_filterMap.mp hu
    obtain ⟨answer, hanswer⟩ := classify_texts patterns (Import.aliases (Import.ofTree tree))
      tree.source node
    have hfound : answer = some u := by
      rw [nodeUsage?, hanswer] at hsome
      exact hsome
    rw [hfound] at hanswer
    rw [classify_line hanswer]
    exact (htree node hnode).one_le_startLine

/-- Kind, line and code of the usage that a finding is about. -/
def usageEntry (f : Finding) : Mapping String Value :=
  [("type", (Mapping.get? f.metadata "usage").getD .null), ("line", .int f.line),
    ("code", f.badCode)]

theorem usageEntry_usageFinding (chosen : Mapping String Value) (path : String) {u : Usage}
    (h : 1 ≤ u.line) : usageEntry (usageFinding chosen path u) = u.toMapping := by
  simp [usageEntry, usageFinding, RuleCard.finding, Mapping.get?, Usage.toMapping, h]

/-- Whether one of the targets is part of a path. -/
def Targeted (targets : List String) (path : String) : Prop :=
  ∃ target ∈ targets, target.toList <:+: slashed path

theorem targets_texts (path : List Char) (values : List String) :
    targets path (values.map .text) =
      .ok (values.any fun target => Text.occursIn target.toList path) := by
  induction values with
  | nil => rfl
  | cons target rest ih =>
      rw [List.map_cons, targets, ih, List.any_cons]
      cases Text.occursIn target.toList path <;> rfl

section Listing

variable {ws : Workspace} {rule : Rule} {path : String} {content : Bytes} {mtime : Int}
  {s t : Session}

theorem usageDetails_of_parsed (happlies : rule.appliesTo path = .ok true)
    (hpath : Files.isPath path = true) (hread : ws.files.read path = .ok (content, mtime))
    {tree : SyntaxTree}
    (hfetched : s.fetch ws.grammar path content (.int mtime) = (.ok tree, t)) :
    usageDetails ws rule path s = (usages (patternsOf rule.chosen) tree, t) := by
  simp [usageDetails, happlies, hpath, hread, hfetched]

theorem usageDetails_of_unparsed (happlies : rule.appliesTo path = .ok true)
    (hpath : Files.isPath path = true) (hread : ws.files.read path = .ok (content, mtime))
    {f : Failure} (hfetched : s.fetch ws.grammar path content (.int mtime) = (.error f, t)) :
    ∃ after, usageDetails ws rule path s = (.ok [], after) := by
  obtain ⟨fault, rfl⟩ := Session.exists_fault_of_fetch (congrArg Prod.fst hfetched)
  obtain ⟨r, hreport⟩ :=
    Report.exists_parsing (.text rule.typeName) path fault.message fault.line t.clock
  refine ⟨t.file r, ?_⟩
  simp only [usageDetails, happlies, hpath, hread, hfetched]
  exact congrArg (t.submit · ([] : List Usage)) hreport

variable {options : Value} {targets patterns : List String}

theorem exists_appliesTo (hbuilt : build options = .ok rule)
    (htargets : card.arrayOption rule.chosen "target_paths" = targets.map .text)
    (path : String) :
    ∃ applies, rule.appliesTo path = .ok applies ∧ (applies = true ↔ Targeted targets path) := by
  have hrule : rule.appliesTo path = appliesTo rule.chosen path := by
    obtain ⟨chosen, _, hrule⟩ := exists_ok_of_bind hbuilt
    cases hrule
    rfl
  refine ⟨targets.any fun target => Text.occursIn target.toList (slashed path), ?_, ?_⟩
  · rw [hrule, appliesTo, htargets]
    exact targets_texts (slashed path) targets
  · simp only [List.any_eq_true, Text.occursIn_iff_infix, Targeted]

/-- The findings about the usages of a tree. -/
theorem perform_of_usages {tree : SyntaxTree} {found : List Usage}
    (h : usages (patternsOf rule.chosen) tree = .ok found) :
    perform rule.chosen tree path = .ok (found.map (usageFinding rule.chosen path)) := by
  rw [perform, h]
  rfl

end Listing

/-- What a file has to be listed with: the usages in its tree, or nothing if its path is not
targeted or it cannot be parsed. -/
inductive Tells (g : Grammar) (targets patterns : List String) (path : String) (content : Bytes) :
    List Usage → Prop where
  | untargeted (h : ¬Targeted targets path) : Tells g targets patterns path content []
  | unparsed {f : Failure} (h : g.fresh content = .error f) : Tells g targets patterns path content []
  | parsed {tree : SyntaxTree} {found : List Usage} (htargeted : Targeted targets path)
      (htree : g.fresh content = .ok tree) (hlists : Lists patterns tree found) :
      Tells g targets patterns path content found

/-- Let targets and patterns be texts, and let a file be readable and open. In any two sessions with
sound caches, the usages listed for the file are those the findings of a check are about, one by one;
they are what the file has to be listed with. -/
theorem listing_matches_check {options : Value} {rule : Rule} {targets patterns : List String}
    (hbuilt : build options = .ok rule)
    (htargets : card.arrayOption rule.chosen "target_paths" = targets.map .text)
    (hpatterns : patternsOf rule.chosen = patterns.map .text) {ws : Workspace} {path : String}
    {content : Bytes} {mtime : Int}
    (hfile : ws.files.find path = .ok (.regular content mtime true true)) {known : Set Bytes}
    (hdigest : Set.InjOn Sha256.hexDigest known) (hcontent : content ∈ known) {s t : Session}
    (hs : s.cache.Sound ws.grammar known) (ht : t.cache.Sound ws.grammar known) :
    ∃ (found : List Usage) (findings : List Finding) (s' t' : Session),
      usageDetails ws rule path s = (.ok found, s') ∧
      rule.check ws path t = (.ok (.items (findings.map .finding)), t') ∧
      findings.map usageEntry = found.map Usage.toMapping ∧
      Tells ws.grammar targets patterns path content found := by
  have hbody := RuleCard.body_of_build hbuilt
  have hpath := Files.isPath_of_find hfile
  have hreadable : ws.files.isReadable path = true := by rw [Files.isReadable, hfile]
  have hread : ws.files.read path = .ok (content, mtime) := by
    rw [Files.read, hfile]
    rfl
  have hfetch {r : Session} (hr : r.cache.Sound ws.grammar known) :
      ∃ r', r.fetch ws.grammar path content (.int mtime) = (ws.grammar.fresh content, r') :=
    ⟨_, Prod.ext (Session.fetch_eq_fresh ws.grammar known hr hdigest path hcontent (.int mtime)).1
      rfl⟩
  obtain ⟨s', hlisted⟩ := hfetch hs
  obtain ⟨t', hchecked⟩ := hfetch ht
  obtain ⟨applies, happlies, htargeted⟩ := exists_appliesTo hbuilt htargets path
  cases applies with
  | false =>
      refine ⟨[], [], s, t, ?_, ?_, rfl, .untargeted fun h => ?_⟩
      · simp only [usageDetails, happlies]
      · simp only [Rule.check, hbody, Rule.checkTree, happlies]
        rfl
      · cases htargeted.mpr h
  | true =>
      cases hfresh : ws.grammar.fresh content with
      | error f =>
          rw [hfresh] at hlisted hchecked
          obtain ⟨_, hdetails⟩ := usageDetails_of_unparsed happlies hpath hread hlisted
          obtain ⟨_, _, _, _, hcheck, _⟩ :=
            Rule.check_of_unparsed hbody happlies hreadable hread hchecked
          exact ⟨[], [], _, _, hdetails, hcheck, rfl, .unparsed hfresh⟩
      | ok tree =>
          rw [hfresh] at hlisted hchecked
          obtain ⟨found, hfound, hlists⟩ := exists_lists patterns tree
          rw [← hpatterns] at hfound
          have hdetails := usageDetails_of_parsed happlies hpath hread hlisted
          rw [hfound] at hdetails
          obtain ⟨_, hcheck, _⟩ := Rule.check_of_performed hbody happlies hreadable hread
            (congrArg Prod.fst hchecked) (perform_of_usages hfound)
          have hlines := hlists.one_le_line (Grammar.converted_of_fresh hfresh)
          refine ⟨found, _, _, _, hdetails, hcheck, ?_, .parsed (htargeted.mp rfl) hfresh hlists⟩
          rw [List.map_map]
          exact List.map_congr_left fun u hu => usageEntry_usageFinding _ _ (hlines u hu)

def lateImport : Node :=
  ⟨Kind.useDeclaration, 15, 34, 2, 2,
    [⟨Kind.useClause, 19, 33, 2, 2, [⟨Kind.qualifiedName, 19, 33, 2, 2, [], [], false, false⟩],
      [none], false, false⟩], [none], false, false⟩

def earlyCall : Node :=
  .onFirstLine Kind.functionCall 0 13 [(.onFirstLine Kind.name 0 11 [], some "function")]

/-- A call of an old function, and an import on the line below. -/
def lateTree : SyntaxTree where
  root := ⟨"program", 0, 34, 1, 2, [earlyCall, lateImport], [none, none], false, false⟩
  source := Utf8.ofAscii "mongodb_run();\nuse MongoDB\\Client;"

/-- A grammar that knows this tree only. -/
def lateGrammar : Grammar where
  read _ := ⟨⟨"program", none, 0, 34, 0, 1, true, false, false,
    [⟨Kind.functionCall, none, 0, 13, 0, 0, true, false, false,
        [⟨Kind.name, some "function", 0, 11, 0, 0, true, false, false, []⟩]⟩,
      ⟨Kind.useDeclaration, none, 15, 34, 1, 1, true, false, false,
        [⟨Kind.useClause, none, 19, 33, 1, 1, true, false, false,
          [⟨Kind.qualifiedName, none, 19, 33, 1, 1, true, false, false, []⟩]⟩]⟩]⟩, false⟩
  seconds _ := 0.5

theorem fresh_lateGrammar : lateGrammar.fresh lateTree.source = .ok lateTree := by
  simp only [Grammar.fresh, lateGrammar, Reading.parse, RawNode.convert_eq_prune]
  rfl

theorem imports_lateTree :
    Import.ofTree lateTree = [⟨"MongoDB\\Client", "Client", "class", 2, lateImport⟩] := by
  have hfound : lateTree.root.findKind [Kind.useDeclaration] = [lateImport] := by
    simp [Node.findKind, Node.walk, Node.walkFrom, lateTree, lateImport, earlyCall,
      Node.onFirstLine, Kind.useDeclaration, Kind.useClause, Kind.qualifiedName, Kind.name,
      Kind.functionCall]
  rw [Import.ofTree, hfound]
  rfl

theorem importUsages_lateTree :
    (Import.ofTree lateTree).filterMap (importUsage? defaultPatterns) =
      [⟨.import, 2, "use MongoDB\\Client;"⟩] := by
  rw [imports_lateTree]
  decide +kernel

theorem nodeUsages_lateTree :
    lateTree.root.walk.filterMap (nodeUsage? defaultPatterns lateTree) =
      [⟨.functionCall, 1, "mongodb_run()"⟩] := by
  have hwalk : lateTree.root.walk = [lateTree.root, earlyCall] ++ earlyCall.children ++
      [lateImport] ++ lateImport.children ++ lateImport.children.flatMap (·.children) := by
    simp [Node.walk, Node.walkFrom, lateTree, lateImport, earlyCall, Node.onFirstLine]
  rw [hwalk]
  decide +kernel

end MongoAccess

/-- A controller that holds the call and the import. -/
def Workspace.lateImport : Workspace where
  files := Files.write {} "app/Http/Controllers/Home.php"
    (.regular MongoAccess.lateTree.source 5 true true)
  grammar := MongoAccess.lateGrammar

namespace MongoAccess

/-- Listed by a session that knows nothing yet, and found by one that has the tree: the call comes
before the import, as their lines do. -/
theorem lateTree_listed :
    ∃ (rule : Rule) (found : List Usage) (findings : List Finding) (s' t' : Session),
      build (.map []) = .ok rule ∧
      usageDetails .lateImport rule "app/Http/Controllers/Home.php" .cold = (.ok found, s') ∧
      rule.check .lateImport "app/Http/Controllers/Home.php"
          (Session.cold.fetch lateGrammar "Home.php" lateTree.source (.int 5)).2 =
        (.ok (.items (findings.map .finding)), t') ∧
      findings.map usageEntry = found.map Usage.toMapping ∧ found.map (·.line) = [1, 2] := by
  obtain ⟨rule, hbuilt⟩ : ∃ rule, build (.map []) = .ok rule := ⟨_, rfl⟩
  have htargets : card.arrayOption rule.chosen "target_paths" = defaultTargets.map .text := by
    cases hbuilt
    rfl
  have hpatterns : patternsOf rule.chosen = defaultPatterns.map .text := by
    cases hbuilt
    rfl
  have hdigest : Set.InjOn Sha256.hexDigest {lateTree.source} := Set.injOn_singleton _ _
  have hcold : Session.cold.cache.Sound lateGrammar {lateTree.source} := by
    intro entry hentry
    cases hentry
  have hwarm := (Session.fetch_eq_fresh lateGrammar {lateTree.source} hcold hdigest "Home.php"
    rfl (.int 5)).2.sound hcold
  have hfile : Workspace.lateImport.files.find "app/Http/Controllers/Home.php" =
      .ok (.regular lateTree.source 5 true true) := rfl
  obtain ⟨found, findings, s', t', hlisted, hchecked, hentries, htells⟩ :=
    listing_matches_check hbuilt htargets hpatterns hfile hdigest rfl hcold hwarm
  refine ⟨rule, found, findings, s', t', hbuilt, hlisted, hchecked, hentries, ?_⟩
  cases htells with
  | untargeted h =>
      refine absurd ⟨"app/Http/Controllers/", List.mem_cons_self, ?_⟩ h
      exact (Text.occursIn_iff_infix _ _).mp (by decide)
  | unparsed h => cases fresh_lateGrammar.symm.trans h
  | parsed _ hfresh hlists =>
      cases fresh_lateGrammar.symm.trans hfresh
      have hperm := hlists.perm
      rw [importUsages_lateTree, nodeUsages_lateTree] at hperm
      have hlines : (found.map (·.line)).Perm [1, 2] := (hperm.map _).trans (.swap 1 2 [])
      have hsorted : (found.map (·.line)).Pairwise (· ≤ ·) := List.pairwise_map.mpr hlists.sorted
      exact hlines.eq_of_pairwise (fun _ _ _ _ => Nat.le_antisymm) hsorted (by decide)

end MongoAccess

end PhpAudit
