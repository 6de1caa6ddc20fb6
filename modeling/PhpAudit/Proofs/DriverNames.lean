import Mathlib.Data.List.DropRight
import PhpAudit.Proofs.BundledChecks
import PhpAudit.Proofs.ReferenceRun

/-!
Class names of the driver, as a file imports and uses them. A reference is resolved through the
last import of its first segment. The full name that comes of it begins with the imported one, so it
is the driver's if the imported one is. A reference that no import covers is compared by itself.
-/

namespace PhpAudit

namespace Text

theorem dropEndWhile_begins {α : Type} (p : α → Bool) (xs : List α) : dropEndWhile p xs <+: xs :=
  List.rdropWhile_prefix p xs

theorem dropEndWhile_append {α : Type} {p : α → Bool} (front : List α) {x : α} (hx : p x = false)
    (back : List α) : dropEndWhile p (front ++ x :: back) = front ++ x :: dropEndWhile p back := by
  simp only [dropEndWhile, List.reverse_append, List.reverse_cons, List.append_assoc,
    List.dropWhile_append]
  cases h : (back.reverse.dropWhile p).isEmpty with
  | true => simp [hx, List.isEmpty_iff.mp h]
  | false => simp

theorem isBlank_backslash : isBlank '\\' = false := by decide

/-- What comes behind a separator has no effect on how the text in front of it is trimmed. -/
theorem trimChars_begins (front back : List Char) :
    trimChars front <+: trimChars (front ++ '\\' :: back) := by
  rw [trimChars, trimChars, trimWhile, trimWhile, List.dropWhile_append]
  split
  · next hblank =>
      rw [List.isEmpty_iff.mp hblank]
      exact List.nil_prefix
  · rw [dropEndWhile_append _ isBlank_backslash]
    exact (dropEndWhile_begins _ _).trans (List.prefix_append _ _)

/-- What is trimmed begins, if at all, with something that stays. -/
theorem head_trimWhile {α : Type} {p : α → Bool} {xs rest : List α} {x : α}
    (h : trimWhile p xs = x :: rest) : p x = false := by
  have hprefix : x :: rest <+: xs.dropWhile p := h ▸ dropEndWhile_begins p (xs.dropWhile p)
  have hhead := List.head?_dropWhile_not p xs
  rw [List.prefix_iff_eq_append.mp hprefix |>.symm] at hhead
  simpa using hhead

theorem trimWhile_trimWhile {α : Type} (p : α → Bool) (xs : List α) :
    trimWhile p (trimWhile p xs) = trimWhile p xs := by
  have hfront : (trimWhile p xs).dropWhile p = trimWhile p xs := by
    cases htrimmed : trimWhile p xs with
    | nil => rfl
    | cons x rest => exact List.dropWhile_cons_of_neg (by simp [head_trimWhile htrimmed])
  rw [trimWhile, hfront]
  exact List.rdropWhile_idempotent p _

theorem trimChars_trimChars (cs : List Char) : trimChars (trimChars cs) = trimChars cs :=
  trimWhile_trimWhile isBlank cs

end Text

/-- Dropping a beginning keeps one list a beginning of another. -/
theorem dropWhile_begins_dropWhile {α : Type} (p : α → Bool) {xs ys : List α} (h : xs <+: ys) :
    xs.dropWhile p <+: ys.dropWhile p := by
  obtain ⟨rest, rfl⟩ := h
  rw [List.dropWhile_append]
  split
  · next hall =>
      rw [List.isEmpty_iff.mp hall]
      exact List.nil_prefix
  · exact List.prefix_append _ _

namespace Name

theorem normalizeChars_begins (front back : List Char) :
    normalizeChars front <+: normalizeChars (front ++ '\\' :: back) :=
  dropWhile_begins_dropWhile _ (Text.trimChars_begins front back)

/-- What stands before the first separator of a reference. -/
def firstSegment (reference : String) : String :=
  String.ofList ((Text.trimChars reference.toList).takeWhile (· != '\\'))

/-- What stands behind the first separator of a reference. -/
def furtherSegments (reference : String) : String :=
  String.ofList (((Text.trimChars reference.toList).dropWhile (· != '\\')).drop 1)

/-- A name with further segments below it, if there are any. -/
def within (name further : String) : String :=
  if further.isEmpty then name else name ++ "\\" ++ further

/-- Whether a reference gives its full name itself. -/
def isFull (reference : String) : Bool := (Text.trimChars reference.toList).head? == some '\\'

theorem normalizeChars_trimChars (cs : List Char) :
    normalizeChars (Text.trimChars cs) = normalizeChars cs := by
  rw [normalizeChars, Text.trimChars_trimChars, normalizeChars]

section Resolve

variable {aliases : Aliases} {reference : String}

theorem resolve_of_isFull (h : isFull reference = true) :
    resolve aliases reference = normalize reference := by
  have hhead : (Text.trimChars reference.toList).head? = some '\\' := beq_iff_eq.mp h
  rw [resolve, if_pos hhead, normalizeChars_trimChars, normalize]

theorem resolve_of_some (hfull : isFull reference = false) {target : String}
    (h : Mapping.get? aliases (Text.lower (firstSegment reference)) = some target) :
    resolve aliases reference = within target (furtherSegments reference) := by
  have hhead : ¬(Text.trimChars reference.toList).head? = some '\\' := by
    simpa [isFull] using hfull
  rw [Text.lower, firstSegment, String.toList_ofList] at h
  rw [resolve, if_neg hhead, furtherSegments, within, Text.cutAt]
  cases (Text.trimChars reference.toList).dropWhile (· != '\\') with
  | nil =>
      simp only [h]
      rfl
  | cons sep rest =>
      simp only [h]
      cases rest with
      | nil => rfl
      | cons c more =>
          exact (if_neg (by simp)).symm

theorem resolve_of_none (hfull : isFull reference = false)
    (h : Mapping.get? aliases (Text.lower (firstSegment reference)) = none) :
    resolve aliases reference = Text.trim reference := by
  have hhead : ¬(Text.trimChars reference.toList).head? = some '\\' := by
    simpa [isFull] using hfull
  rw [Text.lower, firstSegment, String.toList_ofList] at h
  rw [resolve, if_neg hhead, Text.cutAt]
  cases (Text.trimChars reference.toList).dropWhile (· != '\\') with
  | nil =>
      simp only [h]
      rfl
  | cons sep rest =>
      simp only [h]
      rfl

/-- A reference that no import covers is compared by itself, trimmed once more. -/
theorem normalizeChars_resolve
    (h : isFull reference = true ∨
      Mapping.get? aliases (Text.lower (firstSegment reference)) = none) :
    normalizeChars (resolve aliases reference).toList =
      normalizeChars (normalizeChars reference.toList) := by
  cases hfull : isFull reference with
  | true => rw [resolve_of_isFull hfull, normalize, String.toList_ofList]
  | false =>
      have hnone := h.resolve_left (by simp [hfull])
      have hsame : normalizeChars reference.toList = Text.trimChars reference.toList := by
        rw [normalizeChars]
        cases htrimmed : Text.trimChars reference.toList with
        | nil => rfl
        | cons c rest =>
            have hc : ¬(c == '\\') = true := by simpa [isFull, htrimmed] using hfull
            exact List.dropWhile_cons_of_neg hc
      rw [resolve_of_none hfull hnone, Text.trim, String.toList_ofList, hsame]

end Resolve

end Name

/-- Of several values put under one key the last remains. -/
theorem Mapping.get?_foldl_put {α κ ν : Type} [DecidableEq κ] (key : α → κ) (value : α → ν)
    (xs : List α) (m : Mapping κ ν) (sought : κ) :
    get? (xs.foldl (fun acc x => put acc (key x) (value x)) m) sought =
      ((xs.reverse.find? fun x => key x = sought).map value).or (get? m sought) := by
  induction xs generalizing m with
  | nil => rfl
  | cons x rest ih =>
      rw [List.foldl_cons, ih, get?_put, List.reverse_cons, List.find?_append]
      by_cases hx : key x = sought
      · cases rest.reverse.find? fun x => key x = sought <;> simp [hx]
      · cases rest.reverse.find? fun x => key x = sought <;> simp [hx]

namespace Import

/-- Whether the import makes a class known under a name, in whatever case this is written. -/
def binds (name : String) (i : Import) : Bool :=
  decide (i.kind = "class" ∧ Text.lower i.localName = Text.lower name)

theorem get?_aliases (imports : List Import) (name : String) :
    Mapping.get? (aliases imports) (Text.lower name) =
      (imports.reverse.find? (binds name)).map (·.name) := by
  rw [aliases, Mapping.get?_foldl_put, ← List.filter_reverse, List.find?_filter]
  simp only [Mapping.get?, Option.or_none, beq_iff_eq, decide_eq_true_eq]
  rfl

theorem get?_aliases_of_last {before later : List Import} {i : Import} {name : String}
    (hbinds : i.binds name = true) (hlast : ∀ j ∈ later, j.binds name = false) :
    Mapping.get? (aliases (before ++ i :: later)) (Text.lower name) = some i.name := by
  have hlater : later.reverse.find? (binds name) = none := by
    simpa using hlast
  rw [get?_aliases, List.reverse_append, List.reverse_cons, List.append_assoc, List.find?_append,
    hlater, Option.none_or, List.singleton_append, List.find?_cons_of_pos hbinds, Option.map_some]

theorem get?_aliases_of_none {imports : List Import} {name : String}
    (h : ∀ i ∈ imports, i.binds name = false) :
    Mapping.get? (aliases imports) (Text.lower name) = none := by
  have hnone : imports.reverse.find? (binds name) = none := by
    simpa using h
  rw [get?_aliases, hnone, Option.map_none]

end Import

namespace MongoAccess

/-- Whether a name begins with one of the patterns, both trimmed. -/
def isDriver (patterns : List String) (name : String) : Bool :=
  patterns.any fun pattern =>
    (Name.normalizeChars pattern.toList).isPrefixOf (Name.normalizeChars name.toList)

theorem patternChars_eq (pattern : String) :
    patternChars (.text pattern) = .ok (Name.normalizeChars pattern.toList) := by
  unfold patternChars
  split
  · next hempty =>
      have : pattern = "" := by simpa [Value.isEmpty] using hempty
      rw [this]
      rfl
  · rfl

theorem isDriverName_eq (patterns : List String) (name : String) :
    isDriverName (patterns.map .text) name = .ok (isDriver patterns name) := by
  unfold isDriverName isDriver
  induction patterns with
  | nil => rfl
  | cons pattern rest ih =>
      rw [List.map_cons, matchesPattern, patternChars_eq, List.any_cons]
      cases h : (Name.normalizeChars pattern.toList).isPrefixOf
          (Name.normalizeChars name.toList) with
      | true => simp [h, bind, Except.bind, pure, Except.pure]
      | false => simpa [h, bind, Except.bind] using ih

/-- What is below a name of the driver is the driver's. -/
theorem isDriver_within {patterns : List String} {name : String} (h : isDriver patterns name = true)
    (further : String) : isDriver patterns (Name.within name further) = true := by
  obtain ⟨pattern, hpattern, hbegins⟩ := List.any_eq_true.mp h
  refine List.any_eq_true.mpr ⟨pattern, hpattern, ?_⟩
  rw [List.isPrefixOf_iff_prefix] at hbegins ⊢
  unfold Name.within
  split
  · exact hbegins
  · have hchars : (name ++ "\\" ++ further).toList = name.toList ++ '\\' :: further.toList := by
      simp
    rw [hchars]
    exact hbegins.trans (Name.normalizeChars_begins _ _)

/-- A node that names a class, the reference in it, and what it is reported as once the full name is
known. -/
inductive ClassUse (source : Bytes) (node : Node) : String → (String → Usage) → Prop where
  | creation {reference : Node} (hkind : node.kind = Kind.objectCreation)
      (h : Php.classReference? node = some reference) :
      ClassUse source node (reference.text source) fun name =>
        ⟨.creation, node.startLine, "new " ++ name ++ "()"⟩
  | staticCall {scope : String} (hkind : node.kind = Kind.scopedCall)
      (h : node.fieldText? source "scope" = some scope) :
      ClassUse source node scope fun name =>
        ⟨.staticCall, node.startLine,
          name ++ "::" ++ nonEmpty (node.fieldText? source "name") "method" ++ "()"⟩

theorem classUsage?_eq (patterns : List String) (name : String) (usage : Usage) :
    classUsage? (patterns.map .text) name usage =
      .ok (if isDriver patterns name then some usage else none) := by
  rw [classUsage?, isDriverName_eq]
  cases isDriver patterns name <;> rfl

theorem classify_texts (patterns : List String) (aliases : Name.Aliases) (source : Bytes)
    (node : Node) : ∃ found, classify (patterns.map .text) aliases source node = .ok found := by
  unfold classify
  split
  · split
    · exact ⟨none, rfl⟩
    · exact ⟨_, classUsage?_eq patterns _ _⟩
  split
  · dsimp only
    split
    · exact ⟨none, rfl⟩
    · exact ⟨_, classUsage?_eq patterns _ _⟩
  split
  · dsimp only
    split
    · exact ⟨_, rfl⟩
    · exact ⟨none, rfl⟩
  split
  · dsimp only
    split
    · exact ⟨_, rfl⟩
    · exact ⟨none, rfl⟩
  · exact ⟨none, rfl⟩

section Classify

variable {patterns : List String} {aliases : Name.Aliases} {source : Bytes} {node : Node}
  {reference : String} {report : String → Usage}

/-- A class use is reported exactly if its full name is the driver's. -/
theorem classify_of_classUse (h : ClassUse source node reference report)
    (hscope : node.kind = Kind.scopedCall → reference ≠ "") :
    classify (patterns.map .text) aliases source node =
      .ok (if isDriver patterns (Name.resolve aliases reference) then
        some (report (Name.resolve aliases reference)) else none) := by
  cases h with
  | creation hkind href =>
      have hcreation : node.isKind [Kind.objectCreation] = true := by simp [Node.isKind, hkind]
      rw [classify, if_pos hcreation, href]
      exact classUsage?_eq _ _ _
  | staticCall hkind hfield =>
      have hother : ¬node.isKind [Kind.objectCreation] = true := by
        simp [Node.isKind, hkind, Kind.scopedCall, Kind.objectCreation]
      have hcall : node.isKind [Kind.scopedCall] = true := by simp [Node.isKind, hkind]
      have hgiven : nonEmpty (some reference) "" = reference := by
        simp [nonEmpty, hscope hkind]
      rw [classify, if_neg hother, if_pos hcall, hfield, hgiven,
        if_neg (by simpa using hscope hkind)]
      exact classUsage?_eq _ _ _

/-- A static call without a scope is never reported. -/
theorem classify_of_emptyScope (hkind : node.kind = Kind.scopedCall)
    (h : node.fieldText? source "scope" = some "") :
    classify (patterns.map .text) aliases source node = .ok none := by
  have hother : ¬node.isKind [Kind.objectCreation] = true := by
    simp [Node.isKind, hkind, Kind.scopedCall, Kind.objectCreation]
  have hcall : node.isKind [Kind.scopedCall] = true := by simp [Node.isKind, hkind]
  rw [classify, if_neg hother, if_pos hcall, h]
  rfl

end Classify

/-- What an import is reported as, if it is one of a class of the driver. -/
def importUsage? (patterns : List String) (i : Import) : Option Usage :=
  if i.kind = "class" ∧ isDriver patterns i.name = true then some ⟨.import, i.line, i.statement⟩
  else none

/-- What a node of a tree is reported as. -/
def nodeUsage? (patterns : List String) (tree : SyntaxTree) (node : Node) : Option Usage :=
  (classify (patterns.map .text) (Import.aliases (Import.ofTree tree)) tree.source
    node).toOption.join

theorem importUsages_eq (patterns : List String) (imports : List Import) :
    importUsages (patterns.map .text) imports =
      .ok (imports.filterMap (importUsage? patterns)) := by
  induction imports with
  | nil => rfl
  | cons i rest ih =>
      rw [importUsages, ih, isDriverName_eq, List.filterMap_cons, importUsage?]
      by_cases hclass : i.kind = "class"
      · cases isDriver patterns i.name <;> simp [hclass] <;> rfl
      · simp [hclass]

theorem nodeUsages_eq (patterns : List String) (tree : SyntaxTree) (nodes : List Node) :
    nodeUsages (patterns.map .text) (Import.aliases (Import.ofTree tree)) tree.source nodes =
      .ok (nodes.filterMap (nodeUsage? patterns tree)) := by
  induction nodes with
  | nil => rfl
  | cons node rest ih =>
      obtain ⟨found, hfound⟩ := classify_texts patterns (Import.aliases (Import.ofTree tree))
        tree.source node
      have husage : nodeUsage? patterns tree node = found := by
        rw [nodeUsage?, hfound]
        cases found <;> rfl
      rw [nodeUsages, hfound, ih, List.filterMap_cons, husage]
      cases found <;> rfl

/-- With texts for patterns, the usages are those of the imports and those of the nodes, by line. -/
theorem usages_eq (patterns : List String) (tree : SyntaxTree) :
    usages (patterns.map .text) tree =
      .ok (((Import.ofTree tree).filterMap (importUsage? patterns) ++
        tree.root.walk.filterMap (nodeUsage? patterns tree)).mergeSort
          fun a b => decide (a.line ≤ b.line)) := by
  rw [usages, importUsages_eq, nodeUsages_eq]
  rfl

/-- The finding about a usage. -/
def usageFinding (chosen : Mapping String Value) (path : String) (u : Usage) : Finding :=
  card.finding path u.line message u.code (card.option chosen "suggested_fix").display .warning
    card.category.name [("usage", .text u.kind.name)]

theorem perform_perm {chosen : Mapping String Value} {patterns : List String}
    (hpatterns : patternsOf chosen = patterns.map .text) (tree : SyntaxTree) (path : String) :
    ∃ findings, perform chosen tree path = .ok findings ∧
      findings.Perm (((Import.ofTree tree).filterMap (importUsage? patterns) ++
        tree.root.walk.filterMap (nodeUsage? patterns tree)).map (usageFinding chosen path)) := by
  refine ⟨_, ?_, (List.mergeSort_perm _ fun a b => decide (a.line ≤ b.line)).map _⟩
  rw [perform, hpatterns, usages_eq]
  rfl

section Uses

variable {patterns : List String} {tree : SyntaxTree} {node : Node} {reference : String}
  {report : String → Usage}

/-- A use of an imported class is reported under the imported name if the import is. -/
theorem nodeUsage?_of_import {before later : List Import} {i : Import}
    (himports : Import.ofTree tree = before ++ i :: later)
    (hreported : (importUsage? patterns i).isSome = true)
    (hlast : ∀ j ∈ later, j.binds i.localName = false)
    (huse : ClassUse tree.source node reference report)
    (hscope : node.kind = Kind.scopedCall → reference ≠ "")
    (hfull : Name.isFull reference = false)
    (hfirst : Text.lower (Name.firstSegment reference) = Text.lower i.localName) :
    nodeUsage? patterns tree node =
      some (report (Name.within i.name (Name.furtherSegments reference))) := by
  have hdriver : i.kind = "class" ∧ isDriver patterns i.name = true := by
    by_contra hnot
    rw [importUsage?, if_neg hnot] at hreported
    cases hreported
  have hbinds : i.binds i.localName = true := decide_eq_true ⟨hdriver.1, rfl⟩
  have htarget : Mapping.get? (Import.aliases (Import.ofTree tree))
      (Text.lower (Name.firstSegment reference)) = some i.name := by
    rw [himports, hfirst]
    exact Import.get?_aliases_of_last hbinds hlast
  have hname := Name.resolve_of_some hfull htarget
  rw [nodeUsage?, classify_of_classUse huse hscope, hname,
    if_pos (isDriver_within hdriver.2 _)]
  rfl

/-- A use that no import covers and whose reference begins with no pattern is not reported. -/
theorem nodeUsage?_of_unmatched (huse : ClassUse tree.source node reference report)
    (huncovered : Name.isFull reference = true ∨
      ∀ i ∈ Import.ofTree tree, i.binds (Name.firstSegment reference) = false)
    (hunlike : ∀ pattern ∈ patterns, ¬Name.normalizeChars pattern.toList <+:
      Name.normalizeChars (Name.normalizeChars reference.toList)) :
    nodeUsage? patterns tree node = none := by
  by_cases hscope : node.kind = Kind.scopedCall → reference ≠ ""
  · have hunbound : Name.isFull reference = true ∨
        Mapping.get? (Import.aliases (Import.ofTree tree))
          (Text.lower (Name.firstSegment reference)) = none :=
      huncovered.imp id Import.get?_aliases_of_none
    have hchars := Name.normalizeChars_resolve hunbound
    have hforeign : isDriver patterns
        (Name.resolve (Import.aliases (Import.ofTree tree)) reference) = false := by
      rw [isDriver, hchars, List.any_eq_false]
      intro pattern hpattern
      rw [List.isPrefixOf_iff_prefix]
      exact hunlike pattern hpattern
    rw [nodeUsage?, classify_of_classUse huse hscope, hforeign]
    rfl
  · obtain ⟨hkind, hempty⟩ := Classical.not_imp.mp hscope
    cases huse with
    | creation hother =>
        rw [hkind] at hother
        exact absurd hother (by decide)
    | staticCall _ hfield =>
        rw [not_not.mp hempty] at hfield
        rw [nodeUsage?, classify_of_emptyScope hkind hfield]
        rfl

end Uses

/-- Let the patterns of a rule be texts. Its findings are those about imports and those about nodes.
Where a class import is reported and no later one takes its alias, every `new` and every static call
with a scope that names the alias first is reported too, under the imported name with what follows
the alias. And a `new` or static call is not reported if no import covers its reference and no
pattern begins it; for this the reference is trimmed twice, and the pattern once. -/
theorem reported_import_reports_uses {options : Value} {rule : Rule} {patterns : List String}
    (hbuilt : build options = .ok rule)
    (hpatterns : patternsOf rule.chosen = patterns.map .text) (tree : SyntaxTree) (path : String) :
    rule.body = .tree (fun tree path => RuleCard.script (perform rule.chosen tree path)) ∧
    ∃ findings, perform rule.chosen tree path = .ok findings ∧
      findings.Perm (((Import.ofTree tree).filterMap (importUsage? patterns) ++
        tree.root.walk.filterMap (nodeUsage? patterns tree)).map
          (usageFinding rule.chosen path)) ∧
      (∀ before i later, Import.ofTree tree = before ++ i :: later →
        (importUsage? patterns i).isSome = true →
        (∀ j ∈ later, j.binds i.localName = false) →
        ∀ node ∈ tree.root.walk, ∀ reference report,
          ClassUse tree.source node reference report →
          (node.kind = Kind.scopedCall → reference ≠ "") →
          Name.isFull reference = false →
          Text.lower (Name.firstSegment reference) = Text.lower i.localName →
          nodeUsage? patterns tree node =
              some (report (Name.within i.name (Name.furtherSegments reference))) ∧
            usageFinding rule.chosen path
              (report (Name.within i.name (Name.furtherSegments reference))) ∈ findings) ∧
      ∀ node reference report, ClassUse tree.source node reference report →
        (Name.isFull reference = true ∨
          ∀ i ∈ Import.ofTree tree, i.binds (Name.firstSegment reference) = false) →
        (∀ pattern ∈ patterns, ¬Name.normalizeChars pattern.toList <+:
          Name.normalizeChars (Name.normalizeChars reference.toList)) →
        nodeUsage? patterns tree node = none := by
  obtain ⟨findings, hperform, hperm⟩ := perform_perm hpatterns tree path
  refine ⟨RuleCard.body_of_build hbuilt, findings, hperform, hperm, ?_,
    fun node reference report => nodeUsage?_of_unmatched⟩
  intro before i later himports hreported hlast node hnode reference report huse hscope hfull hfirst
  have husage := nodeUsage?_of_import himports hreported hlast huse hscope hfull hfirst
  refine ⟨husage, hperm.mem_iff.mpr (List.mem_map_of_mem ?_)⟩
  exact List.mem_append_right _ (List.mem_filterMap.mpr ⟨node, hnode, husage⟩)

def aliasedImport : Node :=
  .onFirstLine Kind.useDeclaration 0 28
    [(.onFirstLine Kind.useClause 4 27
      [(.onFirstLine Kind.qualifiedName 4 18 [], none),
        (.onFirstLine Kind.name 22 27 [], some "alias")], none)]

def aliasedUse : Node :=
  .onFirstLine Kind.objectCreation 28 45 [(.onFirstLine Kind.qualifiedName 32 45 [], none)]

def otherUse : Node :=
  .onFirstLine Kind.objectCreation 46 55 [(.onFirstLine Kind.name 50 55 [], none)]

/-- A file that imports the client under another name, and makes an object below that name and one
of another class. -/
def aliasedTree : SyntaxTree where
  root := .onFirstLine "program" 0 56
    [(aliasedImport, none), (aliasedUse, none), (otherUse, none)]
  source := Utf8.ofAscii "use MongoDB\\Client as Store;new STORE\\Options;new Other;"

theorem imports_aliasedTree :
    Import.ofTree aliasedTree = [⟨"MongoDB\\Client", "Store", "class", 1, aliasedImport⟩] := by
  have hfound : aliasedTree.root.findKind [Kind.useDeclaration] = [aliasedImport] := by
    simp [Node.findKind, Node.walk, Node.walkFrom, aliasedTree, aliasedImport, aliasedUse, otherUse,
      Node.onFirstLine, Kind.useDeclaration, Kind.useClause, Kind.qualifiedName, Kind.name,
      Kind.objectCreation]
  rw [Import.ofTree, hfound]
  rfl

theorem aliasedUse_mem_walk : aliasedUse ∈ aliasedTree.root.walk := by
  simp [Node.walk, Node.walkFrom, aliasedTree, aliasedImport, otherUse, aliasedUse,
    Node.onFirstLine]

/-- The object below the alias is reported as one below the client, and the other one is not. -/
theorem aliasedTree_reported :
    ∃ rule findings, build (.map []) = .ok rule ∧
      perform rule.chosen aliasedTree "Home.php" = .ok findings ∧
      usageFinding rule.chosen "Home.php" ⟨.creation, 1, "new MongoDB\\Client\\Options()"⟩
        ∈ findings ∧
      nodeUsage? defaultPatterns aliasedTree otherUse = none := by
  obtain ⟨rule, hbuilt⟩ : ∃ rule, build (.map []) = .ok rule := ⟨_, rfl⟩
  have hpatterns : patternsOf rule.chosen = defaultPatterns.map .text := by
    cases hbuilt
    rfl
  obtain ⟨_, findings, hperform, _, hforward, hconverse⟩ :=
    reported_import_reports_uses hbuilt hpatterns aliasedTree "Home.php"
  refine ⟨rule, findings, hbuilt, hperform, ?_, ?_⟩
  · exact (hforward [] _ [] imports_aliasedTree (by decide +kernel) (by simp) aliasedUse
      aliasedUse_mem_walk _ _ (.creation rfl rfl) (by decide +kernel) (by decide +kernel)
      (by decide +kernel)).2
  · refine hconverse otherUse _ _ (.creation rfl rfl) (.inr ?_) (by decide +kernel)
    rw [imports_aliasedTree, List.forall_mem_singleton]
    decide +kernel

/-- A blank after the separator. -/
def spacedTree : SyntaxTree where
  root := .onFirstLine Kind.objectCreation 0 20 [(.onFirstLine Kind.qualifiedName 4 20 [], none)]
  source := Utf8.ofAscii "new \\ MongoDB\\Client"

theorem classUse_spacedTree :
    ClassUse spacedTree.source spacedTree.root "\\ MongoDB\\Client" fun name =>
      ⟨.creation, 1, "new " ++ name ++ "()"⟩ := by
  have htext : (Node.onFirstLine Kind.qualifiedName 4 20 []).text spacedTree.source =
      "\\ MongoDB\\Client" := by decide +kernel
  rw [← htext]
  exact .creation rfl rfl

def unnamedImport : Node :=
  .onFirstLine Kind.useDeclaration 0 15
    [(.onFirstLine Kind.namespaceName 4 11 [], none),
      (.onFirstLine Kind.useGroup 12 14
        [(.onFirstLine Kind.useGroupClause 13 13 [(.onFirstLine Kind.name 13 13 [], none)], none)],
        none)]

def unscopedCall : Node :=
  .onFirstLine Kind.scopedCall 15 22
    [(.onFirstLine Kind.name 15 15 [], some "scope"),
      (.onFirstLine Kind.name 17 20 [], some "name")]

/-- A grouped import and a static call, each with an empty name. -/
def unnamedTree : SyntaxTree where
  root := .onFirstLine "program" 0 23 [(unnamedImport, none), (unscopedCall, none)]
  source := Utf8.ofAscii "use MongoDB\\\x7b\x7d;::run();"

theorem imports_unnamedTree :
    Import.ofTree unnamedTree = [⟨"MongoDB\\", "", "class", 1, unnamedImport⟩] := by
  have hfound : unnamedTree.root.findKind [Kind.useDeclaration] = [unnamedImport] := by
    simp [Node.findKind, Node.walk, Node.walkFrom, unnamedTree, unnamedImport, unscopedCall,
      Node.onFirstLine, Kind.useDeclaration, Kind.useGroup, Kind.useGroupClause, Kind.namespaceName,
      Kind.name, Kind.scopedCall]
  rw [Import.ofTree, hfound]
  rfl

/-- Trimmed once, a reference may begin with no pattern and be reported all the same. And a static
call without a scope is not reported even where an import with the empty alias is. -/
theorem trimmed_once_or_unscoped :
    (∃ reference report, ClassUse spacedTree.source spacedTree.root reference report ∧
      Name.isFull reference = true ∧
      (∀ pattern ∈ defaultPatterns, ¬Name.normalizeChars pattern.toList <+:
        Name.normalizeChars reference.toList) ∧
      nodeUsage? defaultPatterns spacedTree spacedTree.root =
        some ⟨.creation, 1, "new  MongoDB\\Client()"⟩) ∧
    ∃ i report, Import.ofTree unnamedTree = [i] ∧
      (importUsage? defaultPatterns i).isSome = true ∧
      ClassUse unnamedTree.source unscopedCall "" report ∧
      Name.isFull "" = false ∧
      Text.lower (Name.firstSegment "") = Text.lower i.localName ∧
      nodeUsage? defaultPatterns unnamedTree unscopedCall = none := by
  refine ⟨⟨_, _, classUse_spacedTree, by decide +kernel, by decide +kernel, ?_⟩,
    ⟨_, _, imports_unnamedTree, by decide +kernel, .staticCall rfl (by decide +kernel),
      by decide +kernel, by decide +kernel, ?_⟩⟩
  · rw [nodeUsage?, classify_of_classUse classUse_spacedTree (by decide +kernel),
      Name.resolve_of_isFull (by decide +kernel)]
    decide +kernel
  · rw [nodeUsage?, classify_of_emptyScope rfl (by decide +kernel)]
    rfl

end MongoAccess

end PhpAudit
