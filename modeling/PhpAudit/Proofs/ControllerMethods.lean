import Mathlib.Data.List.Infix
import PhpAudit.Proofs.TreePositions
import PhpAudit.Proofs.UnusedImports

/-!
Controller methods that take input and do not validate it. The methods are looked for below every
controller class, and the classes themselves anywhere in the tree, one inside another included. So a
method is reported as often as there are controller classes above it: once in a file whose
controllers do not nest, and twice or more where they do.
-/

namespace PhpAudit

namespace LaravelPractices

/-- What the rule finds, part by part, each part under the category of its findings. -/
def parts (limit : Int) (tree : SyntaxTree) (path : String) : List (String × List Finding) :=
  [("validation", checkValidation tree path), ("security", checkSecurity tree path),
    ("performance", checkLoops tree path), ("architecture", checkLength limit tree path)]

theorem perform_eq_ok_iff {chosen : Mapping String Value} {tree : SyntaxTree} {path : String}
    {findings : List Finding} :
    perform chosen tree path = .ok findings ↔
      ∃ limit, card.integerOption chosen "max_method_lines" = .ok limit ∧
        findings = (parts limit tree path).flatMap (·.2) := by
  unfold perform
  cases card.integerOption chosen "max_method_lines" with
  | error f => simp [bind, Except.bind]
  | ok limit => simp [bind, Except.bind, pure, Except.pure, parts, eq_comm]

theorem exists_perform_iff (chosen : Mapping String Value) (tree : SyntaxTree) (path : String) :
    (∃ findings, perform chosen tree path = .ok findings) ↔
      ∃ limit, card.integerOption chosen "max_method_lines" = .ok limit := by
  simp only [perform_eq_ok_iff]
  constructor
  · rintro ⟨_, limit, hlimit, _⟩
    exact ⟨limit, hlimit⟩
  · rintro ⟨limit, hlimit⟩
    exact ⟨_, limit, hlimit, rfl⟩

theorem category_of_mem_parts {limit : Int} {tree : SyntaxTree} {path : String}
    {part : String × List Finding} (hpart : part ∈ parts limit tree path) {f : Finding}
    (hf : f ∈ part.2) : f.category = part.1 := by
  simp only [parts, List.mem_cons, List.not_mem_nil, or_false] at hpart
  rcases hpart with rfl | rfl | rfl | rfl
  · obtain ⟨method, _, rfl⟩ := List.mem_map.mp hf
    rfl
  · rcases List.mem_append.mp hf with hf | hf
    · obtain ⟨call, _, rfl⟩ := List.mem_map.mp hf
      rfl
    · obtain ⟨call, _, rfl⟩ := List.mem_map.mp hf
      rfl
  · obtain ⟨loop, _, rfl⟩ := List.mem_map.mp hf
    rfl
  · obtain ⟨method, _, rfl⟩ := List.mem_map.mp hf
    rfl

/-- The findings of a category are those of the part that stands under it. -/
theorem filter_category_parts {limit : Int} {tree : SyntaxTree} {path : String}
    {part : String × List Finding} (hpart : part ∈ parts limit tree path) :
    ((parts limit tree path).flatMap (·.2)).filter (·.category == part.1) = part.2 := by
  have hfilter : ∀ other ∈ parts limit tree path,
      other.2.filter (·.category == part.1) = if other.1 = part.1 then other.2 else [] := by
    intro other hother
    split
    · next hsame =>
        apply List.filter_eq_self.mpr
        intro f hf
        rw [category_of_mem_parts hother hf, hsame]
        exact beq_self_eq_true part.1
    · next hdiffers =>
        apply List.filter_eq_nil_iff.mpr
        intro f hf
        rw [category_of_mem_parts hother hf, beq_iff_eq]
        exact hdiffers
  rw [List.filter_flatMap, List.flatMap_congr hfilter]
  simp only [parts, List.mem_cons, List.not_mem_nil, or_false] at hpart
  rcases hpart with rfl | rfl | rfl | rfl <;> simp [parts]

/-- A class whose name has the word in it. -/
structure IsController (source : Bytes) (cls : Node) : Prop where
  kind : cls.kind = Kind.classDeclaration
  named : "Controller".toList <:+: (Php.declaredName source cls).toList

def isController (source : Bytes) (cls : Node) : Bool :=
  cls.isKind [Kind.classDeclaration] && Text.contains (Php.declaredName source cls) "Controller"

theorem isController_iff {source : Bytes} {cls : Node} :
    isController source cls = true ↔ IsController source cls := by
  rw [isController, Bool.and_eq_true, Node.isKind_singleton, Text.contains,
    Text.occursIn_iff_infix]
  constructor
  · rintro ⟨hkind, hnamed⟩
    exact ⟨hkind, hnamed⟩
  · intro h
    exact ⟨h.kind, h.named⟩

/-- A method that takes input from outside and shows no sign of validating it. -/
structure Unvalidated (source : Bytes) (method : Node) : Prop where
  kind : method.kind = Kind.methodDeclaration
  /-- Public by its first modifier, or without any. -/
  isPublic : ∀ modifier, method.firstChildOfKind? [Kind.visibilityModifier] = some modifier →
    Text.lower (Text.trim (modifier.text source)) = "public"
  notStatic : ∀ child ∈ method.children, child.kind ≠ Kind.staticModifier
  takesInput : ∃ list, (method.childByField? "parameters").or
      (method.firstChildOfKind? [Kind.formalParameters]) = some list ∧
    ∃ parameter ∈ list.children, parameter.kind ≠ Kind.comment
  unmarked : ∀ marker ∈ validationMarkers, ¬marker.toList <:+: (method.text source).toList

theorem visibility_eq_public_iff {source : Bytes} {method : Node} :
    Php.visibility source method = "public" ↔
      ∀ modifier, method.firstChildOfKind? [Kind.visibilityModifier] = some modifier →
        Text.lower (Text.trim (modifier.text source)) = "public" := by
  rw [Php.visibility]
  cases method.firstChildOfKind? [Kind.visibilityModifier] <;> simp

theorem isStatic_eq_false_iff {method : Node} :
    Php.isStatic method = false ↔ ∀ child ∈ method.children, child.kind ≠ Kind.staticModifier := by
  rw [Php.isStatic, Node.firstChildOfKind?, Option.isSome_eq_false_iff, Option.isNone_iff_eq_none,
    List.find?_eq_none]
  simp only [Node.isKind_singleton, ne_eq]

theorem parameters_ne_nil_iff {method : Node} :
    Php.parameters method ≠ [] ↔ ∃ list, (method.childByField? "parameters").or
        (method.firstChildOfKind? [Kind.formalParameters]) = some list ∧
      ∃ parameter ∈ list.children, parameter.kind ≠ Kind.comment := by
  have hlist (list : Node) : (list.children.filter fun child => !child.isKind [Kind.comment]) ≠ [] ↔
      ∃ parameter ∈ list.children, parameter.kind ≠ Kind.comment := by
    simp [List.filter_eq_nil_iff, Node.isKind_singleton]
  unfold Php.parameters
  cases method.childByField? "parameters" with
  | some list => simpa using hlist list
  | none =>
      cases method.firstChildOfKind? [Kind.formalParameters] with
      | some list => simpa using hlist list
      | none => simp

theorem isUnvalidated_iff {source : Bytes} {method : Node}
    (hkind : method.kind = Kind.methodDeclaration) :
    isUnvalidated source method = true ↔ Unvalidated source method := by
  have hmarkers : validationMarkers.any (Text.contains (method.text source)) = false ↔
      ∀ marker ∈ validationMarkers, ¬marker.toList <:+: (method.text source).toList := by
    rw [List.any_eq_false]
    simp only [Text.contains, Text.occursIn_iff_infix]
  simp only [isUnvalidated, Bool.and_eq_true, Bool.not_eq_true', beq_iff_eq, hmarkers,
    visibility_eq_public_iff, isStatic_eq_false_iff, List.isEmpty_eq_false_iff,
    parameters_ne_nil_iff]
  constructor
  · rintro ⟨⟨⟨hpublic, hstatic⟩, hinput⟩, hmarked⟩
    exact ⟨hkind, hpublic, hstatic, hinput, hmarked⟩
  · intro h
    exact ⟨⟨⟨h.isPublic, h.notStatic⟩, h.takesInput⟩, h.unmarked⟩

/-- A method that is reported: where it stands, and where the controller stands below which it was
found. -/
structure MethodReport where
  controller : List Nat
  position : List Nat
  method : Node

/-- The reports of a file, class by class and within a class in the order of the source. -/
def reports (tree : SyntaxTree) : List MethodReport :=
  (tree.root.places.filter fun cls => isController tree.source cls.2).flatMap fun cls =>
    (cls.2.places.filter fun method => method.2.isKind [Kind.methodDeclaration] &&
      isUnvalidated tree.source method.2).map fun method =>
        ⟨cls.1, cls.1 ++ method.1, method.2⟩

theorem unvalidatedMethods_eq (tree : SyntaxTree) :
    unvalidatedMethods tree = (reports tree).map (·.method) := by
  rw [unvalidatedMethods, reports, List.map_flatMap, Node.filter_findKind, List.flatMap_map]
  apply List.flatMap_congr
  intro cls _
  rw [Node.filter_findKind, List.map_map]
  rfl

/-- Positions of the controllers above a position, from the outermost to the innermost. -/
def controllersAbove (tree : SyntaxTree) (position : List Nat) : List (List Nat) :=
  position.inits.filter fun outer => (tree.root.nodeAt? outer).any (isController tree.source)

theorem mem_controllersAbove {tree : SyntaxTree} {position outer : List Nat} :
    outer ∈ controllersAbove tree position ↔ outer <+: position ∧
      ∃ cls, tree.root.nodeAt? outer = some cls ∧ IsController tree.source cls := by
  rw [controllersAbove, List.mem_filter, List.mem_inits, Option.any_eq_true]
  simp only [isController_iff]

theorem mem_reports {tree : SyntaxTree} {report : MethodReport} :
    report ∈ reports tree ↔ tree.root.nodeAt? report.position = some report.method ∧
      Unvalidated tree.source report.method ∧
      report.controller ∈ controllersAbove tree report.position := by
  rw [reports, List.mem_flatMap, mem_controllersAbove]
  constructor
  · rintro ⟨⟨outer, cls⟩, hcls, hreport⟩
    obtain ⟨⟨inner, method⟩, hmethod, rfl⟩ := List.mem_map.mp hreport
    obtain ⟨houter, hcontroller⟩ := List.mem_filter.mp hcls
    obtain ⟨hinner, hunvalidated⟩ := List.mem_filter.mp hmethod
    obtain ⟨hkind, hunvalidated⟩ := Bool.and_eq_true_iff.mp hunvalidated
    have houter := Node.mem_places.mp houter
    refine ⟨?_, (isUnvalidated_iff (Node.isKind_singleton.mp hkind)).mp hunvalidated,
      List.prefix_append outer inner, cls, houter, isController_iff.mp hcontroller⟩
    rw [Node.nodeAt?_append, houter]
    exact Node.mem_places.mp hinner
  · rintro ⟨hat, hunvalidated, ⟨inner, hinner⟩, cls, houter, hcontroller⟩
    refine ⟨(report.controller, cls), ?_, ?_⟩
    · exact List.mem_filter.mpr ⟨Node.mem_places.mpr houter, isController_iff.mpr hcontroller⟩
    · rw [List.mem_map]
      refine ⟨(inner, report.method), List.mem_filter.mpr ⟨?_, ?_⟩, ?_⟩
      · rw [← hinner, Node.nodeAt?_append, houter] at hat
        exact Node.mem_places.mpr hat
      · rw [Bool.and_eq_true, Node.isKind_singleton]
        exact ⟨hunvalidated.kind, (isUnvalidated_iff hunvalidated.kind).mpr hunvalidated⟩
      · rw [hinner]

/-- Class by class, and within a class in the order of the source. -/
def MethodReport.Before (first second : MethodReport) : Prop :=
  first.controller < second.controller ∨
    first.controller = second.controller ∧ first.position < second.position

theorem pairwise_reports (tree : SyntaxTree) : (reports tree).Pairwise MethodReport.Before := by
  rw [reports, List.pairwise_flatMap]
  constructor
  · rintro ⟨outer, cls⟩ _
    rw [List.pairwise_map]
    refine ((Node.pairwise_places cls).filter _).imp fun hless => ?_
    exact .inr ⟨rfl, List.append_left_lt hless⟩
  · refine ((Node.pairwise_places tree.root).filter _).imp fun hless first hfirst second hsecond => ?_
    obtain ⟨_, _, rfl⟩ := List.mem_map.mp hfirst
    obtain ⟨_, _, rfl⟩ := List.mem_map.mp hsecond
    exact .inl hless

theorem pairwise_inits {α : Type} (xs : List α) :
    xs.inits.Pairwise fun first second => first.length < second.length := by
  induction xs with
  | nil => exact List.pairwise_singleton _ _
  | cons x rest ih =>
      rw [List.inits_cons, List.pairwise_cons, List.pairwise_map]
      refine ⟨?_, ih.imp fun hless => ?_⟩
      · intro longer hlonger
        obtain ⟨tail, _, rfl⟩ := List.mem_map.mp hlonger
        simp
      · simpa using hless

/-- A method is reported as often as there are controllers above it. -/
theorem countP_reports {tree : SyntaxTree} {position : List Nat} {method : Node}
    (hat : tree.root.nodeAt? position = some method) (h : Unvalidated tree.source method) :
    (reports tree).countP (·.position == position) = (controllersAbove tree position).length := by
  have hreports : (((reports tree).filter (·.position == position)).map (·.controller)).Nodup := by
    rw [List.Nodup, List.pairwise_map, List.pairwise_filter]
    refine (pairwise_reports tree).imp fun {first second} hbefore hfirst hsecond hsame => ?_
    rw [beq_iff_eq] at hfirst hsecond
    rcases hbefore with hless | ⟨_, hless⟩
    · rw [hsame] at hless
      exact List.lt_irrefl _ hless
    · rw [hfirst, hsecond] at hless
      exact List.lt_irrefl _ hless
  have habove : (controllersAbove tree position).Nodup := by
    refine ((pairwise_inits position).imp fun {first second} hless hsame => ?_).filter _
    rw [hsame] at hless
    exact Nat.lt_irrefl _ hless
  have hperm : (((reports tree).filter (·.position == position)).map (·.controller)).Perm
      (controllersAbove tree position) := by
    rw [List.perm_ext_iff_of_nodup hreports habove]
    intro outer
    simp only [List.mem_map, List.mem_filter, mem_reports, beq_iff_eq]
    constructor
    · rintro ⟨report, ⟨⟨_, _, houter⟩, hposition⟩, rfl⟩
      rw [← hposition]
      exact houter
    · intro houter
      exact ⟨⟨outer, position, method⟩, ⟨⟨hat, h, houter⟩, rfl⟩, rfl⟩
  rw [List.countP_eq_length_filter, ← hperm.length_eq, List.length_map]

/-- The warning about a method. -/
def unvalidatedFinding (source : Bytes) (path : String) (method : Node) : Finding :=
  card.finding path method.startLine
    "Public controller method should include validation for user input."
    (Php.declaredName source method ++ "() method")
    "Add Form Request validation or use Validator facade." .warning "validation" []

theorem filter_perform_validation {chosen : Mapping String Value} {tree : SyntaxTree}
    {path : String} {findings : List Finding} (h : perform chosen tree path = .ok findings) :
    findings.filter (·.category == "validation") =
      (reports tree).map fun report => unvalidatedFinding tree.source path report.method := by
  obtain ⟨limit, _, rfl⟩ := perform_eq_ok_iff.mp h
  have hpart : ("validation", checkValidation tree path) ∈ parts limit tree path :=
    List.mem_cons_self
  rw [filter_category_parts hpart, checkValidation, unvalidatedMethods_eq, List.map_map]
  rfl

/-- The rule comes to an end exactly if its longest method is a number. Its warnings about
validation then go through the controllers of the file, and for each through the unvalidated methods
below it. So there are as many for a method as there are controllers above it, and none for any other
node; there is one for each exactly if no two controllers are above the same such method. -/
theorem methods_reported_per_controller {options : Value} {rule : Rule}
    (hbuilt : build options = .ok rule) (tree : SyntaxTree) (path : String) :
    rule.body = .tree (fun tree path => RuleCard.script (perform rule.chosen tree path)) ∧
    ((∃ findings, perform rule.chosen tree path = .ok findings) ↔
      ∃ limit, card.integerOption rule.chosen "max_method_lines" = .ok limit) ∧
    ∃ found : List MethodReport,
      (∀ findings, perform rule.chosen tree path = .ok findings →
        findings.filter (·.category == "validation") =
          found.map fun report => unvalidatedFinding tree.source path report.method) ∧
      found.Pairwise MethodReport.Before ∧
      (∀ report, report ∈ found ↔ tree.root.nodeAt? report.position = some report.method ∧
        Unvalidated tree.source report.method ∧
        report.controller ∈ controllersAbove tree report.position) ∧
      (∀ position method, tree.root.nodeAt? position = some method →
        Unvalidated tree.source method →
        found.countP (·.position == position) = (controllersAbove tree position).length) ∧
      ((∀ position method, tree.root.nodeAt? position = some method →
          Unvalidated tree.source method → controllersAbove tree position ≠ [] →
          found.countP (·.position == position) = 1) ↔
        ∀ position method, tree.root.nodeAt? position = some method →
          Unvalidated tree.source method → (controllersAbove tree position).length ≤ 1) := by
  refine ⟨RuleCard.body_of_build hbuilt, exists_perform_iff _ _ _, reports tree,
    fun findings => filter_perform_validation, pairwise_reports tree, fun report => mem_reports,
    fun position method => countP_reports, ?_⟩
  constructor
  · intro honce position method hat hunvalidated
    by_cases hnone : controllersAbove tree position = []
    · rw [hnone]
      exact Nat.zero_le 1
    · rw [← countP_reports hat hunvalidated, honce position method hat hunvalidated hnone]
  · intro hflat position method hat hunvalidated hsome
    have hatMost := hflat position method hat hunvalidated
    have hatLeast := List.length_pos_iff.mpr hsome
    rw [countP_reports hat hunvalidated]
    omega

def innerMethod : Node :=
  .onFirstLine Kind.methodDeclaration 62 78
    [(.onFirstLine Kind.name 71 72 [], some "name"),
      (.onFirstLine Kind.formalParameters 72 76 [(.onFirstLine "simple_parameter" 73 75 [], none)],
        some "parameters")]

def innerController : Node :=
  .onFirstLine Kind.classDeclaration 44 79
    [(.onFirstLine Kind.name 50 61 [], some "name"),
      (.onFirstLine "declaration_list" 61 79 [(innerMethod, none)], some "body")]

/-- A controller declared in a function, which is declared in a method of another controller. -/
def nestedControllers : SyntaxTree where
  root := .onFirstLine "program" 0 82
    [(.onFirstLine Kind.classDeclaration 0 82
      [(.onFirstLine Kind.name 6 17 [], some "name"),
        (.onFirstLine "declaration_list" 17 82
          [(.onFirstLine Kind.methodDeclaration 18 81
            [(.onFirstLine Kind.name 27 28 [], some "name"),
              (.onFirstLine Kind.formalParameters 28 30 [], some "parameters"),
              (.onFirstLine "compound_statement" 30 81
                [(.onFirstLine "function_definition" 31 80
                  [(.onFirstLine Kind.name 40 41 [], some "name"),
                    (.onFirstLine Kind.formalParameters 41 43 [], some "parameters"),
                    (.onFirstLine "compound_statement" 43 80 [(innerController, none)],
                      some "body")], none)], some "body")], none)], some "body")], none)]
  source := Utf8.ofAscii ("class AController\x7bfunction f()\x7bfunction g()\x7b" ++
    "class BController\x7bfunction h($x)\x7b\x7d\x7d\x7d\x7d\x7d")

theorem unvalidated_innerMethod : Unvalidated nestedControllers.source innerMethod :=
  (isUnvalidated_iff rfl).mp (by decide +kernel)

theorem controllersAbove_innerMethod :
    controllersAbove nestedControllers [0, 1, 0, 2, 0, 2, 0, 1, 0] =
      [[0], [0, 1, 0, 2, 0, 2, 0]] := by
  decide +kernel

/-- Two controllers are above the method, and it is reported twice. -/
theorem nestedControllers_reported_twice :
    ∃ rule, build (.map []) = .ok rule ∧
      (∃ findings, perform rule.chosen nestedControllers "app/Nested.php" = .ok findings) ∧
      ∃ found : List MethodReport,
        (∀ findings, perform rule.chosen nestedControllers "app/Nested.php" = .ok findings →
          findings.filter (·.category == "validation") = found.map fun report =>
            unvalidatedFinding nestedControllers.source "app/Nested.php" report.method) ∧
        found.countP (·.position == [0, 1, 0, 2, 0, 2, 0, 1, 0]) = 2 := by
  obtain ⟨rule, hbuilt, hlimit⟩ : ∃ rule, build (.map []) = .ok rule ∧
      card.integerOption rule.chosen "max_method_lines" = .ok 50 := ⟨_, rfl, rfl⟩
  obtain ⟨_, hends, found, hfindings, _, _, hcount, _⟩ :=
    methods_reported_per_controller hbuilt nestedControllers "app/Nested.php"
  refine ⟨rule, hbuilt, hends.mpr ⟨50, hlimit⟩, found, hfindings, ?_⟩
  rw [hcount _ innerMethod rfl unvalidated_innerMethod, controllersAbove_innerMethod]
  rfl

end LaravelPractices

end PhpAudit
