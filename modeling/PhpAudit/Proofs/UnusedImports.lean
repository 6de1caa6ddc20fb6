import Mathlib.Logic.Relation
import PhpAudit.Proofs.SourceRows

/-!
Which imports of a file count as used. The search for references goes over the tree with a list of
nodes to come, from the last child to the first, and looks for comments in one text that joins them
all. What it finds is a matter of the tree alone: some node in a place that counts names the alias,
or some single comment mentions it. The findings about unused imports are the imports without such a
node, as they stand in the file.
-/

namespace PhpAudit

namespace Node

theorem isKind_singleton {node : Node} {kind : String} :
    node.isKind [kind] = true ↔ node.kind = kind := by
  simp [isKind]

/-- The way from the top of a tree down to a node: `above` holds what the node stands in, the
innermost first. -/
inductive Lineage (top : Node) : List Node → Node → Prop where
  | top : Lineage top [] top
  | child {above : List Node} {node child : Node} (h : Lineage top above node)
      (hchild : child ∈ node.children) : Lineage top (node :: above) child

end Node

namespace CodeStyle

/-- Whether what stands inside a node refers to nothing. -/
def hidesInside (node : Node) : Bool :=
  node.isKind [Kind.useDeclaration, Kind.variableName, Kind.comment, Kind.qualifiedName, Kind.name]

/-- Whether a node is the name of the namespace that is defined around it. -/
def namesNamespace (node parent : Node) : Bool :=
  node.isKind [Kind.namespaceName] && parent.isKind [Kind.namespaceDefinition]

/-- Whether a node counts, by what it stands in: none of this hides it, and neither the node nor
anything around it is the name of a namespace where it is defined. -/
def Counts (node : Node) (above : List Node) : Prop :=
  (∀ outer ∈ above, hidesInside outer = false) ∧
    ∀ link ∈ (node :: above).zip above, namesNamespace link.1 link.2 = false

/-- The nodes that the search meets, in its order. -/
def metFrom : List Node → List Node
  | [] => []
  | node :: rest => node :: metFrom (searched node ++ rest)
  termination_by pending => Node.sizeAll pending
  decreasing_by
    have := sizeAll_searched_lt node
    simp only [Node.sizeAll, Node.sizeAll_append]; omega

theorem mem_searched {node child : Node} :
    child ∈ searched node ↔
      child ∈ node.children ∧ hidesInside node = false ∧ namesNamespace child node = false := by
  unfold searched hidesInside namesNamespace
  split
  · next hhides => simp [hhides]
  · next hshows =>
      rw [Bool.not_eq_true] at hshows
      split
      · next hdefines => simp [hshows, hdefines]
      · next hother => simp [hshows, hother]

theorem counts_child {node child : Node} {above : List Node} :
    Counts child (node :: above) ↔
      Counts node above ∧ hidesInside node = false ∧ namesNamespace child node = false := by
  simp only [Counts, List.zip_cons_cons, List.forall_mem_cons]
  tauto

/-- The search comes from the top exactly to the nodes that count. -/
theorem reached_iff {top node : Node} :
    Relation.ReflTransGen (fun parent child => child ∈ searched parent) top node ↔
      ∃ above, Node.Lineage top above node ∧ Counts node above := by
  constructor
  · intro h
    induction h with
    | refl => exact ⟨[], .top, by simp [Counts]⟩
    | tail _ hchild ih =>
        obtain ⟨above, hlineage, hcounts⟩ := ih
        obtain ⟨hmem, hplace⟩ := mem_searched.mp hchild
        exact ⟨_, .child hlineage hmem, counts_child.mpr ⟨hcounts, hplace⟩⟩
  · rintro ⟨above, hlineage, hcounts⟩
    induction hlineage with
    | top => exact .refl
    | child _ hchild ih =>
        obtain ⟨hparent, hplace⟩ := counts_child.mp hcounts
        exact .tail (ih hparent) (mem_searched.mpr ⟨hchild, hplace⟩)

theorem mem_metFrom {pending : List Node} {node : Node} :
    node ∈ metFrom pending ↔
      ∃ top ∈ pending,
        Relation.ReflTransGen (fun parent child => child ∈ searched parent) top node := by
  induction pending using metFrom.induct with
  | case1 => simp [metFrom]
  | case2 top rest ih =>
      rw [metFrom, List.mem_cons, ih, List.exists_mem_cons_iff,
        Relation.ReflTransGen.cases_head_iff]
      simp only [List.mem_append, or_and_right, exists_or, eq_comm (a := node), or_assoc]

/-- References are noted one after the other as the nodes are met. -/
theorem referencesFrom_eq (source : Bytes) (r : References) (pending : List Node) :
    referencesFrom source r pending = (metFrom pending).foldl (References.note source) r := by
  induction r, pending using referencesFrom.induct source with
  | case1 r => rw [referencesFrom, metFrom, List.foldl_nil]
  | case2 r node rest ih => rw [referencesFrom, metFrom, List.foldl_cons, ih]

/-- A node names a word: it is a name, or a name of several parts of which the word is the first.
Letter case does not matter, nor do separators at the beginning. -/
def Names (source : Bytes) (word : String) (node : Node) : Prop :=
  (node.kind = Kind.name ∧ Text.lower (Text.trim (node.text source)) = Text.lower word) ∨
    (node.kind = Kind.qualifiedName ∧
      Text.lower (String.ofList ((Name.normalizeChars (node.text source).toList).takeWhile
        (· != '\\'))) = Text.lower word)

theorem names_note (source : Bytes) (r : References) (node : Node) (word : String) :
    Text.lower word ∈ (r.note source node).names ↔
      Text.lower word ∈ r.names ∨ Names source word node := by
  have hfirst (cs : List Char) : (Text.cutAt '\\' cs).1 = cs.takeWhile (· != '\\') := by
    unfold Text.cutAt
    split <;> rfl
  unfold References.note Names
  simp only [Node.isKind_singleton, hfirst]
  split
  · next h => simp [h, Kind.comment, Kind.name, Kind.qualifiedName]
  · split
    · next h => simp [h, Kind.name, Kind.qualifiedName, Text.lower, eq_comm, or_comm]
    · split
      · next h => simp [h, Kind.name, Kind.qualifiedName, eq_comm, or_comm]
      · next hother hname => simp [hother, hname]

/-- A name is noted exactly if it was before, or one of the nodes names it. -/
theorem names_foldl_note (source : Bytes) (r : References) (nodes : List Node) (word : String) :
    Text.lower word ∈ (nodes.foldl (References.note source) r).names ↔
      Text.lower word ∈ r.names ∨ ∃ node ∈ nodes, Names source word node := by
  induction nodes generalizing r with
  | nil => simp
  | cons node rest ih =>
      rw [List.foldl_cons, ih, names_note, List.exists_mem_cons_iff, or_assoc]

theorem comments_foldl_note (source : Bytes) (r : References) (nodes : List Node) :
    (nodes.foldl (References.note source) r).comments =
      r.comments ++ (nodes.filter (·.isKind [Kind.comment])).map (·.text source) := by
  induction nodes generalizing r with
  | nil => simp
  | cons node rest ih =>
      rw [List.foldl_cons, ih, References.note]
      cases hcomment : node.isKind [Kind.comment] with
      | true => simp [hcomment]
      | false =>
          rw [List.filter_cons_of_neg (by simp [hcomment]), if_neg Bool.false_ne_true]
          split
          · rfl
          · split <;> rfl

/-- Whether a word can be told apart between what stands before and after it: no letter or separator
in front, and a word boundary behind. -/
def Apart (word before after : List Char) : Prop :=
  before.getLast?.any (fun c => Text.isWordChar c || c == '\\') = false ∧
    Text.isWordBoundary (before ++ word).getLast? after.head? = true

/-- A text has the word somewhere, and it can be told apart there. -/
def Mentions (word text : List Char) : Prop :=
  ∃ before after, text = before ++ word ++ after ∧ Apart word before after

theorem mentionsHere_iff (word before cs : List Char) :
    mentionsFrom.mentionsHere word before.getLast? cs = true ↔
      ∃ after, cs = word ++ after ∧ Apart word before after := by
  have hlast : (if word.isEmpty then before.getLast? else word.getLast?) =
      (before ++ word).getLast? := by
    cases word with
    | nil => simp
    | cons c rest => rw [List.getLast?_append_of_ne_nil _ (List.cons_ne_nil c rest)]; rfl
  unfold mentionsFrom.mentionsHere Apart
  rw [hlast, Bool.and_eq_true, Bool.and_eq_true, Bool.not_eq_true', List.isPrefixOf_iff_prefix]
  constructor
  · rintro ⟨⟨hfree, after, rfl⟩, hboundary⟩
    exact ⟨after, rfl, hfree, by rwa [List.drop_left] at hboundary⟩
  · rintro ⟨after, rfl, hfree, hboundary⟩
    exact ⟨⟨hfree, List.prefix_append _ _⟩, by rwa [List.drop_left]⟩

/-- The search at every place of a text, of which `before` has been passed already. -/
theorem mentionsFrom_iff (word before cs : List Char) :
    mentionsFrom word before.getLast? cs = true ↔
      ∃ passed after, cs = passed ++ word ++ after ∧ Apart word (before ++ passed) after := by
  induction cs generalizing before with
  | nil =>
      rw [mentionsFrom, mentionsHere_iff]
      constructor
      · rintro ⟨after, htext, hapart⟩
        exact ⟨[], after, htext, by rwa [List.append_nil]⟩
      · rintro ⟨passed, after, htext, hapart⟩
        obtain ⟨rfl, rfl, rfl⟩ : passed = [] ∧ word = [] ∧ after = [] := by simpa using htext
        exact ⟨[], rfl, by rwa [List.append_nil] at hapart⟩
  | cons c rest ih =>
      have hstep : some c = (before ++ [c]).getLast? := by simp
      rw [mentionsFrom, Bool.or_eq_true, mentionsHere_iff, hstep, ih]
      constructor
      · rintro (⟨after, htext, hapart⟩ | ⟨passed, after, rfl, hapart⟩)
        · exact ⟨[], after, htext, by rwa [List.append_nil]⟩
        · refine ⟨c :: passed, after, rfl, ?_⟩
          rwa [List.append_assoc] at hapart
      · rintro ⟨passed, after, htext, hapart⟩
        cases passed with
        | nil => exact .inl ⟨after, htext, by rwa [List.append_nil] at hapart⟩
        | cons d passed =>
            cases htext
            refine .inr ⟨passed, after, rfl, ?_⟩
            rwa [List.append_assoc]

theorem mentions_iff (word text : String) :
    mentions word text = true ↔ Mentions word.toList text.toList :=
  mentionsFrom_iff word.toList [] text.toList

theorem not_mentions_nil (word : List Char) : ¬Mentions word [] := by
  rintro ⟨before, after, htext, _, hboundary⟩
  obtain ⟨rfl, rfl, rfl⟩ : before = [] ∧ word = [] ∧ after = [] := by simpa using htext
  cases hboundary

/-- A newline behind a text makes no difference to a word at its end. -/
theorem apart_newline_after (word before after more : List Char) :
    Apart word before (after ++ '\n' :: more) ↔ Apart word before after := by
  have hword : Text.isWordChar '\n' = false := by decide +kernel
  cases after with
  | nil => simp [Apart, Text.isWordBoundary, hword]
  | cons c rest => rfl

theorem apart_newline_before (word front before after : List Char) :
    Apart word (front ++ '\n' :: before) after ↔ Apart word before after := by
  have hword : Text.isWordChar '\n' = false := by decide +kernel
  have hlast (p : Char → Bool) (hp : p '\n' = false) (cs : List Char) :
      (front ++ '\n' :: cs).getLast?.any p = cs.getLast?.any p := by
    cases cs with
    | nil => simp [hp]
    | cons c rest =>
        rw [List.getLast?_append_of_ne_nil _ (List.cons_ne_nil '\n' _), List.getLast?_cons_cons]
  unfold Apart Text.isWordBoundary
  rw [List.append_assoc, List.cons_append, hlast _ (by decide +kernel), hlast _ hword]

/-- A word without newline is mentioned in two texts joined by a newline exactly if one of them
mentions it. -/
theorem mentions_join {word : List Char} (hword : '\n' ∉ word) (front back : List Char) :
    Mentions word (front ++ '\n' :: back) ↔ Mentions word front ∨ Mentions word back := by
  constructor
  · rintro ⟨before, after, htext, hapart⟩
    rw [List.append_assoc, List.append_eq_append_iff] at htext
    rcases htext with ⟨lead, rfl, htail⟩ | ⟨lead, rfl, htail⟩
    · cases lead with
      | nil =>
          cases word with
          | nil =>
              subst htail
              rw [List.append_nil] at hapart
              exact .inl ⟨front, [], by simp, (apart_newline_after _ _ [] _).mp hapart⟩
          | cons c word =>
              cases htail
              simp at hword
      | cons c lead =>
          cases htail
          exact .inr ⟨lead, after, by simp, (apart_newline_before ..).mp hapart⟩
    · -- the word starts in front of the newline, so it ends there too
      rcases List.append_eq_append_iff.mp htail with ⟨rest, rfl, rfl⟩ | ⟨rest, rfl, hrest⟩
      · exact .inl ⟨before, rest, by simp, (apart_newline_after ..).mp hapart⟩
      · cases rest with
        | nil =>
            subst hrest
            exact .inl ⟨before, [], by simp, (apart_newline_after _ _ [] _).mp hapart⟩
        | cons c rest =>
            cases hrest
            simp at hword
  · rintro (⟨before, after, rfl, hapart⟩ | ⟨before, after, rfl, hapart⟩)
    · refine ⟨before, after ++ '\n' :: back, by simp, ?_⟩
      rwa [apart_newline_after]
    · refine ⟨front ++ '\n' :: before, after, by simp, ?_⟩
      rwa [apart_newline_before]

/-- In texts joined by newlines a word without newline is mentioned exactly if one of them mentions
it. -/
theorem mentions_intercalate {word : List Char} (hword : '\n' ∉ word) (texts : List String) :
    Mentions word (String.intercalate "\n" texts).toList ↔
      ∃ text ∈ texts, Mentions word text.toList := by
  have hnewline : "\n".toList = ['\n'] := rfl
  rw [String.toList_intercalate, hnewline]
  induction texts with
  | nil => simpa using not_mentions_nil word
  | cons text rest ih =>
      cases rest with
      | nil => simp
      | cons next more =>
          rw [List.map_cons, List.map_cons, List.intercalate_cons_cons, List.append_assoc,
            List.singleton_append, mentions_join hword, List.exists_mem_cons_iff]
          exact or_congr_right ih

/-- A node refers to a word: it names it, or is a comment that mentions it. -/
def RefersTo (source : Bytes) (word : String) (node : Node) : Prop :=
  Names source word node ∨
    (node.kind = Kind.comment ∧ Mentions word.toList (node.text source).toList)

/-- Some node of the tree that counts refers to the alias of the import. -/
def Used (tree : SyntaxTree) (i : Import) : Prop :=
  ∃ above node, Node.Lineage tree.root above node ∧ Counts node above ∧
    RefersTo tree.source i.localName node

theorem used_iff (tree : SyntaxTree) (i : Import) :
    Used tree i ↔ ∃ node ∈ metFrom [tree.root], RefersTo tree.source i.localName node := by
  simp only [mem_metFrom, List.mem_singleton, exists_eq_left, reached_iff, Used]
  constructor
  · rintro ⟨above, node, hlineage, hcounts, hrefers⟩
    exact ⟨node, ⟨above, hlineage, hcounts⟩, hrefers⟩
  · rintro ⟨node, ⟨above, hlineage, hcounts⟩, hrefers⟩
    exact ⟨above, node, hlineage, hcounts, hrefers⟩

instance (word text : List Char) : Decidable (Mentions word text) :=
  decidable_of_iff (mentionsFrom word none text = true) (mentionsFrom_iff word [] text)

instance (source : Bytes) (word : String) (node : Node) : Decidable (RefersTo source word node) :=
  inferInstanceAs (Decidable ((_ ∨ _) ∨ _))

instance (tree : SyntaxTree) (i : Import) : Decidable (Used tree i) :=
  decidable_of_iff _ (used_iff tree i).symm

theorem isUsed_iff (r : References) {i : Import} (h : '\n' ∉ i.localName.toList) :
    isUsed r i = true ↔ Text.lower i.localName ∈ r.names ∨
      ∃ text ∈ r.comments, Mentions i.localName.toList text.toList := by
  rw [isUsed, Bool.or_eq_true, List.contains_iff_mem, mentions_iff, References.commentText,
    mentions_intercalate h]

/-- Names and comments may be noted in any order. -/
theorem isUsed_perm {r s : References} (hnames : r.names.Perm s.names)
    (hcomments : r.comments.Perm s.comments) {i : Import} (h : '\n' ∉ i.localName.toList) :
    isUsed r i = isUsed s i := by
  rw [Bool.eq_iff_iff, isUsed_iff r h, isUsed_iff s h, hnames.mem_iff]
  simp only [hcomments.mem_iff]

theorem isUsed_references {tree : SyntaxTree} {i : Import} (h : '\n' ∉ i.localName.toList) :
    isUsed (references tree) i = true ↔ Used tree i := by
  rw [isUsed_iff _ h, used_iff, references, referencesFrom_eq, names_foldl_note,
    comments_foldl_note]
  simp only [RefersTo, and_or_left, exists_or, List.not_mem_nil, false_or, List.nil_append,
    List.mem_map, List.mem_filter, Node.isKind_singleton]
  refine or_congr_right ⟨?_, ?_⟩
  · rintro ⟨_, ⟨node, ⟨hmet, hkind⟩, rfl⟩, hmentions⟩
    exact ⟨node, hmet, hkind, hmentions⟩
  · rintro ⟨node, hmet, hkind, hmentions⟩
    exact ⟨_, ⟨node, ⟨hmet, hkind⟩, rfl⟩, hmentions⟩

/-- The imports that are called unused are those without a reference. -/
theorem unusedImports_eq {tree : SyntaxTree}
    (haliases : ∀ i ∈ Import.ofTree tree, '\n' ∉ i.localName.toList) :
    unusedImports tree = (Import.ofTree tree).filter fun i => !decide (Used tree i) := by
  refine List.filter_congr fun i hi => ?_
  rw [Bool.eq_iff_iff.mpr ((isUsed_references (haliases i hi)).trans decide_eq_true_iff.symm)]

/-- The finding about an unused import. -/
def unusedFinding (path : String) (i : Import) : Finding :=
  card.finding path i.line ("Unused import: " ++ i.name) i.statement "Remove unused import" .warning
    "structure" []

theorem filter_checkStructure (tree : SyntaxTree) (path : String) :
    (checkStructure tree path).filter (Finding.opensWith "Unused import: ") =
      (unusedImports tree).map (unusedFinding path) := by
  have hunused : ((unusedImports tree).map (unusedFinding path)).filter
      (Finding.opensWith "Unused import: ") = (unusedImports tree).map (unusedFinding path) := by
    rw [List.filter_eq_self, List.forall_mem_map]
    intro i _
    show "Unused import: ".toList.isPrefixOf ("Unused import: " ++ i.name).toList = true
    rw [String.toList_append, List.isPrefixOf_iff_prefix]
    exact List.prefix_append _ _
  refine (List.filter_append ..).trans ((congrArg (_ ++ ·) hunused).trans ?_)
  rw [Finding.filter_opensWith_eq_nil _ rfl (by decide : 'U' ∉ ['F']), List.nil_append]
  intro f hf
  split at hf
  · rw [List.mem_singleton.mp hf]
    exact ⟨'F', List.mem_singleton_self _, _, rfl, rfl⟩
  · cases hf

/-- Of all that the rule finds, the findings about unused imports are those made from them. -/
theorem filter_perform_unused {chosen : Mapping String Value} {tree : SyntaxTree} {path : String}
    {findings : List Finding} (h : perform chosen tree path = .ok findings) :
    findings.filter (Finding.opensWith "Unused import: ") =
      (unusedImports tree).map (unusedFinding path) := by
  obtain ⟨numbers, limit, _, rfl, hothers⟩ := perform_parts h
  have hrows : (longLinesFrom limit path 1 tree.lines).filter
      (Finding.opensWith "Unused import: ") = [] := by
    refine Finding.filter_opensWith_eq_nil _ rfl (by decide : 'U' ∉ ['L']) fun f hf => ?_
    exact ⟨'L', List.mem_singleton_self _,
      Finding.begins_of_opensWith (opensWith_of_mem_longLinesFrom hf) rfl⟩
  have hnone := Finding.filter_opensWith_eq_nil "Unused import: " rfl (by decide) hothers
  simp only [List.filter_append, List.append_eq_nil_iff] at hnone
  simp only [List.filter_append, hnone, hrows, filter_checkStructure, List.nil_append,
    List.append_nil]

theorem perform_ok_iff (chosen : Mapping String Value) (tree : SyntaxTree) (path : String) :
    (∃ findings, perform chosen tree path = .ok findings) ↔
      ¬Unwritable tree ∧ ∃ limit, card.integerOption chosen "max_line_length" = .ok limit := by
  constructor
  · rintro ⟨findings, hfindings⟩
    obtain ⟨_, limit, hlimit, _⟩ := perform_parts hfindings
    rcases perform_cases hlimit tree path with ⟨hwritable, _⟩ | ⟨_, hfail⟩
    · exact ⟨hwritable, limit, hlimit⟩
    · rw [hfail] at hfindings
      cases hfindings
  · rintro ⟨hwritable, limit, hlimit⟩
    rcases perform_cases hlimit tree path with ⟨_, hfound⟩ | ⟨hunwritable, _⟩
    · exact hfound
    · exact absurd hunwritable hwritable

/-- Let no alias have a newline in it. The rule comes to an end exactly if its longest line is a
number and every literal can be written. Its findings about unused imports are then the imports that
no counting node refers to, in the order of the file and each once. Whether one is used does not
depend on the order in which names and comments have been noted. -/
theorem unused_imports_are_unreferenced {options : Value} {rule : Rule}
    (hbuilt : build options = .ok rule) {tree : SyntaxTree}
    (haliases : ∀ i ∈ Import.ofTree tree, '\n' ∉ i.localName.toList) (path : String) :
    rule.body = .tree (fun tree path => RuleCard.script (perform rule.chosen tree path)) ∧
    ((∃ findings, perform rule.chosen tree path = .ok findings) ↔
      ¬Unwritable tree ∧ ∃ limit, card.integerOption rule.chosen "max_line_length" = .ok limit) ∧
    (∀ findings, perform rule.chosen tree path = .ok findings →
      findings.filter (Finding.opensWith "Unused import: ") =
        ((Import.ofTree tree).filter fun i => !decide (Used tree i)).map (unusedFinding path)) ∧
    ∀ r : References, r.names.Perm (references tree).names →
      r.comments.Perm (references tree).comments →
      ∀ i ∈ Import.ofTree tree, isUsed r i = decide (Used tree i) := by
  refine ⟨RuleCard.body_of_build hbuilt, perform_ok_iff _ _ _, fun findings hfindings => ?_, ?_⟩
  · rw [filter_perform_unused hfindings, unusedImports_eq haliases]
  · intro r hnames hcomments i hi
    rw [isUsed_perm hnames hcomments (haliases i hi), Bool.eq_iff_iff, decide_eq_true_iff]
    exact isUsed_references (haliases i hi)

def threeImports : Node :=
  .onFirstLine Kind.useDeclaration 0 28
    [(.onFirstLine Kind.useClause 4 11 [(.onFirstLine Kind.qualifiedName 4 11 [], none)], none),
      (.onFirstLine Kind.useClause 12 19 [(.onFirstLine Kind.qualifiedName 12 19 [], none)], none),
      (.onFirstLine Kind.useClause 20 27 [(.onFirstLine Kind.qualifiedName 20 27 [], none)], none)]

def newFoo : Node :=
  .onFirstLine Kind.objectCreation 28 35 [(.onFirstLine Kind.name 32 35 [], none)]

/-- Three imports, of which one is used, one is mentioned, and one is mentioned only behind a
separator. -/
def threefoldTree : SyntaxTree where
  root := .onFirstLine "program" 0 48
    [(threeImports, none), (newFoo, none), (.onFirstLine Kind.comment 36 48 [], none)]
  source := Utf8.ofAscii "use App\\Foo,App\\Bar,App\\Baz;new foo;/*Bar \\Baz*/"

def importOf (name localName : String) : Import := ⟨name, localName, "class", 1, threeImports⟩

theorem imports_threefoldTree :
    Import.ofTree threefoldTree =
      [importOf "App\\Foo" "Foo", importOf "App\\Bar" "Bar", importOf "App\\Baz" "Baz"] := by
  have hfound : threefoldTree.root.findKind [Kind.useDeclaration] = [threeImports] := by
    simp [Node.findKind, Node.walk, Node.walkFrom, threefoldTree, threeImports, newFoo,
      Node.onFirstLine, Kind.useDeclaration, Kind.useClause, Kind.qualifiedName, Kind.name,
      Kind.objectCreation, Kind.comment]
  rw [Import.ofTree, hfound]
  rfl

theorem met_threefoldTree :
    metFrom [threefoldTree.root] =
      [threefoldTree.root, .onFirstLine Kind.comment 36 48 [], newFoo,
        .onFirstLine Kind.name 32 35 [], threeImports] := by
  simp [metFrom, searched, Node.isKind, threefoldTree, threeImports, newFoo, Node.onFirstLine,
    Kind.useDeclaration, Kind.variableName, Kind.namespaceDefinition, Kind.qualifiedName, Kind.name,
    Kind.objectCreation, Kind.comment]

theorem writable_threefoldTree : ¬Unwritable threefoldTree := by
  rw [unwritable_iff]
  simp [magicNumbers, Node.visit, Node.visitFrom, Node.isKind, threefoldTree, threeImports, newFoo,
    Node.onFirstLine, Kind.useDeclaration, Kind.useClause, Kind.qualifiedName, Kind.name,
    Kind.objectCreation, Kind.comment, Kind.constDeclaration, Kind.integer]

def loneImport : Node :=
  .onFirstLine Kind.useDeclaration 0 8
    [(.onFirstLine Kind.useClause 4 7 [(.onFirstLine Kind.name 4 7 [], none)], none)]

/-- One unused import in front of a hexadecimal numeral. -/
def importBefore (digits : Nat) : SyntaxTree where
  root := .onFirstLine "program" 0 (8 + (digits + 2))
    [(loneImport, none), (.onFirstLine Kind.integer 8 (8 + (digits + 2)) [], none)]
  source := Utf8.ofAscii "use Foo;" ++ IntLiteral.hexBytes digits

theorem unwritable_importBefore {digits : Nat} (hdigits : 0 < digits)
    (h : Nat.pow 10 Numeral.maxDecimalDigits ≤ Nat.pow 16 digits - 1) :
    Unwritable (importBefore digits) := by
  have hlead : (Utf8.ofAscii "use Foo;").length = 8 := by decide +kernel
  have hlength : (importBefore digits).source.length ≤ 8 + (digits + 2) := by
    simp [importBefore, IntLiteral.hexBytes, hlead]
  have hslice : Node.slice (importBefore digits).source 8 (8 + (digits + 2)) =
      IntLiteral.hexBytes digits := by
    rw [Node.slice, List.take_of_length_le hlength]
    exact List.drop_left' hlead
  refine ⟨.onFirstLine Kind.integer 8 (8 + (digits + 2)) [], _,
    .inside rfl (.tail _ (.head _)) (.self rfl), rfl, ?_, h⟩
  have htext := congrArg (fun bytes => IntLiteral.value? (Utf8.decode bytes)) hslice
  exact htext.trans (IntLiteral.value?_hexBytes hdigits)

theorem imports_importBefore :
    Import.ofTree (importBefore 3572) = [⟨"Foo", "Foo", "class", 1, loneImport⟩] := by
  have hfound : (importBefore 3572).root.findKind [Kind.useDeclaration] = [loneImport] := by
    simp [Node.findKind, Node.walk, Node.walkFrom, importBefore, loneImport, Node.onFirstLine,
      Kind.useDeclaration, Kind.useClause, Kind.name, Kind.integer]
  rw [Import.ofTree, hfound]
  rfl

theorem not_used_importBefore (digits : Nat) :
    ¬Used (importBefore digits) ⟨"Foo", "Foo", "class", 1, loneImport⟩ := by
  have hmet : metFrom [(importBefore digits).root] =
      [(importBefore digits).root, .onFirstLine Kind.integer 8 (8 + (digits + 2)) [],
        loneImport] := by
    simp [metFrom, searched, Node.isKind, importBefore, loneImport, Node.onFirstLine,
      Kind.useDeclaration, Kind.variableName, Kind.namespaceDefinition, Kind.qualifiedName,
      Kind.name, Kind.integer, Kind.comment]
  rw [used_iff, hmet]
  simp [RefersTo, Names, importBefore, loneImport, Node.onFirstLine, Kind.useDeclaration,
    Kind.qualifiedName, Kind.name, Kind.integer, Kind.comment]

/-- Of the three imports only the last is reported. The one in front of the numeral is not used
either, but its file gives no findings. -/
theorem threefold_and_wide_imports :
    (∃ rule findings, build (.map []) = .ok rule ∧
      perform rule.chosen threefoldTree "three.php" = .ok findings ∧
      findings.filter (Finding.opensWith "Unused import: ") =
        [unusedFinding "three.php" (importOf "App\\Baz" "Baz")]) ∧
    ∃ rule i, build (.map []) = .ok rule ∧ Import.ofTree (importBefore 3572) = [i] ∧
      ¬Used (importBefore 3572) i ∧
      ¬∃ findings, perform rule.chosen (importBefore 3572) "wide.php" = .ok findings := by
  obtain ⟨rule, hbuilt⟩ : ∃ rule, build (.map []) = .ok rule := ⟨_, rfl⟩
  have hlimit : ∃ limit, card.integerOption rule.chosen "max_line_length" = .ok limit := by
    cases hbuilt
    exact ⟨120, rfl⟩
  constructor
  · have haliases : ∀ i ∈ Import.ofTree threefoldTree, '\n' ∉ i.localName.toList := by
      rw [imports_threefoldTree]
      simp only [List.forall_mem_cons, importOf]
      decide +kernel
    obtain ⟨_, hends, hunused, _⟩ :=
      unused_imports_are_unreferenced hbuilt haliases "three.php"
    obtain ⟨findings, hfindings⟩ := hends.mpr ⟨writable_threefoldTree, hlimit⟩
    refine ⟨rule, findings, hbuilt, hfindings, ?_⟩
    have hfoo : Used threefoldTree (importOf "App\\Foo" "Foo") := by
      rw [used_iff, met_threefoldTree]
      decide +kernel
    have hbar : Used threefoldTree (importOf "App\\Bar" "Bar") := by
      rw [used_iff, met_threefoldTree]
      decide +kernel
    have hbaz : ¬Used threefoldTree (importOf "App\\Baz" "Baz") := by
      rw [used_iff, met_threefoldTree]
      decide +kernel
    rw [hunused findings hfindings, imports_threefoldTree]
    simp [hfoo, hbar, hbaz]
  · have haliases : ∀ i ∈ Import.ofTree (importBefore 3572), '\n' ∉ i.localName.toList := by
      rw [imports_importBefore, List.forall_mem_singleton]
      decide +kernel
    refine ⟨rule, _, hbuilt, imports_importBefore, not_used_importBefore 3572, fun hfound => ?_⟩
    have hends := (unused_imports_are_unreferenced hbuilt haliases "wide.php").2.1
    exact (hends.mp hfound).1 (unwritable_importBefore (by decide) (by decide +kernel))

end CodeStyle

end PhpAudit
