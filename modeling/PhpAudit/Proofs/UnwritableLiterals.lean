import PhpAudit.Proofs.DriverNames

/-!
The bundled rules, as they are without options, on trees of any shape. Two of them come to an end on
every tree. The rule about code style quotes the numbers it reports in decimal digits, of which only
so many can be written: a longer literal, in hexadecimal, octal or binary digits, ends the rule, and
all it has found in the file is lost.
-/

namespace PhpAudit

/-- A computation comes to an end if each of its parts does. -/
theorem exists_ok_bind {α β : Type} {x : Except Failure α} {f : α → Except Failure β}
    (hx : ∃ a, x = .ok a) (hf : ∀ a, ∃ b, f a = .ok b) : ∃ b, x >>= f = .ok b := by
  obtain ⟨a, rfl⟩ := hx
  exact hf a

namespace Node

/-- One node is another or stands below it, and no node from the one down to the other is hidden. -/
inductive Exposed (hides : Node → Bool) : Node → Node → Prop where
  | self {node : Node} (h : hides node = false) : Exposed hides node node
  | inside {node child inner : Node} (h : hides node = false) (hchild : child ∈ node.children)
      (hinner : Exposed hides child inner) : Exposed hides node inner

theorem exposed_iff {hides : Node → Bool} {top node : Node} :
    Exposed hides top node ↔ hides top = false ∧
      (node = top ∨ ∃ child ∈ top.children, Exposed hides child node) := by
  constructor
  · rintro (⟨h⟩ | ⟨h, hchild, hinner⟩)
    · exact ⟨h, Or.inl rfl⟩
    · exact ⟨h, Or.inr ⟨_, hchild, hinner⟩⟩
  · rintro ⟨h, rfl | ⟨child, hchild, hinner⟩⟩
    · exact .self h
    · exact .inside h hchild hinner

/-- A visitor that keeps the nodes it picks and leaves out what is hidden. -/
def collector (hides picks : Node → Bool) (found : List Node) (node : Node) : List Node × Bool :=
  if hides node then (found, false)
  else if picks node then (found ++ [node], true)
  else (found, true)

theorem collector_hidden {hides picks : Node → Bool} {found : List Node} {top : Node}
    (h : hides top = true) : collector hides picks found top = (found, false) := by
  simp [collector, h]

theorem collector_shown {hides picks : Node → Bool} {found : List Node} {top : Node}
    (h : hides top = false) :
    collector hides picks found top = (found ++ [top].filter picks, true) := by
  cases hpicks : picks top <;> simp [collector, h, hpicks]

/-- It finds the picked ones among the exposed nodes. -/
theorem mem_visitFrom_collector (hides picks : Node → Bool) (found pending : List Node)
    (node : Node) :
    node ∈ visitFrom (collector hides picks) found pending ↔
      node ∈ found ∨ ∃ top ∈ pending, Exposed hides top node ∧ picks node = true := by
  induction found, pending using visitFrom.induct (collector hides picks) with
  | case1 found => simp [visitFrom]
  | case2 found top rest answer hgoes ih =>
      cases hhides : hides top with
      | true =>
          rw [show answer = _ from collector_hidden hhides] at hgoes
          cases hgoes
      | false =>
          have hanswer : answer = _ := collector_shown hhides
          rw [visitFrom, if_pos hgoes, ih, hanswer]
          have htop : Exposed hides top node ↔
              node = top ∨ ∃ child ∈ top.children, Exposed hides child node := by
            rw [exposed_iff, hhides]
            simp
          simp only [List.mem_append, List.mem_filter, List.mem_singleton, List.exists_mem_cons_iff,
            htop]
          grind
  | case3 found top rest answer hstops ih =>
      cases hhides : hides top with
      | false =>
          rw [show answer = _ from collector_shown hhides] at hstops
          exact absurd rfl hstops
      | true =>
          have hanswer : answer = _ := collector_hidden hhides
          have htop : ¬Exposed hides top node := by
            rw [exposed_iff, hhides]
            simp
          rw [visitFrom, if_neg hstops, ih, hanswer]
          simp [htop]

end Node

namespace MongoAccess

/-- Patterns that are texts can be compared with every name. -/
theorem perform_default (tree : SyntaxTree) (path : String) :
    ∃ findings, perform [] tree path = .ok findings := by
  have hpatterns : patternsOf [] = defaultPatterns.map .text := rfl
  obtain ⟨findings, hperform, _⟩ := perform_perm hpatterns tree path
  exact ⟨findings, hperform⟩

end MongoAccess

theorem LaravelPractices.perform_default (tree : SyntaxTree) (path : String) :
    ∃ findings, perform [] tree path = .ok findings :=
  exists_ok_bind ⟨50, rfl⟩ fun _ => ⟨_, rfl⟩

namespace CodeStyle

/-- A literal outside constant declarations whose value has more digits than can be written. -/
def Unwritable (tree : SyntaxTree) : Prop :=
  ∃ literal, ∃ n : Nat, Node.Exposed (·.isKind [Kind.constDeclaration]) tree.root literal ∧
    literal.isKind [Kind.integer] = true ∧
    IntLiteral.value? (literal.text tree.source) = some (n : Int) ∧
    Nat.pow 10 Numeral.maxDecimalDigits ≤ n

theorem mem_magicNumbers (tree : SyntaxTree) (node : Node) :
    node ∈ magicNumbers tree ↔ Node.Exposed (·.isKind [Kind.constDeclaration]) tree.root node ∧
      node.isKind [Kind.integer] = true ∧
      (IntLiteral.value? (node.text tree.source)).any isMagic = true := by
  have hvisit : magicNumbers tree = Node.visitFrom (Node.collector
      (·.isKind [Kind.constDeclaration]) fun node => node.isKind [Kind.integer] &&
        (IntLiteral.value? (node.text tree.source)).any isMagic) [] [tree.root] := rfl
  rw [hvisit, Node.mem_visitFrom_collector]
  simp

/-- A number that is reported is positive, so its value is its size. -/
theorem exists_nat_of_isMagic {v : Int} (h : isMagic v = true) : ∃ n : Nat, v = n := by
  have hlarge : magicThreshold < v := by
    simp only [isMagic, Bool.and_eq_true, decide_eq_true_eq] at h
    exact h.1
  exact ⟨v.toNat, by unfold magicThreshold at hlarge; omega⟩

theorem magicFinding_cases {tree : SyntaxTree} (path : String) {node : Node}
    (h : node ∈ magicNumbers tree) :
    ∃ n : Nat, IntLiteral.value? (node.text tree.source) = some (n : Int) ∧
      ((n < Nat.pow 10 Numeral.maxDecimalDigits ∧
          ∃ finding, magicFinding tree path node = .ok finding) ∨
        (Nat.pow 10 Numeral.maxDecimalDigits ≤ n ∧
          magicFinding tree path node = .error .tooManyDigits)) := by
  obtain ⟨_, _, hmagic⟩ := (mem_magicNumbers tree node).mp h
  cases hvalue : IntLiteral.value? (node.text tree.source) with
  | none => simp [hvalue] at hmagic
  | some v =>
      rw [hvalue] at hmagic
      obtain ⟨n, rfl⟩ := exists_nat_of_isMagic hmagic
      refine ⟨n, rfl, ?_⟩
      have hwritten := Value.unwritable?_int_eq_none_iff n
      rw [Int.natAbs_natCast] at hwritten
      simp only [magicFinding, hvalue, Value.written]
      cases hdigits : (Value.int n).unwritable? with
      | none => exact Or.inl ⟨hwritten.mp hdigits, _, rfl⟩
      | some f =>
          have hlong : ¬n < Nat.pow 10 Numeral.maxDecimalDigits := by
            rw [← hwritten, hdigits]
            rintro ⟨⟩
          refine Or.inr ⟨Nat.le_of_not_lt hlong, ?_⟩
          rw [Value.eq_tooManyDigits hdigits]
          rfl

/-- One number that cannot be written ends the report of all. -/
theorem magicFindings_cases (tree : SyntaxTree) (path : String) (nodes : List Node)
    (h : ∀ node ∈ nodes, node ∈ magicNumbers tree) :
    ((∀ node ∈ nodes, ∀ n : Nat, IntLiteral.value? (node.text tree.source) = some (n : Int) →
          n < Nat.pow 10 Numeral.maxDecimalDigits) ∧
        ∃ findings, magicFindings tree path nodes = .ok findings) ∨
      ((∃ node ∈ nodes, ∃ n : Nat, IntLiteral.value? (node.text tree.source) = some (n : Int) ∧
          Nat.pow 10 Numeral.maxDecimalDigits ≤ n) ∧
        magicFindings tree path nodes = .error .tooManyDigits) := by
  induction nodes with
  | nil => exact Or.inl ⟨List.forall_mem_nil _, [], rfl⟩
  | cons node rest ih =>
      obtain ⟨hnode, hrest⟩ := List.forall_mem_cons.mp h
      obtain ⟨n, hvalue, ⟨hshort, finding, hfound⟩ | ⟨hlong, hfail⟩⟩ :=
        magicFinding_cases path hnode
      · have hsize (m : Nat) (hm : IntLiteral.value? (node.text tree.source) = some (m : Int)) :
            m < Nat.pow 10 Numeral.maxDecimalDigits := by
          rw [hvalue, Option.some.injEq, Int.natCast_inj] at hm
          rwa [← hm]
        rcases ih hrest with ⟨hall, findings, hfindings⟩ | ⟨⟨bad, hmem, hbad⟩, hfail⟩
        · refine Or.inl ⟨List.forall_mem_cons.mpr ⟨hsize, hall⟩, finding :: findings, ?_⟩
          rw [magicFindings, hfound, hfindings]
          rfl
        · refine Or.inr ⟨⟨bad, List.mem_cons_of_mem _ hmem, hbad⟩, ?_⟩
          rw [magicFindings, hfound, hfail]
          rfl
      · refine Or.inr ⟨⟨node, List.mem_cons_self, n, hvalue, hlong⟩, ?_⟩
        rw [magicFindings, hfail]
        rfl

theorem isMagic_of_unwritable {n : Nat} (h : Nat.pow 10 Numeral.maxDecimalDigits ≤ n) :
    isMagic n = true := by
  have hthousand : Nat.pow 10 3 < Nat.pow 10 Numeral.maxDecimalDigits := by
    rw [Nat.pow_eq, Nat.pow_eq]
    exact Nat.pow_lt_pow_right (by decide) (by decide)
  have hlarge : 1000 < n := hthousand.trans_le h
  have habove : magicThreshold < (n : Int) := by
    unfold magicThreshold
    omega
  have hother : (n : Int) ≠ 1000 := by omega
  simp [isMagic, habove, hother]

theorem unwritable_iff (tree : SyntaxTree) :
    Unwritable tree ↔ ∃ node ∈ magicNumbers tree, ∃ n : Nat,
      IntLiteral.value? (node.text tree.source) = some (n : Int) ∧
        Nat.pow 10 Numeral.maxDecimalDigits ≤ n := by
  constructor
  · rintro ⟨literal, n, hexposed, hinteger, hvalue, hlong⟩
    have hmagic : (IntLiteral.value? (literal.text tree.source)).any isMagic = true := by
      rw [hvalue]
      exact isMagic_of_unwritable hlong
    exact ⟨literal, (mem_magicNumbers tree literal).mpr ⟨hexposed, hinteger, hmagic⟩, n, hvalue,
      hlong⟩
  · rintro ⟨node, hnode, n, hvalue, hlong⟩
    obtain ⟨hexposed, hinteger, _⟩ := (mem_magicNumbers tree node).mp hnode
    exact ⟨node, n, hexposed, hinteger, hvalue, hlong⟩

/-- With a number for the longest line, the rule comes to an end exactly if all numbers it has to
report can be written. -/
theorem perform_cases {chosen : Mapping String Value} {limit : Int}
    (hlimit : card.integerOption chosen "max_line_length" = .ok limit) (tree : SyntaxTree)
    (path : String) :
    (¬Unwritable tree ∧ ∃ findings, perform chosen tree path = .ok findings) ∨
      (Unwritable tree ∧ perform chosen tree path = .error .tooManyDigits) := by
  rw [unwritable_iff]
  unfold perform checkReadability
  rcases magicFindings_cases tree path (magicNumbers tree) fun _ h => h with
    ⟨hall, findings, hfindings⟩ | ⟨hsome, hfail⟩
  · refine Or.inl ⟨?_, ?_⟩
    · rintro ⟨node, hnode, n, hvalue, hlong⟩
      exact absurd (hall node hnode n hvalue) (Nat.not_lt.mpr hlong)
    · rw [hfindings, hlimit]
      exact ⟨_, rfl⟩
  · exact Or.inr ⟨hsome, by rw [hfail]; rfl⟩

end CodeStyle

namespace Rule

theorem runSteps_findings (findings : List Finding) (s : Session) :
    runSteps (findings.map fun f => .emit (.finding f)) s = (.ok (findings.map .finding), s) := by
  induction findings with
  | nil => rfl
  | cons finding rest ih =>
      simp only [List.map_cons, runSteps, ih]
      rfl

/-- The script of a bundled rule takes no time and is no stream: it gives what it was made of. -/
theorem perform_script (rule : Rule) (path : String) (result : Except Failure (List Finding))
    (s : Session) : rule.perform path (RuleCard.script result) s = (result, s) := by
  cases result with
  | error f => rfl
  | ok findings =>
      have hrun : runScript (RuleCard.script (.ok findings)) s =
          (.ok (.items (findings.map .finding)), s) := by
        simp only [runScript, RuleCard.script, runSteps_findings]
        rfl
      unfold perform
      simp only [RuleCard.script] at hrun ⊢
      rw [hrun]
      exact rule.normaliseSteps_findings path findings s

theorem warnIfSlow_incidents (rule : Rule) (path : String) (seconds : Float) (s : Session) :
    (rule.warnIfSlow path seconds s).incidents = s.incidents ∨
      ∃ i, i.topic = .performance ∧
        (rule.warnIfSlow path seconds s).incidents = s.incidents.add i := by
  simp only [warnIfSlow]
  split
  · exact Or.inr ⟨(Report.performanceOf _ _ _ _ _).incident, rfl, rfl⟩
  · exact Or.inl rfl

end Rule

namespace Session

/-- A content without faults gets a tree, and the one it has unless the cache holds another. -/
theorem exists_fetched (s : Session) {g : Grammar} (path : String) {content : Bytes}
    (mtime : Value) {parsed : SyntaxTree} (hfresh : g.fresh content = .ok parsed) :
    ∃ tree, (s.fetch g path content mtime).1 = .ok tree ∧
      (TreeCache.fingerprint content mtime ∉ s.cache.keys → tree = parsed) := by
  rcases s.fetch_cases g path content mtime with ⟨entry, hfind, _, hfetch⟩ | ⟨_, hfetch⟩
  · refine ⟨entry.tree, by rw [hfetch], fun habsent => ?_⟩
    exact absurd (TreeCache.mem_keys_of_find? hfind) habsent
  · exact ⟨parsed, by rw [hfetch, parseAndStore_result, hfresh], fun _ => rfl⟩

end Session

namespace Rule

variable {ws : Workspace} {rule : Rule} {path : String} {s : Session} {content : Bytes}
  {mtime : Int} {tree : SyntaxTree} {perform : SyntaxTree → String → Except Failure (List Finding)}

/-- A check of a file that has a tree inspects the tree, and does nothing else that shows. -/
theorem check_of_fetched {script : SyntaxTree → String → Script}
    (hbody : rule.body = .tree script) (happlies : rule.appliesTo path = .ok true)
    (hreadable : ws.files.isReadable path = true)
    (hread : ws.files.read path = .ok (content, mtime))
    (hfetch : (s.fetch ws.grammar path content (.int mtime)).1 = .ok tree) :
    ∃ t, t.incidents = s.incidents ∧
      ∀ findings after, rule.inspectTree path (script tree path) t = (.ok findings, after) →
        ∃ u, rule.check ws path s = (.ok (.items (findings.map .finding)), u) ∧
          u.incidents = after.incidents := by
  have hincidents := (s.fetch_keeps ws.grammar path content (.int mtime)).2
  cases hfetched : s.fetch ws.grammar path content (.int mtime) with
  | mk result t =>
      rw [hfetched] at hfetch hincidents
      subst hfetch
      have hlooked : (true && ws.files.isReadable path) = true := hreadable
      refine ⟨t.time rule.typeName .parse (t.clock - s.clock), hincidents, ?_⟩
      intro findings after hinspect
      simp only [check, hbody, checkTree, happlies, hlooked, if_true, checkFile, hread, hfetched,
        hinspect]
      exact ⟨_, rfl, rfl⟩

theorem check_of_performed (hbody : rule.body = .tree fun tree path =>
      RuleCard.script (perform tree path)) (happlies : rule.appliesTo path = .ok true)
    (hreadable : ws.files.isReadable path = true)
    (hread : ws.files.read path = .ok (content, mtime))
    (hfetch : (s.fetch ws.grammar path content (.int mtime)).1 = .ok tree)
    {findings : List Finding} (hperform : perform tree path = .ok findings) :
    ∃ u, rule.check ws path s = (.ok (.items (findings.map .finding)), u) ∧
      (u.incidents = s.incidents ∨
        ∃ i, i.topic = .performance ∧ u.incidents = s.incidents.add i) := by
  obtain ⟨t, ht, hinspected⟩ := check_of_fetched hbody happlies hreadable hread hfetch
  have hinspect : rule.inspectTree path (RuleCard.script (perform tree path)) t = (.ok findings,
      rule.warnIfSlow path (t.clock - t.clock)
        (t.time rule.typeName .check (t.clock - t.clock))) := by
    simp only [inspectTree, perform_script, hperform]
  obtain ⟨u, hcheck, hu⟩ := hinspected _ _ hinspect
  refine ⟨u, hcheck, ?_⟩
  rw [hu, ← ht]
  exact rule.warnIfSlow_incidents path _ _

theorem check_of_failed (hbody : rule.body = .tree fun tree path =>
      RuleCard.script (perform tree path)) (happlies : rule.appliesTo path = .ok true)
    (hreadable : ws.files.isReadable path = true)
    (hread : ws.files.read path = .ok (content, mtime))
    (hfetch : (s.fetch ws.grammar path content (.int mtime)).1 = .ok tree)
    (hperform : perform tree path = .error .tooManyDigits) :
    ∃ u r now, rule.check ws path s = (.ok (.items []), u) ∧
      Report.ruleProcessing (.text path) .tooManyDigits (.text rule.typeName) "" now = .ok r ∧
      u.incidents = s.incidents.add r.incident := by
  obtain ⟨t, ht, hinspected⟩ := check_of_fetched hbody happlies hreadable hread hfetch
  obtain ⟨r, hreport⟩ : ∃ r, Report.ruleProcessing (.text path) .tooManyDigits
      (.text rule.typeName) "" t.clock = .ok r := ⟨_, rfl⟩
  have hsubmitted : Report.ofFailure (.text path) .tooManyDigits "" (.text rule.typeName) t.clock =
      .ok r := hreport
  have hinspect : rule.inspectTree path (RuleCard.script (perform tree path)) t = (.ok [],
      (t.file r).time rule.typeName .check ((t.file r).clock - t.clock)) := by
    simp only [inspectTree, perform_script, hperform, hsubmitted, Session.submit]
  obtain ⟨u, hcheck, hu⟩ := hinspected _ _ hinspect
  refine ⟨u, r, t.clock, hcheck, hreport, ?_⟩
  rw [hu, ← ht]
  rfl

end Rule

theorem Utf8.decodeFrom_ascii {b : UInt8} (h : b < 0x80) (rest : Bytes) :
    decodeFrom .ready (b :: rest) = Char.ofNat b.toNat :: decodeFrom .ready rest := by
  simp [decodeFrom, step, start, h]

theorem Text.dropEndWhile_concat {p : Char → Bool} {c : Char} (h : p c = false) (cs : List Char) :
    dropEndWhile p (cs ++ [c]) = cs ++ [c] := by
  simp [dropEndWhile, h]

theorem Text.lowerFrom_eq_self (before : List Char) {cs : List Char}
    (h : ∀ c ∈ cs, c.toNat < 0x80 ∧ c.toLower = c) : lowerFrom before cs = cs := by
  induction cs generalizing before with
  | nil => rfl
  | cons c rest ih =>
      obtain ⟨⟨hascii, hlower⟩, hrest⟩ := List.forall_mem_cons.mp h
      have hsigma : c.toNat ≠ 0x3A3 := by omega
      simp [lowerFrom, hsigma, lowerChar, hascii, hlower, ih _ hrest]

theorem Numeral.ofDigits_replicate (n : Nat) :
    Numeral.ofDigits 16 (List.replicate n 15) + 1 = Nat.pow 16 n := by
  have hfold (acc : Nat) : (List.replicate n 15).foldl (fun n d => n * 16 + d) acc + 1 =
      (acc + 1) * Nat.pow 16 n := by
    induction n generalizing acc with
    | zero => simp
    | succ n ih =>
        have hstep : acc * 16 + 15 + 1 = (acc + 1) * 16 := by omega
        rw [List.replicate_succ, List.foldl_cons, ih, hstep, Nat.mul_assoc, Nat.mul_comm 16]
        rfl
  simpa [Numeral.ofDigits] using hfold 0

namespace IntLiteral

/-- The bytes of a hexadecimal literal of which all digits are the largest. -/
def hexBytes (n : Nat) : Bytes := 0x30 :: 0x78 :: List.replicate n 0x66

theorem decodeChars_hexBytes (n : Nat) :
    Utf8.decodeChars (hexBytes n) = '0' :: 'x' :: List.replicate n 'f' := by
  have hdigits : Utf8.decodeFrom .ready (List.replicate n 0x66) = List.replicate n 'f' := by
    induction n with
    | zero => rfl
    | succ n ih => rw [List.replicate_succ, Utf8.decodeFrom_ascii (by decide), ih]; rfl
  rw [Utf8.decodeChars, hexBytes, Utf8.decodeFrom_ascii (by decide),
    Utf8.decodeFrom_ascii (by decide), hdigits]
  rfl

theorem canonical_hex (n : Nat) :
    canonical ('0' :: 'x' :: List.replicate (n + 1) 'f') =
      '0' :: 'x' :: List.replicate (n + 1) 'f' := by
  have hchars : ∀ c ∈ '0' :: 'x' :: List.replicate (n + 1) 'f', c = '0' ∨ c = 'x' ∨ c = 'f' := by
    intro c hc
    simpa [List.mem_replicate] using hc
  have htrimmed : Text.trimChars ('0' :: 'x' :: List.replicate (n + 1) 'f') =
      '0' :: 'x' :: List.replicate (n + 1) 'f' := by
    have hend : '0' :: 'x' :: List.replicate (n + 1) 'f' =
        ('0' :: 'x' :: List.replicate n 'f') ++ ['f'] := by
      simp [List.replicate_succ']
    have hblank : Text.isBlank '0' = false := by decide
    rw [Text.trimChars, Text.trimWhile, List.dropWhile_cons_of_neg (by simp [hblank]), hend,
      Text.dropEndWhile_concat (by decide)]
  have hplain : ('0' :: 'x' :: List.replicate (n + 1) 'f').filter (· != '_') =
      '0' :: 'x' :: List.replicate (n + 1) 'f' := by
    apply List.filter_eq_self.mpr
    intro c hc
    rcases hchars c hc with rfl | rfl | rfl <;> decide
  rw [canonical, htrimmed, hplain]
  apply Text.lowerFrom_eq_self
  intro c hc
  rcases hchars c hc with rfl | rfl | rfl <;> decide

theorem digits?_hex (n : Nat) :
    Numeral.digits? 16 (List.replicate (n + 1) 'f') = some (List.replicate (n + 1) 15) := by
  have hdigit : Numeral.digit? 16 'f' = some 15 := by decide
  have hdigits (m : Nat) : (List.replicate m 'f').mapM (Numeral.digit? 16) =
      some (List.replicate m 15) := by
    induction m with
    | zero => rfl
    | succ m ih => simp [List.replicate_succ, hdigit, ih]
  rw [← hdigits]
  rfl

theorem value?_hexBytes {n : Nat} (h : 0 < n) :
    value? (Utf8.decode (hexBytes n)) = some ((Nat.pow 16 n - 1 : Nat) : Int) := by
  obtain ⟨n, rfl⟩ := Nat.exists_eq_succ_of_ne_zero h.ne'
  have hvalue : Numeral.ofDigits 16 (List.replicate (n + 1) 15) = Nat.pow 16 (n + 1) - 1 := by
    rw [← Numeral.ofDigits_replicate (n + 1), Nat.add_sub_cancel]
  have htrimmed : Text.dropEndWhile Text.isNumeralBlank (List.replicate (n + 1) 'f') =
      List.replicate (n + 1) 'f' := by
    rw [List.replicate_succ', Text.dropEndWhile_concat (by decide)]
  rw [value?, Utf8.decode, String.toList_ofList, decodeChars_hexBytes, canonical_hex]
  simp only [ofCanonical?, inBase?, htrimmed, digits?_hex, Option.map_some, hvalue]

end IntLiteral

theorem CodeStyle.unwritable_numeralTree {n : Nat} (hn : 0 < n)
    (h : Nat.pow 10 Numeral.maxDecimalDigits ≤ Nat.pow 16 n - 1) :
    Unwritable (Grammar.numeralTree (IntLiteral.hexBytes n)) := by
  have htext : (Grammar.numeralTree (IntLiteral.hexBytes n)).root.text
      (IntLiteral.hexBytes n) = Utf8.decode (IntLiteral.hexBytes n) := by
    simp [Node.text, Node.slice, Grammar.numeralTree]
  refine ⟨_, _, .self rfl, rfl, ?_, h⟩
  exact (congrArg IntLiteral.value? htext).trans (IntLiteral.value?_hexBytes hn)

/-- A file that is one hexadecimal numeral. -/
def Workspace.wideNumeral : Workspace where
  files := Files.write {} "wide.php" (.regular (IntLiteral.hexBytes 3572) 5 true true)
  grammar := .numeral

namespace Catalogue

/-- Without options a bundled rule is built, and comes to an end on every tree. The rule about code
style is the exception: it fails where a literal cannot be written. -/
theorem bundled_default {card : RuleCard} {build : Value → Except Failure Rule}
    (hbundled : (card, build) ∈ bundledRules) :
    ∃ (rule : Rule) (perform : SyntaxTree → String → Except Failure (List Finding)),
      build (.map []) = .ok rule ∧ rule.typeName = card.typeName ∧
      rule.body = .tree (fun tree path => RuleCard.script (perform tree path)) ∧
      ∀ tree path, (¬(card = CodeStyle.card ∧ CodeStyle.Unwritable tree) ∧
          ∃ findings, perform tree path = .ok findings) ∨
        ((card = CodeStyle.card ∧ CodeStyle.Unwritable tree) ∧
          perform tree path = .error .tooManyDigits) := by
  simp only [bundledRules, List.mem_cons, Prod.mk.injEq, List.not_mem_nil, or_false] at hbundled
  rcases hbundled with ⟨rfl, rfl⟩ | ⟨rfl, rfl⟩ | ⟨rfl, rfl⟩
  · have hother : MongoAccess.card ≠ CodeStyle.card := fun h =>
      absurd (congrArg RuleCard.identifier h) (by decide)
    exact ⟨_, _, rfl, rfl, rfl, fun tree path =>
      Or.inl ⟨fun h => hother h.1, MongoAccess.perform_default tree path⟩⟩
  · have hother : LaravelPractices.card ≠ CodeStyle.card := fun h =>
      absurd (congrArg RuleCard.identifier h) (by decide)
    exact ⟨_, _, rfl, rfl, rfl, fun tree path =>
      Or.inl ⟨fun h => hother h.1, LaravelPractices.perform_default tree path⟩⟩
  · have hlimit : CodeStyle.card.integerOption [] "max_line_length" = .ok 120 := rfl
    refine ⟨_, _, rfl, rfl, rfl, fun tree path => ?_⟩
    simpa using CodeStyle.perform_cases hlimit tree path

/-- What can silence a bundled rule without options. Performing the rule on a tree gives findings
unless the rule is the one about code style and a literal of the tree cannot be written. On a file
that can be read and parsed, a check returns exactly those findings and files nothing but a warning
about time; where the rule fails, the check returns nothing and files the failure. -/
theorem bundled_rule_silenced_iff {card : RuleCard} {build : Value → Except Failure Rule}
    (hbundled : (card, build) ∈ bundledRules) :
    ∃ (rule : Rule) (perform : SyntaxTree → String → Except Failure (List Finding)),
      build (.map []) = .ok rule ∧
      rule.body = .tree (fun tree path => RuleCard.script (perform tree path)) ∧
      (∀ tree path, (∃ findings, perform tree path = .ok findings) ↔
        ¬(card = CodeStyle.card ∧ CodeStyle.Unwritable tree)) ∧
      ∀ (ws : Workspace) (path : String) (s : Session) (content : Bytes) (mtime : Int)
        (parsed : SyntaxTree), rule.appliesTo path = .ok true →
        ws.files.isReadable path = true → ws.files.read path = .ok (content, mtime) →
        ws.grammar.fresh content = .ok parsed →
        ∃ tree, (s.fetch ws.grammar path content (.int mtime)).1 = .ok tree ∧
          (TreeCache.fingerprint content (.int mtime) ∉ s.cache.keys → tree = parsed) ∧
          (∀ findings, perform tree path = .ok findings → ∃ t,
            rule.check ws path s = (.ok (.items (findings.map .finding)), t) ∧
            (t.incidents = s.incidents ∨
              ∃ i, i.topic = .performance ∧ t.incidents = s.incidents.add i)) ∧
          ∀ f, perform tree path = .error f → ∃ t r now,
            rule.check ws path s = (.ok (.items []), t) ∧
            Report.ruleProcessing (.text path) f (.text card.typeName) "" now = .ok r ∧
            t.incidents = s.incidents.add r.incident := by
  obtain ⟨rule, perform, hbuilt, hname, hbody, hperform⟩ := bundled_default hbundled
  refine ⟨rule, perform, hbuilt, hbody, ?_, ?_⟩
  · intro tree path
    rcases hperform tree path with ⟨hwritable, hfound⟩ | ⟨hunwritable, hfail⟩
    · exact ⟨fun _ => hwritable, fun _ => hfound⟩
    · refine ⟨?_, fun hwritable => absurd hunwritable hwritable⟩
      rintro ⟨findings, hfound⟩
      rw [hfail] at hfound
      cases hfound
  · intro ws path s content mtime parsed happlies hreadable hread hfresh
    obtain ⟨tree, hfetch, hparsed⟩ := s.exists_fetched path (.int mtime) hfresh
    refine ⟨tree, hfetch, hparsed, ?_, ?_⟩
    · intro findings hfound
      exact Rule.check_of_performed hbody happlies hreadable hread hfetch hfound
    · intro f hfail
      rcases hperform tree path with ⟨_, findings, hfound⟩ | ⟨_, herror⟩
      · rw [hfail] at hfound
        cases hfound
      · cases hfail.symm.trans herror
        rw [← hname]
        exact Rule.check_of_failed hbody happlies hreadable hread hfetch herror

/-- A numeral of 3572 hexadecimal digits has 4302 decimal ones. The rule about code style gives
nothing for such a file and reports that it failed. -/
theorem wide_numeral_silences_rule :
    ∃ rule, CodeStyle.build (.map []) = .ok rule ∧ ∃ f t r now,
      rule.check .wideNumeral "wide.php" .cold = (.ok (.items []), t) ∧
      Report.ruleProcessing (.text "wide.php") f (.text "CodeStyleRule") "" now = .ok r ∧
      t.incidents = Session.cold.incidents.add r.incident := by
  have hbundled : (CodeStyle.card, CodeStyle.build) ∈ bundledRules := by simp [bundledRules]
  have hunwritable : CodeStyle.Unwritable (Grammar.numeralTree (IntLiteral.hexBytes 3572)) :=
    CodeStyle.unwritable_numeralTree (by decide) (by decide +kernel)
  obtain ⟨rule, perform, hbuilt, _, hperform, hcheck⟩ := bundled_rule_silenced_iff hbundled
  have happlies : rule.appliesTo "wide.php" = .ok true := by
    cases hbuilt
    rfl
  obtain ⟨tree, _, hparsed, _, hfails⟩ := hcheck .wideNumeral "wide.php" .cold
    (IntLiteral.hexBytes 3572) 5 (Grammar.numeralTree (IntLiteral.hexBytes 3572)) happlies rfl rfl
    (Grammar.fresh_numeral _)
  have htree := hparsed (by simp [TreeCache.keys, Session.cold])
  subst htree
  cases hresult : perform (Grammar.numeralTree (IntLiteral.hexBytes 3572)) "wide.php" with
  | ok findings => exact absurd ⟨rfl, hunwritable⟩ ((hperform _ _).mp ⟨findings, hresult⟩)
  | error f => exact ⟨rule, hbuilt, f, hfails f hresult⟩

end Catalogue

end PhpAudit
