import Mathlib.Data.List.Induction
import Mathlib.Algebra.Ring.Nat
import PhpAudit.Proofs.ChainedSelection
import PhpAudit.Proofs.KeyEquality
import PhpAudit.Selection.Grouping

/-!
Groups of rules split the rules. Members are added one by one to the group of their key, or start
one; whatever the keys, no two groups have equal ones, and a group holds the members of its key in
order. Sorting moves whole groups only. Counts are sizes of groups, and since a rule names each of
its tags once, a tag is counted once for each rule that has it.
-/

namespace PhpAudit

namespace Groups

section Adding

variable {κ α : Type}

/-- A member goes to the first group of its key, or after all groups. -/
theorem add_cases (same : κ → κ → Bool) (key : κ) (member : α) (groups : Groups κ α) :
    (∃ before group after, groups = before ++ group :: after ∧ same group.1 key = true ∧
      add same key member groups = before ++ (group.1, group.2 ++ [member]) :: after) ∨
    ((∀ e ∈ groups, same e.1 key = false) ∧
      add same key member groups = groups ++ [(key, [member])]) := by
  induction groups with
  | nil => exact Or.inr ⟨by simp, rfl⟩
  | cons group rest ih =>
      cases hsame : same group.1 key with
      | true => exact Or.inl ⟨[], group, rest, rfl, hsame, by simp [add, hsame]⟩
      | false =>
          have hadd : add same key member (group :: rest) = group :: add same key member rest := by
            simp [add, hsame]
          rw [hadd]
          rcases ih with ⟨before, found, after, rfl, hfound, heq⟩ | ⟨hnone, heq⟩
          · exact Or.inl ⟨group :: before, found, after, rfl, hfound, by rw [heq]; rfl⟩
          · exact Or.inr ⟨List.forall_mem_cons.mpr ⟨hsame, hnone⟩, by rw [heq]; rfl⟩

/-- Groups after all members of a list. -/
theorem ofKeyed_concat (same : κ → κ → Bool) (keyed : List (κ × α)) (e : κ × α) :
    ofKeyed same (keyed ++ [e]) = add same e.1 e.2 (ofKeyed same keyed) := by
  rw [ofKeyed, List.foldl_append]
  rfl

/-- Renaming keys and members before or after makes no difference, as long as the same keys are
taken for equal. -/
theorem ofKeyed_map {ι β : Type} {same : κ → κ → Bool} {same' : ι → ι → Bool} {f : ι → κ}
    (hsame : ∀ a b, same (f a) (f b) = same' a b) (h : α → β) (keyed : List (ι × α)) :
    ofKeyed same (keyed.map fun e => (f e.1, h e.2)) =
      (ofKeyed same' keyed).map fun e => (f e.1, e.2.map h) := by
  induction keyed using List.reverseRecOn with
  | nil => rfl
  | append_singleton keyed e ih =>
      rw [List.map_append, List.map_singleton, ofKeyed_concat, ofKeyed_concat, ih]
      generalize ofKeyed same' keyed = groups
      induction groups with
      | nil => rfl
      | cons group rest ih =>
          rw [List.map_cons, add, add, hsame]
          split
          · simp
          · rw [ih]
            rfl

/-- Equality that tells keys apart: on what may be a key it is symmetric and transitive. A key need
not be equal to itself. -/
structure TellsApart (same : κ → κ → Bool) (IsKey : κ → Prop) : Prop where
  symm : ∀ {a b}, IsKey a → IsKey b → same a b = true → same b a = true
  trans : ∀ {a b c}, IsKey a → IsKey b → IsKey c → same a b = true → same b c = true →
    same a c = true

/-- Groups hold the members by their keys. -/
structure Sorts (same : κ → κ → Bool) (key : α → κ) (members : List α) (groups : Groups κ α) :
    Prop where
  apart : (groups.map (·.1)).Pairwise fun a b => same a b = false
  keys : ∀ e ∈ groups, ∃ m ∈ members, key m = e.1
  group : ∀ e ∈ groups, same e.1 e.1 = true → e.2 = members.filter fun m => same e.1 (key m)
  alone : ∀ e ∈ groups, same e.1 e.1 = false → e.2.length = 1
  covered : ∀ m ∈ members, ∃ e ∈ groups, e.1 = key m ∨ same e.1 (key m) = true
  perm : (groups.flatMap (·.2)).Perm members

variable {same : κ → κ → Bool} {IsKey : κ → Prop} {key : α → κ} {members : List α}
  {groups : Groups κ α}

/-- Only one group can take a member. -/
theorem Sorts.eq_false_of_mem (h : Sorts same key members groups) (hsame : TellsApart same IsKey)
    (hkeys : ∀ m ∈ members, IsKey (key m)) {k : κ} (hk : IsKey k) {before after : Groups κ α}
    {group : κ × List α} (hsplit : groups = before ++ group :: after)
    (hgroup : same group.1 k = true) : ∀ e ∈ before ++ after, same e.1 k = false := by
  have hkey : ∀ e ∈ groups, IsKey e.1 := by
    intro e he
    obtain ⟨m, hm, hkeyed⟩ := h.keys e he
    exact hkeyed ▸ hkeys m hm
  have hapart := h.apart
  rw [hsplit] at hkey hapart
  have hin : group ∈ before ++ group :: after := by simp
  rw [List.map_append, List.map_cons, List.pairwise_append, List.pairwise_cons] at hapart
  obtain ⟨_, ⟨hafter, _⟩, hbefore⟩ := hapart
  intro e he
  by_contra hsome
  rw [Bool.not_eq_false] at hsome
  rcases List.mem_append.mp he with he | he
  · have hk' : IsKey e.1 := hkey e (List.mem_append_left _ he)
    have hboth := hsame.trans hk' hk (hkey group hin) hsome (hsame.symm (hkey group hin) hk hgroup)
    rw [hbefore e.1 (List.mem_map_of_mem he) group.1 List.mem_cons_self] at hboth
    cases hboth
  · have hk' : IsKey e.1 := hkey e (List.mem_append_right _ (List.mem_cons_of_mem _ he))
    have hboth := hsame.trans (hkey group hin) hk hk' hgroup (hsame.symm hk' hk hsome)
    rw [hafter e.1 (List.mem_map_of_mem he)] at hboth
    cases hboth

theorem filter_concat_of_eq_false {k : κ} {m : α} (h : same k (key m) = false) :
    (members ++ [m]).filter (fun n => same k (key n)) =
      members.filter fun n => same k (key n) := by
  simp [h]

/-- A member of a group that is there is put at its end. -/
theorem Sorts.extend (h : Sorts same key members groups) (hsame : TellsApart same IsKey)
    (hkeys : ∀ m ∈ members, IsKey (key m)) {m : α} (hm : IsKey (key m)) {before after : Groups κ α}
    {group : κ × List α} (hsplit : groups = before ++ group :: after)
    (hgroup : same group.1 (key m) = true) :
    Sorts same key (members ++ [m]) (before ++ (group.1, group.2 ++ [m]) :: after) := by
  have hothers := h.eq_false_of_mem hsame hkeys hm hsplit hgroup
  have hin : group ∈ groups := by simp [hsplit]
  have hkey : IsKey group.1 := by
    obtain ⟨first, hfirst, hkeyed⟩ := h.keys group hin
    exact hkeyed ▸ hkeys first hfirst
  have hself : same group.1 group.1 = true :=
    hsame.trans hkey hm hkey hgroup (hsame.symm hkey hm hgroup)
  have hold : ∀ e ∈ before ++ after, e ∈ groups := by
    intro e he
    rw [hsplit, List.mem_append, List.mem_cons]
    exact (List.mem_append.mp he).imp id Or.inr
  have hcases : ∀ e ∈ before ++ (group.1, group.2 ++ [m]) :: after,
      e ∈ before ++ after ∨ e = (group.1, group.2 ++ [m]) := by
    intro e he
    simp only [List.mem_append, List.mem_cons] at he ⊢
    tauto
  refine ⟨?_, ?_, ?_, ?_, ?_, ?_⟩
  · simpa [hsplit] using h.apart
  · intro e he
    rcases hcases e he with he | rfl
    · obtain ⟨first, hfirst, hkeyed⟩ := h.keys e (hold e he)
      exact ⟨first, List.mem_append_left _ hfirst, hkeyed⟩
    · obtain ⟨first, hfirst, hkeyed⟩ := h.keys group hin
      exact ⟨first, List.mem_append_left _ hfirst, hkeyed⟩
  · intro e he hrefl
    rcases hcases e he with he | rfl
    · rw [filter_concat_of_eq_false (hothers e he), h.group e (hold e he) hrefl]
    · rw [List.filter_append, ← h.group group hin hself]
      simp [hgroup]
  · intro e he hirrefl
    rcases hcases e he with he | rfl
    · exact h.alone e (hold e he) hirrefl
    · rw [hself] at hirrefl
      cases hirrefl
  · intro n hn
    rcases List.mem_append.mp hn with hn | hn
    · obtain ⟨e, he, hcovers⟩ := h.covered n hn
      rw [hsplit, List.mem_append, List.mem_cons] at he
      rcases he with he | rfl | he
      · exact ⟨e, by simp [he], hcovers⟩
      · exact ⟨(e.1, e.2 ++ [m]), by simp, hcovers⟩
      · exact ⟨e, by simp [he], hcovers⟩
    · rw [List.mem_singleton.mp hn]
      exact ⟨(group.1, group.2 ++ [m]), by simp, Or.inr hgroup⟩
  · have hperm := h.perm
    rw [hsplit, List.flatMap_append, List.flatMap_cons] at hperm
    rw [List.flatMap_append, List.flatMap_cons]
    calc before.flatMap (·.2) ++ (group.2 ++ [m] ++ after.flatMap (·.2))
        |>.Perm (before.flatMap (·.2) ++ (group.2 ++ after.flatMap (·.2)) ++ [m]) := by
          simp only [List.append_assoc]
          exact (List.perm_append_comm.append_left _).append_left _
      _ |>.Perm (members ++ [m]) := hperm.append_right [m]

/-- A member without a group starts one. -/
theorem Sorts.start (h : Sorts same key members groups) (hsame : TellsApart same IsKey)
    (hkeys : ∀ m ∈ members, IsKey (key m)) {m : α} (hm : IsKey (key m))
    (hnone : ∀ e ∈ groups, same e.1 (key m) = false) :
    Sorts same key (members ++ [m]) (groups ++ [(key m, [m])]) := by
  have hcases : ∀ e ∈ groups ++ [(key m, [m])], e ∈ groups ∨ e = (key m, [m]) := by simp
  refine ⟨?_, ?_, ?_, ?_, ?_, ?_⟩
  · rw [List.map_append, List.pairwise_append]
    refine ⟨h.apart, List.pairwise_singleton _ _, ?_⟩
    intro k hk k' hk'
    obtain ⟨e, he, rfl⟩ := List.mem_map.mp hk
    rw [List.mem_singleton.mp hk']
    exact hnone e he
  · intro e he
    rcases hcases e he with he | rfl
    · obtain ⟨first, hfirst, hkeyed⟩ := h.keys e he
      exact ⟨first, List.mem_append_left _ hfirst, hkeyed⟩
    · exact ⟨m, by simp, rfl⟩
  · intro e he hrefl
    rcases hcases e he with he | rfl
    · rw [filter_concat_of_eq_false (hnone e he), h.group e he hrefl]
    · -- an earlier member with this key would have a group for it
      have hempty : members.filter (fun n => same (key m) (key n)) = [] := by
        rw [List.filter_eq_nil_iff]
        intro n hn hequal
        obtain ⟨e, he, hcovers⟩ := h.covered n hn
        have hkey : IsKey (key n) := hkeys n hn
        have hback := hsame.symm hm hkey hequal
        rcases hcovers with hsome | hsome
        · rw [← hsome, hnone e he] at hback
          cases hback
        · obtain ⟨first, hfirst, hkeyed⟩ := h.keys e he
          have hboth := hsame.trans (hkeyed ▸ hkeys first hfirst) hkey hm hsome hback
          rw [hnone e he] at hboth
          cases hboth
      simp [hempty, hrefl]
  · intro e he hirrefl
    rcases hcases e he with he | rfl
    · exact h.alone e he hirrefl
    · rfl
  · intro n hn
    rcases List.mem_append.mp hn with hn | hn
    · obtain ⟨e, he, hcovers⟩ := h.covered n hn
      exact ⟨e, List.mem_append_left _ he, hcovers⟩
    · rw [List.mem_singleton.mp hn]
      exact ⟨(key m, [m]), by simp, Or.inl rfl⟩
  · rw [List.flatMap_append]
    exact h.perm.append_right _

theorem Sorts.add (h : Sorts same key members groups) (hsame : TellsApart same IsKey)
    (hkeys : ∀ m ∈ members, IsKey (key m)) {m : α} (hm : IsKey (key m)) :
    Sorts same key (members ++ [m]) (groups.add same (key m) m) := by
  rcases add_cases same (key m) m groups with
    ⟨before, group, after, hsplit, hgroup, heq⟩ | ⟨hnone, heq⟩
  · rw [heq]
    exact h.extend hsame hkeys hm hsplit hgroup
  · rw [heq]
    exact h.start hsame hkeys hm hnone

/-- Adding members one after another sorts them. -/
theorem sorts_ofKeyed (hsame : TellsApart same IsKey) (hkeys : ∀ m ∈ members, IsKey (key m)) :
    Sorts same key members (ofKeyed same (members.map fun m => (key m, m))) := by
  induction members using List.reverseRecOn with
  | nil => exact ⟨List.Pairwise.nil, by simp [ofKeyed], by simp [ofKeyed], by simp [ofKeyed],
      by simp, List.Perm.nil⟩
  | append_singleton members m ih =>
      rw [List.map_append, List.map_singleton, ofKeyed_concat]
      have hbefore : ∀ n ∈ members, IsKey (key n) := fun n hn =>
        hkeys n (List.mem_append_left _ hn)
      exact (ih hbefore).add hsame hbefore (hkeys m (by simp))

end Adding

section Splitting

variable {κ α : Type} [DecidableEq κ] {key : α → κ} {members : List α} {groups : Groups κ α}

/-- The groups split the members by their keys: no key comes twice, no group is empty, and each
member is in the group of its own key, behind the members it came after. -/
structure Splits (key : α → κ) (members : List α) (groups : Groups κ α) : Prop where
  nodup : (groups.map (·.1)).Nodup
  nonempty : ∀ g ∈ groups, g.2 ≠ []
  group : ∀ g ∈ groups, g.2 = members.filter fun m => decide (key m = g.1)
  covered : ∀ m ∈ members, key m ∈ groups.map (·.1)
  perm : (groups.flatMap (·.2)).Perm members

/-- Members by their keys, the keys in the order of their first members. -/
def splitBy (key : α → κ) (members : List α) : Groups κ α :=
  ofKeyed (· == ·) (members.map fun m => (key m, m))

theorem tellsApart_beq : TellsApart (fun a b : κ => a == b) fun _ => True where
  symm := by simp +contextual
  trans := by simp +contextual

theorem splits_splitBy (key : α → κ) (members : List α) :
    Splits key members (splitBy key members) := by
  have h : Sorts (· == ·) key members (splitBy key members) :=
    sorts_ofKeyed tellsApart_beq fun _ _ => trivial
  have hgroup : ∀ g ∈ splitBy key members, g.2 = members.filter fun m => decide (key m = g.1) := by
    intro g hg
    rw [h.group g hg (by simp)]
    refine List.filter_congr fun m _ => ?_
    rw [Bool.beq_eq_decide_eq]
    exact decide_eq_decide.mpr eq_comm
  refine ⟨?_, ?_, hgroup, ?_, h.perm⟩
  · exact h.apart.imp (by simp)
  · intro g hg hempty
    obtain ⟨m, hm, hkeyed⟩ := h.keys g hg
    have hin : m ∈ g.2 := by
      rw [hgroup g hg]
      simp [hm, hkeyed]
    rw [hempty] at hin
    cases hin
  · intro m hm
    obtain ⟨g, hg, hcovers⟩ := h.covered m hm
    have hkeyed : g.1 = key m := by simpa using hcovers
    exact hkeyed ▸ List.mem_map_of_mem hg

/-- Moving whole groups changes nothing of this. -/
theorem Splits.of_perm {groups' : Groups κ α} (h : Splits key members groups)
    (hperm : groups'.Perm groups) : Splits key members groups' where
  nodup := (hperm.map _).nodup_iff.mpr h.nodup
  nonempty := fun g hg => h.nonempty g (hperm.mem_iff.mp hg)
  group := fun g hg => h.group g (hperm.mem_iff.mp hg)
  covered := fun m hm => (hperm.map _).mem_iff.mpr (h.covered m hm)
  perm := (hperm.flatMap_right _).trans h.perm

/-- Sizes of groups add up. -/
theorem Splits.sum_counts (h : Splits key members groups) :
    (groups.counts.map (·.2)).sum = members.length := by
  rw [← h.perm.length_eq, List.length_flatMap, counts, List.map_map]
  rfl

/-- The groups of some keys, as the keys come. -/
def arrange (order : List κ) (groups : Groups κ α) : Groups κ α :=
  order.filterMap fun k => groups.find? (·.1 == k)

theorem find?_of_mem (hnodup : (groups.map (·.1)).Nodup) {g : κ × List α} (hg : g ∈ groups) :
    groups.find? (·.1 == g.1) = some g := by
  cases hfound : groups.find? (·.1 == g.1) with
  | none =>
      have := List.find?_eq_none.mp hfound g hg
      simp at this
  | some found =>
      have hkey : found.1 = g.1 := by simpa using List.find?_some hfound
      rw [List.inj_on_of_nodup_map hnodup (List.mem_of_find?_eq_some hfound) hg hkey]

theorem keys_arrange (order : List κ) (groups : Groups κ α) :
    (groups.arrange order).map (·.1) =
      order.filter fun k => decide (k ∈ groups.map (·.1)) := by
  induction order with
  | nil => rfl
  | cons k rest ih =>
      rw [arrange] at ih ⊢
      cases hfound : groups.find? (·.1 == k) with
      | none =>
          have hnone : k ∉ groups.map (·.1) := by
            intro hmem
            obtain ⟨g, hg, rfl⟩ := List.mem_map.mp hmem
            simpa using List.find?_eq_none.mp hfound g hg
          simp only [List.filterMap_cons, hfound]
          rw [ih, List.filter_cons_of_neg (by simpa using hnone)]
      | some g =>
          have hkey : g.1 = k := by simpa using List.find?_some hfound
          have hmem : k ∈ groups.map (·.1) :=
            hkey ▸ List.mem_map_of_mem (List.mem_of_find?_eq_some hfound)
          simp only [List.filterMap_cons, hfound]
          rw [List.map_cons, ih, hkey, List.filter_cons_of_pos (by simpa using hmem)]

/-- Where all keys are asked for, every group is given. -/
theorem arrange_perm {order : List κ} (horder : order.Nodup) (hnodup : (groups.map (·.1)).Nodup)
    (hall : ∀ g ∈ groups, g.1 ∈ order) : (groups.arrange order).Perm groups := by
  have hkeys : ((groups.arrange order).map (·.1)).Nodup := by
    rw [keys_arrange]
    exact horder.filter _
  rw [List.perm_ext_iff_of_nodup hkeys.of_map hnodup.of_map]
  intro g
  constructor
  · intro hg
    obtain ⟨k, _, hfound⟩ := List.mem_filterMap.mp hg
    exact List.mem_of_find?_eq_some hfound
  · intro hg
    exact List.mem_filterMap.mpr ⟨g.1, hall g hg, find?_of_mem hnodup hg⟩

theorem keys_splitBy (key : α → κ) (members : List α) :
    (splitBy key members).map (·.1) = (members.map key).reverse.dedup.reverse := by
  induction members using List.reverseRecOn with
  | nil => rfl
  | append_singleton members m ih =>
      have hconcat : splitBy key (members ++ [m]) =
          (splitBy key members).add (· == ·) (key m) m := by
        rw [splitBy, List.map_append, List.map_singleton, ofKeyed_concat]
        rfl
      rw [hconcat, List.map_append, List.map_singleton, List.reverse_append,
        List.reverse_singleton, List.singleton_append]
      rcases add_cases (· == ·) (key m) m (splitBy key members) with
        ⟨before, group, after, hsplit, hgroup, heq⟩ | ⟨hnone, heq⟩
      · have hmem : key m ∈ (members.map key).reverse := by
          rw [← List.mem_dedup, ← List.mem_reverse, ← ih, hsplit, ← beq_iff_eq.mp hgroup]
          simp
        rw [List.dedup_cons_of_mem hmem, ← ih, heq, hsplit]
        simp
      · have hmem : key m ∉ (members.map key).reverse := by
          rw [← List.mem_dedup, ← List.mem_reverse, ← ih]
          intro hin
          obtain ⟨e, he, hkeyed⟩ := List.mem_map.mp hin
          simpa [hkeyed] using hnone e he
        rw [List.dedup_cons_of_notMem hmem, List.reverse_cons, ← ih, heq]
        simp

end Splitting

end Groups

section Ordering

theorem pairwise_mergeSort_rank {α : Type} (rank : α → Nat) (xs : List α) :
    (xs.mergeSort fun a b => decide (rank a ≤ rank b)).Pairwise fun a b => rank a ≤ rank b := by
  have h : (xs.mergeSort fun a b => decide (rank a ≤ rank b)).Pairwise
      fun a b => decide (rank a ≤ rank b) = true :=
    List.pairwise_mergeSort (by simp only [decide_eq_true_eq]; omega)
      (by simp only [Bool.or_eq_true, decide_eq_true_eq]; omega) xs
  simpa using h

/-- Sorting leaves those of one rank as they came. -/
theorem filter_mergeSort_rank {α : Type} (rank : α → Nat) (n : Nat) (xs : List α) :
    (xs.mergeSort fun a b => decide (rank a ≤ rank b)).filter (fun a => decide (rank a = n)) =
      xs.filter fun a => decide (rank a = n) := by
  have hperm := (xs.mergeSort_perm fun a b => decide (rank a ≤ rank b)).filter
    fun a => decide (rank a = n)
  have hsub : (xs.filter fun a => decide (rank a = n)).Sublist
      (xs.mergeSort fun a b => decide (rank a ≤ rank b)) := by
    refine List.sublist_mergeSort (by simp only [decide_eq_true_eq]; omega)
      (by simp only [Bool.or_eq_true, decide_eq_true_eq]; omega) ?_ List.filter_sublist
    refine List.pairwise_of_forall_mem_list fun a ha b hb => ?_
    simp only [List.mem_filter, decide_eq_true_eq] at ha hb ⊢
    omega
  have hfiltered := hsub.filter fun a => decide (rank a = n)
  rw [List.filter_filter] at hfiltered
  simp only [Bool.and_self] at hfiltered
  exact (hfiltered.eq_of_length hperm.length_eq.symm).symm

/-- In a sorted list those below a rank come first. -/
theorem eq_filter_append_filter {α : Type} {rank : α → Nat} {xs : List α}
    (h : xs.Pairwise fun a b => rank a ≤ rank b) (n : Nat) :
    xs = xs.filter (fun a => decide (rank a < n)) ++ xs.filter fun a => !decide (rank a < n) := by
  induction xs with
  | nil => rfl
  | cons x rest ih =>
      obtain ⟨hfirst, hrest⟩ := List.pairwise_cons.mp h
      by_cases hx : rank x < n
      · rw [List.filter_cons_of_pos (by simpa using hx), List.filter_cons_of_neg (by simpa using hx),
          List.cons_append, ← ih hrest]
      · have hnone : rest.filter (fun a => decide (rank a < n)) = [] := by
          rw [List.filter_eq_nil_iff]
          intro a ha
          have := hfirst a ha
          simp only [decide_eq_true_eq]
          omega
        have hall : rest.filter (fun a => !decide (rank a < n)) = rest := by
          rw [List.filter_eq_self]
          intro a ha
          have := hfirst a ha
          simp only [Bool.not_eq_true', decide_eq_false_iff_not]
          omega
        rw [List.filter_cons_of_neg (by simpa using hx), List.filter_cons_of_pos (by simpa using hx),
          hnone, hall, List.nil_append]

end Ordering

namespace Category

theorem mem_byPriority (c : Category) : c ∈ byPriority := by
  rw [byPriority, List.mem_mergeSort]
  cases c <;> decide

theorem nodup_byPriority : byPriority.Nodup :=
  (all.mergeSort_perm _).nodup_iff.mpr (by decide)

/-- No two categories have the same priority. -/
theorem pairwise_byPriority : byPriority.Pairwise fun a b => a.priority < b.priority := by
  have hinjective : ∀ a b : Category, a.priority = b.priority → a = b := by
    intro a b
    cases a <;> cases b <;> simp [priority]
  refine ((pairwise_mergeSort_rank priority all).and nodup_byPriority).imp ?_
  rintro a b ⟨hle, hne⟩
  exact lt_of_le_of_ne hle (mt (hinjective a b) hne)

theorem ofName?_name (c : Category) : ofName? c.name = some c := by
  cases c <;> decide

theorem name_injective : Function.Injective name := by
  intro a b h
  have hsame : some a = some b := by rw [← ofName?_name a, h, ofName?_name b]
  exact Option.some.inj hsame

theorem name_of_ofName? {name : String} {c : Category} (h : ofName? name = some c) :
    c.name = name := by
  simpa using List.find?_some h

end Category

namespace Rule

theorem categoryRank_name (c : Category) :
    categoryRank (.text c.name) = Category.byPriority.idxOf c := by
  rw [categoryRank, Category.ofName?_name]

theorem categoryRank_lt_iff (name : String) :
    categoryRank (.text name) < Category.byPriority.length ↔ (Category.ofName? name).isSome := by
  rw [categoryRank]
  cases Category.ofName? name with
  | none => simp
  | some c => simpa using List.idxOf_lt_length_iff.mpr c.mem_byPriority

theorem categoryRank_eq_iff (name : String) :
    categoryRank (.text name) = Category.byPriority.length ↔ (Category.ofName? name).isNone := by
  have h := categoryRank_lt_iff name
  have hle : categoryRank (.text name) ≤ Category.byPriority.length := by
    rw [categoryRank]
    cases Category.ofName? name with
    | none => exact le_rfl
    | some c => exact List.idxOf_le_length
  rw [← Option.not_isSome, Bool.not_eq_true', ← Bool.not_eq_true, ← h]
  omega

theorem pairwise_categoryRank : (Category.byPriority.map Category.name).Pairwise fun a b =>
    categoryRank (.text a) ≤ categoryRank (.text b) := by
  rw [List.pairwise_map, List.pairwise_iff_getElem]
  intro i j hi hj hij
  rw [categoryRank_name, categoryRank_name, Category.nodup_byPriority.idxOf_getElem,
    Category.nodup_byPriority.idxOf_getElem]
  exact hij.le

/-- Standard names come by their priority, all others behind them as they came. -/
theorem mergeSort_names {names : List String} (hnodup : names.Nodup) :
    names.mergeSort (fun a b => decide (categoryRank (.text a) ≤ categoryRank (.text b))) =
      (Category.byPriority.filter fun c => decide (c.name ∈ names)).map Category.name ++
        names.filter fun name => (Category.ofName? name).isNone := by
  have hsorted := pairwise_mergeSort_rank (fun name => categoryRank (.text name)) names
  have hperm := names.mergeSort_perm fun a b =>
    decide (categoryRank (.text a) ≤ categoryRank (.text b))
  rw [eq_filter_append_filter hsorted Category.byPriority.length]
  have hstandard : ∀ name, decide (categoryRank (.text name) < Category.byPriority.length) =
      (Category.ofName? name).isSome := fun name => by
    rw [Bool.eq_iff_iff, decide_eq_true_eq, categoryRank_lt_iff]
  simp only [hstandard]
  congr 1
  · have hnames : ((Category.byPriority.filter fun c => decide (c.name ∈ names)).map
        Category.name).Sublist (Category.byPriority.map Category.name) :=
      List.filter_sublist.map _
    refine List.Perm.eq_of_pairwise ?_ (hsorted.sublist List.filter_sublist)
      (pairwise_categoryRank.sublist hnames) ?_
    · intro a b ha hb hab hba
      obtain ⟨c, hc⟩ := Option.isSome_iff_exists.mp (List.mem_filter.mp ha).2
      obtain ⟨d, -, rfl⟩ := List.mem_map.mp (hnames.subset hb)
      obtain rfl := Category.name_of_ofName? hc
      rw [categoryRank_name, categoryRank_name] at hab hba
      rw [(List.idxOf_inj c.mem_byPriority).mp (le_antisymm hab hba)]
    · rw [List.perm_ext_iff_of_nodup ((hperm.nodup_iff.mpr hnodup).filter _)
        ((Category.nodup_byPriority.map Category.name_injective).sublist hnames)]
      intro name
      simp only [List.mem_filter, List.mem_mergeSort, List.mem_map, decide_eq_true_eq]
      constructor
      · rintro ⟨hmem, hsome⟩
        obtain ⟨c, hc⟩ := Option.isSome_iff_exists.mp hsome
        obtain rfl := Category.name_of_ofName? hc
        exact ⟨c, ⟨c.mem_byPriority, hmem⟩, rfl⟩
      · rintro ⟨c, ⟨-, hmem⟩, rfl⟩
        exact ⟨hmem, by rw [Category.ofName?_name]; rfl⟩
  · have hcustom : ∀ name, (!(Category.ofName? name).isSome) =
        decide (categoryRank (.text name) = Category.byPriority.length) := fun name => by
      rw [Bool.eq_iff_iff, decide_eq_true_eq, categoryRank_eq_iff, Option.not_isSome]
    simp only [hcustom, ← Option.not_isSome]
    exact filter_mergeSort_rank (fun name => categoryRank (.text name)) _ names

theorem keyed_eq_ok {κ : Type} {key : Rule → Except Failure κ} {key' : Rule → κ} {rules : List Rule}
    (h : ∀ rule ∈ rules, key rule = .ok (key' rule)) :
    keyed key rules = .ok (rules.map fun rule => (key' rule, rule)) := by
  refine mapM_eq_ok fun rule hrule => ?_
  rw [h rule hrule]
  rfl

section Grouping

variable {rules : List Rule} {category : Rule → String} {severity : Rule → Severity}

theorem text_equals (a b : String) : (Value.text a).equals (.text b) = (a == b) := by
  rw [Bool.eq_iff_iff, beq_iff_eq]
  simp [Value.equals]

/-- Groups by category, told by names. -/
theorem groupByCategory_eq (h : ∀ rule ∈ rules, rule.category = .text (category rule)) :
    groupByCategory rules =
      .ok (((Groups.splitBy category rules).mergeSort fun a b =>
        decide (categoryRank (.text a.1) ≤ categoryRank (.text b.1))).map
          fun g => (.text g.1, g.2)) := by
  have hkeys : keyed (fun rule => rule.category.key) rules =
      .ok (rules.map fun rule => (.text (category rule), rule)) :=
    keyed_eq_ok fun rule hrule => by rw [h rule hrule]; rfl
  have hgroups : Groups.ofKeyed Value.equals (rules.map fun rule => (.text (category rule), rule)) =
      (Groups.splitBy category rules).map fun g => (.text g.1, g.2) := by
    have hmap := Groups.ofKeyed_map text_equals id (rules.map fun rule => (category rule, rule))
    simpa [Function.comp_def, Groups.splitBy] using hmap
  have hsort : ((Groups.splitBy category rules).map fun g => (Value.text g.1, g.2)).mergeSort
        (fun a b => decide (categoryRank a.1 ≤ categoryRank b.1)) =
      ((Groups.splitBy category rules).mergeSort fun a b =>
        decide (categoryRank (.text a.1) ≤ categoryRank (.text b.1))).map
          fun g => (.text g.1, g.2) := by
    refine (List.map_mergeSort ?_).symm
    intro a _ b _
    rfl
  rw [groupByCategory, hkeys, ← hsort, ← hgroups]
  rfl

/-- Keys of the groups by category. -/
theorem keys_mergeSort_splitBy (category : Rule → String) (rules : List Rule) :
    ((Groups.splitBy category rules).mergeSort fun a b =>
        decide (categoryRank (.text a.1) ≤ categoryRank (.text b.1))).map (·.1) =
      (Category.byPriority.filter fun c =>
          decide (c.name ∈ firstOccurrences (rules.map category))).map Category.name ++
        (firstOccurrences (rules.map category)).filter fun name =>
          (Category.ofName? name).isNone := by
  have hkeys : (Groups.splitBy category rules).map (·.1) =
      firstOccurrences (rules.map category) := by
    rw [Groups.keys_splitBy, firstOccurrences_eq_dedup]
  have hnodup : (firstOccurrences (rules.map category)).Nodup :=
    hkeys ▸ (Groups.splits_splitBy category rules).nodup
  rw [List.map_mergeSort (s := fun a b =>
      decide (categoryRank (.text a) ≤ categoryRank (.text b))) fun _ _ _ _ => rfl,
    hkeys, mergeSort_names hnodup]

theorem groupBySeverity_eq (h : ∀ rule ∈ rules, rule.severity.toSeverity = .ok (severity rule)) :
    groupBySeverity rules =
      .ok ((Groups.splitBy severity rules).arrange Severity.all.reverse) := by
  rw [groupBySeverity, keyed_eq_ok h]
  rfl

/-- The priority of the category of a name; custom ones rank as general. -/
def priorityOf (name : String) : Nat := ((Category.ofName? name).getD .general).priority

theorem priority_eq {rule : Rule} {name : String} (h : rule.category = .text name) :
    rule.priority = .ok (priorityOf name) := by
  simp only [priority, standardCategory, h, Value.namesCategory, Value.unkeyable?, priorityOf]
  cases hname : Category.ofName? name <;> rfl

theorem groupByPriority_eq (h : ∀ rule ∈ rules, rule.category = .text (category rule)) :
    groupByPriority rules =
      .ok ((Groups.splitBy (fun rule => priorityOf (category rule)) rules).mergeSort
        fun a b => decide (a.1 ≤ b.1)) := by
  rw [groupByPriority, keyed_eq_ok fun rule hrule => priority_eq (h rule hrule)]
  rfl

end Grouping

section Tags

/-- Of equal values the first is kept, unless one equal to it has been seen. -/
structure Kept (seen values kept : List Value) : Prop where
  sublist : kept.Sublist values
  apart : kept.Pairwise fun a b => a.equals b = false
  fresh : ∀ s ∈ seen, ∀ k ∈ kept, s.equals k = false
  covered : ∀ v ∈ values,
    (∃ s ∈ seen, s.equals v = true) ∨ v ∈ kept ∨ ∃ k ∈ kept, k.equals v = true

theorem exists_kept (seen : List Value) {values : List Value}
    (h : ∀ v ∈ values, v.unkeyable? = none) :
    ∃ kept, distinctFrom seen values = .ok kept ∧ Kept seen values kept := by
  induction values generalizing seen with
  | nil => exact ⟨[], rfl, List.Sublist.slnil, List.Pairwise.nil, by simp, by simp⟩
  | cons v rest ih =>
      obtain ⟨hv, hrest⟩ := List.forall_mem_cons.mp h
      by_cases hseen : seen.any (·.equals v) = true
      · obtain ⟨kept, heq, hkept⟩ := ih seen hrest
        refine ⟨kept, by simp only [distinctFrom, hv, if_pos hseen, heq],
          hkept.sublist.cons v, hkept.apart, hkept.fresh, ?_⟩
        exact List.forall_mem_cons.mpr ⟨Or.inl (List.any_eq_true.mp hseen), hkept.covered⟩
      · obtain ⟨kept, heq, hkept⟩ := ih (v :: seen) hrest
        obtain ⟨hapart, hfresh⟩ := List.forall_mem_cons.mp hkept.fresh
        refine ⟨v :: kept, by simp only [distinctFrom, hv, if_neg hseen, heq]; rfl,
          hkept.sublist.cons_cons v, List.pairwise_cons.mpr ⟨hapart, hkept.apart⟩, ?_, ?_⟩
        · intro s hs
          refine List.forall_mem_cons.mpr ⟨?_, hfresh s hs⟩
          simpa using mt (fun h => List.any_eq_true.mpr ⟨s, hs, h⟩) hseen
        · refine List.forall_mem_cons.mpr ⟨Or.inr (Or.inl List.mem_cons_self), fun w hw => ?_⟩
          rcases hkept.covered w hw with ⟨s, hs, hequal⟩ | hin | ⟨k, hk, hequal⟩
          · rcases List.mem_cons.mp hs with rfl | hs
            · exact Or.inr (Or.inr ⟨s, List.mem_cons_self, hequal⟩)
            · exact Or.inl ⟨s, hs, hequal⟩
          · exact Or.inr (Or.inl (List.mem_cons_of_mem v hin))
          · exact Or.inr (Or.inr ⟨k, List.mem_cons_of_mem v hk, hequal⟩)

/-- However often a value comes, one equal to it is kept. -/
theorem Kept.countP {values kept : List Value} (h : Kept [] values kept)
    (hvalues : ∀ v ∈ values, v.unkeyable? = none) {t : Value} (ht : t.unkeyable? = none) :
    kept.countP t.equals = if values.any t.equals then 1 else 0 := by
  have hkept : ∀ k ∈ kept, k.unkeyable? = none := fun k hk => hvalues k (h.sublist.subset hk)
  split
  · rename_i hany
    obtain ⟨v, hv, hequal⟩ := List.any_eq_true.mp hany
    have hsome : 0 < kept.countP t.equals := by
      rw [List.countP_pos_iff]
      rcases h.covered v hv with ⟨s, hs, _⟩ | hin | ⟨k, hk, hback⟩
      · cases hs
      · exact ⟨v, hin, hequal⟩
      · exact ⟨k, hk, Value.equals_trans ht (hvalues v hv) (hkept k hk) hequal
          (Value.equals_symm (hkept k hk) (hvalues v hv) hback)⟩
    have hone : kept.countP t.equals ≤ 1 := by
      rw [List.countP_eq_length_filter]
      have hpair := h.apart.sublist (List.filter_sublist (p := t.equals))
      have hmem : ∀ k ∈ kept.filter t.equals, k ∈ kept ∧ t.equals k = true := fun k hk =>
        List.mem_filter.mp hk
      generalize kept.filter t.equals = found at hpair hmem
      rcases found with _ | ⟨a, _ | ⟨b, rest⟩⟩
      · simp
      · simp
      · obtain ⟨ha, hta⟩ := hmem a (by simp)
        obtain ⟨hb, htb⟩ := hmem b (by simp)
        have hboth := Value.equals_trans (hkept a ha) ht (hkept b hb)
          (Value.equals_symm ht (hkept a ha) hta) htb
        rw [List.rel_of_pairwise_cons hpair (by simp)] at hboth
        cases hboth
    omega
  · rename_i hnone
    rw [List.countP_eq_zero]
    intro k hk hequal
    exact hnone (List.any_eq_true.mpr ⟨k, h.sublist.subset hk, hequal⟩)

theorem tellsApart_equals : Groups.TellsApart Value.equals fun v => v.unkeyable? = none where
  symm := Value.equals_symm
  trans := Value.equals_trans

/-- A tag is counted once for each rule that has it. One that is not equal to itself is a tag of
its own wherever it stands. -/
structure CountsTags (tags : Rule → List Value) (rules : List Rule) (counts : List (Value × Nat)) :
    Prop where
  apart : (counts.map (·.1)).Pairwise fun a b => a.equals b = false
  named : ∀ e ∈ counts, ∃ rule ∈ rules, e.1 ∈ tags rule
  covered : ∀ rule ∈ rules, ∀ t ∈ tags rule, ∃ e ∈ counts, e.1 = t ∨ e.1.equals t = true
  carried : ∀ e ∈ counts, e.1.equals e.1 = true →
    e.2 = rules.countP fun rule => (tags rule).any e.1.equals
  lone : ∀ e ∈ counts, e.1.equals e.1 = false → e.2 = 1

theorem countP_flatMap_kept {rules : List Rule} {tags kept : Rule → List Value}
    (hkeys : ∀ rule ∈ rules, ∀ t ∈ tags rule, t.unkeyable? = none)
    (hkept : ∀ rule ∈ rules, Kept [] (tags rule) (kept rule)) {t : Value}
    (ht : t.unkeyable? = none) :
    (rules.flatMap kept).countP t.equals = rules.countP fun rule => (tags rule).any t.equals := by
  induction rules with
  | nil => rfl
  | cons rule rest ih =>
      obtain ⟨hkey, hkeys⟩ := List.forall_mem_cons.mp hkeys
      obtain ⟨htag, hkept⟩ := List.forall_mem_cons.mp hkept
      rw [List.flatMap_cons, List.countP_append, htag.countP hkey ht, ih hkeys hkept,
        List.countP_cons, Nat.add_comm]

theorem countsTags_countBy {rules : List Rule} {tags kept : Rule → List Value}
    (hkeys : ∀ rule ∈ rules, ∀ t ∈ tags rule, t.unkeyable? = none)
    (hkept : ∀ rule ∈ rules, Kept [] (tags rule) (kept rule)) :
    CountsTags tags rules (countBy Value.equals id (rules.flatMap kept)) := by
  have hall : ∀ t ∈ rules.flatMap kept, ∃ rule ∈ rules, t ∈ tags rule := by
    intro t ht
    obtain ⟨rule, hrule, ht⟩ := List.mem_flatMap.mp ht
    exact ⟨rule, hrule, (hkept rule hrule).sublist.subset ht⟩
  have hkeyed : ∀ t ∈ rules.flatMap kept, t.unkeyable? = none := by
    intro t ht
    obtain ⟨rule, hrule, ht⟩ := hall t ht
    exact hkeys rule hrule t ht
  have hsorts : Groups.Sorts Value.equals id (rules.flatMap kept) _ :=
    Groups.sorts_ofKeyed tellsApart_equals hkeyed
  have hcounts : ∀ e ∈ countBy Value.equals id (rules.flatMap kept), ∃ g ∈ Groups.ofKeyed
      Value.equals ((rules.flatMap kept).map fun t => (id t, t)),
      g.1 = e.1 ∧ g.2.length = e.2 ∧ e.1 ∈ rules.flatMap kept := by
    intro e he
    obtain ⟨g, hg, rfl⟩ := List.mem_map.mp he
    obtain ⟨t, ht, hkey⟩ := hsorts.keys g hg
    exact ⟨g, hg, rfl, rfl, hkey ▸ ht⟩
  refine ⟨?_, ?_, ?_, ?_, ?_⟩
  · simpa [countBy, Groups.counts, Function.comp_def] using hsorts.apart
  · intro e he
    obtain ⟨_, _, _, _, hmem⟩ := hcounts e he
    exact hall e.1 hmem
  · intro rule hrule t ht
    have hgroup : ∀ k ∈ kept rule, ∃ e ∈ countBy Value.equals id (rules.flatMap kept),
        e.1 = k ∨ e.1.equals k = true := by
      intro k hk
      obtain ⟨g, hg, hcovers⟩ := hsorts.covered k (List.mem_flatMap.mpr ⟨rule, hrule, hk⟩)
      exact ⟨(g.1, g.2.length), List.mem_map_of_mem hg, hcovers⟩
    rcases (hkept rule hrule).covered t ht with ⟨s, hs, _⟩ | hin | ⟨k, hk, hequal⟩
    · cases hs
    · exact hgroup t hin
    · obtain ⟨e, he, hcovers⟩ := hgroup k hk
      obtain ⟨_, _, _, _, hmem⟩ := hcounts e he
      have hk' := hkeyed k (List.mem_flatMap.mpr ⟨rule, hrule, hk⟩)
      rcases hcovers with hsame | hsame
      · exact ⟨e, he, Or.inr (hsame ▸ hequal)⟩
      · exact ⟨e, he, Or.inr (Value.equals_trans (hkeyed e.1 hmem) hk' (hkeys rule hrule t ht)
          hsame hequal)⟩
  · intro e he hrefl
    obtain ⟨g, hg, hkey, hsize, hmem⟩ := hcounts e he
    rw [← hkey] at hrefl hmem ⊢
    rw [← hsize, hsorts.group g hg hrefl, ← List.countP_eq_length_filter]
    exact countP_flatMap_kept hkeys hkept (hkeyed g.1 hmem)
  · intro e he hirrefl
    obtain ⟨g, hg, hkey, hsize, _⟩ := hcounts e he
    rw [← hsize, hsorts.alone g hg (hkey ▸ hirrefl)]

end Tags

/-- Renaming keys and members leaves the counts as they are. -/
theorem countBy_map {κ ι α β : Type} [DecidableEq ι] {same : κ → κ → Bool} {f : ι → κ}
    (hsame : ∀ a b, same (f a) (f b) = (a == b)) {key : β → κ} {key' : α → ι} {g : α → β}
    {members : List α} (hkey : ∀ m ∈ members, key (g m) = f (key' m)) :
    countBy same key (members.map g) =
      (Groups.splitBy key' members).counts.map fun e => (f e.1, e.2) := by
  have hmap := Groups.ofKeyed_map hsame g (members.map fun m => (key' m, m))
  have hkeyed : (members.map g).map (fun m => (key m, m)) =
      (members.map fun m => (key' m, m)).map fun e => (f e.1, g e.2) := by
    rw [List.map_map, List.map_map]
    exact List.map_congr_left fun m hm => by simp [hkey m hm]
  rw [countBy, hkeyed, hmap]
  simp [Groups.counts, Groups.splitBy]

section Counting

variable {rules : List Rule} {category author : Rule → String} {severity : Rule → Severity}
  {tags : Rule → List Value}

/-- Texts for category and author, a name for a severity, and tags that can be keys. -/
structure DescribedBy (category author : Rule → String) (severity : Rule → Severity)
    (tags : Rule → List Value) (rule : Rule) : Prop where
  category_eq : rule.category = .text (category rule)
  author_eq : rule.author = .text (author rule)
  severity_eq : rule.severity.toSeverity = .ok (severity rule)
  tags_eq : rule.tags.elements = .ok (tags rule)
  keys : ∀ t ∈ tags rule, t.unkeyable? = none

theorem counts_eq (h : ∀ rule ∈ rules, rule.DescribedBy category author severity tags) :
    ∃ byTag, CountsTags tags rules byTag ∧ counts rules = .ok {
      total := rules.length
      byCategory := (Groups.splitBy category rules).counts.map fun e => (.text e.1, e.2)
      bySeverity := (Groups.splitBy severity rules).counts
      byTag := byTag
      byAuthor := (Groups.splitBy author rules).counts.map fun e => (.text e.1, e.2) } := by
  choose! kept hdistinct hkept using fun rule (hrule : rule ∈ rules) =>
    exists_kept [] (h rule hrule).keys
  refine ⟨_, countsTags_countBy (fun rule hrule => (h rule hrule).keys) hkept, ?_⟩
  let described (rule : Rule) : RuleProfile :=
    ⟨rule.category, severity rule, kept rule, rule.enabledByDefault, rule.author⟩
  have hprofile : ∀ rule ∈ rules, countedProfile rule = .ok (described rule) := by
    intro rule hrule
    have hcategory : rule.category.key = .ok rule.category := by
      rw [(h rule hrule).category_eq]
      rfl
    have hauthor : rule.author.key = .ok rule.author := by
      rw [(h rule hrule).author_eq]
      rfl
    rw [countedProfile, profile, (h rule hrule).severity_eq, (h rule hrule).tags_eq, hcategory,
      hauthor]
    simp only [bind, Except.bind, distinct, hdistinct rule hrule, pure, Except.pure]
    rfl
  have hcategory : countBy Value.equals (·.category) (rules.map described) =
      (Groups.splitBy category rules).counts.map fun e => (.text e.1, e.2) :=
    countBy_map text_equals fun rule hrule => (h rule hrule).category_eq
  have hseverity : countBy (· == ·) (·.severity) (rules.map described) =
      (Groups.splitBy severity rules).counts.map fun e => (e.1, e.2) :=
    countBy_map (f := id) (fun _ _ => rfl) fun _ _ => rfl
  have hauthor : countBy Value.equals (·.author) (rules.map described) =
      (Groups.splitBy author rules).counts.map fun e => (.text e.1, e.2) :=
    countBy_map text_equals fun rule hrule => (h rule hrule).author_eq
  have htags : (rules.map described).flatMap (·.tags) = rules.flatMap kept := List.flatMap_map ..
  rw [List.map_id'' fun _ => rfl] at hseverity
  rw [counts, mapM_eq_ok hprofile]
  simp only [bind, Except.bind, hcategory, hseverity, hauthor, htags]
  rfl

/-- Groups split the rules and counts are the sizes of groups, each in its order. -/
theorem groups_split_and_counts_agree
    (h : ∀ rule ∈ rules, rule.DescribedBy category author severity tags) :
    ∃ (byCategory : Groups String Rule) (bySeverity : Groups Severity Rule)
      (byPriority : Groups Nat Rule) (byAuthor : Groups String Rule) (c : Counts),
      groupByCategory rules = .ok (byCategory.map fun g => (.text g.1, g.2)) ∧
      byCategory.Splits category rules ∧
      (∃ standard : List Category, (standard.Pairwise fun a b => a.priority < b.priority) ∧
        byCategory.map (·.1) = standard.map Category.name ++
          (firstOccurrences (rules.map category)).filter fun n => (Category.ofName? n).isNone) ∧
      groupBySeverity rules = .ok bySeverity ∧
      bySeverity.Splits severity rules ∧
      (bySeverity.map (·.1)).Sublist [.error, .warning, .info] ∧
      groupByPriority rules = .ok byPriority ∧
      byPriority.Splits (fun rule => priorityOf (category rule)) rules ∧
      (byPriority.map (·.1)).Pairwise (· < ·) ∧
      byAuthor.Splits author rules ∧
      counts rules = .ok c ∧
      c.total = rules.length ∧
      c.byCategory.Perm (byCategory.counts.map fun e => (.text e.1, e.2)) ∧
      c.bySeverity.Perm bySeverity.counts ∧
      c.byAuthor.Perm (byAuthor.counts.map fun e => (.text e.1, e.2)) ∧
      (c.byCategory.map (·.2)).sum = c.total ∧
      (c.bySeverity.map (·.2)).sum = c.total ∧
      (c.byAuthor.map (·.2)).sum = c.total ∧
      CountsTags tags rules c.byTag := by
  obtain ⟨byTag, htags, hcounts⟩ := counts_eq h
  have hcategory : ∀ rule ∈ rules, rule.category = .text (category rule) :=
    fun rule hrule => (h rule hrule).category_eq
  have hranked := (Groups.splitBy category rules).mergeSort_perm fun a b =>
    decide (categoryRank (.text a.1) ≤ categoryRank (.text b.1))
  have hsevere : ∀ s : Severity, s ∈ Severity.all.reverse := by
    intro s
    cases s <;> decide
  have hmild : ((Groups.splitBy severity rules).arrange Severity.all.reverse).Perm
      (Groups.splitBy severity rules) :=
    Groups.arrange_perm (by decide) (Groups.splits_splitBy severity rules).nodup fun g _ =>
      hsevere g.1
  have hurgent := (Groups.splitBy (fun rule => priorityOf (category rule)) rules).mergeSort_perm
    fun a b => decide (a.1 ≤ b.1)
  refine ⟨_, _, _, Groups.splitBy author rules, _, groupByCategory_eq hcategory,
    (Groups.splits_splitBy category rules).of_perm hranked, ?_,
    groupBySeverity_eq fun rule hrule => (h rule hrule).severity_eq,
    (Groups.splits_splitBy severity rules).of_perm hmild, ?_,
    groupByPriority_eq hcategory, (Groups.splits_splitBy _ rules).of_perm hurgent, ?_,
    Groups.splits_splitBy _ rules, hcounts, rfl, ?_, ?_, .refl _, ?_, ?_, ?_, htags⟩
  · exact ⟨_, Category.pairwise_byPriority.sublist List.filter_sublist,
      keys_mergeSort_splitBy category rules⟩
  · rw [Groups.keys_arrange]
    exact List.filter_sublist
  · have hnodup := (Groups.splits_splitBy _ rules).of_perm hurgent |>.nodup
    have hsorted := pairwise_mergeSort_rank (·.1)
      (Groups.splitBy (fun rule => priorityOf (category rule)) rules)
    exact (List.pairwise_map.mpr hsorted |>.and hnodup).imp fun h => lt_of_le_of_ne h.1 h.2
  · exact (hranked.symm.map _).map _
  · exact hmild.symm.map _
  · rw [List.map_map]
    exact (Groups.splits_splitBy category rules).sum_counts
  · exact (Groups.splits_splitBy severity rules).sum_counts
  · rw [List.map_map]
    exact (Groups.splits_splitBy author rules).sum_counts

/-- Rules of four categories, two of them custom. One tag is given as a number, as a fraction and
as a truth value. -/
def mixed : List Rule :=
  [layout, injection, { layout with
      category := .text "naming", author := .text "House"
      tags := .tuple [.int 1, .float 1, .bool true] },
    indexing, layout]

theorem mixed_described : ∀ rule ∈ mixed,
    rule.DescribedBy (·.category.display) (·.author.display)
      (·.severity.toSeverity.toOption.getD .info) (·.tags.elements.toOption.getD []) := by
  have hlayout : ∀ t ∈ [Value.text "database"], t.unkeyable? = none :=
    List.forall_mem_singleton.mpr rfl
  rw [mixed, List.forall_mem_cons, List.forall_mem_cons, List.forall_mem_cons,
    List.forall_mem_cons, List.forall_mem_singleton]
  refine ⟨⟨rfl, rfl, rfl, rfl, hlayout⟩, ⟨rfl, rfl, rfl, rfl, ?_⟩, ⟨rfl, rfl, rfl, rfl, ?_⟩,
    ⟨rfl, rfl, rfl, rfl, hlayout⟩, rfl, rfl, rfl, rfl, hlayout⟩
  · exact List.forall_mem_cons.mpr
      ⟨rfl, List.forall_mem_cons.mpr ⟨rfl, List.forall_mem_singleton.mpr rfl⟩⟩
  · exact List.forall_mem_cons.mpr
      ⟨rfl, List.forall_mem_cons.mpr ⟨rfl, List.forall_mem_singleton.mpr rfl⟩⟩

theorem mixed_groups : ∃ (byCategory : Groups String Rule) (c : Counts),
    groupByCategory mixed = .ok (byCategory.map fun g => (.text g.1, g.2)) ∧
    byCategory.Splits (·.category.display) mixed ∧
    (∃ standard : List Category, (standard.Pairwise fun a b => a.priority < b.priority) ∧
      byCategory.map (·.1) = standard.map Category.name ++ ["house_rules", "naming"]) ∧
    counts mixed = .ok c ∧
    (c.byCategory.map (·.2)).sum = 5 ∧
    c.byTag.map (fun e => (e.1.display, e.2)) = [("database", 4), ("sql", 1), ("1", 1)] := by
  obtain ⟨byCategory, _, _, _, c, hgroups, hsplits, horder, _, _, _, _, _, _, _, hcounts, htotal,
    _, _, _, hsum, _⟩ := groups_split_and_counts_agree mixed_described
  have hcustom : (firstOccurrences (mixed.map (·.category.display))).filter
      (fun n => (Category.ofName? n).isNone) = ["house_rules", "naming"] := by decide +kernel
  have htags : (counts mixed).toOption.map
      (fun c => c.byTag.map fun e => (e.1.display, e.2)) =
        some [("database", 4), ("sql", 1), ("1", 1)] := by decide +kernel
  rw [hcustom] at horder
  rw [hcounts] at htags
  exact ⟨byCategory, c, hgroups, hsplits, horder, hcounts, hsum.trans htotal,
    Option.some.inj htags⟩

end Counting

end Rule

end PhpAudit
