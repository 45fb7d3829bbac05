import PageTemplates.Markup.Moving
import PageTemplates.Proofs.Markup.Walked

/-!
# Nodes that become last children

Nodes below one node are appended to it, one after the other. The main facts:

* `Gathered`: the forest that comes of it, said of its links; `gathered_append` is one
  step and `outcome_gather` the run;
* `Gathered.sound`: links stay consistent and make no cycle;
* `Gathered.below_iff`, `Gathered.outside`: what stays below which node, and what does
  not change at all;
* `Gathered.framed`, `Gathered.order`: the walks through both forests.
-/

namespace PageTemplates.Markup

/-- A node without its links. -/
def Cell.content (c : Cell) : Node × Tag := (c.label, c.tag)

namespace Forest

open Relation (ReflTransGen TransGen)

variable {f g : Forest} {n m p q : Nat} {ns : List Nat}

/-- The nodes at or below some nodes. -/
def walkAll (f : Forest) (ns : List Nat) : List Nat := ns.flatMap f.walk

/-! ## One step -/

theorem content_update {change : Cell → Cell} (keeps : ∀ c, (change c).content = c.content) :
    ((f.update n change).cell m).content = (f.cell m).content := by
  rw [cell_update]
  split
  · exact keeps _
  · rfl

theorem content_setParent (f : Forest) (n m : Nat) (q : Option Nat) :
    ((f.setParent n q).cell m).content = (f.cell m).content := content_update fun _ => rfl

theorem content_changeChildren (f : Forest) (p m : Nat) (change : List Nat → List Nat) :
    ((f.changeChildren p change).cell m).content = (f.cell m).content := content_update fun _ => rfl

theorem content_freed (f : Forest) (n m : Nat) :
    ((f.freed n).cell m).content = (f.cell m).content := by
  unfold freed
  split
  · rw [takenFrom, content_setParent, content_changeChildren]
  · rfl

theorem content_placed (f : Forest) (p n m : Nat) (change : List Nat → List Nat) :
    ((f.placed p n change).cell m).content = (f.cell m).content := by
  rw [placed, content_changeChildren, content_setParent]

theorem childrenOf_freed (h : f.Consistent) :
    (f.freed n).childrenOf m = (f.childrenOf m).filter (· ≠ n) := by
  have erased : (f.freed n).childrenOf m = (f.childrenOf m).erase n := by
    unfold freed
    split
    · rename_i q parent
      rw [childrenOf_takenFrom]
      split
      · rfl
      · rename_i other
        refine (List.erase_of_not_mem fun child => other ?_).symm
        exact hasParent_unique parent ((h.linked m n).mp child)
    · rename_i root
      refine (List.erase_of_not_mem fun child => ?_).symm
      rw [h.linked, root] at child
      cases child
  rw [erased, (h.once m).erase_eq_filter]
  simp only [bne, beq_eq_decide, decide_not]

/-- The nodes `ns` have become the last children of `p`. -/
structure Gathered (f : Forest) (p : Nat) (ns : List Nat) (g : Forest) : Prop where
  size : g.cells.size = f.cells.size
  content : ∀ m, (g.cell m).content = (f.cell m).content
  parent : ∀ m, g.parentOf m = if m ∈ ns then some p else f.parentOf m
  last : g.childrenOf p = (f.childrenOf p).filter (· ∉ ns) ++ ns
  others : ∀ m, m ≠ p → g.childrenOf m = (f.childrenOf m).filter (· ∉ ns)

theorem Gathered.refl (f : Forest) (p : Nat) : f.Gathered p [] f where
  size := rfl
  content _ := rfl
  parent _ := rfl
  last := by simp
  others := by simp

/-- Another node becomes the last child. -/
theorem gathered_append (done : f.Gathered p ns g) (h : g.Consistent) (hn : n < g.cells.size)
    (hp : p < g.cells.size) (new : n ∉ ns) :
    f.Gathered p (ns ++ [n]) ((g.freed n).placed p n (· ++ [n])) := by
  have hn' : n < (g.freed n).cells.size := by rwa [size_freed]
  have hp' : p < (g.freed n).cells.size := by rwa [size_freed]
  have both (l : List Nat) : (l.filter (· ∉ ns)).filter (· ≠ n) = l.filter (· ∉ ns ++ [n]) := by
    rw [List.filter_filter]
    congr 1
    funext m
    simp [and_comm]
  refine ⟨?_, fun m => ?_, fun m => ?_, ?_, fun m other => ?_⟩
  · rw [size_placed, size_freed, done.size]
  · rw [content_placed, content_freed, done.content]
  · rw [parentOf_placed _ _ hn', parentOf_freed, done.parent]
    by_cases same : n = m
    · subst same
      simp
    · simp [same, Ne.symm same]
  · have old : ns.filter (· ≠ n) = ns :=
      List.filter_eq_self.mpr fun m mem => decide_eq_true fun same => new (same ▸ mem)
    rw [childrenOf_placed _ _ _ hp', if_pos rfl, childrenOf_freed h, done.last,
      List.filter_append, both, old, List.append_assoc]
  · rw [childrenOf_placed _ _ _ hp', if_neg (Ne.symm other), childrenOf_freed h,
      done.others m other, both]

/-! ## Links -/

theorem cell_congr (content : (g.cell n).content = (f.cell n).content)
    (parent : g.parentOf n = f.parentOf n) (children : g.childrenOf n = f.childrenOf n) :
    g.cell n = f.cell n := by
  unfold Cell.content at content
  unfold parentOf at parent
  unfold childrenOf at children
  cases hg : g.cell n
  cases hf : f.cell n
  simp_all

section

variable (h : f.Sound) (below : ∀ n ∈ ns, TransGen f.HasParent n p)
  (moved : f.Gathered p ns g)

include h below in
/-- What is at or above `p` is not moved. -/
theorem not_mem_of_above (above : ReflTransGen f.HasParent p q) : q ∉ ns := fun mem =>
  h.acyclic q ((below q mem).trans_left above)

include below moved

/-- The parent that a node gets was above it before. -/
theorem Gathered.above_of_hasParent (parent : g.HasParent m q) : TransGen f.HasParent m q := by
  rw [HasParent, moved.parent] at parent
  split at parent
  · rename_i mem
    cases parent
    exact below m mem
  · exact .single parent

theorem Gathered.above (above : TransGen g.HasParent m q) : TransGen f.HasParent m q := by
  induction above with
  | single parent => exact moved.above_of_hasParent below parent
  | tail _ parent ih => exact ih.trans (moved.above_of_hasParent below parent)

theorem Gathered.atOrAbove (above : ReflTransGen g.HasParent m q) :
    ReflTransGen f.HasParent m q := by
  rcases Relation.reflTransGen_iff_eq_or_transGen.mp above with rfl | strictly
  · exact .refl
  · exact (moved.above below strictly).to_reflTransGen

include h

/-- Links are consistent and make no cycle. -/
theorem Gathered.sound (nodup : ns.Nodup) : g.Sound := by
  have old (m q : Nat) : m ∈ (f.childrenOf q).filter (· ∉ ns) ↔ m ∉ ns ∧ f.parentOf m = some q := by
    rw [List.mem_filter, decide_eq_true_eq, h.consistent.linked, and_comm]
  refine ⟨⟨fun q m => ?_, fun q => ?_⟩, fun m cycle => h.acyclic m (moved.above below cycle)⟩
  · rw [moved.parent]
    by_cases mem : m ∈ ns
    · rw [if_pos mem, Option.some_inj]
      by_cases here : q = p
      · subst here
        rw [moved.last]
        exact iff_of_true (List.mem_append_right _ mem) rfl
      · rw [moved.others q here, old]
        exact iff_of_false (fun kept => kept.1 mem) (Ne.symm here)
    · rw [if_neg mem]
      by_cases here : q = p
      · subst here
        rw [moved.last, List.mem_append, old, or_iff_left mem, and_iff_right mem]
      · rw [moved.others q here, old, and_iff_right mem]
  · by_cases here : q = p
    · subst here
      rw [moved.last]
      refine ((h.consistent.once q).filter _).append nodup fun m kept mem => ?_
      exact ((old m q).mp kept).1 mem
    · rw [moved.others q here]
      exact (h.consistent.once q).filter _

/-- What is above `p` stays above it. -/
theorem Gathered.above_last (above : ReflTransGen f.HasParent p q) :
    ReflTransGen g.HasParent p q := by
  induction above with
  | refl => exact .refl
  | @tail a b up parent ih =>
      refine ih.tail ?_
      rw [HasParent, moved.parent, if_neg (not_mem_of_above h below up)]
      exact parent

/-- What is below `p` or a node above it stays below. -/
theorem Gathered.below_iff (above : ReflTransGen f.HasParent p q) :
    ReflTransGen g.HasParent m q ↔ ReflTransGen f.HasParent m q := by
  refine ⟨moved.atOrAbove below, fun chain => ?_⟩
  -- a moved node on the way up now has `p` above it, and any other the parent it had
  induction chain using ReflTransGen.head_induction_on with
  | refl => exact .refl
  | @head a b parent _ ih =>
      by_cases mem : a ∈ ns
      · have last : g.HasParent a p := by rw [HasParent, moved.parent, if_pos mem]
        exact .head last (moved.above_last h below above)
      · have same : g.HasParent a b := by rwa [HasParent, moved.parent, if_neg mem]
        exact .head same ih

/-- Only nodes at or below `p` change. -/
theorem Gathered.outside (apart : ¬ ReflTransGen f.HasParent m p) : g.cell m = f.cell m := by
  have other : m ≠ p := fun same => apart (same ▸ .refl)
  refine cell_congr (moved.content m) ?_ ?_
  · rw [moved.parent, if_neg fun mem => apart (below m mem).to_reflTransGen]
  · rw [moved.others m other]
    refine List.filter_eq_self.mpr fun n child => decide_eq_true fun mem => apart ?_
    obtain ⟨q, parent, rest⟩ := TransGen.head'_iff.mp (below n mem)
    obtain rfl := hasParent_unique (h.hasParent child) parent
    exact rest

/-! ## Walks -/

omit h below moved in
theorem filter_not_mem_eq_nil {l inside : List Nat} (sub : ∀ m ∈ l, m ∈ inside) :
    l.filter (· ∉ inside) = [] :=
  List.filter_eq_nil_iff.mpr fun m mem => by simpa using sub m mem

omit h below moved in
/-- What contributes nothing can be left out. -/
theorem flatMap_filter {l : List Nat} {P : Nat → Bool} {part : Nat → List Nat}
    (nil : ∀ c ∈ l, P c = false → part c = []) : (l.filter P).flatMap part = l.flatMap part := by
  induction l with
  | nil => rfl
  | cons c l ih =>
      have rest := ih fun d mem => nil d (List.mem_cons_of_mem _ mem)
      cases kept : P c with
      | true => rw [List.filter_cons_of_pos kept, List.flatMap_cons, List.flatMap_cons, rest]
      | false =>
          rw [List.filter_cons_of_neg (Bool.eq_false_iff.mp kept), List.flatMap_cons, rest,
            nil c List.mem_cons_self kept, List.nil_append]

/-- A node above `p` does not change. -/
theorem Gathered.cell_above (above : TransGen f.HasParent p q) : g.cell q = f.cell q :=
  moved.outside h below fun chain => h.acyclic p (above.trans_left chain)

/-- Nor does what is at or below a child of it that `p` is not below. -/
theorem Gathered.cell_beside {c : Nat} (above : TransGen f.HasParent p q) (child : f.HasParent c q)
    (absent : ¬ ReflTransGen f.HasParent p c) (chain : ReflTransGen f.HasParent m c) :
    g.cell m = f.cell m := by
  have under : ¬ ReflTransGen f.HasParent c p := by
    intro chain
    rcases chain.cases_head with rfl | ⟨q', parent, rest⟩
    · exact absent .refl
    · obtain rfl := hasParent_unique child parent
      exact h.acyclic p (above.trans_left rest)
  exact moved.outside h below fun within => (comparable chain within).elim under absent

/-- Around the walk through `p`, the walk from a node above it stays the same. -/
theorem Gathered.framed (nodup : ns.Nodup) (above : ReflTransGen f.HasParent p q) :
    ∃ front back, f.walk q = front ++ f.walk p ++ back ∧
      g.walk q = front ++ g.walk p ++ back := by
  have sound := moved.sound h below nodup
  -- one node up at a time: the walks of the other children come before and behind
  induction above with
  | refl => exact ⟨[], [], by simp⟩
  | @tail a b up parent ih =>
      obtain ⟨front, back, old, new⟩ := ih
      have above : TransGen f.HasParent p b := TransGen.tail' up parent
      have children := childrenOf_of_cell (moved.cell_above h below above)
      obtain ⟨before, after, split⟩ :=
        List.append_of_mem (h.child parent)
      have beside : ∀ c ∈ f.childrenOf b, c ≠ a → g.walk c = f.walk c := by
        intro c child other
        have parent' := h.hasParent child
        have absent := siblings_apart h parent parent' (Ne.symm other) up
        exact walk_congr h sound fun m => moved.cell_beside h below above parent' absent
      obtain ⟨first, last⟩ := h.beside split beside
      have firsts : before.flatMap g.walk = before.flatMap f.walk := List.flatMap_congr first
      have lasts : after.flatMap g.walk = after.flatMap f.walk := List.flatMap_congr last
      refine ⟨b :: before.flatMap f.walk ++ front, back ++ after.flatMap f.walk, ?_, ?_⟩
      · rw [walk_eq h, split]
        simp [old]
      · rw [walk_eq sound, children, split]
        simp [new, firsts, lasts]

/-- The nodes below `p` or one above it stay the same. -/
theorem Gathered.perm_walk (nodup : ns.Nodup) (above : ReflTransGen f.HasParent p q) :
    (g.walk q).Perm (f.walk q) := by
  have sound := moved.sound h below nodup
  refine (List.perm_ext_iff_of_nodup (nodup_walk sound q) (nodup_walk h q)).mpr fun m => ?_
  rw [mem_walk_iff sound, mem_walk_iff h, moved.below_iff h below above]

/-- What is below a moved node was below one before. -/
theorem Gathered.inside (nodup : ns.Nodup) {c : Nat} (mem : c ∈ ns) :
    ∀ m ∈ g.walk c, m ∈ f.walkAll ns := by
  intro m visited
  have chain := (mem_walk_iff (moved.sound h below nodup)).mp visited
  induction chain using ReflTransGen.head_induction_on with
  | refl => exact List.mem_flatMap.mpr ⟨c, mem, mem_walk_self h c⟩
  | @head a b parent rest ih =>
      by_cases here : a ∈ ns
      · exact List.mem_flatMap.mpr ⟨a, here, mem_walk_self h a⟩
      · obtain ⟨n, hn, mem'⟩ := List.mem_flatMap.mp
          (ih ((mem_walk_iff (moved.sound h below nodup)).mpr rest))
        rw [HasParent, moved.parent, if_neg here] at parent
        exact List.mem_flatMap.mpr
          ⟨n, hn, (mem_walk_iff h).mpr (.head parent ((mem_walk_iff h).mp mem'))⟩

/-- Nodes that are neither moved nor below a moved one keep their order. -/
theorem Gathered.order (nodup : ns.Nodup) (stays : q ∉ f.walkAll ns) :
    (g.walk q).filter (· ∉ f.walkAll ns) = (f.walk q).filter (· ∉ f.walkAll ns) := by
  have sound := moved.sound h below nodup
  -- what is at or below a moved node is left out of both walks
  have gone : ∀ c ∈ ns, (f.walk c).filter (· ∉ f.walkAll ns) = [] := fun c mem =>
    filter_not_mem_eq_nil fun m visited => List.mem_flatMap.mpr ⟨c, mem, visited⟩
  have left : ∀ c ∈ ns, (g.walk c).filter (· ∉ f.walkAll ns) = [] := fun c mem =>
    filter_not_mem_eq_nil (moved.inside h below nodup mem)
  induction q using h.downward with
  | step q ih =>
      have kept : ∀ c ∈ f.childrenOf q, c ∉ ns → c ∉ f.walkAll ns := by
        intro c child other inside
        obtain ⟨n, mem, visited⟩ := List.mem_flatMap.mp inside
        rcases ReflTransGen.cases_head ((mem_walk_iff h).mp visited) with rfl | ⟨q', parent, rest⟩
        · exact other mem
        · obtain rfl := hasParent_unique (h.hasParent child) parent
          exact stays (List.mem_flatMap.mpr ⟨n, mem, (mem_walk_iff h).mpr rest⟩)
      have olds : ((f.childrenOf q).filter (· ∉ ns)).flatMap
            (fun c => (g.walk c).filter (· ∉ f.walkAll ns)) =
          (f.childrenOf q).flatMap fun c => (f.walk c).filter (· ∉ f.walkAll ns) := by
        rw [← flatMap_filter (P := (· ∉ ns)) fun c _ mem => gone c (by simpa using mem)]
        refine List.flatMap_congr fun c mem => ?_
        obtain ⟨child, other⟩ := List.mem_filter.mp mem
        exact ih c child (kept c child (of_decide_eq_true other))
      rw [walk_eq sound, walk_eq h, List.filter_cons, List.filter_cons,
        if_pos (decide_eq_true stays), if_pos (decide_eq_true stays), List.filter_flatMap,
        List.filter_flatMap]
      congr 1
      by_cases here : q = p
      · subst here
        rw [moved.last, List.flatMap_append, olds, List.flatMap_eq_nil_iff.mpr left,
          List.append_nil]
      · rw [moved.others q here, olds]

end

end Forest

end PageTemplates.Markup
