import Mathlib.Data.List.Flatten
import PageTemplates.Compile.Rework
import PageTemplates.Proofs.Markup.Places

/-!
# Elements that are replaced by code

While a document is compiled, the elements that are still to be replaced are fewer by those
that were replaced, and what is added to the document holds none. The main facts:

* `targetsTo`: the elements that are replaced at and below a node, outermost ones only;
* `Kept`: old nodes keep what they are and their children, but for those that are gone;
* `Kept.targetsTo_eq`: so they keep their elements, but for those that are gone;
* `head?_targetsTo`: the first of the elements is the first one in document order.
-/

namespace PageTemplates.Markup.Forest

open Relation (ReflTransGen TransGen)

variable {f g k : Forest} {c d i m n : Nat} {gone gone' : List Nat}

/-- The outermost elements at and below a node that are replaced by code, at most `depth`
levels of it. -/
def targetsTo (f : Forest) : Nat → Nat → List Nat
  | 0, _ => []
  | depth + 1, i => if f.isTarget i then [i] else (f.childrenOf i).flatMap (f.targetsTo depth)

/-! ## Which ones they are -/

theorem targetsTo_of_isTarget (target : f.isTarget i) (depth : Nat) :
    f.targetsTo (depth + 1) i = [i] := by
  rw [targetsTo, if_pos target]

theorem targetsTo_of_not_isTarget (other : f.isTarget i = false) (depth : Nat) :
    f.targetsTo (depth + 1) i = (f.childrenOf i).flatMap (f.targetsTo depth) := by
  rw [targetsTo, if_neg (Bool.eq_false_iff.mp other)]

theorem isTarget_of_mem {depth : Nat} (mem : n ∈ f.targetsTo depth i) : f.isTarget n := by
  induction depth generalizing i with
  | zero => cases mem
  | succ depth ih =>
      rw [targetsTo] at mem
      split at mem
      · rename_i target
        rwa [List.mem_singleton.mp mem]
      · obtain ⟨c, -, mem⟩ := List.mem_flatMap.mp mem
        exact ih mem

theorem targetsTo_sublist (h : f.Sound) (depth i : Nat) :
    (f.targetsTo depth i).Sublist (f.walk i) := by
  induction depth generalizing i with
  | zero => exact List.nil_sublist _
  | succ depth ih =>
      rw [targetsTo, walk_eq h]
      split
      · exact (List.nil_sublist _).cons_cons i
      · exact (List.Sublist.flatMap_right _ fun c _ => ih c).cons i

theorem nodup_targetsTo (h : f.Sound) (depth i : Nat) : (f.targetsTo depth i).Nodup :=
  (targetsTo_sublist h depth i).nodup (nodup_walk h i)

theorem below_of_mem_targetsTo (h : f.Sound) {depth : Nat} (mem : n ∈ f.targetsTo depth i) :
    ReflTransGen f.HasParent n i :=
  (mem_walk_iff h).mp ((targetsTo_sublist h depth i).subset mem)

theorem walkTo_of_size_le (h : f.Sound) {depth : Nat} (enough : f.cells.size ≤ depth) :
    f.walkTo depth n = f.walk n := by
  induction enough with
  | refl => rfl
  | @step depth enough ih =>
      have ends : ¬ f.Reaches (depth + 1) n := fun reaches =>
        Nat.not_le_of_lt (Nat.lt_succ_of_le enough) (reaches.le_size h)
      rw [walkTo_succ ends, ih]

/-- The first of the elements is the first one in document order. -/
theorem head?_targetsTo (h : f.Sound) {depth : Nat} (enough : f.cells.size ≤ depth) :
    (f.targetsTo (depth + 1) i).head? = (f.walk i).find? f.isTarget := by
  have each (depth i : Nat) :
      (f.targetsTo (depth + 1) i).head? = (f.walkTo depth i).find? f.isTarget := by
    induction depth generalizing i with
    | zero =>
        rw [targetsTo, walkTo]
        cases target : f.isTarget i with
        | true => simp [target]
        | false => simp [target, targetsTo]
    | succ depth ih =>
        rw [targetsTo, walkTo]
        cases target : f.isTarget i with
        | true => rw [if_pos rfl, List.find?_cons_of_pos target, List.head?_cons]
        | false =>
            rw [if_neg Bool.false_ne_true, List.find?_cons_of_neg (Bool.eq_false_iff.mp target),
              List.head?_flatMap, List.find?_flatMap]
            simp only [ih]
  rw [each, walkTo_of_size_le h enough]

/-- Without such an element below a node there is none. -/
theorem targetsTo_of_none (h : f.Sound) (none : (f.walk i).find? f.isTarget = none) (depth : Nat) :
    f.targetsTo depth i = [] := by
  rw [List.find?_eq_none] at none
  refine List.eq_nil_iff_forall_not_mem.mpr fun n mem => ?_
  exact none n ((targetsTo_sublist h depth i).subset mem) (isTarget_of_mem mem)

/-- Levels that are not there hold nothing that is to be replaced. -/
theorem targetsTo_of_ends (h : f.Sound) {depth : Nat} (deep : f.cells.size + 1 ≤ depth)
    (i : Nat) :
    f.targetsTo depth i = f.targetsTo (f.cells.size + 1) i := by
  have more (k i : Nat) (ends : ¬ f.Reaches k i) : f.targetsTo (k + 1) i = f.targetsTo k i := by
    induction k generalizing i with
    | zero => exact absurd trivial ends
    | succ k ih =>
        rw [targetsTo, targetsTo]
        split
        · rfl
        · exact List.flatMap_congr fun c child => ih c fun down => ends ⟨c, child, down⟩
  induction deep with
  | refl => rfl
  | @step depth deep ih =>
      have ends : ¬ f.Reaches depth i := fun down => Nat.not_lt_of_le (down.le_size h) deep
      rw [more depth i ends, ih]

/-! ## What is left of them -/

/-- Old nodes keep what they are. They also keep their children, but for those in `gone`, and
new children that may have come hold nothing that is to be replaced. -/
structure Kept (f : Forest) (gone : List Nat) (g : Forest) : Prop where
  size : f.cells.size ≤ g.cells.size
  content : ∀ m < f.cells.size, (g.cell m).content = (f.cell m).content
  children : ∀ m < f.cells.size,
    (g.childrenOf m).filter (· < f.cells.size) = (f.childrenOf m).filter (· ∉ gone)
  fresh : ∀ m < f.cells.size, ∀ c ∈ g.childrenOf m, f.cells.size ≤ c → ∀ depth,
    g.targetsTo depth c = []

theorem isTarget_of_content (content : (g.cell n).content = (f.cell n).content) :
    g.isTarget n = f.isTarget n := hasTag_of_content content

theorem lt_of_child (h : f.Sound) (child : c ∈ f.childrenOf m) : c < f.cells.size :=
  lt_of_parentOf (h.hasParent child)

theorem Kept.refl (h : f.Sound) : f.Kept [] f where
  size := Nat.le_refl _
  content _ _ := rfl
  children m _ := by
    rw [List.filter_eq_self.mpr fun c child => decide_eq_true (lt_of_child h child)]
    simp
  fresh m _ c child new := absurd (lt_of_child h child) (Nat.not_lt_of_le new)

/-- What is to be replaced is what was, but for those that are gone. -/
theorem Kept.targetsTo_eq (kept : f.Kept gone g) (h : f.Sound)
    (targets : ∀ t ∈ gone, f.isTarget t) (old : m < f.cells.size) (stays : m ∉ gone) (depth : Nat) :
    g.targetsTo depth m = (f.targetsTo depth m).filter (· ∉ gone) := by
  induction depth generalizing m with
  | zero => rfl
  | succ depth ih =>
      have same := isTarget_of_content (kept.content m old)
      cases target : f.isTarget m with
      | true =>
          rw [targetsTo_of_isTarget target, targetsTo_of_isTarget (same.trans target)]
          simp [stays]
      | false =>
          rw [targetsTo_of_not_isTarget target, targetsTo_of_not_isTarget (same.trans target),
            List.filter_flatMap]
          -- new children have nothing to be replaced, and what is gone is itself left out
          have olds : ((g.childrenOf m).filter (· < f.cells.size)).flatMap (g.targetsTo depth) =
              (g.childrenOf m).flatMap (g.targetsTo depth) :=
            flatMap_filter fun c child new =>
              kept.fresh m old c child (Nat.le_of_not_lt (of_decide_eq_false new)) depth
          have left : ((f.childrenOf m).filter (· ∉ gone)).flatMap
                (fun c => (f.targetsTo depth c).filter (· ∉ gone)) =
              (f.childrenOf m).flatMap fun c => (f.targetsTo depth c).filter (· ∉ gone) :=
            flatMap_filter fun c _ mem => by
              have mem : c ∈ gone := by simpa using mem
              cases depth with
              | zero => rfl
              | succ depth =>
                  rw [targetsTo_of_isTarget (targets c mem)]
                  simp [mem]
          rw [← olds, kept.children m old, ← left]
          refine List.flatMap_congr fun c mem => ?_
          obtain ⟨child, stays⟩ := List.mem_filter.mp mem
          exact ih (lt_of_child h child) (of_decide_eq_true stays)

theorem Kept.trans (kept : f.Kept gone g) (next : g.Kept gone' k) (h : g.Sound)
    (targets : ∀ t ∈ gone', g.isTarget t) : f.Kept (gone ++ gone') k where
  size := Nat.le_trans kept.size next.size
  content m old := by
    rw [next.content m (Nat.lt_of_lt_of_le old kept.size), kept.content m old]
  children m old := by
    have within : ((k.childrenOf m).filter (· < g.cells.size)).filter (· < f.cells.size) =
        (k.childrenOf m).filter (· < f.cells.size) := by
      rw [List.filter_filter]
      refine List.filter_congr fun c _ => ?_
      have := kept.size
      by_cases new : c < f.cells.size
      · simp [new, Nat.lt_of_lt_of_le new this]
      · simp [new]
    rw [← within, next.children m (Nat.lt_of_lt_of_le old kept.size), List.filter_filter]
    have swap : (fun c => decide (c < f.cells.size) && decide (c ∉ gone')) =
        fun c => decide (c ∉ gone') && decide (c < f.cells.size) :=
      funext fun c => Bool.and_comm _ _
    rw [swap, ← List.filter_filter, kept.children m old, List.filter_filter]
    refine List.filter_congr fun c _ => ?_
    simp [Bool.and_comm]
  fresh m old c child new depth := by
    have old' := Nat.lt_of_lt_of_le old kept.size
    by_cases new' : g.cells.size ≤ c
    · exact next.fresh m old' c child new' depth
    · -- it was new before, and is not one of those that are gone since
      have mem : c ∈ (k.childrenOf m).filter (· < g.cells.size) :=
        List.mem_filter.mpr ⟨child, decide_eq_true (Nat.lt_of_not_le new')⟩
      rw [next.children m old', List.mem_filter, decide_eq_true_eq] at mem
      rw [next.targetsTo_eq h targets (Nat.lt_of_not_le new') mem.2,
        kept.fresh m old c mem.1 new depth]
      rfl

end PageTemplates.Markup.Forest
