import Mathlib.Data.List.Dedup
import Mathlib.Data.List.InsertIdx
import Mathlib.Logic.Relation
import PageTemplates.Markup.Forest
import PageTemplates.Proofs.Outcome

/-!
# Links between nodes

Nodes and their parents know each other. A call that moves a node changes the node, the
parent it had and the parent it gets. The main facts:

* `Consistent`: the children of a node are those that have it as their parent, each once;
* `takenFrom`, `placed`: the two changes that calls are made of;
* `Consistent.takenFrom`, `Consistent.placed`, `Acyclic.placed`: what the changes keep;
* `outcome_remove`, `outcome_append`, `outcome_insert`: what each call does in a forest with
  consistent links, and when it is refused;
* `addTree_sound`: the nodes of trees have consistent links and make no cycle.
-/

namespace PageTemplates.Markup

namespace Forest

def parentOf (f : Forest) (n : Nat) : Option Nat := (f.cell n).parent

/-- The children of a node are those that have it as their parent, and each is there
once. -/
structure Consistent (f : Forest) : Prop where
  linked : ∀ p n, n ∈ f.childrenOf p ↔ f.parentOf n = some p
  once : ∀ p, (f.childrenOf p).Nodup

/-- A node has another one as its parent. -/
def HasParent (f : Forest) (n p : Nat) : Prop := f.parentOf n = some p

/-- No node is its own ancestor. -/
def Acyclic (f : Forest) : Prop := ∀ n, ¬ Relation.TransGen f.HasParent n n

/-- Consistent links without a cycle. -/
structure Sound (f : Forest) : Prop where
  consistent : f.Consistent
  acyclic : f.Acyclic

/-- Every node has the same parent and the same children in another forest. -/
def SameLinks (f g : Forest) : Prop :=
  ∀ n, g.parentOf n = f.parentOf n ∧ g.childrenOf n = f.childrenOf n

/-- Gives a node another parent. -/
def setParent (f : Forest) (n : Nat) (p : Option Nat) : Forest :=
  f.update n fun c => { c with parent := p }

/-- Changes the children of a node. -/
def changeChildren (f : Forest) (p : Nat) (change : List Nat → List Nat) : Forest :=
  f.update p fun c => { c with children := change c.children }

/-- A node is taken from among the children of another. -/
def takenFrom (f : Forest) (p n : Nat) : Forest :=
  (f.changeChildren p (·.erase n)).setParent n none

/-- A node is taken from whatever parent it has. -/
def freed (f : Forest) (n : Nat) : Forest :=
  match f.parentOf n with
  | some p => f.takenFrom p n
  | none => f

/-- A node is put among the children of another. -/
def placed (f : Forest) (p n : Nat) (change : List Nat → List Nat) : Forest :=
  (f.setParent n (some p)).changeChildren p change

/-- The forest with another node, which has no links. -/
def withCell (f : Forest) (label : Node) : Forest :=
  { cells := f.cells.push { label, tag := label.tag } }

/-! ## The links after a change -/

section

variable {f : Forest} {n m p q : Nat} {change : List Nat → List Nat}

theorem cell_update (f : Forest) (n m : Nat) (g : Cell → Cell) :
    (f.update n g).cell m = if n = m ∧ m < f.cells.size then g (f.cell m) else f.cell m := by
  unfold update cell
  simp only [Array.getD_eq_getD_getElem?, Array.getElem?_modify]
  by_cases here : m < f.cells.size
  · by_cases same : n = m <;> simp [here, same]
  · simp [here]

@[simp] theorem size_update (f : Forest) (n : Nat) (g : Cell → Cell) :
    (f.update n g).cells.size = f.cells.size := Array.size_modify

/-- Only what a change makes of the node itself matters. -/
theorem update_congr {g g' : Cell → Cell} (same : g (f.cell n) = g' (f.cell n)) :
    f.update n g = f.update n g' := by
  unfold update
  congr 1
  refine Array.ext (by simp) fun i hi _ => ?_
  rw [Array.getElem_modify, Array.getElem_modify]
  split
  · rename_i here
    subst here
    rw [Array.size_modify] at hi
    simpa [cell, hi] using same
  · rfl

theorem cell_of_size_le (h : f.cells.size ≤ n) : f.cell n = default := by
  unfold cell
  rw [Array.getD_eq_getD_getElem?, Array.getElem?_eq_none h]
  rfl

theorem lt_of_parentOf (h : f.parentOf n = some p) : n < f.cells.size := by
  by_contra outside
  rw [parentOf, cell_of_size_le (Nat.le_of_not_lt outside)] at h
  cases h

theorem lt_of_mem_childrenOf (h : n ∈ f.childrenOf p) : p < f.cells.size := by
  by_contra outside
  rw [childrenOf, cell_of_size_le (Nat.le_of_not_lt outside)] at h
  cases h

theorem parentOf_setParent (f : Forest) (n m : Nat) (p : Option Nat) :
    (f.setParent n p).parentOf m =
      if n = m ∧ m < f.cells.size then p else f.parentOf m := by
  rw [setParent, parentOf, cell_update]
  split <;> rfl

@[simp] theorem childrenOf_setParent (f : Forest) (n m : Nat) (p : Option Nat) :
    (f.setParent n p).childrenOf m = f.childrenOf m := by
  rw [setParent, childrenOf, cell_update]
  split <;> rfl

@[simp] theorem parentOf_changeChildren (f : Forest) (p m : Nat) (change : List Nat → List Nat) :
    (f.changeChildren p change).parentOf m = f.parentOf m := by
  rw [changeChildren, parentOf, cell_update]
  split <;> rfl

theorem childrenOf_changeChildren (f : Forest) (p m : Nat) (change : List Nat → List Nat) :
    (f.changeChildren p change).childrenOf m =
      if p = m ∧ m < f.cells.size then change (f.childrenOf m) else f.childrenOf m := by
  rw [changeChildren, childrenOf, cell_update]
  split <;> rfl

@[simp] theorem size_takenFrom (f : Forest) (p n : Nat) :
    (f.takenFrom p n).cells.size = f.cells.size := by
  rw [takenFrom, setParent, size_update, changeChildren, size_update]

@[simp] theorem size_freed (f : Forest) (n : Nat) : (f.freed n).cells.size = f.cells.size := by
  unfold freed
  split
  · exact size_takenFrom f _ n
  · rfl

@[simp] theorem size_placed (f : Forest) (p n : Nat) (change : List Nat → List Nat) :
    (f.placed p n change).cells.size = f.cells.size := by
  rw [placed, changeChildren, size_update, setParent, size_update]

theorem parentOf_takenFrom (f : Forest) (p n m : Nat) :
    (f.takenFrom p n).parentOf m = if n = m then none else f.parentOf m := by
  rw [takenFrom, parentOf_setParent, parentOf_changeChildren]
  by_cases same : n = m
  · rw [if_pos same]
    split
    · rfl
    · rename_i outside
      cases parent : f.parentOf m with
      | none => rfl
      | some q =>
          refine absurd ⟨same, ?_⟩ outside
          rw [changeChildren, size_update]
          exact lt_of_parentOf parent
  · rw [if_neg same, if_neg fun both => same both.1]

theorem childrenOf_takenFrom (f : Forest) (p n m : Nat) :
    (f.takenFrom p n).childrenOf m =
      if p = m then (f.childrenOf m).erase n else f.childrenOf m := by
  rw [takenFrom, childrenOf_setParent, childrenOf_changeChildren]
  by_cases same : p = m
  · rw [if_pos same]
    split
    · rfl
    · rename_i outside
      have outside : n ∉ f.childrenOf m := fun mem => outside ⟨same, lt_of_mem_childrenOf mem⟩
      rw [List.erase_of_not_mem outside]
  · rw [if_neg same, if_neg fun both => same both.1]

theorem parentOf_placed (f : Forest) (change : List Nat → List Nat) (hn : n < f.cells.size) :
    (f.placed p n change).parentOf m = if n = m then some p else f.parentOf m := by
  rw [placed, parentOf_changeChildren, parentOf_setParent]
  by_cases same : n = m
  · rw [if_pos same, if_pos ⟨same, same ▸ hn⟩]
  · rw [if_neg same, if_neg fun both => same both.1]

theorem childrenOf_placed (f : Forest) (n : Nat) (change : List Nat → List Nat)
    (hp : p < f.cells.size) : (f.placed p n change).childrenOf m =
      if p = m then change (f.childrenOf m) else f.childrenOf m := by
  rw [placed, childrenOf_changeChildren, childrenOf_setParent]
  by_cases same : p = m
  · refine (if_pos ⟨same, ?_⟩).trans (if_pos same).symm
    rw [setParent, size_update]
    exact same ▸ hp
  · rw [if_neg same, if_neg fun both => same both.1]

/-! ## What the changes keep -/

theorem Consistent.takenFrom (h : f.Consistent) (child : n ∈ f.childrenOf p) :
    (f.takenFrom p n).Consistent := by
  refine ⟨fun q m => ?_, fun q => ?_⟩
  · rw [childrenOf_takenFrom, parentOf_takenFrom]
    by_cases moved : n = m
    · subst moved
      rw [if_pos rfl]
      refine iff_of_false (fun mem => ?_) nofun
      split at mem
      · exact (h.once q).not_mem_erase mem
      · rename_i other
        exact other (Option.some.inj (((h.linked p n).mp child).symm.trans ((h.linked q n).mp mem)))
    · rw [if_neg moved, ← h.linked q m]
      split
      · exact List.mem_erase_of_ne (Ne.symm moved)
      · rfl
  · rw [childrenOf_takenFrom]
    split
    · exact (h.once q).erase n
    · exact h.once q

/-- A node without a parent gets one, and is put among its children once. -/
theorem Consistent.placed (h : f.Consistent) (hn : n < f.cells.size) (hp : p < f.cells.size)
    (root : f.parentOf n = none) (once : (change (f.childrenOf p)).Perm (n :: f.childrenOf p)) :
    (f.placed p n change).Consistent := by
  -- without a parent, the node is among nobody's children
  have elsewhere (q : Nat) : n ∉ f.childrenOf q := by
    rw [h.linked, root]
    exact nofun
  refine ⟨fun q m => ?_, fun q => ?_⟩
  · rw [childrenOf_placed f n change hp, parentOf_placed f change hn]
    by_cases moved : n = m
    · subst moved
      rw [if_pos rfl, Option.some_inj]
      split
      · rename_i here
        subst here
        exact iff_of_true (once.mem_iff.mpr List.mem_cons_self) rfl
      · rename_i other
        exact iff_of_false (elsewhere q) other
    · rw [if_neg moved, ← h.linked q m]
      split
      · rename_i here
        subst here
        rw [once.mem_iff, List.mem_cons, or_iff_right (Ne.symm moved)]
      · rfl
  · rw [childrenOf_placed f n change hp]
    split
    · rename_i here
      subst here
      exact once.nodup_iff.mpr (List.nodup_cons.mpr ⟨elsewhere p, h.once p⟩)
    · exact h.once q

theorem Consistent.freed (h : f.Consistent) (n : Nat) : (f.freed n).Consistent := by
  unfold Forest.freed
  split
  · rename_i p parent
    exact h.takenFrom ((h.linked p n).mpr parent)
  · exact h

theorem parentOf_freed (f : Forest) (n m : Nat) :
    (f.freed n).parentOf m = if n = m then none else f.parentOf m := by
  unfold freed
  split
  · exact parentOf_takenFrom f _ n m
  · rename_i root
    split
    · rename_i same
      rw [← same, root]
    · rfl

/-- Taking links away makes no cycle. -/
theorem Acyclic.mono {g : Forest} (h : f.Acyclic) (sub : ∀ n p, g.HasParent n p → f.HasParent n p) :
    g.Acyclic := fun n cycle => h n (Relation.TransGen.mono sub _ _ cycle)

theorem hasParent_of_takenFrom (h : (f.takenFrom p n).HasParent m q) : f.HasParent m q := by
  rw [HasParent, parentOf_takenFrom] at h
  split at h
  · cases h
  · exact h

theorem hasParent_of_freed (h : (f.freed n).HasParent m q) : f.HasParent m q := by
  rw [HasParent, parentOf_freed] at h
  split at h
  · cases h
  · exact h

/-- The ancestors of a node once another one was put below `p`: those it had, and if the
other is one of them, `p` and the ancestors of `p`. -/
theorem ancestor_placed (hn : n < f.cells.size) {a b : Nat}
    (above : Relation.TransGen (f.placed p n change).HasParent a b) :
    Relation.TransGen f.HasParent a b ∨
      Relation.ReflTransGen f.HasParent a n ∧ Relation.ReflTransGen f.HasParent p b := by
  have link {c d : Nat} (h : (f.placed p n change).HasParent c d) :
      n = c ∧ p = d ∨ f.HasParent c d := by
    rw [HasParent, parentOf_placed f change hn] at h
    split at h
    · rename_i same
      exact .inl ⟨same, Option.some.inj h⟩
    · exact .inr h
  induction above with
  | single h =>
      rcases link h with ⟨rfl, rfl⟩ | old
      · exact .inr ⟨.refl, .refl⟩
      · exact .inl (.single old)
  | tail _ h ih =>
      rcases link h with ⟨rfl, rfl⟩ | old <;> rcases ih with ih | ⟨up, down⟩
      · exact .inr ⟨ih.to_reflTransGen, .refl⟩
      · exact .inr ⟨up, .refl⟩
      · exact .inl (ih.tail old)
      · exact .inr ⟨up, down.tail old⟩

/-- A node that is put below one that is not below itself is not its own ancestor. -/
theorem Acyclic.placed (h : f.Acyclic) (hn : n < f.cells.size)
    (apart : ¬ Relation.ReflTransGen f.HasParent p n) : (f.placed p n change).Acyclic := by
  intro m cycle
  rcases ancestor_placed hn cycle with old | ⟨up, down⟩
  · exact h m old
  · exact apart (down.trans up)

/-! ## Calls -/

theorem outcome_position (f : Forest) (p n : Nat) :
    outcome (Relink.position p n) f =
      if n ∈ f.childrenOf p then (.ok ((f.childrenOf p).idxOf n), f)
      else (.error ⟨f.name n, f.name p⟩, f) := by
  unfold Relink.position
  rw [outcome_bind, outcome_get]
  dsimp only
  split
  · rename_i i found
    obtain ⟨within, at_i⟩ := List.findIdx?_eq_some_iff_findIdx_eq.mp found
    have here : (f.childrenOf p).idxOf n = i := at_i
    rw [← here, List.idxOf_lt_length_iff] at within
    rw [if_pos within, here, outcome_pure]
  · rename_i absent
    have absent : n ∉ f.childrenOf p := fun here =>
      absurd (List.findIdx?_eq_none_iff.mp absent n here) (by simp)
    rw [if_neg absent, outcome_throw]

theorem outcome_remove (f : Forest) (p n : Nat) :
    outcome (Relink.remove p n) f =
      if n ∈ f.childrenOf p then (.ok (), f.takenFrom p n)
      else (.error ⟨f.name n, f.name p⟩, f) := by
  unfold Relink.remove
  rw [outcome_bind, outcome_position]
  by_cases child : n ∈ f.childrenOf p
  · rw [if_pos child, if_pos child]
    dsimp only
    rw [outcome_bind, outcome_modify]
    dsimp only
    rw [outcome_modify, takenFrom, changeChildren, setParent]
    have same := List.eraseIdx_idxOf_eq_erase n (f.childrenOf p)
    rw [update_congr (g := fun c => { c with children := c.children.eraseIdx _ })]
    exact congrArg (fun cs => { f.cell p with children := cs }) same
  · rw [if_neg child, if_neg child]

theorem outcome_detach (h : f.Consistent) (n : Nat) :
    outcome (Relink.detach n) f = (.ok (), f.freed n) := by
  unfold Relink.detach freed
  rw [outcome_bind, outcome_get]
  dsimp only
  cases parent : f.parentOf n with
  | some p =>
      rw [parentOf] at parent
      rw [parent]
      dsimp only
      rw [outcome_remove, if_pos ((h.linked p n).mpr parent)]
  | none =>
      rw [parentOf] at parent
      rw [parent]
      rfl

theorem outcome_append (h : f.Consistent) (p n : Nat) :
    outcome (Relink.append p n) f = (.ok (), (f.freed n).placed p n (· ++ [n])) := by
  unfold Relink.append
  rw [outcome_bind, outcome_detach h]
  dsimp only
  rw [outcome_bind, outcome_modify]
  rfl

theorem outcome_insert (h : f.Consistent) (p n m : Nat) :
    outcome (Relink.insert p n m) f =
      if m ∈ (f.freed n).childrenOf p then
        (.ok (), (f.freed n).placed p n (·.insertIdx (((f.freed n).childrenOf p).idxOf m) n))
      else (.error ⟨(f.freed n).name m, (f.freed n).name p⟩, f.freed n) := by
  unfold Relink.insert
  rw [outcome_bind, outcome_detach h]
  dsimp only
  rw [outcome_bind, outcome_position]
  by_cases child : m ∈ (f.freed n).childrenOf p
  · rw [if_pos child, if_pos child]
    dsimp only
    rw [outcome_bind, outcome_modify]
    rfl
  · rw [if_neg child, if_neg child]

/-! ## Nodes of trees -/

theorem cell_withCell (f : Forest) (label : Node) (n : Nat) :
    (f.withCell label).parentOf n = f.parentOf n ∧
      (f.withCell label).childrenOf n = f.childrenOf n := by
  unfold parentOf childrenOf cell withCell
  simp only [Array.getD_eq_getD_getElem?, Array.getElem?_push]
  by_cases new : n = f.cells.size
  · simp only [new, if_pos, Array.getElem?_size]
    exact ⟨rfl, rfl⟩
  · simp only [if_neg new, and_self]

theorem setParent_withCell (f : Forest) (label : Node) (p : Option Nat) :
    (f.withCell label).setParent f.cells.size p =
      { cells := f.cells.push { label, tag := label.tag, parent := p } } := by
  unfold setParent update withCell
  congr 1
  refine Array.ext (by simp) fun i hi hi' => ?_
  rw [Array.getElem_modify, Array.getElem_push, Array.getElem_push]
  by_cases last : f.cells.size = i
  · subst last
    simp
  · have before : i < f.cells.size := by
      rw [Array.size_push] at hi'
      omega
    simp [last, before]

theorem Sound.of_sameLinks {g : Forest} (h : f.Sound) (same : f.SameLinks g) : g.Sound where
  consistent.linked p n := by rw [(same p).2, (same n).1, h.consistent.linked]
  consistent.once p := by rw [(same p).2]; exact h.consistent.once p
  acyclic := h.acyclic.mono fun n p parent => by rwa [HasParent, (same n).1] at parent

theorem sound_empty : ({} : Forest).Sound where
  consistent := by
    refine ⟨fun p n => iff_of_false ?_ ?_, fun p => List.nodup_nil⟩ <;> exact nofun
  acyclic n cycle := by
    obtain ⟨p, parent, -⟩ := Relation.TransGen.head'_iff.mp cycle
    cases parent

/-- A new node is put below another one. -/
theorem Sound.addCell (h : f.Sound) (label : Node) {parent : Option Nat}
    (there : ∀ p ∈ parent, p < f.cells.size) : (f.addCell label parent).2.Sound := by
  have alone : (f.withCell label).Sound := h.of_sameLinks (f.cell_withCell label)
  cases parent with
  | none => exact alone
  | some p =>
      have hp := there p rfl
      have size : (f.withCell label).cells.size = f.cells.size + 1 := Array.size_push _
      have new : f.cells.size < (f.withCell label).cells.size := by omega
      have old : p < (f.withCell label).cells.size := by omega
      have root : (f.withCell label).parentOf f.cells.size = none := by
        rw [(f.cell_withCell label _).1, parentOf, cell_of_size_le (Nat.le_refl _)]
        rfl
      -- nothing has the new node for a parent, so its parent cannot stand below it
      have apart : ¬ Relation.ReflTransGen (f.withCell label).HasParent p f.cells.size := by
        intro below
        rcases below.cases_tail with same | ⟨q, -, parent⟩
        · omega
        · rw [HasParent, ← alone.consistent.linked, (f.cell_withCell label _).2, childrenOf,
            cell_of_size_le (Nat.le_refl _)] at parent
          cases parent
      have same : (f.addCell label (some p)).2 =
          (f.withCell label).placed p f.cells.size (· ++ [f.cells.size]) := by
        rw [placed, setParent_withCell]
        rfl
      rw [same]
      exact ⟨alone.consistent.placed new old root (List.perm_append_singleton _ _),
        alone.acyclic.placed new apart⟩

theorem addCell_size (f : Forest) (label : Node) (parent : Option Nat) :
    (f.addCell label parent).1 = f.cells.size ∧
      (f.addCell label parent).2.cells.size = f.cells.size + 1 := by
  cases parent with
  | none => exact ⟨rfl, Array.size_push _⟩
  | some p => exact ⟨rfl, (size_update _ _ _).trans (Array.size_push _)⟩

/-- A new node gets trees below it. -/
theorem Sound.addBranch (h : f.Sound) (label : Node) {parent : Option Nat}
    (there : ∀ p ∈ parent, p < f.cells.size) {cs : List Node}
    (rest : ∀ {g : Forest} {p : Nat}, g.Sound → p < g.cells.size →
      (g.addTrees p cs).Sound ∧ g.cells.size ≤ (g.addTrees p cs).cells.size) :
    ((f.addCell label parent).2.addTrees (f.addCell label parent).1 cs).Sound ∧
      f.cells.size ≤ ((f.addCell label parent).2.addTrees (f.addCell label parent).1 cs).cells.size := by
  obtain ⟨number, size⟩ := f.addCell_size label parent
  have new : (f.addCell label parent).1 < (f.addCell label parent).2.cells.size := by omega
  obtain ⟨sound, more⟩ := rest (h.addCell label there) new
  exact ⟨sound, by omega⟩

theorem Sound.addLeaf (h : f.Sound) (label : Node) {parent : Option Nat}
    (there : ∀ p ∈ parent, p < f.cells.size) :
    (f.addCell label parent).2.Sound ∧ f.cells.size ≤ (f.addCell label parent).2.cells.size := by
  have size := (f.addCell_size label parent).2
  exact ⟨h.addCell label there, by omega⟩

mutual

/-- The nodes of a tree have consistent links and make no cycle. -/
theorem addTree_sound : ∀ (n : Node) {f : Forest} {parent : Option Nat}, f.Sound →
    (∀ p ∈ parent, p < f.cells.size) →
    (f.addTree parent n).2.Sound ∧ f.cells.size ≤ (f.addTree parent n).2.cells.size
  | .document cs, _, _, h, there => h.addBranch _ there (addTrees_sound cs)
  | .element _ cs, _, _, h, there => h.addBranch _ there (addTrees_sound cs)
  | .text _, _, _, h, there => h.addLeaf _ there
  | .comment _, _, _, h, there => h.addLeaf _ there
  | .doctype _, _, _, h, there => h.addLeaf _ there
  | .markup _, _, _, h, there => h.addLeaf _ there

theorem addTrees_sound : ∀ (cs : List Node) {f : Forest} {p : Nat}, f.Sound →
    p < f.cells.size →
    (f.addTrees p cs).Sound ∧ f.cells.size ≤ (f.addTrees p cs).cells.size
  | [], f, p, h, hp => ⟨h, Nat.le_refl _⟩
  | c :: cs, f, p, h, hp => by
      have there : ∀ q ∈ some p, q < f.cells.size := by
        rintro q ⟨⟩
        exact hp
      obtain ⟨first, more⟩ := addTree_sound c h there
      obtain ⟨rest, most⟩ := addTrees_sound cs first (Nat.lt_of_lt_of_le hp more)
      exact ⟨rest, Nat.le_trans more most⟩

end

end

end Forest

end PageTemplates.Markup
