import Mathlib.Data.List.Induction
import PageTemplates.Proofs.Markup.Linked

/-!
# Calls that move nodes

A call on linked nodes may be refused, and what it did before stays done. The main facts:

* `Ends`, `Consistent.ends`: how a call can end;
* `calls_keep_links`: links stay consistent under any calls, and no node becomes its own
  ancestor unless one is put below itself;
* `rejected_keeps_iff`: a call that is refused leaves all links alone exactly if the node
  that it should move has no parent;
* `rejected_drops_child`: otherwise the node is dropped.
-/

namespace PageTemplates.Markup

namespace Forest

/-- A call that moves a node. -/
inductive Call where
  | append (parent child : Nat)
  | insert (parent child before : Nat)
  | remove (parent child : Nat)
  | replace (parent new old : Nat)
deriving Repr, DecidableEq

namespace Call

def relink : Call → Relink Unit
  | .append p n => Relink.append p n
  | .insert p n m => Relink.insert p n m
  | .remove p n => Relink.remove p n
  | .replace p n m => Relink.replace p n m

/-- The node that is to have other children. -/
def receiver : Call → Nat
  | .append p _ | .insert p _ _ | .remove p _ | .replace p _ _ => p

/-- The node that is to be attached to the receiver. -/
def attached? : Call → Option Nat
  | .append _ n | .insert _ n _ | .replace _ n _ => some n
  | .remove _ _ => none

/-- The nodes that a call is given. -/
def nodes : Call → List Nat
  | .append p n | .remove p n => [p, n]
  | .insert p n m | .replace p n m => [p, n, m]

theorem receiver_mem_nodes (c : Call) : c.receiver ∈ c.nodes := by
  cases c <;> exact List.mem_cons_self

theorem mem_nodes (c : Call) {n : Nat} (attaches : c.attached? = some n) : n ∈ c.nodes := by
  cases c <;> cases attaches <;> simp [nodes]

end Call

/-- All nodes that a call is given are there. -/
def Knows (f : Forest) (c : Call) : Prop := ∀ n ∈ c.nodes, n < f.cells.size

/-- The forest after some calls, each of which may be refused. -/
def after (f : Forest) (calls : List Call) : Forest :=
  calls.foldl (fun f c => (outcome c.relink f).2) f

/-- A call that is not refused attaches a node to itself or to a node below it. -/
def Loops (f : Forest) (c : Call) : Prop :=
  (outcome c.relink f).1 = .ok () ∧
    ∃ n, c.attached? = some n ∧ Relation.ReflTransGen f.HasParent c.receiver n

/-! ## How a call ends -/

/-- How a call can end: a node is taken from the receiver, or put among its children, and
then maybe another is taken; a call that is refused has freed the node to be attached. -/
inductive Ends (f : Forest) : Call → Except NotAChild Unit → Forest → Prop
  | removed {p n : Nat} (child : n ∈ f.childrenOf p) :
      Ends f (.remove p n) (.ok ()) (f.takenFrom p n)
  | attached {c : Call} {n : Nat} {change : List Nat → List Nat} (attaches : c.attached? = some n)
      (once : (change ((f.freed n).childrenOf c.receiver)).Perm
        (n :: (f.freed n).childrenOf c.receiver)) :
      Ends f c (.ok ()) ((f.freed n).placed c.receiver n change)
  | replaced {p n m : Nat} {change : List Nat → List Nat}
      (once : (change ((f.freed n).childrenOf p)).Perm (n :: (f.freed n).childrenOf p))
      (child : m ∈ ((f.freed n).placed p n change).childrenOf p) :
      Ends f (.replace p n m) (.ok ()) (((f.freed n).placed p n change).takenFrom p m)
  | notRemoved {p n : Nat} {e : NotAChild} (other : n ∉ f.childrenOf p) :
      Ends f (.remove p n) (.error e) f
  | notAttached {c : Call} {n : Nat} {e : NotAChild} (attaches : c.attached? = some n) :
      Ends f c (.error e) (f.freed n)

section

variable {f : Forest}

theorem perm_insertIdx_idxOf {l : List Nat} {n m : Nat} (child : m ∈ l) :
    (l.insertIdx (l.idxOf m) n).Perm (n :: l) :=
  List.perm_insertIdx n l (Nat.le_of_lt (List.idxOf_lt_length_of_mem child))

theorem Consistent.ends (h : f.Consistent) (c : Call) :
    f.Ends c (outcome c.relink f).1 (outcome c.relink f).2 := by
  cases c with
  | append p n =>
      rw [Call.relink, outcome_append h]
      have once := List.perm_append_singleton n ((f.freed n).childrenOf p)
      exact @Ends.attached f (.append p n) n (· ++ [n]) rfl once
  | insert p n m =>
      rw [Call.relink, outcome_insert h]
      split
      · rename_i child
        exact .attached (c := .insert p n m) rfl (perm_insertIdx_idxOf child)
      · exact .notAttached rfl
  | remove p n =>
      rw [Call.relink, outcome_remove]
      split
      · rename_i child
        exact .removed child
      · rename_i other
        exact .notRemoved other
  | replace p n m =>
      -- replacing is inserting and then removing, and only the first of the two can be refused
      rw [Call.relink, Relink.replace, outcome_bind, outcome_insert h]
      split
      · rename_i r g inserted
        split at inserted
        · rename_i child
          cases inserted
          have there : p < (f.freed n).cells.size := lt_of_mem_childrenOf child
          have once := perm_insertIdx_idxOf (n := n) child
          have still : m ∈ ((f.freed n).placed p n
              (·.insertIdx (((f.freed n).childrenOf p).idxOf m) n)).childrenOf p := by
            rw [childrenOf_placed _ _ _ there, if_pos rfl]
            exact once.mem_iff.mpr (List.mem_cons_of_mem n child)
          rw [outcome_remove, if_pos still]
          exact .replaced once still
        · cases inserted
      · rename_i e g refused
        split at refused
        · cases refused
        · cases refused
          exact .notAttached rfl

/-! ## What a call keeps -/

theorem Ends.size {c : Call} {r : Except NotAChild Unit} {g : Forest} (ends : f.Ends c r g) :
    g.cells.size = f.cells.size := by
  cases ends with
  | removed | attached | replaced | notAttached => simp
  | notRemoved => rfl

theorem Consistent.ended (h : f.Consistent) {c : Call} {r : Except NotAChild Unit} {g : Forest}
    (knows : f.Knows c) (ends : f.Ends c r g) : g.Consistent := by
  have placed {n p : Nat} {change : List Nat → List Nat} (hn : n ∈ c.nodes) (hp : p ∈ c.nodes)
      (once : (change ((f.freed n).childrenOf p)).Perm (n :: (f.freed n).childrenOf p)) :
      ((f.freed n).placed p n change).Consistent := by
    refine (h.freed n).placed ?_ ?_ ?_ once
    · rw [size_freed]
      exact knows n hn
    · rw [size_freed]
      exact knows p hp
    · rw [parentOf_freed, if_pos rfl]
  cases ends with
  | removed child => exact h.takenFrom child
  | attached attaches once => exact placed (c.mem_nodes attaches) c.receiver_mem_nodes once
  | replaced once child => exact (placed (by simp [Call.nodes]) (by simp [Call.nodes]) once).takenFrom child
  | notRemoved => exact h
  | notAttached => exact h.freed _

theorem Acyclic.ended (h : f.Acyclic) {c : Call} {r : Except NotAChild Unit} {g : Forest}
    (knows : f.Knows c) (ends : f.Ends c r g)
    (apart : r = .ok () → ∀ n, c.attached? = some n → ¬ Relation.ReflTransGen f.HasParent c.receiver n) :
    g.Acyclic := by
  have freed (n : Nat) : (f.freed n).Acyclic := h.mono fun _ _ => hasParent_of_freed
  have placed {n : Nat} {change : List Nat → List Nat} (attaches : c.attached? = some n)
      (done : r = .ok ()) : ((f.freed n).placed c.receiver n change).Acyclic := by
    refine (freed n).placed ?_ fun below => ?_
    · rw [size_freed]
      exact knows n (c.mem_nodes attaches)
    · exact apart done n attaches (Relation.ReflTransGen.mono (fun _ _ => hasParent_of_freed) _ _ below)
  cases ends with
  | removed child => exact h.mono fun _ _ => hasParent_of_takenFrom
  | attached attaches once => exact placed attaches rfl
  | replaced once child => exact (placed rfl rfl).mono fun _ _ => hasParent_of_takenFrom
  | notRemoved => exact h
  | notAttached => exact freed _

/-! ## Any calls -/

theorem after_concat (f : Forest) (calls : List Call) (c : Call) :
    f.after (calls ++ [c]) = (outcome c.relink (f.after calls)).2 := by
  rw [after, List.foldl_append]
  rfl

theorem consistent_after (h : f.Consistent) {calls : List Call} (knows : ∀ c ∈ calls, f.Knows c) :
    (f.after calls).Consistent ∧ (f.after calls).cells.size = f.cells.size := by
  induction calls using List.reverseRecOn with
  | nil => exact ⟨h, rfl⟩
  | append_singleton calls c ih =>
      obtain ⟨before, size⟩ := ih fun c' hc' => knows c' (List.mem_append_left _ hc')
      have known : (f.after calls).Knows c := by
        rw [Knows, size]
        exact knows c (List.mem_append_right _ (List.mem_singleton_self c))
      have ends := before.ends c
      rw [after_concat]
      exact ⟨before.ended known ends, ends.size.trans size⟩

theorem acyclic_after (h : f.Consistent) (acyclic : f.Acyclic) {calls : List Call}
    (knows : ∀ c ∈ calls, f.Knows c)
    (apart : ∀ i c, calls[i]? = some c → ¬ (f.after (calls.take i)).Loops c) :
    (f.after calls).Acyclic := by
  induction calls using List.reverseRecOn with
  | nil => exact acyclic
  | append_singleton calls c ih =>
      have knows' : ∀ c' ∈ calls, f.Knows c' := fun c' hc' => knows c' (List.mem_append_left _ hc')
      have before := ih knows' fun i c' here => by
        have below := (List.getElem?_eq_some_iff.mp here).1
        have now := apart i c' (by rwa [List.getElem?_append_left below])
        rwa [List.take_append_of_le_length (Nat.le_of_lt below)] at now
      obtain ⟨consistent, size⟩ := consistent_after h knows'
      have known : (f.after calls).Knows c := by
        rw [Knows, size]
        exact knows c (List.mem_append_right _ (List.mem_singleton_self c))
      have last := apart calls.length c List.getElem?_concat_length
      rw [List.take_left] at last
      rw [after_concat]
      exact before.ended known (consistent.ends c) fun done n attaches below =>
        last ⟨done, n, attaches, below⟩

/-- Links stay consistent whatever calls are made and whether or not they are refused, and
if no call attaches a node to itself or to a node below it, no node becomes its own
ancestor. -/
theorem calls_keep_links (h : f.Consistent) {calls : List Call} (knows : ∀ c ∈ calls, f.Knows c) :
    (∀ p n, n ∈ (f.after calls).childrenOf p ↔ (f.after calls).parentOf n = some p) ∧
      (∀ p, ((f.after calls).childrenOf p).Nodup) ∧
      (f.Acyclic → (∀ i c, calls[i]? = some c → ¬ (f.after (calls.take i)).Loops c) →
        (f.after calls).Acyclic) := by
  obtain ⟨consistent, -⟩ := consistent_after h knows
  exact ⟨consistent.linked, consistent.once, fun acyclic => acyclic_after h acyclic knows⟩

theorem not_below_root {p n : Nat} (root : f.parentOf p = none) (other : p ≠ n) :
    ¬ Relation.ReflTransGen f.HasParent p n := by
  intro below
  rcases below.cases_head with same | ⟨q, parent, -⟩
  · exact other same
  · rw [HasParent, root] at parent
    cases parent

theorem not_below_child {p q n : Nat} (parent : f.parentOf p = some q) (other : p ≠ n)
    (above : ¬ Relation.ReflTransGen f.HasParent q n) :
    ¬ Relation.ReflTransGen f.HasParent p n := by
  intro below
  rcases below.cases_head with same | ⟨q', parent', rest⟩
  · exact other same
  · obtain rfl : q = q' := Option.some.inj (parent.symm.trans parent')
    exact above rest

/-- A `div` with a `p` and a `b`, which are the nodes 1 and 2, and a node without a parent. -/
def pairForest : Forest :=
  let tree : Node := .element { name := "div" }
    [.element { name := "p" } [], .element { name := "b" } []]
  (addTree (addTree {} none tree).2 none (.element { name := "i" } [])).2

theorem pairForest_sound : pairForest.Sound :=
  (addTree_sound _ (addTree_sound _ sound_empty (by simp)).1 (by simp)).1

/-- The `b` is moved to the front, the `p` is put in its own place, which is refused, and
goes into the `b`. -/
def pairCalls : List Call := [.insert 0 2 1, .replace 0 1 1, .append 2 1]

theorem calls_keep_links_pairCalls : pairForest.Consistent ∧
    (∀ c ∈ pairCalls, pairForest.Knows c) ∧ pairForest.Acyclic ∧
    (∀ i c, pairCalls[i]? = some c → ¬ (pairForest.after (pairCalls.take i)).Loops c) ∧
    (∀ p n, n ∈ (pairForest.after pairCalls).childrenOf p ↔
      (pairForest.after pairCalls).parentOf n = some p) ∧
    (pairForest.after pairCalls).Acyclic ∧
    (pairForest.after pairCalls).childrenOf 0 = [2] ∧
    (pairForest.after pairCalls).childrenOf 2 = [1] := by
  obtain ⟨consistent, acyclic⟩ := pairForest_sound
  have knows : ∀ c ∈ pairCalls, pairForest.Knows c := by
    unfold Knows
    decide
  have apart : ∀ i c, pairCalls[i]? = some c →
      ¬ (pairForest.after (pairCalls.take i)).Loops c := by
    rintro (_ | _ | _ | i) c here ⟨done, n, attaches, below⟩
    · cases here
      cases attaches
      exact not_below_root rfl (by decide) below
    · cases here
      cases done
    · cases here
      cases attaches
      exact not_below_child (q := 0) rfl (by decide) (not_below_root rfl (by decide)) below
    · cases here
  obtain ⟨linked, -, kept⟩ := calls_keep_links consistent knows
  exact ⟨consistent, knows, acyclic, apart, linked, kept acyclic apart, rfl, rfl⟩

/-! ## Calls that are refused -/

theorem Ends.of_error {c : Call} {e : NotAChild} {g : Forest} (ends : f.Ends c (.error e) g) :
    c.attached? = none ∧ g = f ∨ ∃ n, c.attached? = some n ∧ g = f.freed n := by
  cases ends with
  | notRemoved other => exact .inl ⟨rfl, rfl⟩
  | notAttached attaches => exact .inr ⟨_, attaches, rfl⟩

theorem sameLinks_freed_iff {n : Nat} : f.SameLinks (f.freed n) ↔ f.parentOf n = none := by
  constructor
  · intro same
    rw [← (same n).1, parentOf_freed, if_pos rfl]
  · intro root
    rw [freed, root]
    exact fun m => ⟨rfl, rfl⟩

/-- A call that is refused leaves all links alone exactly if it attaches no node that has a
parent. Else the node is taken from its parent, and nothing else changes. -/
theorem rejected_keeps_iff (h : f.Consistent) {c : Call} {e : NotAChild} {g : Forest}
    (rejected : outcome c.relink f = (.error e, g)) :
    (f.SameLinks g ↔ ∀ n, c.attached? = some n → f.parentOf n = none) ∧
      ∀ n p, c.attached? = some n → f.parentOf n = some p → g = f.takenFrom p n := by
  have ends := h.ends c
  rw [rejected] at ends
  rcases ends.of_error with ⟨nothing, rfl⟩ | ⟨n, attaches, rfl⟩
  · rw [nothing]
    exact ⟨iff_of_true (fun m => ⟨rfl, rfl⟩) fun m => nofun, fun m p => nofun⟩
  · have only {m : Nat} (hm : c.attached? = some m) : m = n :=
      Option.some.inj (hm.symm.trans attaches)
    refine ⟨sameLinks_freed_iff.trans ⟨fun root m hm => ?_, fun root => root n attaches⟩,
      fun m p hm parent => ?_⟩
    · rw [only hm, root]
    · rw [only hm] at parent ⊢
      rw [freed, parent]

/-- A node without a parent is put in front of one that is not a child of the receiver. -/
theorem rejected_keeps_iff_pairForest : pairForest.Consistent ∧ ∃ e g,
    outcome (Call.insert 1 3 2).relink pairForest = (.error e, g) ∧ pairForest.parentOf 3 = none ∧
      pairForest.SameLinks g := by
  have rejected : outcome (Call.insert 1 3 2).relink pairForest = (.error ⟨"b", "p"⟩, pairForest) :=
    rfl
  refine ⟨pairForest_sound.consistent, _, _, rejected, rfl, ?_⟩
  refine (rejected_keeps_iff pairForest_sound.consistent rejected).1.mpr ?_
  rintro n ⟨⟩
  rfl

/-- A node that is put in front of one that is not a child of the receiver, or in its own
place, is dropped. -/
theorem rejected_drops_child : pairForest.Consistent ∧
    (∃ e g, outcome (Call.insert 0 1 3).relink pairForest = (.error e, g) ∧
      ¬ pairForest.SameLinks g ∧ pairForest.childrenOf 0 = [1, 2] ∧ g.childrenOf 0 = [2]) ∧
    ∃ e g, outcome (Call.replace 0 1 1).relink pairForest = (.error e, g) ∧
      ¬ pairForest.SameLinks g ∧ g.childrenOf 0 = [2] := by
  have dropped {g : Forest} (left : g.childrenOf 0 = [2]) : ¬ pairForest.SameLinks g := by
    intro same
    rw [(same 0).2] at left
    exact absurd left (by decide)
  exact ⟨pairForest_sound.consistent, ⟨_, _, rfl, dropped rfl, rfl, rfl⟩, _, _, rfl, dropped rfl, rfl⟩

end

end Forest

end PageTemplates.Markup
