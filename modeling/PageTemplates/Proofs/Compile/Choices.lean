import Mathlib.Data.List.SplitBy
import Mathlib.Data.List.TakeWhile
import PageTemplates.Proofs.Compile.Reached

/-!
# The branches of choices

Branches that stand next to each other, with nothing but blank text and comments between
them, are one choice. The first of them keeps its directive, and gets the code of all. The
main facts:

* `choices cs`: the branches among some siblings, split into the longest runs;
* `groups k gs`: what the branches that keep their directives take in;
* `groups_group`, `joined_group`: what is taken in where branches are grouped are the
  choices;
* `branches_eq`: the code of a choice has one part for each of its branches;
* `group_choices`: all this holds in each list of siblings outside of scripts, and nothing
  but the branches that are taken in changes.
-/

namespace PageTemplates.Compile

open Markup

/-! ## Runs -/

section

variable {α : Type} {p : α → Bool} {x : α} {xs : List α}

/-- The longest runs of elements that satisfy `p`. -/
def blocks (p : α → Bool) (xs : List α) : List (List α) :=
  (xs.splitBy fun x y => p x && p y).filter (·.all p)

theorem blocks_other (other : ¬ p x) : blocks p (x :: xs) = blocks p xs := by
  have split := List.splitBy_append (r := fun x y => p x && p y) (l := [x]) (m := xs)
    fun y hy z _ => by
      obtain rfl : x = y := by simpa using hy
      simp [other]
  rw [List.singleton_append] at split
  rw [blocks, split, List.splitBy_of_isChain (List.cons_ne_nil x []) (.singleton x)]
  simp [blocks, other]

theorem blocks_run (own : p x) :
    blocks p (x :: xs) = (x :: xs.takeWhile p) :: blocks p (xs.dropWhile p) := by
  have run : ∀ y ∈ x :: xs.takeWhile p, p y :=
    List.forall_mem_cons.mpr ⟨own, List.all_eq_true.mp List.all_takeWhile⟩
  have chain : (x :: xs.takeWhile p).IsChain fun x y => p x && p y :=
    (List.pairwise_of_forall_mem_list fun y hy z hz => by simp [run y hy, run z hz]).isChain
  have split := List.splitBy_append (r := fun x y => p x && p y) (l := x :: xs.takeWhile p)
    (m := xs.dropWhile p) fun y _ z hz => by
      have stops := List.head?_dropWhile_not p xs
      rw [hz] at stops
      simp [stops]
  rw [List.cons_append, List.takeWhile_append_dropWhile] at split
  rw [blocks, split, List.splitBy_of_isChain (List.cons_ne_nil _ _) chain, List.singleton_append,
    List.filter_cons, if_pos (List.all_eq_true.mpr run)]
  rfl

/-- The runs hold all elements that satisfy `p`, in order. -/
theorem flatten_blocks (xs : List α) : (blocks p xs).flatten = xs.filter p := by
  match xs with
  | [] => rfl
  | x :: xs =>
      by_cases own : p x
      · have shorter : (xs.dropWhile p).length ≤ xs.length := xs.length_dropWhile_le p
        have run : (xs.takeWhile p).filter p = xs.takeWhile p :=
          List.filter_eq_self.mpr (List.all_eq_true.mp List.all_takeWhile)
        rw [blocks_run own, List.flatten_cons, flatten_blocks (xs.dropWhile p),
          List.filter_cons_of_pos own, List.cons_append]
        conv_rhs =>
          rw [← List.takeWhile_append_dropWhile (p := p) (l := xs), List.filter_append, run]
      · rw [blocks_other own, flatten_blocks xs, List.filter_cons_of_neg own]
termination_by xs.length

end

/-! ## Choices -/

/-- What stands among some siblings that is neither blank text nor a comment, with its
position, where the first of the siblings has position `k`. -/
def solid (k : Nat) (cs : List Node) : List (Node × Nat) :=
  (cs.zipIdx k).filter fun c => !isGap c.1

/-- Whether a node with a position is a branch. -/
def isBranch (c : Node × Nat) : Bool := c.1.isCompapply

/-- The positions in runs of nodes. -/
def positions (runs : List (List (Node × Nat))) : List (List Nat) := runs.map (·.map Prod.snd)

/-- The positions of the branches of each choice among some siblings: the longest runs of
branches, where blank text and comments do not count. -/
def choices (cs : List Node) : List (List Nat) := positions (blocks isBranch (solid 0 cs))

/-- The positions of the branches that are joined to the one in front of some siblings. -/
def joinedTo (k : Nat) : List Node → List Nat
  | [] => []
  | c :: cs =>
      if isJoined c then k :: joinedTo (k + 1) cs
      else if isGap c then joinedTo (k + 1) cs
      else []

/-- For each branch among some siblings, the positions of this one and of those that are
joined to it. -/
def groups (k : Nat) : List Node → List (List Nat)
  | [] => []
  | c :: cs =>
      if c.isCompapply then (k :: joinedTo (k + 1) cs) :: groups (k + 1) cs
      else groups (k + 1) cs

section

variable {k : Nat} {c : Node} {cs : List Node}

theorem solid_gap (gap : isGap c) : solid k (c :: cs) = solid (k + 1) cs := by
  rw [solid, List.zipIdx_cons, List.filter_cons_of_neg (by simp [gap])]
  rfl

theorem solid_other (other : ¬ isGap c) : solid k (c :: cs) = (c, k) :: solid (k + 1) cs := by
  rw [solid, List.zipIdx_cons, List.filter_cons_of_pos (by simp [other])]
  rfl

theorem not_isCompapply_mapTag (n : Node) : (n.mapTag join).isCompapply = false := by
  cases n with
  | element t cs =>
      rw [Node.mapTag, Node.isCompapply, Tag.isCompapply, directiveWord_join]
      rfl
  | document _ | text _ | comment _ | doctype _ | markup _ => rfl

/-- A branch is no script. -/
theorem name_of_isCompapply {n : Node} (scripts : Node.allTags isNoScriptBranch n)
    (branch : n.isCompapply) : (n.name != "script") = true := by
  cases n with
  | element t cs =>
      have own := (allTags_element.mp scripts).1
      have branch : t.isCompapply := branch
      rw [isNoScriptBranch, branch, Bool.and_true] at own
      exact own
  | document _ | text _ | comment _ | doctype _ | markup _ => cases branch

/-- Grouping branches joins each to the first of its choice. -/
theorem groups_group (k : Nat) (cs : List Node) (scripts : allTags isNoScriptBranch cs)
    (unjoined : allTags isUnjoined cs) :
    groups k (group false cs) = positions (blocks isBranch (solid k cs)) ∧
    joinedTo k (group true cs) = ((solid k cs).takeWhile isBranch).map Prod.snd ∧
    groups k (group true cs) = positions (blocks isBranch ((solid k cs).dropWhile isBranch)) := by
  induction cs generalizing k with
  | nil => exact ⟨rfl, rfl, rfl⟩
  | cons c cs ih =>
      rw [allTags_cons] at scripts unjoined
      obtain ⟨begins, goesOn, behind⟩ := ih (k + 1) scripts.2 unjoined.2
      have single : isJoined (Node.group c) = false := by
        rw [isJoined_group, isJoined_of_unjoined unjoined.1]
      -- a branch begins a run or goes on with one, a gap is passed over, the rest ends a run
      by_cases branch : c.isCompapply
      · have solidBranch : ¬ isGap c := by
          rw [isGap_of_isCompapply branch]
          exact Bool.false_ne_true
        have branch' : (Node.group c).isCompapply := by rwa [Node.isCompapply_group]
        have own : isBranch (c, k) := branch
        rw [solid_other solidBranch, group_false_branch branch, group_true_branch branch,
          name_of_isCompapply scripts.1 branch, groups, if_pos branch', joinedTo,
          isJoined_mapTag branch', if_pos rfl, groups, not_isCompapply_mapTag, goesOn, behind,
          blocks_run own, List.takeWhile_cons_of_pos own, List.dropWhile_cons_of_pos own]
        exact ⟨rfl, rfl, rfl⟩
      by_cases gap : isGap c
      · rw [solid_gap gap, group_false_other branch, group_true_gap gap, groups, joinedTo, groups,
          Node.isCompapply_group, if_neg branch, if_neg branch, single, isGap_group, gap]
        exact ⟨begins, goesOn, behind⟩
      · have other : ¬ isBranch (c, k) := branch
        rw [solid_other gap, group_false_other branch, group_true_other gap branch, groups,
          joinedTo, single, isGap_group, if_neg Bool.false_ne_true, if_neg gap,
          Node.isCompapply_group, if_neg branch, List.takeWhile_cons_of_neg other,
          List.dropWhile_cons_of_neg other, blocks_other other]
        exact ⟨begins, rfl, begins⟩

/-- The branches that are joined are those that groups hold behind their first ones. -/
theorem joined_group (k : Nat) (cs : List Node) (scripts : allTags isNoScriptBranch cs)
    (unjoined : allTags isUnjoined cs) :
    (group false cs).findIdxs isJoined k = (groups k (group false cs)).flatMap List.tail ∧
    (group true cs).findIdxs isJoined k
      = joinedTo k (group true cs) ++ (groups k (group true cs)).flatMap List.tail := by
  induction cs generalizing k with
  | nil => exact ⟨rfl, rfl⟩
  | cons c cs ih =>
      rw [allTags_cons] at scripts unjoined
      obtain ⟨begins, goesOn⟩ := ih (k + 1) scripts.2 unjoined.2
      have single : isJoined (Node.group c) = false := by
        rw [isJoined_group, isJoined_of_unjoined unjoined.1]
      by_cases branch : c.isCompapply
      · have branch' : (Node.group c).isCompapply := by rwa [Node.isCompapply_group]
        rw [group_false_branch branch, group_true_branch branch,
          name_of_isCompapply scripts.1 branch, groups, if_pos branch', joinedTo,
          isJoined_mapTag branch', if_pos rfl, groups, not_isCompapply_mapTag, List.findIdxs_cons,
          single, List.findIdxs_cons, isJoined_mapTag branch', goesOn]
        exact ⟨rfl, rfl⟩
      by_cases gap : isGap c
      · rw [group_false_other branch, group_true_gap gap, groups, joinedTo, groups,
          Node.isCompapply_group, if_neg branch, if_neg branch, single, isGap_group, gap,
          List.findIdxs_cons, single, List.findIdxs_cons, single]
        exact ⟨begins, goesOn⟩
      · rw [group_false_other branch, group_true_other gap branch, groups, joinedTo, single,
          isGap_group, if_neg Bool.false_ne_true, if_neg gap, Node.isCompapply_group,
          if_neg branch, List.findIdxs_cons, single]
        exact ⟨begins, begins⟩

end

/-! ## What grouping keeps -/

/-- A node without the siblings below it that may be grouped: what is in a script is not. -/
def outline : Node → Node
  | .element t cs => if t.name == "script" then .element t cs else .element t []
  | n => n

theorem outline_group (n : Node) : outline (Node.group n) = outline n := by
  cases n with
  | element t cs =>
      rw [Node.group]
      split
      · rfl
      · rename_i script
        rw [outline, outline, if_neg script, if_neg script]
  | document _ | text _ | comment _ | doctype _ | markup _ => rfl

theorem outline_mapTag (n : Node) : outline (n.mapTag join) = (outline n).mapTag join := by
  cases n with
  | element t cs =>
      rw [Node.mapTag, outline, outline, name_join]
      split <;> rfl
  | document _ | text _ | comment _ | doctype _ | markup _ => rfl

/-- A node and what becomes of it: nothing changes, unless it is joined to another. -/
def IsKept (n m : Node) : Prop :=
  outline m = if isJoined m then (outline n).mapTag join else outline n

/-- Only branches that are joined change. -/
theorem outlines_group (opened : Bool) (cs : List Node) (unjoined : allTags isUnjoined cs) :
    List.Forall₂ IsKept cs (group opened cs) := by
  induction cs generalizing opened with
  | nil => exact .nil
  | cons c cs ih =>
      rw [allTags_cons] at unjoined
      obtain ⟨f, opened', hf, same⟩ := group_cons opened c cs
      rw [same]
      refine .cons ?_ (ih opened' unjoined.2)
      rcases hf with rfl | ⟨rfl, branch⟩
      · rw [IsKept, id, isJoined_group, isJoined_of_unjoined unjoined.1, outline_group]
        rfl
      · rw [← Node.isCompapply_group] at branch
        rw [IsKept, isJoined_mapTag branch, outline_mapTag, outline_group]
        rfl

/-! ## The code of a choice -/

/-- The code of a choice: a call with the parts of its branches. -/
def selectCode (nested declare : Bool) (targetSet : String) (parts : List String) : String :=
  (if nested then "YST.Txt.select, [" else "YST.Txt.select" ++ surroundings declare)
    ++ ("'" ++ Script.escape targetSet ++ "'") ++ String.join parts ++ if nested then "]" else ")"

/-- The part of a branch with its own test and auxiliary argument. -/
def partCode (n : Node) (body : String) : String :=
  match n with
  | .element t _ => branchCode (t.directiveOf .compapply) body
  | _ => ""

/-- The part of the branch at a position, where it is `n` in the template and `m` where the
branches are grouped. -/
def partAt (o : Options) (site : Site) (cs gs : List Node) (k : Nat) : Gen String :=
  match cs[k]?, gs[k]? with
  | some n, some m => return partCode n (← literal o (Site.rest^[k] site).first false m)
  | _, _ => return ""

/-- The set that the branch at a position selects from. -/
def targetSetAt (cs : List Node) (k : Nat) : String :=
  match cs[k]? with
  | some (.element t _) => (t.directiveOf .compapply).targetSet
  | _ => ""

section

variable {o : Options} {site : Site} {part : Nat → Gen String}

/-- The code behind the first branch of a choice has a part for each of the others. -/
theorem branches_eq (k : Nat) (gs : List Node)
    (parts : ∀ j m, gs[j]? = some m → isJoined m →
      part (k + j) = joinedCode m <$> literal o (Site.rest^[k + j] site).first false m) :
    branches o (Site.rest^[k] site) gs = String.join <$> (joinedTo k gs).mapM part := by
  induction gs generalizing k with
  | nil => rfl
  | cons m gs ih =>
      have ih := ih (k + 1) fun j n hn joined => by
        rw [Nat.add_right_comm]
        exact parts (j + 1) n (by rwa [List.getElem?_cons_succ]) joined
      rw [Function.iterate_succ_apply'] at ih
      rw [branches, joinedTo]
      split
      · rename_i joined
        have own := parts 0 m rfl joined
        rw [Nat.add_zero] at own
        rw [ih, List.mapM_cons, own]
        simp only [map_eq_pure_bind, bind_assoc, pure_bind, String.join_cons]
      split
      · exact ih
      · rfl

/-- The code of a branch that keeps its directive, whatever branches are joined to it. -/
theorem elementCode_choice {nested declare : Bool} {t : Tag} {ds : List Node}
    {whole inner branches : Gen String} (branch : t.isCompapply) :
    elementCode o site nested declare (.element t ds) whole inner branches = do
      let body ← whole
      let others ← branches
      return some (selectCode nested declare (t.directiveOf .compapply).targetSet
        [partCode (.element t ds) body, others]) := by
  have kind : DirectiveKind.ofWord? t.directiveWord = some .compapply := by
    simpa [Tag.isCompapply] using branch
  have known (markup : String) : t.directive markup = .ok (t.directiveOf .compapply) := by
    rw [Tag.directive, kind]
  have here : elementCode o site nested declare (.element t ds) whole inner branches
      = directiveCode o nested declare t (t.directiveOf .compapply) whole inner branches := by
    unfold elementCode
    simp only [known]
    rfl
  rw [here]
  refine bind_congr fun body => bind_congr fun others => congrArg (fun s => pure (some s)) ?_
  cases nested <;> simp [selectCode, partCode, String.append_assoc]

end

section

variable {t : Tag} {ds : List Node} {n m : Node}

/-- A branch that is joined keeps its test and its auxiliary argument. -/
theorem branchCode_join (body : String) :
    branchCode ((join t).directiveOf .ignore) body
      = branchCode (t.directiveOf .compapply) body := by
  have test : (join t).value "ysttest" = t.value "ysttest" :=
    value_set_of_ne (by decide) t (some "ignore")
  have aux : (join t).value "ystaux" = t.value "ystaux" :=
    value_set_of_ne (by decide) t (some "ignore")
  simp only [branchCode, Tag.directiveOf, test, aux]

theorem eq_of_outline (same : outline (.element t ds) = outline n) : ∃ es, n = .element t es := by
  cases n with
  | element u es =>
      refine ⟨es, ?_⟩
      rw [outline, outline] at same
      split at same <;> split at same <;> cases same <;> rfl
  | document _ | text _ | comment _ | doctype _ | markup _ =>
      rw [outline] at same
      split at same <;> cases same

theorem partCode_of_joined (joined : isJoined m) (same : outline m = (outline n).mapTag join)
    (body : String) : partCode n body = joinedCode m body := by
  rw [← outline_mapTag] at same
  cases m with
  | element u ds =>
      obtain ⟨es, whole⟩ := eq_of_outline same
      cases n with
      | element t es' =>
          cases whole
          exact (branchCode_join body).symm
      | document _ | text _ | comment _ | doctype _ | markup _ => cases whole
  | document _ | text _ | comment _ | doctype _ | markup _ => cases joined

/-- A branch that is joined asks for nothing on its own. -/
theorem not_isCompapply_of_joined (joined : isJoined m) (kept : IsKept n m) :
    m.isCompapply = false := by
  rw [IsKept, if_pos joined, ← outline_mapTag] at kept
  cases m with
  | element u ds =>
      obtain ⟨es, whole⟩ := eq_of_outline kept
      have none := not_isCompapply_mapTag n
      rwa [whole] at none
  | document _ | text _ | comment _ | doctype _ | markup _ => cases joined

end

theorem getElem?_rel {α β : Type} {R : α → β → Prop} {xs : List α} {ys : List β}
    (h : List.Forall₂ R xs ys) (k : Nat) : Option.Rel R xs[k]? ys[k]? := by
  induction h generalizing k with
  | nil => exact .none
  | cons first _ ih =>
      cases k with
      | zero => exact .some first
      | succ k => simpa using ih k

section

variable {o : Options} {site : Site} {cs gs : List Node} {k : Nat}

theorem partAt_joined {m : Node} (kept : List.Forall₂ IsKept cs gs) (here : gs[k]? = some m)
    (joined : isJoined m) :
    partAt o site cs gs k = joinedCode m <$> literal o (Site.rest^[k] site).first false m := by
  have same := getElem?_rel kept k
  rw [here] at same
  rw [partAt, here]
  generalize cs[k]? = n? at same ⊢
  cases same with
  | @some n _ same =>
      rw [IsKept, if_pos joined] at same
      simp only [partCode_of_joined joined same, map_eq_pure_bind]

theorem partAt_first {t : Tag} {ds : List Node} (kept : List.Forall₂ IsKept cs gs)
    (here : gs[k]? = some (.element t ds)) (branch : t.isCompapply) :
    partAt o site cs gs k
        = partCode (.element t ds) <$> literal o (Site.rest^[k] site).first false (.element t ds) ∧
      targetSetAt cs k = (t.directiveOf .compapply).targetSet := by
  have same := getElem?_rel kept k
  rw [here] at same
  rw [partAt, here, targetSetAt]
  generalize cs[k]? = n? at same ⊢
  cases same with
  | @some n _ same =>
      have single : t.joined = false := by
        by_contra joined
        have none := not_isCompapply_of_joined (by simpa [isJoined] using joined) same
        rw [Node.isCompapply, branch] at none
        cases none
      rw [IsKept, isJoined, single] at same
      obtain ⟨es, rfl⟩ := eq_of_outline same
      exact ⟨by simp only [partCode, map_eq_pure_bind], rfl⟩

end

/-- A group begins with a branch that keeps its directive. -/
theorem mem_groups {k : Nat} {gs : List Node} {run : List Nat} (h : run ∈ groups k gs) :
    ∃ j t ds behind, gs.drop j = .element t ds :: behind ∧ t.isCompapply ∧
      run = (k + j) :: joinedTo (k + j + 1) behind := by
  induction gs generalizing k with
  | nil => cases h
  | cons m gs ih =>
      have later (h : run ∈ groups (k + 1) gs) : ∃ j t ds behind,
          (m :: gs).drop j = .element t ds :: behind ∧ t.isCompapply ∧
          run = (k + j) :: joinedTo (k + j + 1) behind := by
        obtain ⟨j, t, ds, behind, here, branch, rfl⟩ := ih h
        exact ⟨j + 1, t, ds, behind, here, branch, by rw [Nat.add_right_comm, Nat.add_assoc]⟩
      rw [groups] at h
      split at h
      · rename_i branch
        rcases List.mem_cons.mp h with rfl | h
        · cases m with
          | element t ds => exact ⟨0, t, ds, gs, rfl, branch, rfl⟩
          | document _ | text _ | comment _ | doctype _ | markup _ => cases branch
        · exact later h
      · exact later h

/-! ## Trees -/

/-- Some siblings `cs` and what becomes of them, `gs`, where branches are grouped. -/
structure Chosen (cs gs : List Node) : Prop where
  /-- The choices hold the branches, in order. -/
  branches : (choices cs).flatten = cs.findIdxs Node.isCompapply
  /-- What is taken in by branches are the choices. -/
  groups : groups 0 gs = choices cs
  /-- No sibling is added or taken away. -/
  length : gs.length = cs.length
  /-- The branches of a choice behind its first one are joined to it. Nothing else changes. -/
  kept : ∀ k n m, cs[k]? = some n → gs[k]? = some m → outline m =
    if k ∈ (choices cs).flatMap List.tail then (outline n).mapTag join else outline n
  /-- The code of the first branch of a choice has one part for each of its branches. -/
  code : ∀ (o : Options) (site : Site) (nested declare : Bool) (i : Nat) (is : List Nat),
    i :: is ∈ choices cs →
    firstCode o (Site.rest^[i] site) nested declare (gs.drop i) = do
      let parts ← (i :: is).mapM (partAt o site cs gs)
      return some (selectCode nested declare (targetSetAt cs i) parts)

mutual

/-- The lists of siblings below a node, outside of scripts. A document stands in no other
node. -/
def Node.childLists : Node → List (List Node)
  | .element t cs => if t.name == "script" then [] else cs :: childLists cs
  | _ => []

/-- The same for a list of siblings. -/
def childLists : List Node → List (List Node)
  | [] => []
  | c :: cs => Node.childLists c ++ childLists cs

end

/-- The choices hold all branches, in order. -/
theorem flatten_choices (k : Nat) (cs : List Node) :
    (positions (blocks isBranch (solid k cs))).flatten = cs.findIdxs Node.isCompapply k := by
  rw [positions, ← List.map_flatten, flatten_blocks]
  induction cs generalizing k with
  | nil => rfl
  | cons c cs ih =>
      rw [List.findIdxs_cons]
      by_cases gap : isGap c
      · have other : ¬ c.isCompapply := fun branch => by
          rw [isGap_of_isCompapply branch] at gap
          cases gap
        rw [solid_gap gap, ih, if_neg other]
      · rw [solid_other gap, List.filter_cons]
        by_cases branch : c.isCompapply
        · rw [if_pos branch, if_pos (show isBranch (c, k) from branch), List.map_cons, ih]
        · rw [if_neg branch, if_neg (show ¬ isBranch (c, k) from branch), ih]

/-- Grouping the branches of some siblings makes them choices. -/
theorem chosen_group {cs : List Node} (scripts : allTags isNoScriptBranch cs)
    (unjoined : allTags isUnjoined cs) : Chosen cs (group false cs) := by
  have outlines := outlines_group false cs unjoined
  have taken := (groups_group 0 cs scripts unjoined).1
  have joined : (group false cs).findIdxs isJoined = (choices cs).flatMap List.tail := by
    rw [(joined_group 0 cs scripts unjoined).1, taken]
    rfl
  refine ⟨flatten_choices 0 cs, taken, outlines.length_eq.symm, ?_, ?_⟩
  · intro k n m before after
    -- a node changes to the joined one just if it stands behind the first of its run
    have same := getElem?_rel outlines k
    rw [before, after] at same
    cases same with
    | some same =>
        obtain ⟨bound, rfl⟩ := List.getElem?_eq_some_iff.mp after
        rw [same, ← joined]
        simp only [List.mem_findIdxs_iff_pos_getElem bound]
  · intro o site nested declare i is run
    have run : i :: is ∈ groups 0 (group false cs) := by rwa [taken]
    obtain ⟨j, t, ds, behind, here, branch, same⟩ := mem_groups run
    rw [Nat.zero_add, List.cons.injEq] at same
    obtain ⟨rfl, rfl⟩ := same
    have at' (l : Nat) : (group false cs)[i + l]? = (.element t ds :: behind)[l]? := by
      rw [← here, List.getElem?_drop]
    -- the first branch gives the call, each further one an argument of it
    have first : partAt o site cs (group false cs) (i + 0) = _ ∧ _ :=
      partAt_first outlines (at' 0) branch
    rw [Nat.add_zero] at first
    have rest (l : Nat) (m : Node) (hm : behind[l]? = some m) (joined : isJoined m) :
        partAt o site cs (group false cs) (i + 1 + l)
          = joinedCode m <$> literal o (Site.rest^[i + 1 + l] site).first false m :=
      partAt_joined outlines (by rw [Nat.add_assoc, at', Nat.add_comm 1]; exact hm) joined
    rw [here, firstCode, elementCode_choice branch, ← Function.iterate_succ_apply' Site.rest,
      branches_eq (i + 1) behind rest, List.mapM_cons, first.1, first.2]
    simp only [map_eq_pure_bind, bind_assoc, pure_bind, selectCode, String.join_cons,
      String.join_nil, String.append_empty]

mutual

theorem Node.childLists_group : ∀ n : Node, Node.allTags isNoScriptBranch n →
    Node.allTags isUnjoined n →
    List.Forall₂ Chosen (Node.childLists n) (Node.childLists (Node.group n))
  | .element t cs, scripts, unjoined => by
      rw [allTags_element] at scripts unjoined
      rw [Node.group]
      split
      · rename_i script
        rw [Node.childLists, if_pos script]
        exact .nil
      · rename_i script
        rw [Node.childLists, Node.childLists, if_neg script, if_neg script]
        exact .cons (chosen_group scripts.2 unjoined.2)
          (childLists_group false cs scripts.2 unjoined.2)
  | .document _, _, _ | .text _, _, _ | .comment _, _, _ | .doctype _, _, _ | .markup _, _, _ =>
      .nil

theorem childLists_group (opened : Bool) : ∀ cs : List Node, allTags isNoScriptBranch cs →
    allTags isUnjoined cs → List.Forall₂ Chosen (childLists cs) (childLists (group opened cs))
  | [], _, _ => .nil
  | c :: cs, scripts, unjoined => by
      rw [allTags_cons] at scripts unjoined
      obtain ⟨f, opened', hf, same⟩ := group_cons opened c cs
      have own : Node.childLists (f (Node.group c)) = Node.childLists (Node.group c) := by
        rcases hf with rfl | ⟨rfl, -⟩
        · rfl
        · cases Node.group c with
          | element t ds => rw [Node.mapTag, Node.childLists, Node.childLists, name_join]
          | document _ | text _ | comment _ | doctype _ | markup _ => rfl
      rw [same, childLists, childLists, own]
      exact List.rel_append (Node.childLists_group c scripts.1 unjoined.1)
        (childLists_group opened' cs scripts.2 unjoined.2)

end

/-- Grouping goes through all siblings outside of scripts, at every depth, and makes the
longest runs of branches choices. -/
theorem group_choices {doc : Document} (scripts : allTags isNoScriptBranch doc)
    (unjoined : allTags isUnjoined doc) :
    List.Forall₂ Chosen (doc :: childLists doc)
      (group false doc :: childLists (group false doc)) :=
  .cons (chosen_group scripts unjoined) (childLists_group false doc scripts unjoined)

/-- A list with two choices. A branch of the first one holds another choice. -/
def nestedChoices : Document :=
  let branch (test : String) (cs : List Node) : Node :=
    .element { name := "li", attributes := [("yst", some "compapply"), ("ysttest", some test)] } cs
  [.element { name := "ul" }
    [branch "a" [], .comment "or", .text " \n",
     branch "b" [branch "c" [], .text " ", branch "d" [.text "x"]],
     branch "e" [], .text "and", branch "f" []]]

theorem group_choices_nestedChoices :
    List.Forall₂ Chosen (nestedChoices :: childLists nestedChoices)
        (group false nestedChoices :: childLists (group false nestedChoices)) ∧
      (nestedChoices :: childLists nestedChoices).map choices
        = [[], [[0, 3, 4], [6]], [], [[0, 2]], [], [], [], []] := by
  have scripts : allTags isNoScriptBranch nestedChoices := by decide +kernel
  have unjoined : allTags isUnjoined nestedChoices := by decide +kernel
  exact ⟨group_choices scripts unjoined, by decide +kernel⟩

end PageTemplates.Compile
