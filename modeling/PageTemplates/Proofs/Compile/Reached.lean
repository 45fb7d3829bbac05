import Mathlib.Data.List.Forall2
import PageTemplates.Proofs.Compile.Extracting
import PageTemplates.Proofs.Compile.Hoisting

/-!
# Elements that compiling reaches

Compiling goes through a tree from front to back. It passes over what is ignored, what
an inclusion stands for, and what is in a function without a name. An element with an
unknown directive stops it when it gets there, and a function is added when everything
in it is compiled. The main facts:

* `reached`, `innerFirst`: the elements that are not in a sealed one, in document order
  and with inner ones first;
* `met`: the unknown ones and the functions, in the order in which compiling deals
  with them;
* `walks`: what is met from one outermost element with a directive to the next, where
  the branches that are joined to another are met with that one;
* `walks_group`: grouping branches does not change what is met.
-/

namespace PageTemplates.Compile

open Markup

/-! ## Kinds of elements -/

/-- Whether an element has a directive of no known kind. -/
def isUnknown (t : Tag) : Bool := isTarget t && (DirectiveKind.ofWord? t.directiveWord).isNone

/-- Whether nothing in an element is compiled: it is ignored, includes something else, or
asks for a function but has no id. -/
def isSealed (t : Tag) : Bool :=
  match DirectiveKind.ofWord? t.directiveWord with
  | some .ignore | some .inclusion => true
  | some .declare | some .live => (functionName? t).isNone
  | _ => false

/-- Whether an element is compiled to a function: it asks for one and has an id. -/
def isHoisted (t : Tag) : Bool := isTarget t && isFunction t && (functionName? t).isSome

/-- Whether a node is an element with an unknown directive. -/
def Node.isUnknown : Node → Bool
  | .element t _ => Compile.isUnknown t
  | _ => false

/-- Whether a node is an element that is compiled to a function. -/
def Node.isHoisted : Node → Bool
  | .element t _ => Compile.isHoisted t
  | _ => false

/-- Whether a tag is as it was read, joined to no other branch. -/
def isUnjoined (t : Tag) : Bool := !t.joined

/-! ## Orders -/

mutual

/-- The elements at and below a node that are not in a sealed element, in document
order. -/
def Node.reached : Node → List Node
  | .element t cs => .element t cs :: if isSealed t then [] else reached cs
  | .document cs => reached cs
  | _ => []

/-- The same for a list of siblings. -/
def reached : List Node → List Node
  | [] => []
  | c :: cs => Node.reached c ++ reached cs

end

mutual

/-- The elements at and below a node that are not in a sealed element, inner ones
first. -/
def Node.innerFirst : Node → List Node
  | .element t cs => (if isSealed t then [] else innerFirst cs) ++ [.element t cs]
  | .document cs => innerFirst cs
  | _ => []

/-- The same for a list of siblings. -/
def innerFirst : List Node → List Node
  | [] => []
  | c :: cs => Node.innerFirst c ++ innerFirst cs

end

/-- What is met at an element with a directive, where `inside` is met in it and `others`
in the branches that are joined to it: an unknown one is met before what is in it, a
function behind that. -/
def metAt (t : Tag) (cs inside others : List Node) : List Node :=
  (if isUnknown t then [.element t cs] else []) ++
    ((if isSealed t then [] else inside ++ if t.isCompapply then others else []) ++
      if isHoisted t then [.element t cs] else [])

mutual

/-- The unknown elements and the functions that are met at and below a node. -/
def Node.met : Node → List Node
  | .element t cs => if isTarget t then metAt t cs (met cs) [] else met cs
  | .document cs => met cs
  | _ => []

/-- The same for a list of siblings. -/
def met : List Node → List Node
  | [] => []
  | c :: cs => Node.met c ++ met cs

end

mutual

/-- What is met below a node whose branches are grouped. -/
def Node.inside : Node → List Node
  | .element _ cs => (walks cs).flatten
  | .document cs => (walks cs).flatten
  | _ => []

/-- What is met at each of the outermost elements with directives at and below a node,
with `others` in the branches that are joined to the node. -/
def Node.walks (others : List Node) : Node → List (List Node)
  | .element t cs =>
      if isTarget t then [metAt t cs (walks cs).flatten others] else walks cs
  | .document cs => walks cs
  | _ => []

/-- The same for a list of siblings. -/
def walks : List Node → List (List Node)
  | [] => []
  | c :: cs => Node.walks (others cs) c ++ walks cs

/-- What is met in the branches that are joined to the one in front of some
siblings. -/
def others : List Node → List Node
  | [] => []
  | c :: cs =>
      if isJoined c then Node.inside c ++ others cs
      else if isGap c then others cs
      else []

end

/-! ## Tags -/

variable {t : Tag} {cs ds : List Node}

theorem isUnknown_of_not_isTarget (h : ¬ isTarget t) : isUnknown t = false := by
  simp [isUnknown, h]

theorem isHoisted_of_not_isTarget (h : ¬ isTarget t) : isHoisted t = false := by
  simp [isHoisted, h]

/-- A function is known. -/
theorem not_isUnknown_of_isHoisted (h : isHoisted t) : isUnknown t = false := by
  simp only [isHoisted, Bool.and_eq_true] at h
  have function := h.1.2
  unfold isFunction at function
  unfold isUnknown
  cases hk : DirectiveKind.ofWord? t.directiveWord with
  | none => rw [hk] at function; cases function
  | some kind => exact Bool.and_false _

/-- What is met at an element with a directive of a known kind. -/
theorem metAt_eq (target : isTarget t) {kind : DirectiveKind}
    (hk : DirectiveKind.ofWord? t.directiveWord = some kind) (inside others : List Node) :
    metAt t cs inside others =
      match kind with
      | .ignore | .inclusion => []
      | .declare | .live => if (functionName? t).isSome then inside ++ [.element t cs] else []
      | .compapply => inside ++ others
      | _ => inside := by
  cases kind <;> cases name : functionName? t <;>
    simp [metAt, isUnknown, isSealed, isHoisted, isFunction, Tag.isCompapply, target, hk, name]

/-- A branch of a choice is neither unknown nor sealed nor a function. -/
theorem metAt_of_isCompapply (branch : t.isCompapply) (inside others : List Node) :
    metAt t cs inside others = inside ++ others := by
  have kind : DirectiveKind.ofWord? t.directiveWord = some .compapply := by
    simpa [Tag.isCompapply] using branch
  simp [metAt, isUnknown, isSealed, isHoisted, isFunction, branch, kind]

/-- A branch that is joined to another is met with that one, and not once more. -/
theorem metAt_join (inside others : List Node) : metAt (join t) cs inside others = [] := by
  have word := directiveWord_join t
  have kind : DirectiveKind.ofWord? "ignore" = some .ignore := rfl
  simp [metAt, isUnknown, isSealed, isHoisted, isFunction, word, kind]

/-- Only branches have others joined to them. -/
theorem metAt_of_not_isCompapply (other : ¬ t.isCompapply) (inside others : List Node) :
    metAt t cs inside others = metAt t cs inside [] := by
  simp [metAt, other]

theorem isSealed_of_not_isDirective (h : t.isDirective = false) : isSealed t = false := by
  have none : t.directiveWord = "" := by simpa [Tag.isDirective] using h
  unfold isSealed
  rw [none]
  rfl

/-! ## What is met -/

theorem met_of_isText (text : cs.all Node.isText) : met cs = [] := by
  induction cs with
  | nil => rfl
  | cons c cs ih =>
      rw [List.all_cons, Bool.and_eq_true] at text
      rw [met, ih text.2]
      cases c with
      | text s => rfl
      | element _ _ | document _ | comment _ | doctype _ | markup _ => cases text.1

theorem walks_of_isText (text : cs.all Node.isText) : walks cs = [] := by
  induction cs with
  | nil => rfl
  | cons c cs ih =>
      rw [List.all_cons, Bool.and_eq_true] at text
      rw [walks, ih text.2]
      cases c with
      | text s => rfl
      | element _ _ | document _ | comment _ | doctype _ | markup _ => cases text.1

theorem reached_of_isText (text : cs.all Node.isText) : reached cs = [] ∧ innerFirst cs = [] := by
  induction cs with
  | nil => exact ⟨rfl, rfl⟩
  | cons c cs ih =>
      rw [List.all_cons, Bool.and_eq_true] at text
      rw [reached, innerFirst, (ih text.2).1, (ih text.2).2]
      cases c with
      | text s => exact ⟨rfl, rfl⟩
      | element _ _ | document _ | comment _ | doctype _ | markup _ => cases text.1

mutual

theorem Node.met_kinds : ∀ n : Node, ∀ m ∈ Node.met n, Node.isUnknown m ∨ Node.isHoisted m
  | .element t cs => by
      have below := met_kinds cs
      intro m hm
      rw [Node.met] at hm
      split at hm
      · unfold metAt at hm
        simp only [List.mem_append] at hm
        rcases hm with own | inner | own
        · split at own
          · rename_i unknown
            rw [List.mem_singleton.mp own]
            exact .inl unknown
          · cases own
        · split at inner
          · cases inner
          · simp only [ite_self, List.append_nil] at inner
            exact below m inner
        · split at own
          · rename_i hoisted
            rw [List.mem_singleton.mp own]
            exact .inr hoisted
          · cases own
      · exact below m hm
  | .document cs => met_kinds cs
  | .text _ | .comment _ | .doctype _ | .markup _ => fun _ hm => by cases hm

/-- Only unknown elements and functions are met. -/
theorem met_kinds : ∀ cs : List Node, ∀ m ∈ met cs, Node.isUnknown m ∨ Node.isHoisted m
  | [] => fun _ hm => by cases hm
  | c :: cs => by
      rw [met, List.forall_mem_append]
      exact ⟨Node.met_kinds c, met_kinds cs⟩

end

mutual

theorem Node.filter_met : ∀ n : Node, Node.plainScripts n →
    (Node.met n).filter Node.isUnknown = (Node.reached n).filter Node.isUnknown ∧
    (Node.met n).filter Node.isHoisted = (Node.innerFirst n).filter Node.isHoisted
  | .element t cs, plain => by
      rw [plainScripts_element] at plain
      obtain ⟨unknown, hoisted⟩ := filter_met cs plain.2
      have known : Compile.isHoisted t → Compile.isUnknown t = false := not_isUnknown_of_isHoisted
      rw [Node.met, Node.reached, Node.innerFirst]
      split
      · rename_i target
        unfold metAt
        -- sealed, unknown and hoisted: which of the parts of `metAt` are there depends on these
        cases hs : isSealed t <;> cases hu : Compile.isUnknown t <;>
          cases hh : Compile.isHoisted t <;>
          simp_all [Node.isUnknown, Node.isHoisted]
      · rename_i target
        have quiet := isUnknown_of_not_isTarget target
        have still := isHoisted_of_not_isTarget target
        by_cases script : t.name = "script"
        · have text := plain.1 script
          rw [(reached_of_isText text).1, (reached_of_isText text).2, met_of_isText text]
          simp [Node.isUnknown, Node.isHoisted, quiet, still]
        · have plainTag : t.isDirective = false := by simpa [isTarget, script] using target
          simp [Node.isUnknown, Node.isHoisted, quiet, still, unknown, hoisted,
            isSealed_of_not_isDirective plainTag]
  | .document cs, plain => filter_met cs plain
  | .text _, _ | .comment _, _ | .doctype _, _ | .markup _, _ => ⟨rfl, rfl⟩

/-- Unknown elements are met in document order, and functions with inner ones first. -/
theorem filter_met : ∀ cs : List Node, plainScripts cs →
    (met cs).filter Node.isUnknown = (reached cs).filter Node.isUnknown ∧
    (met cs).filter Node.isHoisted = (innerFirst cs).filter Node.isHoisted
  | [], _ => ⟨rfl, rfl⟩
  | c :: cs, plain => by
      rw [plainScripts_cons] at plain
      obtain ⟨unknown, hoisted⟩ := Node.filter_met c plain.1
      obtain ⟨unknown', hoisted'⟩ := filter_met cs plain.2
      rw [met, reached, innerFirst, List.filter_append, List.filter_append, List.filter_append,
        List.filter_append, unknown, unknown', hoisted, hoisted']
      exact ⟨rfl, rfl⟩

end

/-- The first unknown element that is met is the first in document order. -/
theorem find?_met (plain : plainScripts cs) :
    (met cs).find? Node.isUnknown = (reached cs).find? Node.isUnknown := by
  rw [← List.head?_filter, ← List.head?_filter, (filter_met cs plain).1]

/-- Without unknown elements only the functions are met, inner ones first. -/
theorem met_eq_hoisted (plain : plainScripts cs) (known : (met cs).find? Node.isUnknown = none) :
    met cs = (innerFirst cs).filter Node.isHoisted := by
  rw [← (filter_met cs plain).2, eq_comm, List.filter_eq_self]
  intro m hm
  exact (met_kinds cs m hm).resolve_left (List.find?_eq_none.mp known m hm)

/-! ## Grouped branches -/

/-- A node as it is found once choices are grouped: the branches in it are, unless it is in a
document inside of another one. -/
def IsGrouped (n m : Node) : Prop := m = n ∨ m = Node.group n

theorem isGrouped_element (t : Tag) (cs : List Node) (other : t.name ≠ "script") :
    IsGrouped (.element t cs) (.element t (group false cs)) :=
  .inr (by rw [Node.group, if_neg (by simpa using other)])

/-- What is met at an element whose branches are grouped. -/
theorem metAt_isGrouped {inside inside' : List Node}
    (whole : IsGrouped (.element t cs) (.element t ds))
    (h : List.Forall₂ IsGrouped inside inside') :
    List.Forall₂ IsGrouped (metAt t cs inside []) (metAt t ds inside' []) := by
  have own (b : Bool) : List.Forall₂ IsGrouped (if b then [.element t cs] else [])
      (if b then [.element t ds] else []) := by
    cases b with
    | true => exact .cons whole .nil
    | false => exact .nil
  unfold metAt
  refine List.rel_append (own _) (List.rel_append ?_ (own _))
  split
  · exact .nil
  · simpa using h

theorem isJoined_group (n : Node) : isJoined (Node.group n) = isJoined n := by
  cases n with
  | element t cs =>
      rw [Node.group]
      split <;> rfl
  | document _ | text _ | comment _ | doctype _ | markup _ => rfl

theorem isGap_group (n : Node) : isGap (Node.group n) = isGap n := by
  cases n with
  | element t cs =>
      rw [Node.group]
      split <;> rfl
  | document _ | text _ | comment _ | doctype _ | markup _ => rfl

theorem isGap_of_isCompapply {n : Node} (branch : n.isCompapply) : isGap n = false := by
  cases n with
  | element t cs => rfl
  | document _ | text _ | comment _ | doctype _ | markup _ => cases branch

theorem Node.name_group (n : Node) : (Node.group n).name = n.name := by
  cases n with
  | element t cs =>
      rw [Node.group]
      split <;> rfl
  | document _ | text _ | comment _ | doctype _ | markup _ => rfl

section

variable {c : Node} {cs : List Node}

theorem group_true_gap (gap : isGap c) : group true (c :: cs) = Node.group c :: group true cs := by
  rw [group, gap]
  rfl

theorem group_true_branch (branch : c.isCompapply) :
    group true (c :: cs) = (Node.group c).mapTag join :: group true cs := by
  rw [group, isGap_of_isCompapply branch, branch]
  rfl

theorem group_true_other (gap : ¬ isGap c) (branch : ¬ c.isCompapply) :
    group true (c :: cs) = Node.group c :: group false cs := by
  rw [group, if_neg (by simp [gap]), if_neg branch]

theorem group_false_branch (branch : c.isCompapply) :
    group false (c :: cs) = Node.group c :: group (c.name != "script") cs := by
  rw [group, branch]
  rfl

theorem group_false_other (branch : ¬ c.isCompapply) :
    group false (c :: cs) = Node.group c :: group false cs := by
  rw [group, if_neg (by simp), if_neg branch]

theorem walks_cons (c : Node) : (walks (c :: cs)).flatten
    = (Node.walks (others cs) c).flatten ++ (walks cs).flatten := by
  rw [walks, List.flatten_append]

end

theorem isJoined_of_unjoined {n : Node} (unjoined : Node.allTags isUnjoined n) :
    isJoined n = false := by
  cases n with
  | element t cs => simpa [isUnjoined, isJoined] using (allTags_element.mp unjoined).1
  | document _ | text _ | comment _ | doctype _ | markup _ => rfl

theorem isJoined_mapTag {n : Node} (branch : n.isCompapply) : isJoined (n.mapTag join) := by
  cases n with
  | element t cs => rfl
  | document _ | text _ | comment _ | doctype _ | markup _ => cases branch

theorem inside_mapTag (n : Node) : Node.inside (n.mapTag join) = Node.inside n := by
  cases n with
  | element t cs => rw [Node.mapTag, Node.inside, Node.inside]
  | document _ | text _ | comment _ | doctype _ | markup _ => rfl

/-- Nothing is met at a branch that is joined to another. -/
theorem walks_mapTag {n : Node} (branch : n.isCompapply) (plain : Node.plainScripts n)
    (others : List Node) : (Node.walks others (n.mapTag join)).flatten = [] := by
  cases n with
  | element t cs =>
      rw [Node.mapTag, Node.walks]
      split
      · rw [metAt_join]
        rfl
      · rename_i target
        -- only a script is no target then, and it holds only text
        have directive : (join t).isDirective := by
          rw [Tag.isDirective, directiveWord_join]
          rfl
        have script : t.name = "script" := by simpa [isTarget, name_join, directive] using target
        rw [walks_of_isText ((plainScripts_element.mp plain).1 script)]
        rfl
  | document _ | text _ | comment _ | doctype _ | markup _ => cases branch

/-- What is met at a node with `others` in the branches that are joined to it. -/
theorem walks_others (n : Node) (others : List Node) (plain : Node.plainScripts n) :
    (Node.walks others n).flatten
      = if n.isCompapply && n.name != "script" then Node.inside n ++ others
        else (Node.walks [] n).flatten := by
  cases n with
  | element t cs =>
      by_cases branch : t.isCompapply
      · by_cases script : t.name = "script"
        · have none : ¬ isTarget t := by simp [isTarget, script]
          simp [Node.walks, none, Node.name, script]
        · have target := (isTarget_of_branch (by simp [isNoScriptBranch, script]) branch).1
          simp [Node.walks, target, metAt_of_isCompapply branch, Node.isCompapply, branch,
            Node.name, script, Node.inside]
      · simp only [Node.walks, metAt_of_not_isCompapply branch _ others, Node.isCompapply, branch,
          Bool.false_and, Bool.false_eq_true, if_false]
  | document _ | text _ | comment _ | doctype _ | markup _ => rfl

mutual

theorem Node.walks_unjoined : ∀ n : Node, Node.allTags isUnjoined n →
    (Node.walks [] n).flatten = Node.met n
  | .element t cs, unjoined => by
      have below := (walks_unjoined cs (allTags_element.mp unjoined).2).2
      rw [Node.walks, Node.met]
      split
      · rw [below, List.flatten_singleton]
      · exact below
  | .document cs, unjoined => (walks_unjoined cs unjoined).2
  | .text _, _ | .comment _, _ | .doctype _, _ | .markup _, _ => rfl

/-- Where no branches are joined, each is met on its own. -/
theorem walks_unjoined : ∀ cs : List Node, allTags isUnjoined cs →
    others cs = [] ∧ (walks cs).flatten = met cs
  | [], _ => ⟨rfl, rfl⟩
  | c :: cs, unjoined => by
      rw [allTags_cons] at unjoined
      obtain ⟨none, behind⟩ := walks_unjoined cs unjoined.2
      rw [others, walks, none, isJoined_of_unjoined unjoined.1, List.flatten_append, behind,
        Node.walks_unjoined c unjoined.1, met]
      simp

end

theorem forall₂_isGrouped_refl (ns : List Node) : List.Forall₂ IsGrouped ns ns :=
  List.forall₂_same.mpr fun _ _ => .inl rfl

/-- A branch of a choice is met as what is in it. -/
theorem met_of_isCompapply {n : Node} (branch : n.isCompapply) : Node.met n = met n.children := by
  cases n with
  | element t cs =>
      rw [Node.met, metAt_of_isCompapply branch, List.append_nil, ite_self, Node.children]
  | document _ | text _ | comment _ | doctype _ | markup _ => cases branch

theorem walks_of_isGap {n : Node} (gap : isGap n) (others : List Node) :
    (Node.walks others n).flatten = [] := by
  cases n with
  | element _ _ | document _ | doctype _ | markup _ => cases gap
  | text _ | comment _ => rfl

theorem met_of_isGap {n : Node} (gap : isGap n) : Node.met n = [] := by
  cases n with
  | element _ _ | document _ | doctype _ | markup _ => cases gap
  | text _ | comment _ => rfl

mutual

theorem Node.walks_group : ∀ n : Node, Node.allTags isUnjoined n → Node.plainScripts n →
    List.Forall₂ IsGrouped (met n.children) (Node.inside (Node.group n)) ∧
      List.Forall₂ IsGrouped (Node.met n) (Node.walks [] (Node.group n)).flatten
  | .element t cs, unjoined, plain => by
      rw [allTags_element] at unjoined
      rw [plainScripts_element] at plain
      rw [Node.group, Node.children, Node.met]
      split
      · rename_i script
        have text := plain.1 (by simpa using script)
        -- inside a script stands only text, and nothing is met in it
        have none : ¬ isTarget t := by simp [isTarget, beq_iff_eq.mp script]
        rw [Node.inside, Node.walks, if_neg none, if_neg none, walks_of_isText text,
          met_of_isText text]
        exact ⟨.nil, .nil⟩
      · rename_i script
        have below := walks_group false cs unjoined.2 plain.2
        rw [if_neg Bool.false_ne_true, List.nil_append] at below
        rw [Node.inside, Node.walks]
        refine ⟨below, ?_⟩
        split
        · rw [List.flatten_singleton]
          exact metAt_isGrouped (isGrouped_element t cs (by simpa using script)) below
        · exact below
  | .document cs, unjoined, _ => by
      have below := (walks_unjoined cs unjoined).2
      rw [Node.group, Node.children, Node.met, Node.inside, Node.walks, below]
      · exact ⟨forall₂_isGrouped_refl _, forall₂_isGrouped_refl _⟩
      all_goals intros; contradiction
  | .text _, _, _ | .comment _, _, _ | .doctype _, _, _ | .markup _, _, _ => ⟨.nil, .nil⟩

/-- Where the branches of choices are grouped, the same is met as without: those that are
joined to another are met with it, and these are the next. -/
theorem walks_group (opened : Bool) : ∀ cs : List Node, allTags isUnjoined cs → plainScripts cs →
    List.Forall₂ IsGrouped (met cs)
      ((if opened then others (group opened cs) else []) ++ (walks (group opened cs)).flatten)
  | [], _, _ => by cases opened <;> exact .nil
  | c :: cs, unjoined, plain => by
      rw [allTags_cons] at unjoined
      rw [plainScripts_cons] at plain
      obtain ⟨inside, here⟩ := Node.walks_group c unjoined.1 plain.1
      have single := isJoined_of_unjoined unjoined.1
      have plain' := Node.plainScripts_group c plain.1
      -- the siblings behind this one, where its choice goes on and where it has ended
      have goesOn := walks_group true cs unjoined.2 plain.2
      have begins := walks_group false cs unjoined.2 plain.2
      rw [if_pos rfl] at goesOn
      rw [if_neg Bool.false_ne_true, List.nil_append] at begins
      cases opened with
      | false =>
          rw [if_neg Bool.false_ne_true, List.nil_append, met]
          by_cases branch : c.isCompapply
          · -- a branch that others may be joined to, unless it is a script
            rw [group_false_branch branch, walks_cons, walks_others _ _ plain',
              Node.isCompapply_group, branch, Node.name_group, Bool.true_and]
            cases other : c.name != "script" with
            | true =>
                rw [if_pos rfl, List.append_assoc, met_of_isCompapply branch]
                exact List.rel_append inside goesOn
            | false =>
                rw [if_neg Bool.false_ne_true]
                exact List.rel_append here begins
          · rw [group_false_other branch, walks_cons, walks_others _ _ plain',
              Node.isCompapply_group, if_neg (by simp [branch])]
            exact List.rel_append here begins
      | true =>
          rw [if_pos rfl]
          by_cases gap : isGap c
          · -- what may stand between branches
            have nothing (others : List Node) : (Node.walks others (Node.group c)).flatten = [] :=
              walks_of_isGap (by rwa [isGap_group]) others
            rw [group_true_gap gap, walks_cons, nothing, others, isJoined_group, single,
              isGap_group, gap, met, met_of_isGap gap]
            exact goesOn
          by_cases branch : c.isCompapply
          · -- a branch that is joined to the one before
            have branch' : (Node.group c).isCompapply := by rwa [Node.isCompapply_group]
            rw [group_true_branch branch, walks_cons, walks_mapTag branch' plain', others,
              isJoined_mapTag branch', if_pos rfl, inside_mapTag, List.nil_append,
              List.append_assoc, met, met_of_isCompapply branch]
            exact List.rel_append inside goesOn
          · -- something else, which ends the choice
            rw [group_true_other gap branch, others, isJoined_group, single, isGap_group,
              if_neg Bool.false_ne_true, if_neg gap, List.nil_append, walks_cons,
              walks_others _ _ plain', Node.isCompapply_group, if_neg (by simp [branch]), met]
            exact List.rel_append here begins

end

end PageTemplates.Compile
