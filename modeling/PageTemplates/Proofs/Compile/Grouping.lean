import PageTemplates.Compile.Inline

/-!
# What grouping keeps

Grouping the branches of choices changes nothing but the tags of branches that
are joined to the one before them. The main facts:

* `Tidy q`: a condition on trees that their siblings and children inherit;
* `group_cons`: how grouping goes from sibling to sibling;
* `allTags_group`, `plainScripts_group`: conditions on trees that it keeps;
* `findPath?_group`: elements of a name are where they were.
-/

namespace PageTemplates.Compile

open Markup

/-! ## Conditions on trees -/

mutual

/-- Whether all tags at and below a node satisfy `p`. -/
def Node.allTags (p : Tag → Bool) : Node → Bool
  | .element t cs => p t && allTags p cs
  | .document cs => allTags p cs
  | _ => true

/-- Whether all tags in a list of siblings, and below, satisfy `p`. -/
def allTags (p : Tag → Bool) : List Node → Bool
  | [] => true
  | c :: cs => Node.allTags p c && allTags p cs

end

theorem allTags_element {p : Tag → Bool} {t : Tag} {cs : List Node} :
    Node.allTags p (.element t cs) ↔ p t ∧ allTags p cs := by
  rw [Node.allTags, Bool.and_eq_true]

theorem allTags_cons {p : Tag → Bool} {c : Node} {cs : List Node} :
    allTags p (c :: cs) ↔ Node.allTags p c ∧ allTags p cs := by
  rw [allTags, Bool.and_eq_true]

def Node.isText : Node → Bool
  | .text _ => true
  | _ => false

mutual

/-- Whether the scripts at and below a node hold nothing but text. -/
def Node.plainScripts : Node → Bool
  | .element t cs => (t.name != "script" || cs.all Node.isText) && plainScripts cs
  | .document cs => plainScripts cs
  | _ => true

/-- Whether the scripts in a list of siblings, and below, hold nothing but
text. -/
def plainScripts : List Node → Bool
  | [] => true
  | c :: cs => Node.plainScripts c && plainScripts cs

end

theorem plainScripts_cons {c : Node} {cs : List Node} :
    plainScripts (c :: cs) ↔ Node.plainScripts c ∧ plainScripts cs := by
  rw [plainScripts, Bool.and_eq_true]

theorem plainScripts_element {t : Tag} {cs : List Node} :
    Node.plainScripts (.element t cs) ↔
      (t.name = "script" → cs.all Node.isText) ∧ plainScripts cs := by
  rw [Node.plainScripts, Bool.and_eq_true, Bool.or_eq_true, bne_iff_ne, ← Decidable.imp_iff_not_or]

/-- All tags satisfy `q`, and scripts hold nothing but text. -/
structure Tidy (q : Tag → Bool) (ns : List Node) : Prop where
  tags : allTags q ns
  scripts : plainScripts ns

section Tidy

variable {q : Tag → Bool} {ns ms : List Node}

theorem Tidy.nil : Tidy q [] := ⟨rfl, rfl⟩

theorem tidy_singleton {n : Node} : Tidy q [n] ↔ Node.allTags q n ∧ Node.plainScripts n := by
  constructor
  · rintro ⟨tags, scripts⟩
    exact ⟨(allTags_cons.mp tags).1, (plainScripts_cons.mp scripts).1⟩
  · rintro ⟨tags, scripts⟩
    exact ⟨allTags_cons.mpr ⟨tags, rfl⟩, plainScripts_cons.mpr ⟨scripts, rfl⟩⟩

theorem tidy_cons {n : Node} : Tidy q (n :: ns) ↔ Tidy q [n] ∧ Tidy q ns := by
  rw [tidy_singleton]
  constructor
  · rintro ⟨tags, scripts⟩
    rw [allTags_cons] at tags
    rw [plainScripts_cons] at scripts
    exact ⟨⟨tags.1, scripts.1⟩, ⟨tags.2, scripts.2⟩⟩
  · rintro ⟨⟨tags, scripts⟩, ⟨tags', scripts'⟩⟩
    exact ⟨allTags_cons.mpr ⟨tags, tags'⟩, plainScripts_cons.mpr ⟨scripts, scripts'⟩⟩

theorem tidy_append : Tidy q (ns ++ ms) ↔ Tidy q ns ∧ Tidy q ms := by
  induction ns with
  | nil => exact ⟨fun h => ⟨.nil, h⟩, fun h => h.2⟩
  | cons n ns ih =>
      rw [List.cons_append, tidy_cons, ih, ← and_assoc]
      exact and_congr_left' tidy_cons.symm

theorem tidy_iff : Tidy q ns ↔ ∀ n ∈ ns, Tidy q [n] := by
  induction ns with
  | nil => exact ⟨fun _ n hn => by (cases hn), fun _ => .nil⟩
  | cons n ns ih => rw [tidy_cons, ih, List.forall_mem_cons]

theorem Tidy.reverse (h : Tidy q ns) : Tidy q ns.reverse :=
  tidy_iff.mpr fun n hn => tidy_iff.mp h n (List.mem_reverse.mp hn)

theorem tidy_element {t : Tag} {cs : List Node} : Tidy q [.element t cs] ↔
    q t ∧ (t.name = "script" → cs.all Node.isText) ∧ Tidy q cs := by
  rw [tidy_singleton, allTags_element, plainScripts_element]
  constructor
  · rintro ⟨⟨tag, tags⟩, text, scripts⟩
    exact ⟨tag, text, tags, scripts⟩
  · rintro ⟨tag, text, tags, scripts⟩
    exact ⟨⟨tag, tags⟩, text, scripts⟩

theorem tidy_document {cs : List Node} : Tidy q [.document cs] ↔ Tidy q cs := by
  rw [tidy_singleton]
  exact ⟨fun h => ⟨h.1, h.2⟩, fun h => ⟨h.tags, h.scripts⟩⟩

end Tidy

/-! ## Setting attributes -/

theorem find?_setFirst {name : String} {v : Option String} {as : List Attribute}
    (h : as.any (·.1 == name)) : (Tag.setFirst name v as).find? (·.1 == name) = some (name, v) := by
  induction as with
  | nil => cases h
  | cons a as ih =>
      rw [List.any_cons, Bool.or_eq_true] at h
      unfold Tag.setFirst
      by_cases ha : a.1 == name
      · simp [ha]
      · have := ih (h.resolve_left ha)
        simp [ha, this]

/-- An attribute that was set has the value it was set to. -/
theorem value_set (t : Tag) (name v : String) : (t.set name (some v)).value name = v := by
  unfold Tag.set Tag.value Tag.get?
  split
  · rename_i h
    simp [find?_setFirst (v := some v) h]
  · rename_i h
    have none : t.attributes.find? (·.1 == name) = none := by
      rw [List.find?_eq_none]
      intro a ha hn
      exact h (List.any_eq_true.mpr ⟨a, ha, hn⟩)
    simp [List.find?_append, none]

theorem find?_setFirst_of_ne {name other : String} (h : name ≠ other) (v : Option String)
    (as : List Attribute) :
    (Tag.setFirst name v as).find? (·.1 == other) = as.find? (·.1 == other) := by
  induction as with
  | nil => rfl
  | cons a as ih =>
      unfold Tag.setFirst
      split
      · rename_i ha
        rw [beq_iff_eq] at ha
        simp [ha, h]
      · rw [List.find?_cons, List.find?_cons, ih]

/-- The other attributes keep their values. -/
theorem value_set_of_ne {name other : String} (h : name ≠ other) (t : Tag) (v : Option String) :
    (t.set name v).value other = t.value other := by
  unfold Tag.set Tag.value Tag.get?
  split
  · dsimp only
    rw [find?_setFirst_of_ne h]
  · simp [List.find?_append, h]

theorem name_set (t : Tag) (name : String) (v : Option String) : (t.set name v).name = t.name := by
  unfold Tag.set
  split <;> rfl

theorem page_set (t : Tag) (name : String) (v : Option String) : (t.set name v).page = t.page := by
  unfold Tag.set
  split <;> rfl

theorem directiveWord_join (t : Tag) : (join t).directiveWord = "ignore" := by
  have h : (join t).value "yst" = "ignore" := value_set t "yst" "ignore"
  unfold Tag.directiveWord
  rw [h]
  decide +kernel

theorem name_join (t : Tag) : (join t).name = t.name := name_set t "yst" (some "ignore")

/-! ## What grouping keeps -/

theorem allTags_mapTag {p : Tag → Bool} (hp : ∀ t, t.isCompapply → p t → p (join t)) {n : Node}
    (branch : n.isCompapply) (h : Node.allTags p n) : Node.allTags p (n.mapTag join) := by
  cases n with
  | element t cs =>
      rw [allTags_element] at h
      rw [Node.mapTag, allTags_element]
      exact ⟨hp t branch h.1, h.2⟩
  | document _ | text _ | comment _ | doctype _ | markup _ => exact h

/-- Grouping goes from sibling to sibling, and joins branches. -/
theorem group_cons (opened : Bool) (c : Node) (cs : List Node) : ∃ f opened',
    (f = id ∨ f = Node.mapTag join ∧ c.isCompapply) ∧
      group opened (c :: cs) = f (Node.group c) :: group opened' cs := by
  rw [group]
  split
  · exact ⟨id, true, .inl rfl, rfl⟩
  split
  · rename_i branch
    split
    · exact ⟨_, true, .inr ⟨rfl, branch⟩, rfl⟩
    · exact ⟨id, _, .inl rfl, rfl⟩
  · exact ⟨id, false, .inl rfl, rfl⟩

theorem Node.isCompapply_group (n : Node) : (Node.group n).isCompapply = n.isCompapply := by
  cases n with
  | element t cs =>
      rw [Node.group]
      split <;> rfl
  | document _ | text _ | comment _ | doctype _ | markup _ => rfl

mutual

theorem Node.allTags_group {p : Tag → Bool} (hp : ∀ t, t.isCompapply → p t → p (join t)) :
    ∀ n, Node.allTags p n → Node.allTags p (Node.group n)
  | .element t cs, h => by
      rw [Node.group]
      split
      · exact h
      · rw [allTags_element] at h ⊢
        exact ⟨h.1, allTags_group hp false cs h.2⟩
  | .document _, h | .text _, h | .comment _, h | .doctype _, h | .markup _, h => h

theorem allTags_group {p : Tag → Bool} (hp : ∀ t, t.isCompapply → p t → p (join t)) :
    ∀ opened cs, allTags p cs → allTags p (group opened cs)
  | _, [], _ => rfl
  | opened, c :: cs, h => by
      rw [allTags_cons] at h
      have here := Node.allTags_group hp c h.1
      obtain ⟨f, opened', hf, hg⟩ := group_cons opened c cs
      rw [hg, allTags_cons]
      refine ⟨?_, allTags_group hp opened' cs h.2⟩
      rcases hf with rfl | ⟨rfl, branch⟩
      · exact here
      · rw [← Node.isCompapply_group] at branch
        exact allTags_mapTag hp branch here

end

theorem plainScripts_mapTag {n : Node} (h : Node.plainScripts n) :
    Node.plainScripts (n.mapTag join) := by
  cases n with
  | element t cs =>
      rw [Node.mapTag, Node.plainScripts, name_join]
      rwa [Node.plainScripts] at h
  | document _ | text _ | comment _ | doctype _ | markup _ => exact h

mutual

theorem Node.plainScripts_group : ∀ n, Node.plainScripts n → Node.plainScripts (Node.group n)
  | .element t cs, h => by
      rw [Node.group]
      split
      · exact h
      · rename_i script
        rw [Node.plainScripts, Bool.and_eq_true] at h ⊢
        refine ⟨?_, plainScripts_group false cs h.2⟩
        rw [Bool.or_eq_true]
        exact .inl (by simpa using script)
  | .document _, h | .text _, h | .comment _, h | .doctype _, h | .markup _, h => h

theorem plainScripts_group : ∀ opened cs, plainScripts cs → plainScripts (group opened cs)
  | _, [], _ => rfl
  | opened, c :: cs, h => by
      rw [plainScripts_cons] at h
      have here := Node.plainScripts_group c h.1
      obtain ⟨f, opened', hf, hg⟩ := group_cons opened c cs
      rw [hg, plainScripts_cons]
      refine ⟨?_, plainScripts_group opened' cs h.2⟩
      rcases hf with rfl | ⟨rfl, -⟩
      · exact here
      · exact plainScripts_mapTag here

end

theorem findPath?_mapTag (name : String) (n : Node) :
    (n.mapTag join).findPath? (Tag.isNamed name) = n.findPath? (Tag.isNamed name) := by
  cases n with
  | element t cs =>
      rw [Node.mapTag, Node.findPath?, Node.findPath?, Tag.isNamed, Tag.isNamed, name_join]
  | document _ | text _ | comment _ | doctype _ | markup _ => rfl

mutual

theorem Node.findPath?_group (name : String) :
    ∀ n, (Node.group n).findPath? (Tag.isNamed name) = n.findPath? (Tag.isNamed name)
  | .element t cs => by
      rw [Node.group]
      split
      · rfl
      · rw [Node.findPath?, Node.findPath?, findPath?_group name false cs]
  | .document _ | .text _ | .comment _ | .doctype _ | .markup _ => rfl

/-- Elements of a name are where they were. -/
theorem findPath?_group (name : String) :
    ∀ opened cs, findPath? (Tag.isNamed name) (group opened cs) = findPath? (Tag.isNamed name) cs
  | _, [] => rfl
  | opened, c :: cs => by
      have here := Node.findPath?_group name c
      obtain ⟨f, opened', hf, hg⟩ := group_cons opened c cs
      have same : (f (Node.group c)).findPath? (Tag.isNamed name)
          = c.findPath? (Tag.isNamed name) := by
        rcases hf with rfl | ⟨rfl, -⟩
        · exact here
        · rw [findPath?_mapTag, here]
      rw [hg, findPath?, findPath?, same, findPath?_group name opened' cs]

end

end PageTemplates.Compile
