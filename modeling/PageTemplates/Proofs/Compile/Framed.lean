import PageTemplates.Proofs.Compile.Observing
import PageTemplates.Proofs.Compile.Splitting
import PageTemplates.Proofs.Markup.Siblings

/-!
# Pages with one head and one body

A page whose `<html>` has one head and one body among its children keeps this
frame while its body is split off: the body is found where it stands, functions
gather at the end of the head, and everything else is ordinary. The main facts:

* `Headed q codes ns`: the siblings `ns` have one head, which ends with the
  functions `codes`, and all other tags satisfy `q`;
* `Framed codes html b doc`: a page with this `<html>`, such a head and the body
  `b`;
* `Framed.body`, `Framed.place`, `Framed.prepare`: the body is found and changed,
  functions are added, the page is readied;
* `Holds codes html doc`: the same of a page whose body is compiled as one of its
  elements with directives, which `Holds.compile` says compiling keeps.
-/

namespace PageTemplates.Compile

open Markup

/-! ## Tags of a page -/

/-- A change keeps a condition on all tags, if what an element is replaced by
satisfies it. -/
theorem allTags_of_changed {p q : Tag → Bool} {f : Node → List Node} {ns ms : List Node}
    (h : Changed p f ns ms)
    (here : ∀ t cs, p t → Node.allTags q (.element t cs) → allTags q (f (.element t cs)))
    (all : allTags q ns) : allTags q ms := by
  induction h with
  | here hp =>
      rw [allTags_cons] at all
      rw [allTags_append, here _ _ hp all.1, all.2]
      rfl
  | inside _ _ ih =>
      rw [allTags_cons, allTags_element] at all ⊢
      exact ⟨⟨all.1.1, ih all.1.2⟩, all.2⟩
  | document _ ih =>
      rw [allTags_cons] at all ⊢
      exact ⟨ih all.1, all.2⟩
  | next _ ih =>
      rw [allTags_cons] at all ⊢
      exact ⟨all.1, ih all.2⟩

/-- Whether an element is called `<html>`, head or body. -/
def isFrameTag (t : Tag) : Bool := ["html", "head", "body"].contains t.name

theorem isFrameTag_of_isNamed {name : String} {t : Tag} (part : name ∈ ["html", "head", "body"])
    (h : Tag.isNamed name t) : isFrameTag t := by
  rw [Tag.isNamed, beq_iff_eq] at h
  rw [isFrameTag, h]
  exact List.contains_iff_mem.mpr part

/-- A tag of another name that is not marked as that of a body. -/
def isFrameless (t : Tag) : Bool := !isFrameTag t && !t.page

theorem isFrameless_iff {t : Tag} : isFrameless t ↔ isFrameTag t = false ∧ t.page = false := by
  rw [isFrameless, Bool.and_eq_true, Bool.not_eq_true', Bool.not_eq_true']

theorem isNamed_of_isFrameless {name : String} {t : Tag} (part : name ∈ ["html", "head", "body"])
    (h : isFrameless t) : Tag.isNamed name t = false :=
  Bool.eq_false_iff.mpr fun named => by
    rw [isFrameless, isFrameTag_of_isNamed part named] at h
    cases h

/-- A tag that is not part of the frame of a page: it has another name, no function
is defined by it, and it is not marked. -/
def isOrdinary (t : Tag) : Bool := !isFrameTag t && !isFunctionScript t && !t.page

theorem isFunctionScript_join (t : Tag) : isFunctionScript (join t) = false := by
  have ignored : (join t).value "yst" = "ignore" := value_set t "yst" "ignore"
  unfold isFunctionScript
  cases found : (join t).get? "yst" with
  | none => simp
  | some v =>
      rw [Tag.value, found] at ignored
      have other : v = "ignore" := ignored
      rw [other]
      simp

theorem isOrdinary_join {t : Tag} (h : isOrdinary t) : isOrdinary (join t) := by
  simp only [isOrdinary, isFrameTag, Bool.and_eq_true] at h ⊢
  rw [name_join, isFunctionScript_join, page_join]
  exact ⟨⟨h.1.1, rfl⟩, h.2⟩

/-- A tag that is neither that of a body nor marked as one. -/
def isElsewhere (t : Tag) : Bool := t.name != "body" && !t.page

theorem isElsewhere_of_isOrdinary {t : Tag} (h : isOrdinary t) : isElsewhere t := by
  simp only [isOrdinary, isFrameTag, Bool.and_eq_true, Bool.not_eq_true', List.contains_eq_mem,
    decide_eq_false_iff_not, List.mem_cons, not_or] at h
  simp [isElsewhere, h.1.1, h.2]

theorem isFrameless_of_isOrdinary {t : Tag} (h : isOrdinary t) : isFrameless t := by
  rw [isOrdinary, Bool.and_eq_true, Bool.and_eq_true] at h
  rw [isFrameless, h.1.1, h.2]
  rfl

/-! ## Siblings with a head -/

/-- One of the siblings is a head that ends with the functions `codes`; all other
tags satisfy `q`. -/
inductive Headed (q : Tag → Bool) (codes : List String) : List Node → Prop where
  | here {t : Tag} {hs ns : List Node} (name : t.name = "head") (plain : t.isDirective = false)
      (unmarked : t.page = false) (below : allTags q hs) (rest : allTags q ns) :
      Headed q codes (.element t (hs ++ codes.map functionScript) :: ns)
  | next {n : Node} {ns : List Node} (first : Node.allTags q n) (rest : Headed q codes ns) :
      Headed q codes (n :: ns)

namespace Headed

variable {q : Tag → Bool} {codes : List String} {ns ms : List Node}

theorem mono {q' : Tag → Bool} (hq : ∀ t, q t → q' t) (h : Headed q codes ns) :
    Headed q' codes ns := by
  induction h with
  | here name plain unmarked below rest =>
      exact .here name plain unmarked (allTags_mono hq _ below) (allTags_mono hq _ rest)
  | next first _ ih => exact .next (Node.allTags_mono hq _ first) ih

/-- A head without functions. -/
theorem empty {t : Tag} {hs : List Node} (name : t.name = "head") (plain : t.isDirective = false)
    (unmarked : t.page = false) (below : Compile.allTags q hs) (rest : Compile.allTags q ns) :
    Headed q [] (.element t hs :: ns) := by
  have headed : Headed q [] (.element t (hs ++ [].map functionScript) :: ns) :=
    .here name plain unmarked below rest
  rwa [List.map_nil, List.append_nil] at headed

theorem append (h : Headed q codes ns) (behind : allTags q ms) : Headed q codes (ns ++ ms) := by
  induction h with
  | here name plain unmarked below rest =>
      rw [List.cons_append]
      refine .here name plain unmarked below ?_
      rw [allTags_append, rest, behind]
      rfl
  | next first _ ih => exact .next first ih

theorem append_front (before : allTags q ns) (h : Headed q codes ms) :
    Headed q codes (ns ++ ms) := by
  induction ns with
  | nil => exact h
  | cons n ns ih =>
      rw [allTags_cons] at before
      exact .next before.1 (ih before.2)

theorem findPath?_ne_none (h : Headed q codes ns) : findPath? (Tag.isNamed "head") ns ≠ none := by
  intro none
  induction h with
  | here name _ _ _ _ =>
      rw [findPath?_cons_eq_none, findPath?_element_eq_none, Tag.isNamed, name] at none
      exact absurd none.1.1 (by decide)
  | next _ _ ih => exact ih (findPath?_cons_eq_none.mp none).2

/-- All tags satisfy what holds of those that satisfy `q`, of a head and of
functions. -/
theorem allTags {q' : Tag → Bool} (hq : ∀ t, q t → q' t)
    (head : ∀ t : Tag, t.name = "head" → t.isDirective = false → t.page = false → q' t)
    (functions : Compile.allTags q' (codes.map functionScript)) (h : Headed q codes ns) :
    Compile.allTags q' ns := by
  induction h with
  | here name plain unmarked below rest =>
      rw [allTags_cons, allTags_element, allTags_append, allTags_mono hq _ below, functions]
      exact ⟨⟨head _ name plain unmarked, rfl⟩, allTags_mono hq _ rest⟩
  | next first _ ih =>
      rw [allTags_cons]
      exact ⟨Node.allTags_mono hq _ first, ih⟩

/-- What is done to the children of the head. -/
theorem changed {g : List Node → List Node} {codes' : List String}
    (other : ∀ t, q t → Tag.isNamed "head" t = false)
    (hg : ∀ hs, Compile.allTags q hs → ∃ hs', Compile.allTags q hs' ∧
      g (hs ++ codes.map functionScript) = hs' ++ codes'.map functionScript)
    (h : Headed q codes ns) (hc : Changed (Tag.isNamed "head") (fun n => [n.mapChildren g]) ns ms) :
    Headed q codes' ms := by
  have absent : ∀ t, q t → !Tag.isNamed "head" t := fun t ht => by rw [other t ht]; rfl
  induction h generalizing ms with
  | @here t hs ns name plain unmarked below rest =>
      cases hc with
      | here _ =>
          obtain ⟨hs', below', same⟩ := hg hs below
          rw [Node.mapChildren, same]
          exact .here name plain unmarked below' rest
      | inside no _ =>
          rw [Tag.isNamed, name] at no
          exact absurd no (by decide)
      | next later =>
          exact absurd ((findPath?_eq_none_iff ns).mpr (allTags_mono absent ns rest))
            later.findPath?_ne_none
  | @next n ns first rest ih =>
      have none := (Node.findPath?_eq_none_iff n).mpr (Node.allTags_mono absent n first)
      obtain ⟨ms', later, rfl⟩ := hc.later none
      exact .next first (ih later)

end Headed

/-- Of the siblings `left` and `right` of a body, either have a head. -/
def Beside (codes : List String) (left right : List Node) : Prop :=
  Headed isOrdinary codes left ∧ allTags isOrdinary right ∨
    allTags isOrdinary left ∧ Headed isOrdinary codes right

theorem allTags_functions {q : Tag → Bool} (h : ∀ t : Tag, t.name = "script" →
    t.page = false → q t) (codes : List String) : allTags q (codes.map functionScript) := by
  induction codes with
  | nil => rfl
  | cons code codes ih =>
      rw [List.map_cons, allTags_cons]
      exact ⟨allTags_element.mpr ⟨h _ rfl rfl, rfl⟩, ih⟩

theorem isElsewhere_head {t : Tag} (name : t.name = "head") (_ : t.isDirective = false)
    (unmarked : t.page = false) : isElsewhere t := by
  simp [isElsewhere, name, unmarked]

/-- There is no body beside a head and what is ordinary. -/
theorem Beside.elsewhere {codes : List String} {left right : List Node}
    (h : Beside codes left right) : allTags isElsewhere left ∧ allTags isElsewhere right := by
  have functions : allTags isElsewhere (codes.map functionScript) :=
    allTags_functions (fun t name page => by simp [isElsewhere, name, page]) codes
  have ordinary : ∀ ns, allTags isOrdinary ns → allTags isElsewhere ns := fun ns =>
    allTags_mono (fun t => isElsewhere_of_isOrdinary) ns
  have headed : ∀ ns, Headed isOrdinary codes ns → allTags isElsewhere ns := fun ns =>
    Headed.allTags (fun t => isElsewhere_of_isOrdinary) (fun t => isElsewhere_head) functions
  exact h.elim (fun h => ⟨headed _ h.1, ordinary _ h.2⟩) fun h => ⟨ordinary _ h.1, headed _ h.2⟩

/-! ## Pages with a body -/

/-- The `<html>` of a page has a head, which ends with the functions `codes`, and
the body `b` among its children; everything outside the body is ordinary. -/
inductive Framed (codes : List String) (html : Tag) (b : Node) : Document → Prop where
  | page {before left right after : List Node} (front : allTags isOrdinary before)
      (beside : Beside codes left right) (back : allTags isOrdinary after) :
      Framed codes html b (before ++ .element html (left ++ b :: right) :: after)

/-- The outermost element of a page: it is called `<html>`, has no directive and
is not marked. -/
structure IsHtml (t : Tag) : Prop where
  name : t.name = "html"
  plain : t.isDirective = false
  unmarked : t.page = false

theorem findPath?_of_allTags {p q : Tag → Bool} (h : ∀ t, q t → p t = false) {ns : List Node}
    (all : allTags q ns) : findPath? p ns = none := by
  rw [findPath?_eq_none_iff]
  exact allTags_mono (fun t ht => by rw [h t ht]; rfl) ns all

/-- No head and no `<html>` is at or below a body that nothing of a frame is in. -/
theorem body_outside {t : Tag} {cs : List Node} (name : t.name = "body")
    (below : allTags isFrameless cs) :
    (Node.element t cs).findPath? (Tag.isNamed "head") = none ∧
      (Node.element t cs).findPath? (Tag.isNamed "html") = none := by
  rw [findPath?_element_eq_none, findPath?_element_eq_none, Tag.isNamed, Tag.isNamed, name]
  exact ⟨⟨by decide, findPath?_of_allTags (fun t => isNamed_of_isFrameless (by decide)) below⟩,
    by decide, findPath?_of_allTags (fun t => isNamed_of_isFrameless (by decide)) below⟩

namespace Framed

variable {codes : List String} {html : Tag} {b : Node} {doc doc' : Document}

/-- The body is found, and another body takes its place. -/
theorem body {p : Tag → Bool} {t : Tag} {cs : List Node} (other : ∀ t, isElsewhere t → p t = false)
    (isHtml : IsHtml html) (found : p t) (h : Framed codes html (.element t cs) doc) :
    ∃ path rest, findPath? p doc = some path ∧ siblingsAt path doc = .element t cs :: rest ∧
      ∀ f m, f (.element t cs) = [m] → Framed codes html m (replaceAt f path doc) ∧
        siblingsAt path (replaceAt f path doc) = m :: rest := by
  obtain ⟨front, beside, back⟩ := h
  rename_i before left right after
  have ordinary : ∀ t, isOrdinary t → p t = false :=
    fun t ht => other t (isElsewhere_of_isOrdinary ht)
  have outer : p html = false := other html (by simp [isElsewhere, isHtml.name, isHtml.unmarked])
  have none := findPath?_of_allTags other beside.elsewhere.1
  refine ⟨[before.length, left.length], right, ?_, ?_, fun f m hm => ?_⟩
  · exact findPath?_append_below (findPath?_of_allTags ordinary front) outer
      (findPath?_append_first none found)
  · rw [siblingsAt_append _ (by simp)]
    simp [Node.children, siblingsAt]
  · rw [replaceAt_append _ (by simp), Node.mapChildren, replaceAt_length, hm]
    refine ⟨.page front beside back, ?_⟩
    rw [siblingsAt_append _ (by simp)]
    simp [Node.children, siblingsAt]

/-- What is done to the children of the head. -/
theorem head {g : List Node → List Node} {codes' : List String} (isHtml : IsHtml html)
    (none : b.findPath? (Tag.isNamed "head") = none)
    (hg : ∀ hs, allTags isOrdinary hs → ∃ hs', allTags isOrdinary hs' ∧
      g (hs ++ codes.map functionScript) = hs' ++ codes'.map functionScript)
    (h : Framed codes html b doc)
    (hc : Changed (Tag.isNamed "head") (fun n => [n.mapChildren g]) doc doc') :
    Framed codes' html b doc' := by
  obtain ⟨front, beside, back⟩ := h
  have other : ∀ t, isOrdinary t → Tag.isNamed "head" t = false :=
    fun t ht => isNamed_of_isFrameless (by decide) (isFrameless_of_isOrdinary ht)
  have absent : ∀ ns, allTags isOrdinary ns → findPath? (Tag.isNamed "head") ns = .none :=
    fun ns => findPath?_of_allTags other
  have outer : Tag.isNamed "head" html = false := by
    rw [Tag.isNamed, isHtml.name]
    decide
  rcases hc.cases_append outer with ⟨_, inner, -⟩ | ⟨cs, inner, rfl⟩ | ⟨_, inner, -⟩
  · exact absurd (absent _ front) inner.findPath?_ne_none
  · -- the head is in front of the body or behind it
    obtain ⟨left', right', rfl, beside'⟩ :
        ∃ left' right', cs = left' ++ b :: right' ∧ Beside codes' left' right' := by
      rcases beside with ⟨headed, tags⟩ | ⟨tags, headed⟩
      · obtain ⟨left', inner', rfl⟩ := inner.of_append
          (findPath?_cons_eq_none.mpr ⟨none, absent _ tags⟩)
        exact ⟨left', _, rfl, .inl ⟨headed.changed other hg inner', tags⟩⟩
      · obtain ⟨right', inner', rfl⟩ := inner.behind (absent _ tags) none
        exact ⟨_, right', rfl, .inr ⟨tags, headed.changed other hg inner'⟩⟩
    exact .page front beside' back
  · exact absurd (absent _ back) inner.findPath?_ne_none

theorem findPath?_head_ne_none (h : Framed codes html b doc) :
    findPath? (Tag.isNamed "head") doc ≠ none := by
  obtain ⟨-, beside, -⟩ := h
  intro none
  rw [findPath?_append_eq_none, findPath?_cons_eq_none, findPath?_element_eq_none,
    findPath?_append_eq_none, findPath?_cons_eq_none] at none
  rcases beside with ⟨headed, -⟩ | ⟨-, headed⟩
  · exact headed.findPath?_ne_none none.2.1.2.1
  · exact headed.findPath?_ne_none none.2.1.2.2.2

/-- Functions go to the end of the head. -/
theorem place (isHtml : IsHtml html) (none : b.findPath? (Tag.isNamed "head") = none)
    (codes' : List String) (h : Framed codes html b doc) :
    Framed (codes ++ codes') html b (place codes' doc) := by
  refine place_cases codes' doc ?nothing ?head ?html ?bare
  case nothing =>
    rintro rfl
    rwa [List.append_nil]
  case head =>
    intro path found
    refine h.head isHtml none (fun hs below => ⟨hs, below, ?_⟩) (changed_replaceAt doc path found)
    rw [List.map_append, List.append_assoc]
  case html => exact fun absent => absurd absent h.findPath?_head_ne_none
  case bare => exact fun absent => absurd absent h.findPath?_head_ne_none

/-- Titles and metas with directives move within the head. -/
theorem moveDirectives (isHtml : IsHtml html) (none : b.findPath? (Tag.isNamed "head") = none)
    (name : String) (h : Framed [] html b doc) : Framed [] html b (moveDirectives name doc) := by
  unfold Markup.moveDirectives moveToEndOfHead
  split
  · exact h
  · rename_i path hpath
    refine h.head isHtml none (fun hs below => ?_) (changed_replaceAt doc path hpath)
    obtain ⟨kept, pulled⟩ :=
      allTags_pullOut (p := fun t => t.name == name && t.isDirective) hs below
    rw [List.map_nil, List.append_nil]
    refine ⟨_, ?_, (List.append_nil _).symm⟩
    rw [allTags_append, kept, pulled]
    rfl

end Framed

/-! ## Grouping branches -/

/-- Grouping siblings goes on with those behind them. -/
theorem group_append (opened : Bool) (cs : List Node) : ∃ opened', ∀ ds,
    group opened (cs ++ ds) = group opened cs ++ group opened' ds := by
  induction cs generalizing opened with
  | nil => exact ⟨opened, fun ds => rfl⟩
  | cons c cs ih =>
      have step : ∀ f opened', (∀ ds, group opened (c :: ds) = f :: group opened' ds) →
          ∃ opened'', ∀ ds,
            group opened (c :: cs ++ ds) = group opened (c :: cs) ++ group opened'' ds := by
        intro f opened' hf
        obtain ⟨opened'', h⟩ := ih opened'
        refine ⟨opened'', fun ds => ?_⟩
        rw [List.cons_append, hf, hf, h, List.cons_append]
      by_cases gap : opened && isGap c
      · exact step _ true fun ds => by rw [group, if_pos gap]
      by_cases branch : c.isCompapply
      · cases opened with
        | true => exact step _ true fun ds => by rw [group, if_neg gap, if_pos branch, if_pos rfl]
        | false =>
            exact step _ _ fun ds => by
              rw [group, if_neg gap, if_pos branch, if_neg Bool.false_ne_true]
      · exact step _ false fun ds => by rw [group, if_neg gap, if_neg branch]

theorem not_isCompapply {t : Tag} (plain : t.isDirective = false) : t.isCompapply = false := by
  have none : t.directiveWord = "" := by simpa [Tag.isDirective] using plain
  unfold Tag.isCompapply
  rw [none]
  rfl

/-- An element without a directive keeps its tag. -/
theorem group_element (opened : Bool) {t : Tag} (cs ns : List Node) (other : t.name ≠ "script") :
    ∃ u opened', (u = t ∨ u = join t ∧ t.isCompapply) ∧ group opened (.element t cs :: ns)
      = .element u (group false cs) :: group opened' ns := by
  obtain ⟨f, opened', hf, same⟩ := group_cons opened (.element t cs) ns
  have below : Node.group (.element t cs) = .element t (group false cs) := by
    rw [Node.group, if_neg (by simpa using other)]
  rw [below] at same
  rcases hf with rfl | ⟨rfl, branch⟩
  · exact ⟨t, opened', .inl rfl, same⟩
  · exact ⟨join t, opened', .inr ⟨rfl, branch⟩, same⟩

theorem allTags_group_ordinary (opened : Bool) {cs : List Node} (h : allTags isOrdinary cs) :
    allTags isOrdinary (group opened cs) :=
  allTags_group (p := isOrdinary) (fun _ _ => isOrdinary_join) opened cs h

theorem Headed.group {ns : List Node} (h : Headed isOrdinary [] ns) (opened : Bool) :
    Headed isOrdinary [] (group opened ns) := by
  induction h generalizing opened with
  | @here t hs ns name plain unmarked below rest =>
      rw [List.map_nil, List.append_nil]
      obtain ⟨u, opened', hu, same⟩ := group_element opened hs ns (by rw [name]; decide)
      obtain rfl : u = t := hu.resolve_right fun h => by
        rw [not_isCompapply plain] at h
        cases h.2
      rw [same]
      exact .empty name plain unmarked (allTags_group_ordinary false below)
        (allTags_group_ordinary opened' rest)
  | @next n ns first rest ih =>
      obtain ⟨f, opened', hf, same⟩ := group_cons opened n ns
      have here := Node.allTags_group (p := isOrdinary) (fun _ _ => isOrdinary_join) n first
      rw [same]
      refine .next ?_ (ih opened')
      rcases hf with rfl | ⟨rfl, branch⟩
      · exact here
      · rw [← Node.isCompapply_group] at branch
        exact allTags_mapTag (p := isOrdinary) (fun _ _ => isOrdinary_join) branch here

/-- Grouping may join the body to a branch in front of it, and keeps the frame. -/
theorem Framed.group {html t : Tag} {cs : List Node} {doc : Document} (isHtml : IsHtml html)
    (other : t.name ≠ "script") (h : Framed [] html (.element t cs) doc) (opened : Bool) :
    ∃ u, (u = t ∨ u = join t) ∧
      Framed [] html (.element u (Compile.group false cs)) (Compile.group opened doc) := by
  obtain ⟨front, beside, back⟩ := h
  rename_i before left right after
  obtain ⟨opened₁, h₁⟩ := group_append opened before
  obtain ⟨v, opened₂, hv, h₂⟩ := group_element opened₁ (left ++ .element t cs :: right) after
    (t := html) (by rw [isHtml.name]; decide)
  obtain rfl : v = html := hv.resolve_right fun h => by
    rw [not_isCompapply isHtml.plain] at h
    cases h.2
  obtain ⟨opened₃, h₃⟩ := group_append false left
  obtain ⟨u, opened₄, hu, h₄⟩ := group_element opened₃ cs right other
  rw [h₁, h₂, h₃, h₄]
  refine ⟨u, hu.imp_right And.left, .page (allTags_group_ordinary _ front) ?_
    (allTags_group_ordinary _ back)⟩
  exact beside.imp (fun h => ⟨h.1.group _, allTags_group_ordinary _ h.2⟩)
    fun h => ⟨allTags_group_ordinary _ h.1, h.2.group _⟩

/-- Readying a page keeps its frame. -/
theorem Framed.prepare {html t : Tag} {cs : List Node} {doc : Document} (isHtml : IsHtml html)
    (other : t.name ≠ "script")
    (none : (Node.element t cs).findPath? (Tag.isNamed "head") = none)
    (h : Framed [] html (.element t cs) doc) :
    ∃ u, (u = t ∨ u = join t) ∧
      Framed [] html (.element u (Compile.group false cs)) (prepare doc) :=
  ((h.moveDirectives isHtml none "title").moveDirectives isHtml none "meta").group isHtml other
    false

/-! ## Compiling -/

/-- A tag outside the frame of a page whose body is compiled as one of the
elements with directives. -/
def isLoose (t : Tag) : Bool :=
  !(["html", "head"].contains t.name) && !isFunctionScript t && (t.name != "body" || isTarget t)

theorem isLoose_of_isOrdinary {t : Tag} (h : isOrdinary t) : isLoose t := by
  simp only [isOrdinary, isFrameTag, Bool.and_eq_true, Bool.not_eq_true', List.contains_eq_mem,
    decide_eq_false_iff_not, List.mem_cons, not_or] at h
  simp [isLoose, h.1.1, h.1.2]

/-- The `<html>` of a page has a head, which ends with the functions `codes`,
among its children; each body is an element with a directive. -/
inductive Holds (codes : List String) (html : Tag) : Document → Prop where
  | page {before cs after : List Node} (front : allTags isLoose before)
      (headed : Headed isLoose codes cs) (back : allTags isLoose after) :
      Holds codes html (before ++ .element html cs :: after)

/-- Once the body is declared to be a function, it is compiled with the other
elements. -/
theorem Framed.holds {codes : List String} {html t : Tag} {cs : List Node} {doc : Document}
    (h : Framed codes html (.element t cs) doc) (body : isLoose t)
    (below : allTags isOrdinary cs) : Holds codes html doc := by
  have loose : ∀ ns, allTags isOrdinary ns → allTags isLoose ns := fun ns =>
    allTags_mono (fun t => isLoose_of_isOrdinary) ns
  have here : Node.allTags isLoose (.element t cs) := allTags_element.mpr ⟨body, loose cs below⟩
  obtain ⟨front, beside, back⟩ := h
  refine .page (loose _ front) ?_ (loose _ back)
  rcases beside with ⟨headed, tags⟩ | ⟨tags, headed⟩
  · exact (headed.mono fun t => isLoose_of_isOrdinary).append
      (allTags_cons.mpr ⟨here, loose _ tags⟩)
  · exact .append_front (loose _ tags) (.next here (headed.mono fun t => isLoose_of_isOrdinary))

section

variable {f : Node → List Node} {codes : List String} {html : Tag}

theorem Headed.compile {ns ms : List Node} (hf : ∀ n, Compile.allTags isLoose (f n))
    (h : Headed isLoose codes ns) (hc : Changed isTarget f ns ms) : Headed isLoose codes ms := by
  have kept : ∀ {ns ms}, Changed isTarget f ns ms →
      Compile.allTags isLoose ns → Compile.allTags isLoose ms :=
    fun hc => allTags_of_changed hc fun t cs _ _ => hf _
  induction h generalizing ms with
  | here name plain unmarked below rest =>
      cases hc with
      | here target =>
          rw [isTarget, plain, Bool.and_false] at target
          cases target
      | inside _ inner =>
          obtain ⟨hs', inner', rfl⟩ :=
            inner.of_append (findPath?_functions (fun t ht => by simp [isTarget, ht]) codes)
          exact .here name plain unmarked (kept inner' below) rest
      | next later => exact .here name plain unmarked below (kept later rest)
  | @next n ns first rest ih =>
      rcases hc.cases_cons with ⟨new, hnew, rfl⟩ | ⟨ms', later, rfl⟩
      · exact .append_front (kept hnew (allTags_cons.mpr ⟨first, rfl⟩)) rest
      · exact .next first (ih later)

/-- An element with a directive gives way to what is ordinary. -/
theorem Holds.changed {doc doc' : Document} (isHtml : IsHtml html)
    (hf : ∀ n, allTags isLoose (f n)) (h : Holds codes html doc)
    (hc : Changed isTarget f doc doc') : Holds codes html doc' := by
  have kept : ∀ {ns ms}, Changed isTarget f ns ms → allTags isLoose ns → allTags isLoose ms :=
    fun hc => allTags_of_changed hc fun t cs _ _ => hf _
  obtain ⟨front, headed, back⟩ := h
  have outer : isTarget html = false := by rw [isTarget, isHtml.plain, Bool.and_false]
  rcases hc.cases_append outer with ⟨_, inner, rfl⟩ | ⟨_, inner, rfl⟩ | ⟨_, inner, rfl⟩
  · exact .page (kept inner front) headed back
  · exact .page front (headed.compile hf inner) back
  · exact .page front headed (kept inner back)

theorem Holds.compile {o : Options} (split : o.split) (isHtml : IsHtml html) {n : Nat}
    {p p' : Progress} (run : compileTargets o n p = .ok p') (h : Holds codes html p.doc) :
    Holds codes html p'.doc := by
  replace run := targetRun_of_ok run
  induction run with
  | stop p => exact h
  | @step _ p₁ _ path code? found coded _ ih =>
      obtain rfl := codeAt_adds_none split coded
      refine ih ?_
      rw [replaceFirst, found]
      refine h.changed isHtml (fun n => ?_) (changed_replaceAt p₁.doc path found)
      cases code? with
      | none => rfl
      | some code => rfl

end

end PageTemplates.Compile
