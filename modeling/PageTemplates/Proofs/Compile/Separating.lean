import PageTemplates.Proofs.Compile.Extracting
import PageTemplates.Proofs.Compile.Framed

/-!
# The page and the script of its body

When the body of a page with one head and one body is split off, no function is
lost or doubled: the page keeps a stub of the body, and the script of the body
defines the function of the body and of every element in it that asks for one.
The main facts:

* `Layout doc`: a document whose `<html>` has one head and one body;
* `pullOut_headed`: the functions that are moved out of a page are those at the
  end of its head;
* `Holds.finish`: the page with the stub, and the script, of a page that is
  compiled;
* `split_separates`: the page and the script that splitting gives.
-/

namespace PageTemplates.Compile

open Markup

/-! ## Documents with one head and one body -/

/-- A document whose `<html>` has one head and one body among its children, with
no other element of these names, no directive on `<html>` and head, no script
written by hand that defines a function, and no body that is marked. -/
structure Layout (doc : Document) where
  before : List Node
  html : Tag
  left : List Node
  body : Tag
  inside : List Node
  right : List Node
  after : List Node
  doc_eq : doc = before ++ .element html (left ++ .element body inside :: right) :: after
  html_name : html.name = "html"
  html_plain : html.isDirective = false
  body_name : body.name = "body"
  head : ∃ t hs, .element t hs ∈ left ++ right ∧ t.name = "head" ∧ t.isDirective = false
  others : (findPaths isFrameTag doc).length = 3
  unwritten : findPath? isFunctionScript doc = none
  unmarked : findPath? (·.page) doc = none

theorem allTags_isOrdinary {ns : List Node} (frame : (findPaths isFrameTag ns).length = 0)
    (unwritten : findPath? isFunctionScript ns = none) (unmarked : findPath? (·.page) ns = none) :
    allTags isOrdinary ns := by
  rw [length_findPaths_eq_zero, findPath?_eq_none_iff] at frame
  rw [findPath?_eq_none_iff] at unwritten unmarked
  unfold isOrdinary
  rw [allTags_and (fun t => !isFrameTag t && !isFunctionScript t), allTags_and, frame, unwritten,
    unmarked]
  rfl

/-- If one of the siblings is a head and nothing else belongs to a frame, they are
siblings with a head. -/
theorem headed_of_mem {ns hs : List Node} {t : Tag} (mem : .element t hs ∈ ns)
    (name : t.name = "head") (plain : t.isDirective = false)
    (frame : (findPaths isFrameTag ns).length ≤ 1)
    (unwritten : findPath? isFunctionScript ns = none) (unmarked : findPath? (·.page) ns = none) :
    (findPaths isFrameTag ns).length = 1 ∧ Headed isOrdinary [] ns := by
  obtain ⟨xs, ys, rfl⟩ := List.append_of_mem mem
  have own : isFrameTag t := by
    rw [isFrameTag, name]
    decide
  rw [length_findPaths_append, length_findPaths_cons, length_findPaths_element, if_pos own]
    at frame ⊢
  rw [findPath?_append_eq_none, findPath?_cons_eq_none, findPath?_element_eq_none]
    at unwritten unmarked
  refine ⟨by omega, .append_front (allTags_isOrdinary (by omega) unwritten.1 unmarked.1) ?_⟩
  exact .empty name plain unmarked.2.1.1
    (allTags_isOrdinary (by omega) unwritten.2.1.2 unmarked.2.1.2)
    (allTags_isOrdinary (by omega) unwritten.2.2 unmarked.2.2)

theorem Layout.isHtml {doc : Document} (page : Layout doc) : IsHtml page.html := by
  refine ⟨page.html_name, page.html_plain, ?_⟩
  have unmarked := page.unmarked
  rw [page.doc_eq, findPath?_append_eq_none, findPath?_cons_eq_none, findPath?_element_eq_none]
    at unmarked
  exact unmarked.2.1.1

theorem Layout.framed {doc : Document} (page : Layout doc) :
    Framed [] page.html (.element page.body page.inside) doc ∧ allTags isOrdinary page.inside := by
  obtain ⟨t, hs, mem, name, plain⟩ := page.head
  have frame := page.others
  have unwritten := page.unwritten
  have unmarked := page.unmarked
  have html : isFrameTag page.html := by
    rw [isFrameTag, page.html_name]
    decide
  have body : isFrameTag page.body := by
    rw [isFrameTag, page.body_name]
    decide
  -- there are as many frame tags as the layout uses up, so none is left for its parts
  rw [page.doc_eq, length_findPaths_append, length_findPaths_cons, length_findPaths_element,
    length_findPaths_append, length_findPaths_cons, length_findPaths_element, if_pos html,
    if_pos body] at frame
  rw [page.doc_eq] at unwritten unmarked
  simp only [findPath?_append_eq_none, findPath?_cons_eq_none, findPath?_element_eq_none]
    at unwritten unmarked
  obtain ⟨front, ⟨-, left, ⟨-, inside⟩, right⟩, back⟩ := unwritten
  obtain ⟨front', ⟨-, left', ⟨-, inside'⟩, right'⟩, back'⟩ := unmarked
  have beside : (findPaths isFrameTag page.left).length + (findPaths isFrameTag page.right).length
      = 1 ∧ Beside [] page.left page.right := by
    -- the head stands on one side of the body, and the other side is ordinary
    rcases List.mem_append.mp mem with mem | mem
    · obtain ⟨one, headed⟩ := headed_of_mem mem name plain (by omega) left left'
      exact ⟨by omega, .inl ⟨headed, allTags_isOrdinary (by omega) right right'⟩⟩
    · obtain ⟨one, headed⟩ := headed_of_mem mem name plain (by omega) right right'
      exact ⟨by omega, .inr ⟨allTags_isOrdinary (by omega) left left', headed⟩⟩
  refine ⟨?_, allTags_isOrdinary (by omega) inside inside'⟩
  have framed : Framed [] page.html (.element page.body page.inside) (page.before
      ++ .element page.html (page.left ++ .element page.body page.inside :: page.right)
        :: page.after) :=
    .page (allTags_isOrdinary (by omega) front front') beside.2
      (allTags_isOrdinary (by omega) back back')
  rwa [← page.doc_eq] at framed

/-! ## The tag of the body -/

/-- The tag of a body with an id, which is made up if it has none. -/
def bodyWithId (t : Tag) : Tag :=
  if Text.allBlank (t.value "id") then t.set "id" (some "__TemplateBody") else t

theorem name_bodyWithId (t : Tag) : (bodyWithId t).name = t.name := by
  unfold bodyWithId
  split
  · exact name_set _ _ _
  · rfl

theorem functionName?_congr {t u : Tag} (h : t.value "id" = u.value "id") :
    functionName? t = functionName? u := by
  unfold functionName? Directive.functionName? Tag.directiveOf
  rw [h]

theorem exists_functionName? (t : Tag) : ∃ name, functionName? (bodyWithId t) = some name := by
  have filled : Text.allBlank ((bodyWithId t).value "id") = false := by
    unfold bodyWithId
    split
    · rw [value_set]
      decide
    · rename_i given
      simpa using given
  unfold functionName? Directive.functionName? Tag.directiveOf
  dsimp only
  split
  · rename_i none
    rw [Text.isEmpty_strip_iff.mp none] at filled
    cases filled
  · exact ⟨_, rfl⟩

/-- Sets an attribute in a list of attributes. -/
def setIn (name : String) (v : Option String) (as : List Attribute) : List Attribute :=
  if as.any (·.1 == name) then Tag.setFirst name v as else as ++ [(name, v)]

theorem attributes_set (t : Tag) (name : String) (v : Option String) :
    (t.set name v).attributes = setIn name v t.attributes := by
  unfold Tag.set setIn Tag.has
  split <;> rfl

section

variable {names : List String} {name : String} (v : Option String) (as : List Attribute)

theorem filter_setIn_hidden (hidden : name ∈ names) :
    (setIn name v as).filter (fun a => !names.contains a.1)
      = as.filter fun a => !names.contains a.1 := by
  have first : (Tag.setFirst name v as).filter (fun a => !names.contains a.1)
      = as.filter fun a => !names.contains a.1 := by
    induction as with
    | nil => rfl
    | cons a as ih =>
        rw [Tag.setFirst]
        split
        · rename_i same
          rw [beq_iff_eq] at same
          simp [same, hidden]
        · rw [List.filter_cons, List.filter_cons, ih]
  unfold setIn
  split
  · exact first
  · simp [hidden]

theorem filter_setIn_shown (shown : name ∉ names) :
    (setIn name v as).filter (fun a => !names.contains a.1)
      = setIn name v (as.filter fun a => !names.contains a.1) := by
  have any : (as.filter fun a => !names.contains a.1).any (·.1 == name)
      = as.any (·.1 == name) := by
    rw [List.any_filter]
    refine List.any_congr rfl fun a => ?_
    by_cases same : a.1 = name
    · simp [same, shown]
    · simp [same]
  have first : (Tag.setFirst name v as).filter (fun a => !names.contains a.1)
      = Tag.setFirst name v (as.filter fun a => !names.contains a.1) := by
    clear any
    induction as with
    | nil => rfl
    | cons a as ih =>
        by_cases same : a.1 = name
        · simp [Tag.setFirst, same, shown]
        · by_cases visible : a.1 ∈ names
          · simpa [Tag.setFirst, same, visible] using ih
          · simpa [Tag.setFirst, same, visible] using ih
  unfold setIn
  rw [any]
  split
  · exact first
  · simp [shown]

end

/-- The tag `u` is the tag `t` of a body once the page is readied: it is marked and
may be joined to a branch in front of it. -/
structure IsReadied (t u : Tag) : Prop where
  name : u.name = t.name
  page : u.page
  id : u.value "id" = t.value "id"
  attributes : ∀ names : List String, "yst" ∈ names →
    u.attributes.filter (fun a => !names.contains a.1)
      = t.attributes.filter fun a => !names.contains a.1

theorem isReadied {t u : Tag} (h : u = { t with page := true } ∨ u = join { t with page := true }) :
    IsReadied t u := by
  rcases h with rfl | rfl
  · exact ⟨rfl, rfl, rfl, fun _ _ => rfl⟩
  · refine ⟨name_join _, page_join _, ?_, fun names hidden => ?_⟩
    · exact value_set_of_ne (by decide) _ _
    · have set : (join { t with page := true }).attributes
          = setIn "yst" (some "ignore") t.attributes := attributes_set _ _ _
      rw [set, filter_setIn_hidden _ _ hidden]

namespace IsReadied

variable {t u : Tag}

theorem functionName? (h : IsReadied t u) :
    Compile.functionName? (declareBody u) = Compile.functionName? (bodyWithId t) := by
  apply functionName?_congr
  unfold declareBody bodyWithId
  dsimp only
  rw [value_set_of_ne (by decide), h.id]
  split
  · rw [value_set, value_set]
  · rw [value_set_of_ne (by decide), h.id]

/-- The stub has the attributes of the body that are not hidden. -/
theorem stubAttributes (h : IsReadied t u) (o : Options) :
    Compile.stubAttributes o (declareBody u) = Compile.stubAttributes o (bodyWithId t) := by
  unfold Compile.stubAttributes Tag.without
  dsimp only
  generalize hn : (if o.hide then directiveAttributes else ["yst"]) = names
  have hidden : "yst" ∈ names := by
    subst hn
    split <;> decide
  have shown : "id" ∉ names := by
    subst hn
    split <;> decide
  unfold declareBody bodyWithId
  dsimp only
  rw [value_set_of_ne (by decide), h.id]
  split
  · rw [attributes_set, attributes_set, attributes_set, filter_setIn_shown _ _ shown,
      filter_setIn_shown _ _ shown, filter_setIn_hidden _ _ hidden, h.attributes names hidden]
  · rw [attributes_set, filter_setIn_hidden _ _ hidden, h.attributes names hidden]

end IsReadied

theorem pullOut_append (p : Tag → Bool) (ns ms : List Node) :
    pullOut p (ns ++ ms)
      = ((pullOut p ns).1 ++ (pullOut p ms).1, (pullOut p ns).2 ++ (pullOut p ms).2) := by
  induction ns with
  | nil => rfl
  | cons n ns ih =>
      rw [List.cons_append, pullOut_cons, ih, pullOut_cons, List.append_assoc, List.append_assoc]

mutual

theorem Node.pullOut_of_none {p : Tag → Bool} : ∀ n : Node, n.findPath? p = none →
    n.pullOut p = ([n], [])
  | .element t cs, h => by
      rw [findPath?_element_eq_none] at h
      rw [pullOut_element, h.1, pullOut_of_none cs h.2]
      rfl
  | .document cs, h => by
      rw [pullOut_document, pullOut_of_none cs h]
  | .text _, _ | .comment _, _ | .doctype _, _ | .markup _, _ => rfl

/-- Where there is nothing to be found, nothing is moved out. -/
theorem pullOut_of_none {p : Tag → Bool} : ∀ ns : List Node, findPath? p ns = none →
    pullOut p ns = (ns, [])
  | [], _ => rfl
  | n :: ns, h => by
      rw [findPath?_cons_eq_none] at h
      rw [pullOut_cons, Node.pullOut_of_none n h.1, pullOut_of_none ns h.2]
      rfl

end

theorem pullOut_functions (codes : List String) :
    pullOut isFunctionScript (codes.map functionScript) = ([], codes.map functionScript) := by
  induction codes with
  | nil => rfl
  | cons code codes ih =>
      rw [List.map_cons, pullOut_cons, ih]
      rfl

theorem not_isFunctionScript_of_isLoose {t : Tag} (h : isLoose t) : isFunctionScript t = false := by
  simp only [isLoose, Bool.and_eq_true, Bool.not_eq_true'] at h
  exact h.1.2

theorem isNamed_html_of_isLoose {t : Tag} (h : isLoose t) : Tag.isNamed "html" t = false := by
  simp only [isLoose, Bool.and_eq_true, Bool.not_eq_true', List.contains_eq_mem,
    decide_eq_false_iff_not, List.mem_cons, not_or] at h
  simp [Tag.isNamed, h.1.1]

/-- What is moved out of siblings with a head are the functions at its end. -/
theorem pullOut_headed {codes : List String} {ns : List Node} (h : Headed isLoose codes ns) :
    ∃ kept, pullOut isFunctionScript ns = (kept, codes.map functionScript) ∧
      findPath? isFunctionScript kept = none := by
  have absent : ∀ ns, allTags isLoose ns → findPath? isFunctionScript ns = none := fun ns =>
    findPath?_of_allTags fun t => not_isFunctionScript_of_isLoose
  induction h with
  | @here t hs ns name plain unmarked below rest =>
      have other : isFunctionScript t = false := by simp [isFunctionScript, name]
      refine ⟨.element t hs :: ns, ?_, ?_⟩
      · rw [pullOut_cons, pullOut_element, pullOut_append, pullOut_of_none hs (absent hs below),
          pullOut_functions, pullOut_of_none ns (absent ns rest), other]
        simp
      · rw [findPath?_cons_eq_none, findPath?_element_eq_none]
        exact ⟨⟨other, absent hs below⟩, absent ns rest⟩
  | @next n ns first rest ih =>
      obtain ⟨kept, moved, none⟩ := ih
      have here : n.findPath? isFunctionScript = .none := by
        have single := absent [n] (allTags_cons.mpr ⟨first, rfl⟩)
        exact (findPath?_cons_eq_none.mp single).1
      refine ⟨n :: kept, ?_, findPath?_cons_eq_none.mpr ⟨here, none⟩⟩
      rw [pullOut_cons, moved, Node.pullOut_of_none n here]
      rfl

theorem textOf_functionScript (code : String) : textOf (functionScript code) = code := by
  rw [functionScript, Node.script, textOf, Node.children]
  simp

/-! ## The compiled page -/

/-- The stub of a body, which loads the script of the body and starts the
processing. -/
def loadedStub (attributes : List Attribute) (url : String) : Node :=
  .element { name := "body", attributes }
    [.script [("type", some "text/javascript"), ("src", some url)]
      "// Move the .js file where it should be, and change src attribute ",
     .script [("type", some "text/javascript")] startCode]

/-- The functions of a body script, each on lines of its own. -/
def bodyFunctions (codes : List String) : String :=
  String.join (codes.map fun code => "\n" ++ Text.strip code)

/-- Whether a tag is compiled if it is that of a body. -/
def isCompiledBody (t : Tag) : Bool := t.name != "body" || isTarget t

theorem isCompiledBody_of_isLoose {t : Tag} (h : isLoose t) : isCompiledBody t := by
  simp only [isLoose, Bool.and_eq_true] at h
  exact h.2

/-- Once all elements with directives are compiled, no body is left. -/
theorem no_body {ns : List Node} (bodies : allTags isCompiledBody ns)
    (done : findPath? isTarget ns = none) : findPath? (Tag.isNamed "body") ns = none := by
  rw [findPath?_eq_none_iff] at done ⊢
  refine allTags_mono (p := fun t => isCompiledBody t && !isTarget t) (fun t ht => ?_) ns
    (by rw [allTags_and, bodies, done]; rfl)
  cases target : isTarget t with
  | true => simp [target] at ht
  | false =>
      rw [isCompiledBody, target] at ht
      simpa [Tag.isNamed] using ht

section

variable {html : Tag} {before cs after : List Node}

theorem appendToHtml_page (isHtml : IsHtml html) (n : Node)
    (none : findPath? (Tag.isNamed "html") before = none) :
    appendToHtml n (before ++ .element html cs :: after)
      = before ++ .element html (cs ++ [n]) :: after := by
  have found : Tag.isNamed "html" html := by
    rw [Tag.isNamed, isHtml.name]
    decide
  rw [appendToHtml, findPath?_append_first none found]
  dsimp only
  rw [modifyAt, replaceAt_length]
  rfl

/-- The stub is the only body, so the processing starts there. -/
theorem markBody_page (isHtml : IsHtml html) (attributes : List Attribute) (url : String)
    (none : findPath? (Tag.isNamed "body") before = none)
    (none' : findPath? (Tag.isNamed "body") cs = .none) :
    markBody (before ++ .element html (cs ++ [stubBody attributes url]) :: after)
      = before ++ .element html (cs ++ [loadedStub attributes url]) :: after := by
  have other : Tag.isNamed "body" html = false := by
    rw [Tag.isNamed, isHtml.name]
    decide
  have place : findPath? (Tag.isNamed "body") (cs ++ [stubBody attributes url])
      = some [cs.length] := findPath?_append_first none' rfl
  rw [markBody, appendToBody, findPath?_append_below none other place]
  dsimp only
  rw [modifyAt, replaceAt_append _ (by simp), Node.mapChildren, replaceAt_length]
  rfl

theorem takeFunctions_page (isHtml : IsHtml html) {codes : List String} {kept : List Node}
    (function : String) (none : findPath? isFunctionScript before = none)
    (moved : pullOut isFunctionScript cs = (kept, codes.map functionScript))
    (none' : findPath? isFunctionScript after = .none) :
    takeFunctions function (before ++ .element html cs :: after)
      = (before ++ .element html kept :: after,
          bodyFunctions codes.reverse ++ writeBody function) := by
  have other : isFunctionScript html = false := by
    rw [isFunctionScript, isHtml.name]
    simp
  have pulled : pullOut isFunctionScript (before ++ .element html cs :: after)
      = (before ++ .element html kept :: after, codes.map functionScript) := by
    rw [pullOut_append, pullOut_of_none _ none, pullOut_cons, pullOut_element, moved,
      pullOut_of_none _ none', other]
    simp
  have texts : (codes.map functionScript).reverse.map (fun s => "\n" ++ Text.strip (textOf s))
      = codes.reverse.map fun code => "\n" ++ Text.strip code := by
    simp [← List.map_reverse, textOf_functionScript]
  rw [takeFunctions, pulled]
  dsimp only
  rw [texts]
  rfl

end

/-- A compiled page: functions move to the script of the body, and the stub takes
the place of the body. -/
theorem Holds.finish {codes : List String} {html : Tag} {doc : Document} (isHtml : IsHtml html)
    (h : Holds codes html doc) (done : findPath? isTarget doc = none)
    (attributes : List Attribute) (url function : String) :
    ∃ before kept after,
      takeFunctions function (markBody (appendToHtml (stubBody attributes url) doc))
        = (before ++ .element html (kept ++ [loadedStub attributes url]) :: after,
            bodyFunctions codes.reverse ++ writeBody function) ∧
      findPath? (Tag.isNamed "body") (before ++ kept ++ after) = none ∧
      findPath? isFunctionScript (before ++ kept ++ after) = none := by
  -- what is loose has neither a body nor a function; all functions are in the head
  obtain ⟨front, headed, back⟩ := h
  rename_i before cs after
  rw [findPath?_append_eq_none, findPath?_cons_eq_none, findPath?_element_eq_none] at done
  obtain ⟨done₁, ⟨-, done₂⟩, done₃⟩ := done
  have bodies : ∀ ns, allTags isLoose ns → allTags isCompiledBody ns := fun ns =>
    allTags_mono (fun t => isCompiledBody_of_isLoose) ns
  have headedBodies : allTags isCompiledBody cs :=
    headed.allTags (fun t => isCompiledBody_of_isLoose)
      (fun t name _ _ => by simp [isCompiledBody, name])
      (allTags_functions (fun t name _ => by simp [isCompiledBody, name]) codes)
  have noBody₁ := no_body (bodies _ front) done₁
  have noBody₂ := no_body headedBodies done₂
  have noBody₃ := no_body (bodies _ back) done₃
  have functions : ∀ ns, allTags isLoose ns → findPath? isFunctionScript ns = none := fun ns =>
    findPath?_of_allTags fun t => not_isFunctionScript_of_isLoose
  have noHtml : findPath? (Tag.isNamed "html") before = none :=
    findPath?_of_allTags (fun t => isNamed_html_of_isLoose) front
  obtain ⟨kept, moved, noFunction⟩ := pullOut_headed headed
  have stubKept : pullOut isFunctionScript (cs ++ [loadedStub attributes url])
      = (kept ++ [loadedStub attributes url], codes.map functionScript) := by
    rw [pullOut_append, moved, pullOut_of_none [loadedStub attributes url] rfl, List.append_nil]
  refine ⟨before, kept, after, ?_, ?_, ?_⟩
  · rw [appendToHtml_page isHtml _ noHtml, markBody_page isHtml _ _ noBody₁ noBody₂]
    exact takeFunctions_page isHtml function (functions _ front) stubKept (functions _ back)
  · rw [findPath?_eq_none_iff] at noBody₂
    have kept_tags := (allTags_pullOut (p := isFunctionScript) cs noBody₂).1
    rw [moved, ← findPath?_eq_none_iff] at kept_tags
    rw [findPath?_append_eq_none, findPath?_append_eq_none]
    exact ⟨⟨noBody₁, kept_tags⟩, noBody₃⟩
  · rw [findPath?_append_eq_none, findPath?_append_eq_none]
    exact ⟨⟨functions _ front, noFunction⟩, functions _ back⟩

/-! ## Splitting the body off -/

theorem isOrdinary_set_id {t : Tag} {v : Option String} (other : t.name ≠ "script")
    (h : isOrdinary t) : isOrdinary (t.set "id" v) := by
  have script : isFunctionScript (t.set "id" v) = false := by
    simp [isFunctionScript, name_set, other]
  simp only [isOrdinary, isFrameTag, Bool.and_eq_true] at h ⊢
  rw [name_set, script, page_set]
  exact ⟨⟨h.1.1, rfl⟩, h.2⟩

theorem isElsewhere_not_page {t : Tag} (h : isElsewhere t) : t.page = false := by
  simp only [isElsewhere, Bool.and_eq_true, Bool.not_eq_true'] at h
  exact h.2

theorem isElsewhere_not_body {t : Tag} (h : isElsewhere t) : Tag.isNamed "body" t = false := by
  simp only [isElsewhere, Bool.and_eq_true, bne_iff_ne] at h
  simp [Tag.isNamed, h.1]

/-- The function of an element depends on its tag by name and id only. -/
theorem functionOf_congr (o : Options) {t u : Tag} (cs : List Node) (name : t.name = u.name)
    (id : functionName? t = functionName? u) :
    functionOf o (.element t cs) = functionOf o (.element u cs) := by
  rw [functionOf, functionOf, innerLiteral, innerLiteral, Node.functionName?, Node.functionName?,
    name, id]

/-- A body that is declared is compiled with the other elements. -/
theorem isLoose_declareBody {t : Tag} (name : t.name = "body") : isLoose (declareBody t) := by
  have target := isTarget_declareBody (t := t) (by rw [name]; decide)
  simp [isLoose, isFunctionScript, name_declareBody, name, target]

theorem ordinary_outside {t : Tag} {cs : List Node} (name : t.name = "body")
    (below : allTags isOrdinary cs) :
    (Node.element t cs).findPath? (Tag.isNamed "head") = none ∧
      (Node.element t cs).findPath? (Tag.isNamed "html") = none :=
  body_outside name (allTags_mono (fun _ => isFrameless_of_isOrdinary) cs below)

/-- Extracting the functions of the body of a page gives it the ids, and adds the
functions to the head. -/
theorem Framed.extract {o : Options} {html u : Tag} {cs : List Node} {doc : Document}
    {path : Path} {p : Progress} (isHtml : IsHtml html) (name : u.name = "body") (page : u.page)
    (below : allTags isOrdinary cs) (h : Framed [] html (.element u cs) doc)
    (found : pageBody? doc = some path)
    (run : extractBody { o with split := true } path { doc } = .ok p) :
    ∃ codes, (functions (withIds 0 cs).1).mapM (functionOf o) = .ok codes ∧
      Framed codes html (.element u (withIds 0 cs).1) p.doc := by
  obtain ⟨path', rest, found', here, change⟩ := h.body (p := (·.page))
    (fun t => isElsewhere_not_page) isHtml page
  obtain rfl : path = path' := Option.some.inj (found.symm.trans found')
  obtain ⟨noHead, noHtml⟩ := ordinary_outside name below
  have ids : allTags isOrdinary (withIds 0 cs).1 :=
    allTags_withIds (q := isOrdinary) (fun _ _ other => isOrdinary_set_id other) 0 cs below
  obtain ⟨codes, functions, placed⟩ := extractBody_eq_ok here noHead noHtml run
  have framed := (change (fun _ => [.element u (withIds 0 cs).1]) _ rfl).1
  rw [placed]
  exact ⟨codes, functions, framed.place isHtml (ordinary_outside name ids).1 codes⟩

/-- The body of the template as its functions are compiled: branches are grouped,
and all elements that ask for a function have an id. -/
def Layout.content {doc : Document} (page : Layout doc) : List Node :=
  (withIds 0 (group false page.inside)).1

/-- Splitting the body off a document with one head and one body leaves a page
without functions, in which a stub of the body is the only body and the last
child of `<html>`. The script of the body defines the function of the body, then
those of the elements of the body that ask for one, each once, the outermost and
last one first, and ends with the call of the function of the body. -/
theorem split_separates {o : Options} {url : String} {doc : Document} {r : SplitPage}
    (page : Layout doc) (h : split o url doc = .ok r) :
    ∃ before kept after code codes,
      r.page.doc = before ++ .element page.html
        (kept ++ [loadedStub (stubAttributes o (bodyWithId page.body)) url]) :: after ∧
      findPath? (Tag.isNamed "body") (before ++ kept ++ after) = none ∧
      findPath? isFunctionScript r.page.doc = none ∧
      functionName? (bodyWithId page.body) = some r.bodyFunction ∧
      functionOf o (.element (bodyWithId page.body) page.content) = .ok code ∧
      functionIds page.content = (namesFrom 0 (functionIds page.inside)).map some ∧
      (functions page.content).mapM (functionOf o) = .ok codes ∧
      r.bodyScript = bodyFunctions (code :: codes.reverse) ++ writeBody r.bodyFunction := by
  obtain ⟨steps⟩ := split_steps h
  have isHtml := page.isHtml
  obtain ⟨framed, inside⟩ := page.framed
  -- the body is marked, and the page readied
  obtain ⟨path, rest, found, -, change⟩ := framed.body (p := Tag.isNamed "body")
    (fun t => isElsewhere_not_body) isHtml (by rw [Tag.isNamed, page.body_name]; decide)
  obtain rfl : steps.path = path := Option.some.inj (steps.path_eq.symm.trans found)
  have marked := (change (fun n => [n.mapTag fun t => { t with page := true }])
    (.element { page.body with page := true } page.inside) rfl).1
  have script : page.body.name ≠ "script" := by rw [page.body_name]; decide
  obtain ⟨u, hu, ready⟩ := Framed.prepare (t := { page.body with page := true }) isHtml script
    (ordinary_outside page.body_name inside).1 marked
  have readied := isReadied hu
  have name : u.name = "body" := readied.name.trans page.body_name
  -- the functions of the body go to the head
  have grouped := allTags_group_ordinary false inside
  obtain ⟨codes, functions, extracted⟩ := ready.extract isHtml name readied.page grouped
    steps.marked_eq steps.extracted_eq
  have ids : allTags isOrdinary page.content :=
    allTags_withIds (q := isOrdinary) (fun _ _ other => isOrdinary_set_id other) 0 _ grouped
  -- the body is declared, and its function follows them
  obtain ⟨path', rest', found', -, change'⟩ := extracted.body (p := (·.page))
    (fun t => isElsewhere_not_page) isHtml readied.page
  obtain rfl : steps.declared = path' := Option.some.inj (steps.declared_eq.symm.trans found')
  obtain ⟨declared, here⟩ := change' (fun n => [n.mapTag declareBody]) _ rfl
  have body := steps.body_eq.symm.trans here
  rw [Node.mapTag, List.cons.injEq, Node.element.injEq] at body
  obtain ⟨⟨tag, content⟩, -⟩ := body
  have name' : (declareBody u).name = "body" := (name_declareBody u).trans name
  obtain ⟨noHead, noHtml⟩ := ordinary_outside name' ids
  obtain ⟨function, given⟩ := exists_functionName? page.body
  have run := steps.codes_eq
  rw [site_outside steps.body_eq (by rw [tag, content]; exact noHead)
    (by rw [tag, content]; exact noHtml), tag, content] at run
  obtain ⟨named, code, hcode, added⟩ := hoist_eq_ok (readied.functionName?.trans given) run
  have placed := declared.place isHtml noHead steps.codes
  -- from here on the body is compiled with the other elements
  have loose : isLoose (declareBody u) := isLoose_declareBody name
  have compiled := (placed.holds loose ids).compile rfl isHtml steps.compiled_eq
  have stub : stubAttributes { o with split := true } steps.tag
      = stubAttributes o (bodyWithId page.body) := by
    rw [tag]
    exact readied.stubAttributes _
  obtain ⟨before, kept, after, finished, noBody, noFunction⟩ := compiled.finish isHtml
    (compileAll_done steps.compiled_eq) (stubAttributes o (bodyWithId page.body)) url function
  have result := steps.page_eq
  rw [stub, named, Option.getD_some, finished, Prod.mk.injEq] at result
  obtain ⟨doc_eq, script_eq⟩ := result
  have function_eq : r.bodyFunction = function := by rw [steps.function_eq, named]; rfl
  refine ⟨before, kept, after, code, codes, doc_eq, noBody, ?_, ?_, ?_, ?_, functions, ?_⟩
  · rw [findPath?_append_eq_none, findPath?_append_eq_none] at noFunction
    rw [doc_eq, findPath?_append_eq_none, findPath?_cons_eq_none, findPath?_element_eq_none,
      findPath?_append_eq_none]
    exact ⟨noFunction.1.1, ⟨by simp [isFunctionScript, page.html_name], noFunction.1.2, rfl⟩,
      noFunction.2⟩
  · rw [function_eq, given]
  · have same : (bodyWithId page.body).name = (declareBody u).name := by
      rw [name', name_bodyWithId, page.body_name]
    rw [functionOf_congr o _ same readied.functionName?.symm]
    exact hcode
  · rw [Layout.content, functionIds_withIds, functionIds_group]
  · rw [script_eq, function_eq, added]
    simp

/-- What the body of a page holds: functions in functions, in elements that are
left out and in branches of a choice, with and without ids. -/
def nestedContent : List Node :=
  [.element { name := "div", attributes := [("yst", some "live"), ("id", some "a")] }
    [.element { name := "p", attributes := [("yst", some "declare")] } [.text "it's"],
     .element { name := "b", attributes := [("yst", some "ignore")] }
       [.element { name := "i", attributes := [("yst", some "declare")] } []]],
   .element { name := "ul", attributes := [("yst", some "compapply")] } [],
   .text " ",
   .element { name := "ul", attributes := [("yst", some "compapply")] }
     [.element { name := "li", attributes := [("yst", some "live"), ("id", some "c d")] } []],
   .element { name := "script", attributes := [("yst", some "value")] } [.text "var a;"]]

/-- A page with this body, whose title has a directive. -/
def nestedPage : Document :=
  [.doctype "html", .element { name := "html" }
    [.element { name := "head" }
      [.element { name := "title", attributes := [("yst", some "value")] } [.text "t"]],
     .element { name := "body", attributes := [("class", some "c"), ("ystset", some "s")] }
       nestedContent]]

def nestedLayout : Layout nestedPage where
  before := [.doctype "html"]
  html := { name := "html" }
  left := [.element { name := "head" }
    [.element { name := "title", attributes := [("yst", some "value")] } [.text "t"]]]
  body := { name := "body", attributes := [("class", some "c"), ("ystset", some "s")] }
  inside := nestedContent
  right := []
  after := []
  doc_eq := rfl
  html_name := rfl
  html_plain := by decide +kernel
  body_name := rfl
  head := ⟨_, _, List.mem_singleton_self _, rfl, by decide +kernel⟩
  others := by decide +kernel
  unwritten := by decide +kernel
  unmarked := by decide +kernel

theorem split_separates_nestedPage :
    ∃ r before kept after code codes, split { hide := true } "b.js" nestedPage = .ok r ∧
      r.page.doc = before ++ .element { name := "html" }
        (kept ++ [loadedStub [("class", some "c"), ("id", some "__TemplateBody")] "b.js"])
          :: after ∧
      findPath? (Tag.isNamed "body") (before ++ kept ++ after) = none ∧
      findPath? isFunctionScript r.page.doc = none ∧
      functionIds nestedLayout.content
        = [some "__TemplateDeclare1", some "__TemplateDeclare2", some "a", some "c_d"] ∧
      (functions nestedLayout.content).mapM (functionOf { hide := true }) = .ok codes ∧
      r.bodyScript = bodyFunctions (code :: codes.reverse) ++ writeBody "__TemplateBody" := by
  have succeeds : (split { hide := true } "b.js" nestedPage).isOk := by decide +kernel
  have attributes : stubAttributes { hide := true } (bodyWithId nestedLayout.body)
      = [("class", some "c"), ("id", some "__TemplateBody")] := by decide +kernel
  have function : functionName? (bodyWithId nestedLayout.body) = some "__TemplateBody" := by
    decide +kernel
  have names : (namesFrom 0 (functionIds nestedLayout.inside)).map some
      = [some "__TemplateDeclare1", some "__TemplateDeclare2", some "a", some "c_d"] := by
    decide +kernel
  cases hr : split { hide := true } "b.js" nestedPage with
  | error e => rw [hr] at succeeds; cases succeeds
  | ok r =>
      obtain ⟨before, kept, after, code, codes, doc, noBody, noFunction, named, -, ids, functions,
        script⟩ := split_separates nestedLayout hr
      rw [attributes] at doc
      rw [function, Option.some.injEq] at named
      rw [← named] at script
      exact ⟨r, before, kept, after, code, codes, rfl, doc, noBody, noFunction,
        ids.trans names, functions, script⟩

end PageTemplates.Compile
