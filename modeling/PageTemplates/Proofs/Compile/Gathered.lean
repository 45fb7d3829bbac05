import PageTemplates.Proofs.Compile.Arranged
import PageTemplates.Proofs.Compile.Separating

/-!
# The functions of a page

The functions of a page are the texts of the scripts that define them. In a page
that keeps its frame apart, those that are added stay, and nothing else becomes of
the others until they are moved out. The main facts:

* `functionTexts hidden ns`: the functions outside of elements that are hidden;
* `functionTexts_of_changed`: a change of one element adds what it adds there;
* `functionTexts_place`: the functions that are placed are added, each once;
* `functionTexts_prepare`, `functionTexts_replaceFirst`: readying a page and
  compiling an element keep the functions outside of elements with directives;
* `functionTexts_eq_pullOut`: they are what is moved to the script of the body.
-/

namespace PageTemplates.Compile

open Markup

mutual

/-- The texts of the scripts at and below a node that define functions, in document
order, without those at and below elements that are hidden. -/
def Node.functionTexts (hidden : Tag → Bool) : Node → List String
  | .element t cs =>
      if hidden t then []
      else (if isFunctionScript t then [textOf (.element t cs)] else []) ++ functionTexts hidden cs
  | .document cs => functionTexts hidden cs
  | _ => []

/-- The same for a list of siblings. -/
def functionTexts (hidden : Tag → Bool) : List Node → List String
  | [] => []
  | c :: cs => Node.functionTexts hidden c ++ functionTexts hidden cs

end

/-- Whether what is in an element does not count as part of the page: an element
with a directive, and, where `bodies` says so, a body. -/
def isHidden (bodies : Bool) (t : Tag) : Bool := isTarget t || bodies && t.name == "body"

section

variable {hidden : Tag → Bool} {t : Tag} {cs ds es ns ms : List Node}

theorem functionTexts_append (ns ms : List Node) :
    functionTexts hidden (ns ++ ms) = functionTexts hidden ns ++ functionTexts hidden ms := by
  induction ns with
  | nil => rfl
  | cons n ns ih => rw [List.cons_append, functionTexts, functionTexts, ih, List.append_assoc]

theorem functionTexts_cons (n : Node) (ns : List Node) :
    functionTexts hidden (n :: ns) = functionTexts hidden [n] ++ functionTexts hidden ns :=
  functionTexts_append [n] ns

theorem functionTexts_hidden (h : hidden t) (cs : List Node) :
    functionTexts hidden [.element t cs] = [] := by
  rw [functionTexts, Node.functionTexts, if_pos h]
  rfl

theorem functionTexts_shown (h : hidden t = false) (cs : List Node) :
    functionTexts hidden [.element t cs]
      = (if isFunctionScript t then [textOf (.element t cs)] else [])
        ++ functionTexts hidden cs := by
  rw [functionTexts, Node.functionTexts, h, functionTexts, List.append_nil]
  rfl

/-- Of a tag, only matters whether it is hidden and whether it is that of a
function. -/
theorem functionTexts_retag {u : Tag} (same : hidden u = hidden t)
    (script : isFunctionScript u = isFunctionScript t) (cs : List Node) :
    functionTexts hidden [.element u cs] = functionTexts hidden [.element t cs] := by
  have text : textOf (.element u cs) = textOf (.element t cs) := rfl
  cases h : hidden t with
  | true => rw [functionTexts_hidden h, functionTexts_hidden (same.trans h)]
  | false => rw [functionTexts_shown h, functionTexts_shown (same.trans h), script, text]

theorem functionTexts_other (h : hidden t = false) (other : t.name ≠ "script") (cs : List Node) :
    functionTexts hidden [.element t cs] = functionTexts hidden cs := by
  have plain : isFunctionScript t = false := by simp [isFunctionScript, other]
  rw [functionTexts_shown h, plain]
  rfl

theorem functionTexts_document (cs : List Node) :
    functionTexts hidden [.document cs] = functionTexts hidden cs := by
  rw [functionTexts, Node.functionTexts, functionTexts, List.append_nil]

theorem functionTexts_functions (shown : ∀ t : Tag, t.name = "script" → hidden t = false)
    (codes : List String) : functionTexts hidden (codes.map functionScript) = codes := by
  induction codes with
  | nil => rfl
  | cons code codes ih =>
      have own : functionTexts hidden [functionScript code]
          = [textOf (functionScript code)] ++ functionTexts hidden [.text code] :=
        functionTexts_shown (shown _ rfl) _
      rw [List.map_cons, functionTexts_cons, ih, own, textOf_functionScript]
      rfl

/-! ## Where functions are hidden -/

mutual

theorem Node.mem_functionTexts {code : String} : ∀ n : Node,
    code ∈ Node.functionTexts hidden n → code ∈ Node.functionTexts (fun _ => false) n
  | .element t cs, h => by
      rw [Node.functionTexts] at h ⊢
      split at h
      · cases h
      · rw [if_neg Bool.false_ne_true]
        rw [List.mem_append] at h ⊢
        exact h.imp_right (mem_functionTexts cs)
  | .document cs, h => mem_functionTexts cs h
  | .text _, h | .comment _, h | .doctype _, h | .markup _, h => h

/-- The functions of a page are among those where nothing is hidden. -/
theorem mem_functionTexts {code : String} : ∀ ns : List Node,
    code ∈ functionTexts hidden ns → code ∈ functionTexts (fun _ => false) ns
  | [], h => h
  | n :: ns, h => by
      rw [functionTexts, List.mem_append] at h ⊢
      exact h.imp (Node.mem_functionTexts n) (mem_functionTexts ns)

end

mutual

theorem Node.functionTexts_congr {hidden' : Tag → Bool} : ∀ n : Node,
    Node.allTags (fun t => hidden t == hidden' t) n →
    Node.functionTexts hidden n = Node.functionTexts hidden' n
  | .element t cs, h => by
      rw [allTags_element, beq_iff_eq] at h
      rw [Node.functionTexts, Node.functionTexts, h.1, functionTexts_congr cs h.2]
  | .document cs, h => functionTexts_congr cs h
  | .text _, _ | .comment _, _ | .doctype _, _ | .markup _, _ => rfl

/-- Only what is hidden among the nodes matters. -/
theorem functionTexts_congr {hidden' : Tag → Bool} : ∀ ns : List Node,
    allTags (fun t => hidden t == hidden' t) ns →
    functionTexts hidden ns = functionTexts hidden' ns
  | [], _ => rfl
  | n :: ns, h => by
      rw [allTags_cons] at h
      rw [functionTexts, functionTexts, Node.functionTexts_congr n h.1,
        functionTexts_congr ns h.2]

end

theorem functionTexts_of_none (ns : List Node) (h : findPath? hidden ns = none) :
    functionTexts hidden ns = functionTexts (fun _ => false) ns := by
  rw [findPath?_eq_none_iff] at h
  exact functionTexts_congr ns (allTags_mono (fun t ht => by simpa using ht) ns h)

/-! ## Changes -/

theorem textOf_append (ns ms : List Node) :
    textOf (.element t (ns ++ ms)) = textOf (.element t ns) ++ textOf (.element t ms) := by
  simp [textOf, Node.children, String.join_append]

theorem textOf_elements (h : ns.all Node.isElement) : textOf (.element t ns) = "" := by
  induction ns with
  | nil => rfl
  | cons n ns ih =>
      rw [List.all_cons, Bool.and_eq_true] at h
      rw [← List.singleton_append, textOf_append, ih h.2]
      cases n with
      | element u cs => rfl
      | document _ | text _ | comment _ | doctype _ | markup _ => cases h.1

variable {p : Tag → Bool} {f : Node → List Node}

/-- An element is no part of the text around it. -/
theorem textOf_of_changed (elements : ∀ t cs, p t → (f (.element t cs)).all Node.isElement)
    (h : Changed p f ds es) : textOf (.element t es) = textOf (.element t ds) := by
  have swap : ∀ {n : Node} (new : List Node) {ns : List Node},
      textOf (.element t new) = textOf (.element t [n]) →
        textOf (.element t (new ++ ns)) = textOf (.element t (n :: ns)) := by
    intro n new ns same
    rw [textOf_append, same, ← textOf_append]
    rfl
  induction h with
  | here hp => exact swap _ ((textOf_elements (elements _ _ hp)).trans rfl)
  | inside _ _ _ => exact swap [_] rfl
  | document _ _ => exact swap [_] rfl
  | @next n ns ms _ ih =>
      rw [← List.singleton_append, textOf_append, ih, ← textOf_append]
      rfl

/-- What is added to the first part of a list is added to the list. -/
theorem perm_behind {α : Type} {old new added : List α} (h : new.Perm (old ++ added))
    (rest : List α) : (new ++ rest).Perm (old ++ rest ++ added) := by
  rw [List.append_assoc]
  refine (h.append_right rest).trans ?_
  rw [List.append_assoc]
  exact .append_left old List.perm_append_comm

/-- A change of one element adds the functions `codes` if it does so where the
element stands and nothing around it is hidden. -/
theorem functionTexts_of_changed {q : Tag → List Node → Bool} {codes : List String}
    (h : Changed p f ns ms) (elements : ∀ t cs, p t → (f (.element t cs)).all Node.isElement)
    (here : ∀ t cs, p t → q t cs → everywhere q cs →
      (functionTexts hidden (f (.element t cs))).Perm
        (functionTexts hidden [.element t cs] ++ codes))
    (shown : codes = [] ∨ ∀ u ds, hidden u → q u ds → everywhere q ds → findPath? p ds = none)
    (all : everywhere q ns) :
    (functionTexts hidden ms).Perm (functionTexts hidden ns ++ codes) := by
  induction h with
  | @here t cs ns hp =>
      rw [everywhere_cons, everywhere_element] at all
      rw [functionTexts_append, functionTexts_cons]
      exact perm_behind (here t cs hp all.1.1 all.1.2) _
  | @inside u ds es ns _ below ih =>
      rw [everywhere_cons, everywhere_element] at all
      rw [functionTexts_cons, functionTexts_cons (.element u ds)]
      refine perm_behind ?_ _
      cases hu : hidden u with
      | true =>
          -- nothing that is added may be hidden
          rw [functionTexts_hidden hu, functionTexts_hidden hu]
          rcases shown with rfl | shown
          · exact .refl _
          · exact absurd (shown u ds hu all.1.1 all.1.2) below.findPath?_ne_none
      | false =>
          rw [functionTexts_shown hu, functionTexts_shown hu, textOf_of_changed elements below,
            List.append_assoc]
          exact .append_left _ (ih all.1.2)
  | @document ds es ns below ih =>
      rw [everywhere_cons] at all
      rw [functionTexts_cons, functionTexts_cons (.document ds), functionTexts_document,
        functionTexts_document]
      exact perm_behind (ih all.1) _
  | @next n ns ms _ ih =>
      rw [everywhere_cons] at all
      rw [functionTexts_cons n ms, functionTexts_cons n ns, List.append_assoc]
      exact .append_left _ (ih all.2)

/-- A change that adds no functions leaves them in their order. -/
theorem functionTexts_of_changed_eq {q : Tag → List Node → Bool} (h : Changed p f ns ms)
    (elements : ∀ t cs, p t → (f (.element t cs)).all Node.isElement)
    (here : ∀ t cs, p t → q t cs → everywhere q cs →
      functionTexts hidden (f (.element t cs)) = functionTexts hidden [.element t cs])
    (all : everywhere q ns) : functionTexts hidden ms = functionTexts hidden ns := by
  induction h with
  | @here t cs ns hp =>
      rw [everywhere_cons, everywhere_element] at all
      rw [functionTexts_append, functionTexts_cons, here t cs hp all.1.1 all.1.2]
  | @inside u ds es ns _ below ih =>
      rw [everywhere_cons, everywhere_element] at all
      rw [functionTexts_cons, functionTexts_cons (.element u ds)]
      cases hu : hidden u with
      | true => rw [functionTexts_hidden hu, functionTexts_hidden hu]
      | false =>
          rw [functionTexts_shown hu, functionTexts_shown hu, textOf_of_changed elements below,
            ih all.1.2]
  | @document ds es ns below ih =>
      rw [everywhere_cons] at all
      rw [functionTexts_cons, functionTexts_cons (.document ds), functionTexts_document,
        functionTexts_document, ih all.1]
  | @next n ns ms _ ih =>
      rw [everywhere_cons] at all
      rw [functionTexts_cons n ms, functionTexts_cons n ns, ih all.2]

/-! ## Moving functions out -/

mutual

theorem Node.textOf_pullOut : ∀ n : Node,
    textOf (.element t (n.pullOut p).1) = textOf (.element t [n])
  | .element u cs => by
      rw [pullOut_element]
      split <;> rfl
  | .document cs => by rw [pullOut_document]; rfl
  | .text _ | .comment _ | .doctype _ | .markup _ => rfl

theorem textOf_pullOut : ∀ ns : List Node,
    textOf (.element t (pullOut p ns).1) = textOf (.element t ns)
  | [] => rfl
  | n :: ns => by
      rw [pullOut_cons, textOf_append, Node.textOf_pullOut n, textOf_pullOut ns, ← textOf_append]
      rfl

end

mutual

theorem Node.functionTexts_eq_pullOut : ∀ n : Node,
    Node.functionTexts (fun _ => false) n = (n.pullOut isFunctionScript).2.map textOf
  | .element t cs => by
      have text : textOf (.element t (pullOut isFunctionScript cs).1) = textOf (.element t cs) :=
        textOf_pullOut cs
      rw [Node.functionTexts, if_neg Bool.false_ne_true, functionTexts_eq_pullOut cs,
        pullOut_element]
      split
      · rw [List.map_cons, text]
        rfl
      · rfl
  | .document cs => by
      rw [Node.functionTexts, pullOut_document, functionTexts_eq_pullOut cs]
  | .text _ | .comment _ | .doctype _ | .markup _ => rfl

/-- The functions of a page are moved out in document order. -/
theorem functionTexts_eq_pullOut : ∀ ns : List Node,
    functionTexts (fun _ => false) ns = (pullOut isFunctionScript ns).2.map textOf
  | [] => rfl
  | n :: ns => by
      rw [functionTexts, pullOut_cons, List.map_append, Node.functionTexts_eq_pullOut n,
        functionTexts_eq_pullOut ns]

end

mutual

theorem Node.functionTexts_pullOut (hp : ∀ t, p t → hidden t) : ∀ n : Node,
    functionTexts hidden (n.pullOut p).1 = functionTexts hidden [n] ∧
      functionTexts hidden (n.pullOut p).2 = []
  | .element u cs => by
      obtain ⟨kept, pulled⟩ := functionTexts_pullOut hp cs
      rw [pullOut_element]
      split
      · rename_i hu
        refine ⟨(functionTexts_hidden (hp u hu) cs).symm, ?_⟩
        rw [functionTexts_cons, functionTexts_hidden (hp u hu), pulled]
        rfl
      · refine ⟨?_, pulled⟩
        cases hu : hidden u with
        | true => rw [functionTexts_hidden hu, functionTexts_hidden hu]
        | false => rw [functionTexts_shown hu, functionTexts_shown hu, kept, textOf_pullOut]
  | .document cs => by
      obtain ⟨kept, pulled⟩ := functionTexts_pullOut hp cs
      rw [pullOut_document]
      exact ⟨by rw [functionTexts_document, functionTexts_document, kept], pulled⟩
  | .text _ | .comment _ | .doctype _ | .markup _ => ⟨rfl, rfl⟩

/-- Elements that are hidden hold no functions of the page. -/
theorem functionTexts_pullOut (hp : ∀ t, p t → hidden t) : ∀ ns : List Node,
    functionTexts hidden (pullOut p ns).1 = functionTexts hidden ns ∧
      functionTexts hidden (pullOut p ns).2 = []
  | [] => ⟨rfl, rfl⟩
  | n :: ns => by
      obtain ⟨kept, pulled⟩ := Node.functionTexts_pullOut hp n
      obtain ⟨kept', pulled'⟩ := functionTexts_pullOut hp ns
      rw [pullOut_cons, functionTexts_append, functionTexts_append, kept, pulled, kept', pulled',
        ← functionTexts_cons]
      exact ⟨rfl, rfl⟩

end

end

/-! ## Adding functions -/

section

variable {bodies : Bool} {content : Tag → List Node → Bool} {doc : Document}

theorem isHidden_script {t : Tag} (name : t.name = "script") : isHidden bodies t = false := by
  simp [isHidden, isTarget, name]

theorem isHidden_plain {t : Tag} (plain : isTarget t = false) (name : t.name ≠ "body") :
    isHidden bodies t = false := by
  simp [isHidden, plain, name]

theorem isEnclosing_of_isHidden {t : Tag} (h : isHidden bodies t) : isEnclosing t := by
  simp only [isHidden, Bool.or_eq_true, Bool.and_eq_true] at h
  simp only [isEnclosing, Bool.or_eq_true]
  exact h.elim .inr fun h => .inl (.inr h.2)

theorem functionTexts_insertBeforeElement (hidden : Tag → Bool) (n : Node) (ns : List Node) :
    (functionTexts hidden (insertBeforeElement n ns)).Perm
      (functionTexts hidden ns ++ functionTexts hidden [n]) := by
  induction ns with
  | nil => exact .refl _
  | cons c cs ih =>
      rw [insertBeforeElement]
      split
      · rw [functionTexts_cons]
        exact List.perm_append_comm
      · rw [functionTexts_cons, functionTexts_cons c cs, List.append_assoc]
        exact .append_left _ ih

/-- No part of the frame is hidden, so what is added there stays. -/
theorem not_hidden {p : Tag → Bool} (part : ∀ t, p t → isFrameTag t) (u : Tag) (ds : List Node)
    (hu : isHidden bodies u) (ready : isReady content u ds)
    (_ : everywhere (isReady content) ds) : findPath? p ds = none := by
  have none := no_frame ready (isEnclosing_of_isHidden hu)
  rw [findPath?_eq_none_iff] at none ⊢
  refine allTags_mono (fun t ht => ?_) ds none
  rw [Bool.not_eq_true'] at ht ⊢
  exact Bool.eq_false_iff.mpr fun hp => by
    rw [part t hp] at ht
    cases ht

/-- The functions that are placed are added to those of the page. -/
theorem functionTexts_place (codes : List String) (ready : everywhere (isReady content) doc) :
    (functionTexts (isHidden bodies) (place codes doc)).Perm
      (functionTexts (isHidden bodies) doc ++ codes) := by
  have functions : functionTexts (isHidden bodies) (codes.map functionScript) = codes :=
    functionTexts_functions (fun t => isHidden_script) codes
  have new : functionTexts (isHidden bodies) [newHead (codes.map functionScript)] = codes := by
    rw [newHead, functionTexts_other (isHidden_plain (by decide +kernel) (by decide)) (by decide),
      functions]
  have inserted (cs : List Node) :
      (functionTexts (isHidden bodies)
        (insertBeforeElement (newHead (codes.map functionScript)) cs)).Perm
        (functionTexts (isHidden bodies) cs ++ codes) := by
    have added := functionTexts_insertBeforeElement (isHidden bodies)
      (newHead (codes.map functionScript)) cs
    rwa [new] at added
  -- a head and html show what they hold
  have below {name : String} {g : List Node → List Node} {path : Path}
      (frame : name = "html" ∨ name = "head")
      (found : findPath? (Tag.isNamed name) doc = some path)
      (hg : ∀ cs, (functionTexts (isHidden bodies) (g cs)).Perm
        (functionTexts (isHidden bodies) cs ++ codes)) :
      (functionTexts (isHidden bodies) (modifyAt (Node.mapChildren g) path doc)).Perm
        (functionTexts (isHidden bodies) doc ++ codes) := by
    have part : name ∈ ["html", "head", "body"] := by rcases frame with rfl | rfl <;> decide
    refine functionTexts_of_changed (changed_replaceAt doc path found) (fun _ _ _ => rfl)
      (fun t cs ht own _ => ?_)
      (.inr (not_hidden fun t => isFrameTag_of_isNamed part)) ready
    rw [Tag.isNamed, beq_iff_eq] at ht
    subst ht
    have plain := (isReady_iff.mp own).2.1 frame
    have shown : isHidden bodies t = false :=
      isHidden_plain plain (by rcases frame with h | h <;> rw [h] <;> decide)
    have other : t.name ≠ "script" := by rcases frame with h | h <;> rw [h] <;> decide
    rw [Node.mapChildren, functionTexts_other shown other, functionTexts_other shown other]
    exact hg cs
  refine place_cases codes doc ?nothing ?head ?html ?bare
  case nothing =>
    rintro rfl
    rw [List.append_nil]
  case head =>
    refine fun path found => below (.inr rfl) found fun cs => ?_
    rw [functionTexts_append, functions]
  case html => exact fun _ path found => below (.inl rfl) found inserted
  case bare => exact fun _ => inserted doc

/-! ## Readying and compiling -/

theorem functionTexts_moveDirectives {name : String} (hname : name ≠ "script")
    (ready : everywhere (isReady content) doc) :
    (functionTexts (isHidden bodies) (moveDirectives name doc)).Perm
      (functionTexts (isHidden bodies) doc) := by
  unfold Markup.moveDirectives moveToEndOfHead
  split
  · exact .refl _
  · rename_i path found
    refine .of_eq <| functionTexts_of_changed_eq (changed_replaceAt doc path found) (fun _ _ _ => rfl)
      (fun t cs ht own _ => ?_) ready
    rw [Tag.isNamed, beq_iff_eq] at ht
    have plain := (isReady_iff.mp own).2.1 (.inr ht)
    have shown : isHidden bodies t = false := isHidden_plain plain (by rw [ht]; decide)
    have other : t.name ≠ "script" := by rw [ht]; decide
    have targets : ∀ t : Tag, t.name == name && t.isDirective → isHidden bodies t := by
      intro t ht
      rw [Bool.and_eq_true, beq_iff_eq] at ht
      simp [isHidden, isTarget, ht, hname]
    obtain ⟨kept, pulled⟩ := functionTexts_pullOut targets cs
    rw [Node.mapChildren, functionTexts_other shown other, functionTexts_other shown other,
      functionTexts_append, kept, pulled, List.append_nil]

theorem isFunctionScript_of_isCompapply {t : Tag} (branch : t.isCompapply) :
    isFunctionScript t = false := by
  refine Bool.eq_false_iff.mpr fun script => ?_
  simp only [isFunctionScript, Bool.and_eq_true, beq_iff_eq] at script
  have word : t.directiveWord = "declare" := by
    rw [Tag.directiveWord, Tag.value, script.2]
    decide +kernel
  rw [Tag.isCompapply, word] at branch
  exact absurd branch (by decide)

theorem functionTexts_join {n : Node} (branch : n.isCompapply) :
    functionTexts (isHidden bodies) [n.mapTag join] = functionTexts (isHidden bodies) [n] := by
  cases n with
  | element t cs =>
      refine functionTexts_retag ?_ ?_ cs
      · rw [isHidden, isHidden, isTarget_join branch, name_join]
      · rw [isFunctionScript_join, isFunctionScript_of_isCompapply branch]
  | document _ | text _ | comment _ | doctype _ | markup _ => rfl

mutual

theorem Node.functionTexts_group : ∀ n : Node,
    functionTexts (isHidden bodies) [Node.group n] = functionTexts (isHidden bodies) [n]
  | .element t cs => by
      rw [Node.group]
      split
      · rfl
      · rename_i script
        have other : t.name ≠ "script" := by simpa using script
        cases h : isHidden bodies t with
        | true => rw [functionTexts_hidden h, functionTexts_hidden h]
        | false =>
            rw [functionTexts_other h other, functionTexts_other h other,
              functionTexts_group false cs]
  | .document _ | .text _ | .comment _ | .doctype _ | .markup _ => rfl

theorem functionTexts_group : ∀ opened cs,
    functionTexts (isHidden bodies) (group opened cs) = functionTexts (isHidden bodies) cs
  | _, [] => rfl
  | opened, c :: cs => by
      obtain ⟨f, opened', hf, same⟩ := group_cons opened c cs
      have here : functionTexts (isHidden bodies) [f (Node.group c)]
          = functionTexts (isHidden bodies) [c] := by
        rw [← Node.functionTexts_group c]
        rcases hf with rfl | ⟨rfl, branch⟩
        · rfl
        · rw [← Node.isCompapply_group] at branch
          exact functionTexts_join branch
      rw [same, functionTexts_cons, functionTexts_cons c, here, functionTexts_group opened' cs]

end

/-- Readying a page keeps its functions. -/
theorem functionTexts_prepare (ready : everywhere (isReady content) doc) :
    (functionTexts (isHidden bodies) (prepare doc)).Perm (functionTexts (isHidden bodies) doc) := by
  rw [prepare, functionTexts_group]
  exact (functionTexts_moveDirectives (by decide) (ready_moveDirectives "title" ready)).trans
    (functionTexts_moveDirectives (by decide) ready)

/-- Compiling an element keeps the functions outside of it. -/
theorem functionTexts_replaceFirst {hidden : Tag → Bool} (targets : ∀ t, isTarget t → hidden t)
    (shown : ∀ t : Tag, t.name = "script" → hidden t = false) (code? : Option String)
    (p : Progress) :
    functionTexts hidden (replaceFirst code? p).doc = functionTexts hidden p.doc := by
  unfold replaceFirst
  split
  · rfl
  · rename_i path found
    refine functionTexts_of_changed_eq (changed_replaceAt p.doc path found)
      (fun _ _ _ => by cases code? <;> rfl) (fun t cs target _ _ => ?_)
      (everywhere_of_forall (q := fun _ _ => true) (fun _ _ => rfl) p.doc)
    rw [functionTexts_hidden (targets t target)]
    cases code? with
    | none => rfl
    | some code =>
        refine (functionTexts_shown (shown _ rfl) _).trans ?_
        rfl

/-! ## The body -/

/-- Where bodies are hidden, what becomes of the marked one adds no functions. -/
theorem functionTexts_mapPage {f : Node → Node} {path : Path}
    (ready : everywhere (isReady content) doc) (found : pageBody? doc = some path)
    (hf : ∀ t cs, ∃ u ds, f (.element t cs) = .element u ds ∧ (t.name = "body" → u.name = "body")) :
    (functionTexts (isHidden true) (modifyAt f path doc)).Perm
      (functionTexts (isHidden true) doc) := by
  refine .of_eq <| functionTexts_of_changed_eq (changed_replaceAt doc path found) (fun t cs _ => ?_)
    (fun t cs page own _ => ?_) ready
  · obtain ⟨u, ds, same, -⟩ := hf t cs
    rw [same]
    rfl
  · have name := ((isReady_iff.mp own).2.2 page).1
    obtain ⟨u, ds, same, name'⟩ := hf t cs
    rw [same, functionTexts_hidden (by simp [isHidden, name' name]),
      functionTexts_hidden (by simp [isHidden, name])]

/-! ## Finishing a page -/

/-- Elements without functions that are added to an element take none away. -/
theorem functionTexts_behind {hidden p : Tag → Bool} {ns : List Node} {path : Path}
    (found : findPath? p doc = some path) (elements : ns.all Node.isElement)
    (none : functionTexts hidden ns = []) :
    functionTexts hidden (modifyAt (Node.mapChildren (· ++ ns)) path doc)
      = functionTexts hidden doc := by
  refine functionTexts_of_changed_eq (changed_replaceAt doc path found) (fun _ _ _ => rfl)
    (fun t cs _ _ _ => ?_) (everywhere_of_forall (q := fun _ _ => true) (fun _ _ => rfl) doc)
  rw [Node.mapChildren]
  cases ht : hidden t with
  | true => rw [functionTexts_hidden ht, functionTexts_hidden ht]
  | false =>
      rw [functionTexts_shown ht, functionTexts_shown ht, functionTexts_append, none,
        List.append_nil, textOf_append, textOf_elements elements, String.append_empty]

end

end PageTemplates.Compile
