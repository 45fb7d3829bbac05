import PageTemplates.Compile.Page
import PageTemplates.Proofs.Compile.Clean
import PageTemplates.Proofs.Compile.Solid

/-!
# Clean pages

A document whose parts that are kept as they are have good characters is compiled to a page,
and a script for its body, that have good characters in their scripts. The main facts:

* `clean_of_changed`: a change keeps elements clean, if it puts clean elements in their place;
* `clean_compileTargets`: so does compiling elements with directives;
* `SplitSteps.clean`: and so do the steps that split a body off;
* `compileDocument_good`: the scripts that a document is compiled to are good.
-/

namespace PageTemplates.Compile

open Markup Script

variable {split : Bool} {good : Char → Bool}

/-! ## Changes -/

section

variable {inScript : Bool} {t : Tag} {cs ns ms : List Node} {p : Tag → Bool}
  {f : Node → List Node} {doc : Document}

theorem isCleanLeaf_of_isElement {n : Node} (h : n.isElement) : isCleanLeaf good inScript n := by
  cases n <;> first | rfl | cases h

theorem leaves_of_changed (h : Changed p f ns ms)
    (elements : ∀ t cs, ∀ n ∈ f (.element t cs), n.isElement)
    (leaves : ∀ n ∈ ns, isCleanLeaf good inScript n) : ∀ n ∈ ms, isCleanLeaf good inScript n := by
  induction h with
  | @here t cs ns _ =>
      rw [List.forall_mem_append]
      exact ⟨fun n hn => isCleanLeaf_of_isElement (elements t cs n hn),
        (List.forall_mem_cons.mp leaves).2⟩
  | inside _ _ _ | document _ _ =>
      rw [List.forall_mem_cons] at leaves ⊢
      exact leaves
  | next _ ih =>
      rw [List.forall_mem_cons] at leaves ⊢
      exact ⟨leaves.1, ih leaves.2⟩

/-- A change keeps elements clean, if what an element is replaced by is. -/
theorem clean_of_changed (h : Changed p f ns ms)
    (elements : ∀ t cs, ∀ n ∈ f (.element t cs), n.isElement)
    (here : ∀ t cs, p t → isClean split good t cs → everywhere (isClean split good) cs →
      everywhere (isClean split good) (f (.element t cs)))
    (clean : everywhere (isClean split good) ns) : everywhere (isClean split good) ms := by
  refine everywhere_of_changed h here (fun u ds es below own _ => ?_) clean
  rw [isClean_iff] at own ⊢
  exact ⟨own.1, leaves_of_changed below elements own.2⟩

/-- What an element holds is changed. -/
theorem clean_mapChildren {g : List Node → List Node} {name : String} {path : Path}
    (found : findPath? (Tag.isNamed name) doc = some path)
    (below : ∀ cs, everywhere (isClean split good) cs → everywhere (isClean split good) (g cs))
    (leaves : ∀ inScript cs, (∀ c ∈ cs, isCleanLeaf good inScript c) →
      ∀ c ∈ g cs, isCleanLeaf good inScript c)
    (clean : everywhere (isClean split good) doc) :
    everywhere (isClean split good) (modifyAt (Node.mapChildren g) path doc) := by
  refine clean_of_changed (changed_replaceAt doc path found) (fun t cs n hn => ?_)
    (fun t cs _ own inner => ?_) clean
  · rw [List.mem_singleton.mp hn]
    rfl
  · rw [isClean_iff] at own
    exact everywhere_cons.mpr ⟨everywhere_element.mpr
      ⟨isClean_iff.mpr ⟨own.1, leaves _ cs own.2⟩, below cs inner⟩, rfl⟩

/-- The tag of an element is changed but for its name. -/
theorem clean_mapTag {g : Tag → Tag} {path : Path} (found : findPath? p doc = some path)
    (name : ∀ t, (g t).name = t.name)
    (tag : ∀ t, p t → isCleanTag split good t → isCleanTag split good (g t))
    (clean : everywhere (isClean split good) doc) :
    everywhere (isClean split good) (modifyAt (Node.mapTag g) path doc) := by
  refine clean_of_changed (changed_replaceAt doc path found) (fun t cs n hn => ?_)
    (fun t cs ht own inner => ?_) clean
  · rw [List.mem_singleton.mp hn]
    rfl
  · rw [isClean_iff] at own
    refine everywhere_cons.mpr ⟨everywhere_element.mpr ⟨isClean_iff.mpr ⟨tag t ht own.1, ?_⟩,
      inner⟩, rfl⟩
    rw [name]
    exact own.2

theorem clean_append_children {content : List Node} {name : String} {path : Path}
    (found : findPath? (Tag.isNamed name) doc = some path)
    (new : everywhere (isClean split good) content) (elements : ∀ n ∈ content, n.isElement)
    (clean : everywhere (isClean split good) doc) :
    everywhere (isClean split good) (modifyAt (Node.mapChildren (· ++ content)) path doc) := by
  refine clean_mapChildren found (fun cs below => everywhere_append.mpr ⟨below, new⟩)
    (fun inScript cs leaves => ?_) clean
  rw [List.forall_mem_append]
  exact ⟨leaves, fun n hn => isCleanLeaf_of_isElement (elements n hn)⟩

theorem leaves_insertBeforeElement {n : Node} (element : n.isElement)
    (leaves : ∀ c ∈ cs, isCleanLeaf good inScript c) :
    ∀ c ∈ insertBeforeElement n cs, isCleanLeaf good inScript c := by
  have new : isCleanLeaf good inScript n := isCleanLeaf_of_isElement element
  induction cs with
  | nil => exact List.forall_mem_singleton.mpr new
  | cons c cs ih =>
      rw [insertBeforeElement]
      split
      · exact List.forall_mem_cons.mpr ⟨new, leaves⟩
      · rw [List.forall_mem_cons] at leaves ⊢
        exact ⟨leaves.1, ih leaves.2⟩

mutual

theorem Node.exists_of_pulled : ∀ n : Node, ∀ c ∈ (n.pullOut p).2, ∃ u es, c = .element u es ∧ p u
  | .element t cs => by
      rw [pullOut_element]
      split
      · rename_i ht
        exact List.forall_mem_cons.mpr ⟨⟨t, _, rfl, ht⟩, exists_of_pulled cs⟩
      · exact exists_of_pulled cs
  | .document cs => by
      rw [pullOut_document]
      exact exists_of_pulled cs
  | .text _ | .comment _ | .doctype _ | .markup _ => List.forall_mem_nil _

/-- Elements alone are pulled out. -/
theorem exists_of_pulled : ∀ ns : List Node, ∀ c ∈ (pullOut p ns).2,
    ∃ u es, c = .element u es ∧ p u
  | [] => List.forall_mem_nil _
  | n :: ns => by
      rw [pullOut_cons]
      exact List.forall_mem_append.mpr ⟨Node.exists_of_pulled n, exists_of_pulled ns⟩

end

theorem leaves_pulled {c : Node} (hc : c ∈ (pullOut p ns).2) : isCleanLeaf good inScript c := by
  obtain ⟨_, _, rfl, -⟩ := exists_of_pulled ns c hc
  rfl

theorem leaves_pullOut (leaves : ∀ c ∈ cs, isCleanLeaf good inScript c) :
    ∀ c ∈ (pullOut p cs).1, isCleanLeaf good inScript c := by
  induction cs with
  | nil => exact leaves
  | cons c cs ih =>
      rw [List.forall_mem_cons] at leaves
      rw [pullOut_cons]
      refine List.forall_mem_append.mpr ⟨?_, ih leaves.2⟩
      have leaf := leaves.1
      cases c with
      | element t ds =>
          rw [pullOut_element]
          split
          · exact List.forall_mem_nil _
          · exact List.forall_mem_singleton.mpr leaf
      | document _ => cases leaf
      | text _ | comment _ | doctype _ | markup _ => exact List.forall_mem_singleton.mpr leaf

theorem isClean_pullOut (p : Tag → Bool) (t : Tag) (cs : List Node)
    (own : isClean split good t cs) : isClean split good t (pullOut p cs).1 := by
  rw [isClean_iff] at own ⊢
  exact ⟨own.1, leaves_pullOut own.2⟩

theorem leaves_group (opened : Bool) (leaves : ∀ c ∈ cs, isCleanLeaf good inScript c) :
    ∀ c ∈ group opened cs, isCleanLeaf good inScript c := by
  induction cs generalizing opened with
  | nil => exact leaves
  | cons c cs ih =>
      rw [List.forall_mem_cons] at leaves
      obtain ⟨f, opened', hf, same⟩ := group_cons opened c cs
      rw [same]
      refine List.forall_mem_cons.mpr ⟨?_, ih opened' leaves.2⟩
      have leaf := leaves.1
      cases c with
      | element t ds =>
          rcases hf with rfl | ⟨rfl, -⟩
          · exact isCleanLeaf_of_isElement (by rw [Node.group]; split <;> rfl)
          · exact isCleanLeaf_of_isElement (by rw [Node.group]; split <;> rfl)
      | document _ => cases leaf
      | text _ | comment _ | doctype _ | markup _ =>
          rcases hf with rfl | ⟨rfl, branch⟩
          · exact leaf
          · cases branch

end

/-! ## Tags that are changed -/

section

variable {t : Tag} {name : String} {v : Option String}

theorem mem_setFirst {a : Attribute} {attributes : List Attribute}
    (h : a ∈ Tag.setFirst name v attributes) : a = (name, v) ∨ a ∈ attributes := by
  induction attributes with
  | nil => cases h
  | cons b bs ih =>
      rw [Tag.setFirst] at h
      split at h
      · exact (List.mem_cons.mp h).imp_right (List.mem_cons_of_mem b)
      · rcases List.mem_cons.mp h with rfl | h
        · exact .inr List.mem_cons_self
        · exact (ih h).imp_right (List.mem_cons_of_mem b)

theorem cleanAttributes_set (new : isCleanAttribute good (name, v))
    (attributes : ∀ a ∈ t.attributes, isCleanAttribute good a) :
    ∀ a ∈ (t.set name v).attributes, isCleanAttribute good a := by
  intro a ha
  unfold Tag.set at ha
  split at ha
  · rcases mem_setFirst ha with rfl | ha
    · exact new
    · exact attributes a ha
  · rcases List.mem_append.mp ha with ha | ha
    · exact attributes a ha
    · exact List.mem_singleton.mp ha ▸ new

variable {family : Family} (suits : Suits good family)

include suits

theorem Suits.attribute {w : String} (name' : name.toList.all (·.toNat < 128))
    (value : isOver good w) : isCleanAttribute good (name, some w) :=
  isCleanAttribute_iff.mpr ⟨suits.const name', fun _ => value⟩

theorem isCleanTag_join (clean : isCleanTag split good t) : isCleanTag split good (join t) := by
  obtain ⟨name, attributes, id⟩ := isCleanTag_iff.mp clean
  refine isCleanTag_iff.mpr ⟨?_, ?_, fun becomes => ?_⟩
  · exact (name_join t).symm ▸ name
  · exact cleanAttributes_set (suits.attribute (by decide) (suits.const (by decide))) attributes
  · have same : (join t).value "id" = t.value "id" :=
      value_set_of_ne (by decide) t (some "ignore")
    have hoists : Tag.hoists (join t) = t.page := by
      have ignored : ((join t).directiveOf .ignore).hoists = false := rfl
      simp [Tag.hoists, directiveWord_join, DirectiveKind.ofWord?, page_join, ignored]
    rw [same]
    rw [becomesFunction, hoists, name_join, Bool.or_eq_true] at becomes
    refine id ?_
    rw [becomesFunction, Bool.or_eq_true]
    exact becomes.imp_left fun page => by simp [Tag.hoists, page]

theorem isCleanTag_declareBody (page : t.page) (clean : isCleanTag split good t) :
    isCleanTag split good (declareBody t) := by
  obtain ⟨name, attributes, id⟩ := isCleanTag_iff.mp clean
  have declared : isCleanAttribute good ("yst", some "declare") :=
    suits.attribute (by decide) (suits.const (by decide))
  have yst := cleanAttributes_set declared attributes
  refine isCleanTag_iff.mpr ⟨(name_declareBody t).symm ▸ name, ?_, fun _ => ?_⟩
  · unfold declareBody
    dsimp only
    split
    · exact cleanAttributes_set (suits.attribute (by decide) (suits.const (by decide))) yst
    · exact yst
  · unfold declareBody
    dsimp only
    split
    · rw [value_set]
      exact suits.const (by decide)
    · rw [value_set_of_ne (by decide)]
      exact id (by simp [becomesFunction, Tag.hoists, page])

end

/-! ## Steps of compiling -/

section

variable {o : Options} {doc : Document}

theorem isElement_functions (codes : List String) :
    ∀ n ∈ codes.map functionScript, n.isElement := by
  rw [List.forall_mem_map]
  exact fun _ _ => rfl

variable (suits : Suits good o.family)

include suits

theorem clean_script {attributes : List Attribute} {code : String}
    (clean : ∀ a ∈ attributes, isCleanAttribute good a) (h : isOver good code) :
    Node.everywhere (isClean split good) (.script attributes code) := by
  refine everywhere_element.mpr ⟨isClean_iff.mpr ⟨isCleanTag_iff.mpr
    ⟨suits.const (s := "script") (by decide), clean, fun becomes => ?_⟩, ?_⟩, rfl⟩
  · simp [becomesFunction, Tag.hoists] at becomes
  · exact List.forall_mem_singleton.mpr h

theorem clean_functions {codes : List String} (h : ∀ c ∈ codes, isOver good c) :
    everywhere (isClean split good) (codes.map functionScript) := by
  induction codes with
  | nil => rfl
  | cons code codes ih =>
      rw [List.forall_mem_cons] at h
      refine everywhere_cons.mpr ⟨clean_script suits ?_ h.1, ih h.2⟩
      exact List.forall_mem_cons.mpr ⟨suits.attribute (by decide) (suits.const (by decide)),
        List.forall_mem_singleton.mpr (suits.attribute (by decide) (suits.const (by decide)))⟩

theorem clean_writeScript {code : String} (h : isOver good code) :
    Node.everywhere (isClean split good) (writeScript code) := by
  refine clean_script suits (List.forall_mem_singleton.mpr
    (suits.attribute (by decide) (suits.const (by decide)))) ?_
  rw [isOver_append, isOver_append]
  exact ⟨⟨suits.const (by decide), h⟩, suits.const (by decide)⟩

theorem clean_prepare (clean : everywhere (isClean split good) doc) :
    everywhere (isClean split good) (prepare doc) := by
  have moved (name : String) {doc : Document} (clean : everywhere (isClean split good) doc) :
      everywhere (isClean split good) (moveDirectives name doc) := by
    unfold Markup.moveDirectives moveToEndOfHead
    split
    · exact clean
    · rename_i path found
      refine clean_mapChildren found (fun cs below => ?_) (fun inScript cs leaves => ?_) clean
      · exact everywhere_append.mpr (everywhere_pullOut (isClean_pullOut _) cs below)
      · exact List.forall_mem_append.mpr ⟨leaves_pullOut leaves, fun c hc => leaves_pulled hc⟩
  refine everywhere_group (fun t cs own => ?_) (fun t cs _ own => ?_) false _
    (moved "meta" (moved "title" clean))
  · rw [isClean_iff] at own ⊢
    exact ⟨own.1, leaves_group false own.2⟩
  · rw [isClean_iff] at own ⊢
    rw [name_join]
    exact ⟨isCleanTag_join suits own.1, own.2⟩

theorem clean_place {codes : List String} (h : ∀ c ∈ codes, isOver good c)
    (clean : everywhere (isClean split good) doc) :
    everywhere (isClean split good) (place codes doc) := by
  have functions : everywhere (isClean split good) (codes.map functionScript) :=
    clean_functions suits h
  have head : Node.everywhere (isClean split good) (newHead (codes.map functionScript)) := by
    refine everywhere_element.mpr ⟨isClean_iff.mpr ⟨isCleanTag_iff.mpr
      ⟨suits.const (by decide), List.forall_mem_nil _, fun _ => rfl⟩, fun n hn => ?_⟩, functions⟩
    exact isCleanLeaf_of_isElement (isElement_functions codes n hn)
  refine place_cases codes doc ?nothing ?head ?html ?bare
  case nothing => exact fun _ => clean
  case head =>
    exact fun path found =>
      clean_append_children found functions (isElement_functions codes) clean
  case html =>
    exact fun _ path found => clean_mapChildren found
      (fun cs => everywhere_insertBeforeElement head)
      (fun _ _ => leaves_insertBeforeElement rfl) clean
  case bare => exact fun _ => everywhere_insertBeforeElement head clean

theorem clean_replaceFirst {code? : Option String} {p : Progress}
    (h : ∀ code ∈ code?, isOver good code) (clean : everywhere (isClean split good) p.doc) :
    everywhere (isClean split good) (replaceFirst code? p).doc := by
  unfold replaceFirst
  split
  · exact clean
  · rename_i path found
    refine clean_of_changed (changed_replaceAt p.doc path found) (fun _ _ n hn => ?_)
      (fun _ _ _ _ _ => ?_) clean
    · cases code? with
      | none => cases hn
      | some code =>
          rw [List.mem_singleton.mp hn]
          rfl
    · cases code? with
      | none => rfl
      | some code => exact everywhere_cons.mpr ⟨clean_writeScript suits (h code rfl), rfl⟩

/-- Compiling elements with directives keeps a document clean. -/
theorem clean_compileTargets {n : Nat} {p p' : Progress} (h : compileTargets o n p = .ok p')
    (clean : everywhere (isClean split good) p.doc) :
    everywhere (isClean split good) p'.doc := by
  replace h := targetRun_of_ok h
  induction h with
  | stop p => exact clean
  | @step p _ _ path _ found coded _ ih =>
      obtain ⟨codes, run, rfl⟩ := codeAt_eq_ok coded
      obtain ⟨t, cs, rest, target, here, -⟩ :=
        replaced_found (f := fun _ => []) p.doc path found
      have there := (isDeep_everywhere (isClean split good)).siblingsAt path clean
      rw [here] at run there
      have other : t.name ≠ "script" := by
        rintro script
        simp [isTarget, script] at target
      obtain ⟨code, functions⟩ := firstCode_good suits _ false false there other []
        (List.forall_mem_nil _) _ _ run
      exact ih (clean_replaceFirst suits code (clean_place suits functions clean))

theorem isOver_startCode : isOver good startCode := suits.const (by decide)

theorem clean_markBody (clean : everywhere (isClean split good) doc) :
    everywhere (isClean split good) (markBody doc) := by
  unfold markBody appendToBody
  split
  · rename_i path found
    refine clean_append_children found (everywhere_cons.mpr ⟨clean_script suits ?_ ?_, rfl⟩)
      (List.forall_mem_singleton.mpr rfl) clean
    · exact List.forall_mem_singleton.mpr (suits.attribute (by decide) (suits.const (by decide)))
    · exact isOver_startCode suits
  · exact clean

end

/-! ## Extracting functions -/

/-- From good functions, extracting gives results that satisfy `Q`, and good functions. -/
abbrev ExtractsGood (good : Char → Bool) {α : Type} (g : Extract α) (Q : α → Prop) : Prop :=
  Preserves (fun x => ∀ c ∈ x.codes, isOver good c) g Q

theorem ExtractsGood.ofGen {α : Type} {g : Gen α} {Q : α → Prop} (h : MakesGood good g Q) :
    ExtractsGood good (Extract.ofGen g) Q := by
  intro x hx a x' run
  obtain ⟨⟨b, codes⟩, ran, run⟩ := bind_eq_ok run
  cases run
  exact h x.codes hx a codes ran

section

variable {o : Options} (suits : Suits good o.family)

include suits

theorem isOver_madeUp (n : Nat) : isOver good ("__TemplateDeclare" ++ toString n) := by
  refine isOver_append.mpr ⟨suits.const (by decide), ?_⟩
  rw [isOver_iff, Nat.toString_eq_repr, Nat.toList_repr]
  exact fun c hc => suits.ascii c (Codec.ascii_of_mem_toDigits hc)

theorem withId_good {t : Tag} (clean : isCleanTag split good t)
    (id : isOver good (t.value "id")) : ExtractsGood good (withId t)
      fun u => u.name = t.name ∧ isCleanTag split good u ∧ isOver good (u.value "id") := by
  unfold withId
  split
  · exact .pure ⟨rfl, clean, id⟩
  · refine Preserves.get.bind fun x _ => ?_
    dsimp only
    refine Preserves.bind (Preserves.update fun _ hx => hx) fun _ _ => ?_
    obtain ⟨name, attributes, -⟩ := isCleanTag_iff.mp clean
    have made := isOver_madeUp suits (x.named + 1)
    have id' : isOver good ((t.set "id" (some ("__TemplateDeclare"
        ++ toString (x.named + 1)))).value "id") := by
      rw [value_set]
      exact made
    refine .pure ⟨name_set _ _ _, isCleanTag_iff.mpr ⟨?_, ?_, fun _ => id'⟩, id'⟩
    · rw [name_set]
      exact name
    · exact cleanAttributes_set (suits.attribute (by decide) made) attributes

theorem extractElement_good (site : Site) {t : Tag} {cs : List Node} (other : t.name ≠ "script")
    (clean : Node.everywhere (isClean split good) (.element t cs)) :
    ExtractsGood good (extractElement o site t cs) fun n =>
      Node.everywhere (isClean split good) n ∧ n.isElement := by
  obtain ⟨own, below⟩ := everywhere_element.mp clean
  obtain ⟨tag, leaves⟩ := isClean_iff.mp own
  unfold extractElement
  split
  · exact .pure ⟨clean, rfl⟩
  refine Preserves.get.bind fun x _ => (Preserves.lift fun d hd => directive_eq_ok hd).bind ?_
  rintro d ⟨kind, hk, rfl⟩
  split
  · exact .pure ⟨clean, rfl⟩
  · rename_i hoists
    rw [Bool.not_eq_true', Bool.not_eq_false] at hoists
    have id := (isCleanTag_iff.mp tag).2.2
      (by simp [becomesFunction, Tag.hoists, hk, other, hoists])
    refine (withId_good suits tag id).bind ?_
    rintro u ⟨name, tag', id'⟩
    have clean' : Node.everywhere (isClean split good) (.element u cs) :=
      everywhere_element.mpr ⟨isClean_iff.mpr ⟨tag', by rw [name]; exact leaves⟩, below⟩
    have inside := innerLiteral_good suits site _ clean' rfl
    exact (ExtractsGood.ofGen (hoist_good suits inside
      fun name => isOver_functionName suits id')).bind fun _ _ => .pure ⟨clean', rfl⟩

end

mutual

theorem extract_good {o : Options} (suits : Suits good o.family) (site : Site) :
    ∀ n, Node.everywhere (isClean split good) n →
    ExtractsGood good (extract o site n) fun m => Node.everywhere (isClean split good) m ∧
      ∀ inScript, isCleanLeaf good inScript n → isCleanLeaf good inScript m
  | .element t cs, clean => by
      obtain ⟨own, below⟩ := everywhere_element.mp clean
      rw [extract]
      split
      · exact .pure ⟨clean, fun _ => id⟩
      · rename_i script
        refine (extractAll_good suits site cs below).bind ?_
        rintro ds ⟨below', leaves⟩
        obtain ⟨tag, leaves'⟩ := isClean_iff.mp own
        refine (extractElement_good suits site (by simpa using script) (everywhere_element.mpr
          ⟨isClean_iff.mpr ⟨tag, leaves _ leaves'⟩, below'⟩)).mono fun m hm => ⟨hm.1, ?_⟩
        exact fun _ _ => isCleanLeaf_of_isElement hm.2
  | .document _, clean | .text _, clean | .comment _, clean | .doctype _, clean
  | .markup _, clean => by
      rw [extract]
      · exact .pure ⟨clean, fun _ => id⟩
      all_goals intros; contradiction

/-- Extracting functions keeps siblings clean. -/
theorem extractAll_good {o : Options} (suits : Suits good o.family) (site : Site) :
    ∀ cs, everywhere (isClean split good) cs →
    ExtractsGood good (extractAll o site cs) fun ds => everywhere (isClean split good) ds ∧
      ∀ inScript, (∀ c ∈ cs, isCleanLeaf good inScript c) → ∀ d ∈ ds, isCleanLeaf good inScript d
  | [], _ => by
      rw [extractAll]
      exact .pure ⟨rfl, fun _ => id⟩
  | c :: cs, clean => by
      obtain ⟨first, behind⟩ := everywhere_cons.mp clean
      rw [extractAll]
      refine (extract_good suits site.first c first).bind ?_
      rintro d ⟨here, leaf⟩
      refine (extractAll_good suits site.rest cs behind).bind ?_
      rintro ds ⟨rest, leaves⟩
      refine .pure ⟨everywhere_cons.mpr ⟨here, rest⟩, fun inScript all => ?_⟩
      rw [List.forall_mem_cons] at all ⊢
      exact ⟨leaf inScript all.1, leaves inScript all.2⟩

end

theorem clean_extractBody {o : Options} (suits : Suits good o.family) {path : Path}
    {p p' : Progress} (found : pageBody? p.doc = some path)
    (h : extractBody o path p = .ok p') (clean : everywhere (isClean split good) p.doc) :
    everywhere (isClean split good) p'.doc := by
  unfold extractBody at h
  obtain ⟨t, cs, rest, -, here, -⟩ := replaced_found (f := fun _ => []) p.doc path found
  rw [here] at h
  dsimp only at h
  have there := (isDeep_everywhere (isClean split good)).siblingsAt path clean
  rw [here] at there
  obtain ⟨own, below⟩ := everywhere_element.mp (everywhere_cons.mp there).1
  obtain ⟨tag, leaves⟩ := isClean_iff.mp own
  obtain ⟨⟨ds, x⟩, extracted, h⟩ := bind_eq_ok h
  cases h
  obtain ⟨⟨below', leaves'⟩, functions⟩ :=
    extractAll_good suits _ cs below {} (List.forall_mem_nil _) ds x extracted
  refine clean_place suits functions ?_
  refine clean_of_changed (changed_replaceAt p.doc path found) (fun _ _ n hn => ?_)
    (fun _ _ _ _ _ => ?_) clean
  · rw [List.mem_singleton.mp hn]
    rfl
  · exact everywhere_cons.mpr
      ⟨everywhere_element.mpr ⟨isClean_iff.mpr ⟨tag, leaves' _ leaves⟩, below'⟩, rfl⟩

/-! ## Splitting the body off -/

theorem isCleanTag_markPage {t : Tag} (body : t.name = "body") (clean : isCleanTag true good t) :
    isCleanTag true good { t with page := true } := by
  obtain ⟨name, attributes, id⟩ := isCleanTag_iff.mp clean
  exact isCleanTag_iff.mpr ⟨name, attributes, fun _ => id (by simp [becomesFunction, body])⟩

/-- A page in which ids of bodies are clean is clean where they need not be. -/
theorem clean_anyway {doc : Document} (clean : everywhere (isClean true good) doc) :
    everywhere (isClean false good) doc := by
  refine everywhere_imp (fun t cs own _ => ?_) doc clean clean
  rw [isClean_iff, isCleanTag_iff] at own ⊢
  obtain ⟨⟨name, attributes, id⟩, leaves⟩ := own
  refine ⟨⟨name, attributes, fun becomes => id ?_⟩, leaves⟩
  simp only [becomesFunction, Bool.false_and, Bool.or_false] at becomes
  simp [becomesFunction, becomes]

theorem clean_stubBody {o : Options} (suits : Suits good o.family) {t : Tag} {url : String}
    (attributes : ∀ a ∈ t.attributes, isCleanAttribute good a) :
    Node.everywhere (isClean false good) (stubBody (stubAttributes o t) url) := by
  refine everywhere_element.mpr ⟨isClean_iff.mpr ⟨isCleanTag_iff.mpr ⟨?_, ?_, ?_⟩, ?_⟩, ?_⟩
  · exact suits.const (s := "body") (by decide)
  · exact fun a ha => attributes a (List.mem_filter.mp ha).1
  · intro becomes
    rw [becomesFunction, Tag.hoists, directiveWord_stub] at becomes
    cases becomes
  · exact List.forall_mem_singleton.mpr rfl
  · have src : isCleanAttribute good ("src", some url) := isCleanAttribute_iff.mpr
      ⟨suits.const (s := "src") (by decide), fun own => absurd own
        (show "src" ∉ directiveAttributes by decide)⟩
    refine everywhere_cons.mpr ⟨clean_script suits ?_ (suits.const (by decide +kernel)), rfl⟩
    exact List.forall_mem_cons.mpr ⟨suits.attribute (by decide) (suits.const (by decide)),
      List.forall_mem_singleton.mpr src⟩

/-- All steps keep a document clean. -/
theorem SplitSteps.clean {o : Options} {url : String} {doc : Document} {r : SplitPage}
    (steps : SplitSteps o url doc r) (suits : Suits good o.family)
    (clean : everywhere (isClean true good) doc) :
    everywhere (isClean false good) steps.whole ∧
      ∀ name ∈ steps.name?, isOver good name := by
  have suits' : Suits good { o with split := true : Options }.family := suits
  have marked : everywhere (isClean true good) (markPage steps.path doc) :=
    clean_mapTag steps.path_eq (fun _ => rfl)
      (fun t named => isCleanTag_markPage (beq_iff_eq.mp named)) clean
  have extracted := clean_extractBody suits' steps.marked_eq steps.extracted_eq
    (clean_prepare suits' marked)
  have declared : everywhere (isClean true good)
      (declarePage steps.declared steps.extracted.doc) :=
    clean_mapTag steps.declared_eq name_declareBody
      (fun t page => isCleanTag_declareBody suits' page) extracted
  -- the element at the place of the body is the one that was declared
  obtain ⟨u, ds, rest, page, -, behind, -⟩ := replaced_found
    (f := fun n => [n.mapTag declareBody]) steps.extracted.doc steps.declared steps.declared_eq
  have tag : steps.tag = declareBody u := by
    have first := (List.cons.inj (steps.body_eq.symm.trans behind)).1
    rw [Node.mapTag, Node.element.injEq] at first
    exact first.1
  have there := (isDeep_everywhere (isClean true good)).siblingsAt steps.declared declared
  rw [steps.body_eq] at there
  have body := (everywhere_cons.mp there).1
  obtain ⟨-, attributes, id⟩ :=
    isCleanTag_iff.mp (isClean_iff.mp (everywhere_element.mp body).1).1
  have hoists : becomesFunction true steps.tag := by
    have marked : steps.tag.page := by rw [tag, page_declareBody]; exact page
    simp [becomesFunction, Tag.hoists, marked]
  obtain ⟨name, functions⟩ := hoist_good suits' (innerLiteral_good suits' _ _ body rfl)
    (fun name => isOver_functionName suits' (id hoists)) [] (List.forall_mem_nil _) _ _
    steps.codes_eq
  have compiled := clean_compileTargets suits' steps.compiled_eq
    (clean_place suits' functions declared)
  refine ⟨clean_markBody suits' ?_, name⟩
  unfold appendToHtml
  split
  · rename_i path found
    exact clean_append_children found
      (everywhere_cons.mpr ⟨clean_stubBody suits' attributes, rfl⟩)
      (List.forall_mem_singleton.mpr rfl) (clean_anyway compiled)
  · exact everywhere_append.mpr ⟨clean_anyway compiled,
      everywhere_cons.mpr ⟨clean_stubBody suits' attributes, rfl⟩⟩

/-! ## Scripts -/

/-- What stands in a clean script is good. -/
theorem isOver_textOf {t : Tag} {cs : List Node} (script : t.name = "script")
    (clean : isClean split good t cs) : isOver good (textOf (.element t cs)) := by
  refine isOver_join fun s hs => ?_
  obtain ⟨c, hc, rfl⟩ := List.mem_map.mp hs
  have leaf := (isClean_iff.mp clean).2 c hc
  rw [script] at leaf
  cases c with
  | text s => exact leaf
  | element _ _ | document _ | comment _ | doctype _ | markup _ => rfl

mutual

theorem Node.isOver_scriptTexts : ∀ n : Node, Node.everywhere (isClean split good) n →
    ∀ code ∈ Node.scriptTexts n, isOver good code
  | .element t cs, clean => by
      obtain ⟨own, below⟩ := everywhere_element.mp clean
      rw [Node.scriptTexts]
      refine List.forall_mem_append.mpr ⟨?_, isOver_scriptTexts cs below⟩
      split
      · rename_i script
        exact List.forall_mem_singleton.mpr (isOver_textOf (beq_iff_eq.mp script) own)
      · exact List.forall_mem_nil _
  | .document cs, clean => isOver_scriptTexts cs clean
  | .text _, _ | .comment _, _ | .doctype _, _ | .markup _, _ => List.forall_mem_nil _

/-- The scripts of a clean document are good. -/
theorem isOver_scriptTexts : ∀ ns : List Node, everywhere (isClean split good) ns →
    ∀ code ∈ scriptTexts ns, isOver good code
  | [], _ => List.forall_mem_nil _
  | n :: ns, clean => by
      rw [everywhere_cons] at clean
      rw [scriptTexts]
      exact List.forall_mem_append.mpr
        ⟨Node.isOver_scriptTexts n clean.1, isOver_scriptTexts ns clean.2⟩

end

theorem isOver_writeBody {family : Family} (suits : Suits good family) {function : String}
    (h : isOver good function) : isOver good (writeBody function) := by
  unfold writeBody
  rw [isOver_append, isOver_append]
  exact ⟨⟨suits.const (by decide), h⟩, suits.const (by decide)⟩

/-- The scripts of a page, and of its body if that is split off, are good if the document is
clean. -/
theorem compileDocument_good {s : Settings} {family : Family} {doc page : Document}
    {script? : Option String} (suits : Suits good family)
    (h : compileDocument s family doc = .ok (page, script?))
    (clean : everywhere (isClean (s.mode == .cacheSplit) good) doc) :
    (∀ code ∈ scriptTexts page, isOver good code) ∧ ∀ code ∈ script?, isOver good code := by
  have suits' : Suits good { family, hide := s.hide : Options }.family := suits
  unfold compileDocument at h
  dsimp only at h
  split at h <;> rename_i mode <;> rw [mode] at clean
  · obtain ⟨r, done, h⟩ := bind_eq_ok h
    cases h
    obtain ⟨p, run, rfl⟩ := inline_eq_ok done
    have compiled := clean_compileTargets suits' run (clean_prepare suits' clean)
    refine ⟨?_, by simp⟩
    split
    · exact isOver_scriptTexts _ compiled
    · exact isOver_scriptTexts _ (clean_markBody suits' compiled)
  · obtain ⟨r, done, h⟩ := bind_eq_ok h
    cases h
    -- the scripts of the body are those taken out of the page, and the call that writes it
    obtain ⟨steps⟩ := split_steps done
    obtain ⟨whole, name⟩ := steps.clean suits' clean
    obtain ⟨kept, pulled⟩ :=
      everywhere_pullOut (p := isFunctionScript) (isClean_pullOut _) steps.whole whole
    obtain ⟨stays, moved⟩ := Prod.mk.inj steps.page_eq
    refine ⟨?_, fun code hcode => ?_⟩
    · rw [stays]
      exact isOver_scriptTexts _ kept
    · cases hcode
      rw [moved]
      refine isOver_append.mpr ⟨isOver_join fun t ht => ?_, isOver_writeBody suits ?_⟩
      · obtain ⟨n, hn, rfl⟩ := List.mem_map.mp ht
        rw [List.mem_reverse] at hn
        obtain ⟨u, es, rfl, function⟩ := exists_of_pulled _ n hn
        have clean := ((isDeep_everywhere (isClean false good)).forall_iff _).mp pulled _ hn
        rw [isFunctionScript, Bool.and_eq_true, beq_iff_eq] at function
        exact isOver_append.mpr ⟨suits.const (by decide),
          isOver_strip (isOver_textOf function.1 (everywhere_element.mp clean).1)⟩
      · cases named : steps.name? with
        | none => exact suits.const (by decide)
        | some name' => exact name name' named

end PageTemplates.Compile
