import PageTemplates.Proofs.Compile.Calls

/-!
# Generated code can be read back

Reading the code of an element with a directive gives back the calls of the
tree below it, wherever in a grouped document the element stands. The main
facts:

* `IsDeep.siblingsAt`: conditions on a document hold at all of its places;
* `codeAt_reads`: both forms of the code of an element, and the literal of the
  element, stand for the calls of the element.
-/

namespace PageTemplates.Compile

open Markup Script

/-! ## What holds at every place -/

theorem isNamable_join {t : Tag} (h : isNamable t) : isNamable (join t) := by
  rw [isNamable, Bool.and_eq_true] at h ⊢
  rw [name_join, directiveWord_join]
  exact ⟨h.1, rfl⟩

/-- A condition that holds of siblings when it holds of each of them, and of a
node only if it holds of what the node holds. -/
structure IsDeep (P : Node → Prop) (Q : List Node → Prop) : Prop where
  forall_iff : ∀ cs, Q cs ↔ ∀ c ∈ cs, P c
  children : ∀ n, P n → Q n.children

theorem IsDeep.siblingsAt {P : Node → Prop} {Q : List Node → Prop} (h : IsDeep P Q)
    (path : Path) {cs : List Node} (hq : Q cs) : Q (siblingsAt path cs) := by
  fun_induction Markup.siblingsAt path cs with
  | case1 cs => exact hq
  | case2 cs i =>
      rw [h.forall_iff] at hq ⊢
      exact fun c hc => hq c (List.mem_of_mem_drop hc)
  | case3 cs i path hpath n hn ih =>
      rw [h.forall_iff] at hq
      exact ih (h.children n (hq n (List.mem_of_getElem? hn)))
  | case4 cs i path hpath hn => exact (h.forall_iff []).mpr fun c hc => by cases hc

theorem allTags_iff (p : Tag → Bool) (cs : List Node) :
    allTags p cs ↔ ∀ c ∈ cs, Node.allTags p c := by
  induction cs with
  | nil => simp [allTags]
  | cons c cs ih => simp [allTags, ih]

theorem isDeep_allTags (p : Tag → Bool) :
    IsDeep (fun n => Node.allTags p n) fun cs => allTags p cs := by
  refine ⟨allTags_iff p, fun n h => ?_⟩
  cases n with
  | element t cs =>
      rw [allTags_element] at h
      exact h.2
  | document cs => exact h
  | text _ | comment _ | doctype _ | markup _ => rfl

theorem isDeep_plainScripts :
    IsDeep (fun n => Node.plainScripts n) fun cs => plainScripts cs := by
  refine ⟨fun cs => ?_, fun n h => ?_⟩
  · induction cs with
    | nil => simp [plainScripts]
    | cons c cs ih => simp [plainScripts, ih]
  · cases n with
    | element t cs =>
        rw [Node.plainScripts, Bool.and_eq_true] at h
        exact h.2
    | document cs => exact h
    | text _ | comment _ | doctype _ | markup _ => rfl

/-! ## Reading code back -/

/-- Code that stands for a call in its complete form. -/
def ReadsComplete (declare : Bool) (call : Call) (code : String) : Prop :=
  match call with
  | .mk f as => ∃ args, readExpr? code = some (.call f (leading declare ++ args)) ∧
      arguments? args = some as

/-- Code that stands for a call in its nested form: a function and an array of
its arguments. -/
def ReadsNested (call : Call) (code : String) : Prop :=
  match call with
  | .mk f as => ∃ args, readExpr? ("[" ++ code ++ "]") = some (.array [.name f, .array args]) ∧
      arguments? args = some as

/-- The text inside the outermost strings of a template with the given calls. -/
def ReadsTemplate (calls : List Call) (body : String) : Prop :=
  ∃ items, readExpr? ("['" ++ body ++ "']") = some (.array items) ∧ calls? items = some calls

/-- Whether the directive of a tag asks for no call. -/
def isSilent (t : Tag) : Prop :=
  DirectiveKind.ofWord? t.directiveWord = some .ignore ∨
    DirectiveKind.ofWord? t.directiveWord = some .declare

theorem codeText_reads {nested declare : Bool} {c : Call} {code : String}
    (h : CodeText nested declare c code) :
    if nested then ReadsNested c code else ReadsComplete declare c code := by
  obtain ⟨f, as⟩ := c
  cases nested with
  | true => exact NestedText.readExpr? h
  | false => exact CompleteText.readExpr? h

/-- The code of a node at a place where no head has to be made. -/
theorem firstCode_yields (o : Options) {site : Site} (nested declare : Bool) {t : Tag}
    {cs rest : List Node} (settled : site.isSettled)
    (namable : allTags isNamable (.element t cs :: rest))
    (scripts : plainScripts (.element t cs :: rest)) :
    Yields (firstCode o site nested declare (.element t cs :: rest)) fun code? =>
      (code? = none ↔ isSilent t) ∧ ∀ code, code? = some code → ∃ call,
        elementCall? (.element t cs) (Node.calls (.element t cs)) (otherBranches rest) = some call ∧
        if nested then ReadsNested call code else ReadsComplete declare call code := by
  rw [allTags_cons] at namable
  rw [plainScripts_cons] at scripts
  have tag := (allTags_element.mp namable.1).1
  -- what is said of the calls needs a site without a head to make: hence `settled`
  have whole : Yields (literal o site.first false (.element t cs)) fun s => ∃ calls,
      TemplateText calls s ∧ (True → calls = Node.calls (.element t cs)) :=
    (literal_yields o site.first _ namable.1).mono fun s h => h.imp fun calls hc =>
      ⟨hc.1, fun _ => hc.2 ⟨Site.isSettled_first settled, scripts.1⟩⟩
  have others : Yields (branches o site.rest rest) fun s => ∃ as,
      MoreText as s ∧ (True → as = otherBranches rest) :=
    (branches_yields o site.rest rest namable.2).mono fun s h => h.imp fun as ha =>
      ⟨ha.1, fun _ => ha.2 ⟨Site.isSettled_rest settled, scripts.2⟩⟩
  refine Yields.mono (elementCode_yields tag whole others) ?_
  rintro code? ⟨kind, hk, hcode⟩
  cases hcode with
  | none silent =>
      refine ⟨⟨fun _ => ?_, fun _ => rfl⟩, fun code h => by cases h⟩
      unfold isSilent
      rw [hk]
      exact silent.imp (congrArg some) (congrArg some)
  | call hf code hcall =>
      refine ⟨⟨fun h => (by cases h), fun silent => ?_⟩, fun code' h => ?_⟩
      · unfold isSilent at silent
        rw [hk, Option.some.injEq, Option.some.injEq] at silent
        rw [elementCall?_of_silent hk silent] at hcall
        cases hcall trivial
      · cases h
        exact ⟨_, hcall trivial, codeText_reads code⟩

/-- A document with a head never has one made. -/
theorem isSettled_ofDocument {doc : Document} (h : (findPath? (Tag.isNamed "head") doc).isSome)
    (path : Path) : ((Site.ofDocument doc).mapPath (seenFrom path)).isSettled := by
  apply Site.isSettled_mapPath
  obtain ⟨p, hp⟩ := Option.isSome_iff_exists.mp h
  simp only [Site.ofDocument, hp]
  rfl

/-- What the literal of an element at a place is made of. -/
theorem literalAt_eq_ok {o : Options} {declare : Bool} {path : Path} {p p' : Progress}
    {body : String} {t : Tag} {cs rest : List Node}
    (hs : siblingsAt path p.doc = .element t cs :: rest)
    (h : literalAt o declare false path p = .ok (body, p')) :
    ∃ codes, (literal o ((Site.ofDocument p.doc).mapPath (seenFrom path)).first declare
        (.element t cs)).run [] = .ok (body, codes) ∧
      p' = { doc := place codes p.doc, generated := p.generated + codes.length } := by
  unfold literalAt at h
  rw [hs] at h
  dsimp only [List.head?_cons, Bool.false_eq_true, if_false] at h
  simp only [Bool.false_eq_true, if_false] at h
  generalize hr : StateT.run (literal o ((Site.ofDocument p.doc).mapPath (seenFrom path)).first
    declare (.element t cs)) [] = r at h
  cases r with
  | error e => cases h
  | ok r =>
      obtain ⟨text, codes⟩ := r
      cases h
      exact ⟨codes, rfl, rfl⟩

/-- In a grouped document with a head, the code of an element with a directive
is its call, in the complete and in the nested form, and only the directives
that ask for no call have no code. The literal of the element has the calls of
the element. -/
theorem codeAt_reads (o : Options) {doc : Document} (namable : allTags isNamable doc)
    (scripts : plainScripts doc) (head : (findPath? (Tag.isNamed "head") doc).isSome)
    (path : Path) (generated : Nat) {t : Tag} {cs rest : List Node}
    (place : siblingsAt path (group false doc) = .element t cs :: rest) :
    (∀ nested declare code? p,
      codeAt o nested declare path ⟨group false doc, generated⟩ = .ok (code?, p) →
        (code? = none ↔ isSilent t) ∧ ∀ code, code? = some code → ∃ call,
          elementCall? (.element t cs) (Node.calls (.element t cs)) (otherBranches rest)
            = some call ∧
          if nested then ReadsNested call code else ReadsComplete declare call code) ∧
      ∀ body p, literalAt o false false path ⟨group false doc, generated⟩ = .ok (body, p) →
        ReadsTemplate (Node.calls (.element t cs)) body := by
  have namable' : allTags isNamable (.element t cs :: rest) := by
    rw [← place]
    exact (isDeep_allTags isNamable).siblingsAt path
      (allTags_group (p := isNamable) (fun _ _ => isNamable_join) false doc namable)
  have scripts' : plainScripts (.element t cs :: rest) := by
    rw [← place]
    exact isDeep_plainScripts.siblingsAt path (plainScripts_group false doc scripts)
  -- grouping leaves heads where they are, so the site is the head that was there
  have settled : ((Site.ofDocument (group false doc)).mapPath (seenFrom path)).isSettled := by
    apply isSettled_ofDocument
    rw [findPath?_group]
    exact head
  refine ⟨fun nested declare code? p h => ?_, fun body p h => ?_⟩
  · obtain ⟨codes, hrun, -⟩ := codeAt_eq_ok h
    rw [place] at hrun
    exact firstCode_yields o nested declare settled namable' scripts' _ _ _ hrun
  · obtain ⟨codes, hrun, -⟩ := literalAt_eq_ok place h
    rw [allTags_cons] at namable'
    rw [plainScripts_cons] at scripts'
    obtain ⟨calls, hc, hk⟩ := literal_yields o _ _ namable'.1 _ _ _ hrun
    rw [← hk ⟨Site.isSettled_first settled, scripts'.1⟩]
    exact hc.readExpr?

/-- A page with a choice of two branches, one of which holds a further
directive. -/
def choicePage : Document :=
  [.element { name := "head" } [],
   .element { name := "ul", attributes := [("ystset", some "it's"), ("yst", some "compapply")] }
     [.element { name := "li", attributes := [("ystbool", some "b")] } [.text "a\n"],
      .element { name := "p", attributes := [("yst", some "value"), ("ystaux", some "c")] } []],
   .text " ",
   .element { name := "ul", attributes := [("yst", some "compapply"), ("ysttest", some "d")] } []]

theorem codeAt_reads_choicePage :
    (allTags isNamable choicePage ∧ plainScripts choicePage ∧
      (findPath? (Tag.isNamed "head") choicePage).isSome) ∧
    ∃ code p, codeAt {} true false [1] ⟨group false choicePage, 0⟩ = .ok (some code, p) ∧
      ReadsNested (.mk "YST.Txt.select"
        [.text "it's",
         .text "true", .null, .template [.mk "YST.Txt.ystBool" [.text "b"],
           .mk "YST.Txt.value" [.text "c", .template []]],
         .text "d", .null, .template []]) code := by
  have conditions : allTags isNamable choicePage ∧ plainScripts choicePage ∧
      (findPath? (Tag.isNamed "head") choicePage).isSome := by decide +kernel
  have succeeds : ((codeAt {} true false [1] ⟨group false choicePage, 0⟩).toOption.bind
      (·.1)).isSome := by decide +kernel
  refine ⟨conditions, ?_⟩
  have reads := (codeAt_reads {} conditions.1 conditions.2.1 conditions.2.2 [1] 0
    rfl).1 true false
  generalize codeAt {} true false [1] ⟨group false choicePage, 0⟩ = r at succeeds reads
  obtain _ | ⟨_ | code, p⟩ := r
  · cases succeeds
  · cases succeeds
  · obtain ⟨call, hcall, hcode⟩ := (reads (some code) p rfl).2 code rfl
    cases hcall
    exact ⟨code, p, rfl, hcode⟩

end PageTemplates.Compile
