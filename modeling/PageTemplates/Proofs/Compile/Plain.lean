import PageTemplates.Proofs.Compile.WellFormed
import PageTemplates.Proofs.Script.Unescape

/-!
# Literals without directives

Where no directive stands below a node, its literal is a function of the node
alone: no code is spliced in and no function is added, wherever the functions
of the page go. Such a literal stands for what is printed for the node. The main
facts:

* `Node.plainLiteral`, `literal_gives`: the literal, read off the tree;
* `plainLiteral_standsFor`: in a tree without scripts and styles it stands for
  the printed markup;
* `literalAt_printed`: the two printers agree at every place of a document.
-/

namespace PageTemplates.Compile

open Markup Script

/-! ## Computations that add nothing -/

/-- Begun without functions, a computation gives `a` and adds none. -/
def Gives {α : Type} (g : Gen α) (a : α) : Prop := g.run [] = .ok (a, [])

namespace Gives

variable {α β : Type}

theorem pure (a : α) : Gives (Pure.pure a : Gen α) a := rfl

theorem get : Gives (MonadState.get : Gen (List String)) [] := rfl

theorem bind {g : Gen α} {f : α → Gen β} {a : α} {b : β} (hg : Gives g a)
    (hf : Gives (f a) b) : Gives (g >>= f) b := by
  unfold Gives at *
  rw [StateT.run_bind, hg]
  exact hf

end Gives

/-! ## The literal of a tree -/

mutual

/-- The literal of a node below which no directive stands. -/
def Node.plainLiteral (o : Options) : Node → String
  | .element t cs =>
      tagLiteral o t ++ plainLiterals o (t.name == "script") cs ++ closingLiteral t.name
  | .document cs => plainLiterals o false cs
  | .text s => openingLiteral o (.text s)
  | .comment _ => ""
  | .doctype s => openingLiteral o (.doctype s)
  | .markup s => openingLiteral o (.markup s)

/-- The literal of siblings; directly inside a script the references of markup
are undone. -/
def plainLiterals (o : Options) (inScript : Bool) : List Node → String
  | [] => ""
  | c :: cs =>
      (if inScript then unmark (Node.plainLiteral o c) else Node.plainLiteral o c)
        ++ plainLiterals o inScript cs

end

/-- Whether an element is printed in the literal of the one around it. -/
def isPrinted (t : Tag) : Bool := !isTarget t

/-- No head was made among siblings so far. -/
def Opening.isQuiet : Opening → Bool
  | .behind _ => false
  | _ => true

theorem insideLiteral_gives {o : Options} {site : Site} {cs : List Node}
    {walk : Site → Opening → Gen String} {s : String}
    (h : ∀ site' opening, opening.isQuiet → Gives (walk site' opening) s) :
    Gives (insideLiteral o site cs walk) s := by
  unfold insideLiteral
  split
  · refine (h .outside .settled rfl).bind (Gives.get.bind ?_)
    rw [List.map_nil, String.join_nil, String.append_empty]
    exact .pure s
  · exact Gives.get.bind (h .outside (.watch false) rfl)
  · exact h _ .settled rfl

theorem isQuiet_afterChild {opening : Opening} (h : opening.isQuiet) (c : Node)
    (cs : List Node) : ∃ opening', afterChild opening false c cs = (false, opening') ∧
      opening'.isQuiet := by
  cases opening with
  | settled => exact ⟨.settled, rfl, rfl⟩
  | behind n => cases h
  | watch seen => exact ⟨.watch (seen || c.isElement), rfl, rfl⟩

theorem childText_gives {o : Options} {site : Site} {declare inScript : Bool} {c : Node}
    {plain whole inner branches : Gen String} {s : String}
    (printed : Node.allTags isPrinted c) (h : Gives plain s) :
    Gives (childText o site declare inScript c plain whole inner branches)
      (if inScript then unmark s else s) := by
  have noTarget : (c.name != "script" && c.isDirective) = false := by
    cases c with
    | element t cs =>
        rw [allTags_element, isPrinted, Bool.not_eq_true'] at printed
        exact printed.1
    | document _ | text _ | comment _ | doctype _ | markup _ => simp [Node.isDirective]
  unfold childText
  cases inScript with
  | true => exact h.bind (.pure _)
  | false =>
      simp only [noTarget, Bool.false_eq_true, if_false]
      exact h

theorem literals_cons_gives {o : Options} {site : Site} {declare inScript : Bool}
    {opening : Opening} {c : Node} {cs : List Node} {s r : String} (quiet : opening.isQuiet)
    (printed : Node.allTags isPrinted c) (child : Gives (literal o site.first declare c) s)
    (rest : ∀ opening', opening'.isQuiet →
      Gives (literals o site.rest declare inScript opening' cs) r) :
    Gives (literals o site declare inScript opening (c :: cs))
      ((if inScript then unmark s else s) ++ r) := by
  have whole : Gives (childrenFrom o site declare inScript c cs "" opening)
      ((if inScript then unmark s else s) ++ r) := by
    obtain ⟨opening', hafter, quiet'⟩ := isQuiet_afterChild quiet c cs
    unfold childrenFrom
    refine Gives.get.bind ((childText_gives printed child).bind (Gives.get.bind ?_))
    simp only [List.isEmpty_nil, Bool.not_true, Bool.and_false, hafter, Bool.false_eq_true,
      if_false]
    refine (Gives.pure "").bind ((rest opening' quiet').bind ?_)
    rw [String.empty_append, String.append_empty]
    exact .pure _
  rw [literals_cons]
  cases opening with
  | settled | watch seen => exact whole
  | behind n => cases quiet

mutual

/-- Where no directive stands below a node, its literal is the one read off the
tree, and no function is added. -/
theorem literal_gives (o : Options) (site : Site) (declare : Bool) :
    ∀ n, allTags isPrinted n.children →
      Gives (literal o site declare n) (Node.plainLiteral o n)
  | .element t cs, h => by
      rw [literal, Node.plainLiteral]
      refine (insideLiteral_gives fun site' opening quiet => ?_).bind (.pure _)
      exact literals_gives o site' declare (t.name == "script") opening quiet cs h
  | .document cs, h => by
      rw [literal, Node.plainLiteral]
      exact literals_gives o site declare false .settled rfl cs h
  | .text s, _ | .comment s, _ | .doctype s, _ | .markup s, _ => by
      rw [literal, Node.plainLiteral]
      exact .pure _

theorem literals_gives (o : Options) (site : Site) (declare inScript : Bool) (opening : Opening)
    (quiet : opening.isQuiet) : ∀ cs, allTags isPrinted cs →
      Gives (literals o site declare inScript opening cs) (plainLiterals o inScript cs)
  | [], _ => by
      cases opening with
      | settled | watch seen =>
          rw [literals, plainLiterals]
          · exact .pure _
          · rintro ⟨⟩
      | behind n => cases quiet
  | c :: cs, h => by
      rw [allTags_cons] at h
      rw [plainLiterals]
      have below : allTags isPrinted c.children := (isDeep_allTags isPrinted).children c h.1
      refine literals_cons_gives quiet h.1 (literal_gives o site.first declare c below) ?_
      intro opening' quiet'
      exact literals_gives o site.rest declare inScript opening' quiet' cs h.2

end

/-- The literal of a node at a place, if no directive stands below it. -/
theorem literalAt_plain (o : Options) (declare : Bool) (path : Path) {p : Progress} {n : Node}
    {rest : List Node} (found : siblingsAt path p.doc = n :: rest)
    (printed : allTags isPrinted n.children) :
    literalAt o declare false path p = .ok (Node.plainLiteral o n, p) := by
  have run := literal_gives o ((Site.ofDocument p.doc).mapPath (seenFrom path)).first declare n
    printed
  unfold Gives at run
  unfold literalAt
  rw [found]
  cases n <;>
    simp only [List.head?_cons, Bool.false_eq_true, if_false, run] <;> rfl

/-! ## What a literal shows -/

/-- The tag that a literal shows: without the attributes of directives if they
are hidden. -/
def shownTag (hide : Bool) (t : Tag) : Tag := if hide then t.without directiveAttributes else t

mutual

/-- What a literal shows of a node: no comments, and no attributes of directives
if they are hidden. -/
def Node.shown (hide : Bool) : Node → List Node
  | .element t cs => [.element (shownTag hide t) (shown hide cs)]
  | .document cs => [.document (shown hide cs)]
  | .text s => [.text s]
  | .comment _ => []
  | .doctype s => [.doctype s]
  | .markup s => [.markup s]

/-- What a literal shows of siblings. -/
def shown (hide : Bool) : List Node → List Node
  | [] => []
  | c :: cs => Node.shown hide c ++ shown hide cs

end

mutual

/-- Whether the void elements at and below a node hold nothing. -/
def Node.emptyVoids : Node → Bool
  | .element t cs => (!isVoid t.name || cs.isEmpty) && emptyVoids cs
  | .document cs => emptyVoids cs
  | _ => true

/-- Whether the void elements in a list of siblings, and below, hold nothing. -/
def emptyVoids : List Node → Bool
  | [] => true
  | c :: cs => Node.emptyVoids c && emptyVoids cs

end

/-- Whether a tag is printed alike in markup and in a literal: it is that of
neither a script nor a style, its name has no backslash, and it has no `ystbool`
attribute. -/
def isAlike (t : Tag) : Bool :=
  !isRawText t.name && !t.name.toList.contains '\\' && !t.has "ystbool"

theorem lastBool?_eq_none {t : Tag} (h : t.has "ystbool" = false) : lastBool? t = none := by
  unfold Tag.has at h
  rw [List.any_eq_false] at h
  have none : t.attributes.filter (·.1 == "ystbool") = [] := List.filter_eq_nil_iff.mpr h
  rw [lastBool?, none]
  rfl

theorem name_shownTag (hide : Bool) (t : Tag) : (shownTag hide t).name = t.name := by
  cases hide <;> rfl

/-- A start tag without a `ystbool` attribute stands for the tag it shows. -/
theorem tagLiteral_standsFor {plain : Prop} (o : Options) {t : Tag} (h : lastBool? t = none) :
    StandsFor plain (tagLiteral o t) ((shownTag o.hide t).print o.family) := by
  have ending : StandsFor plain ">" ">" := .self (by decide) fun _ => rfl
  unfold tagLiteral
  simp only [h, String.append_empty]
  rw [Tag.print, name_shownTag]
  exact (StandsFor.escape _).append ending

theorem printAll_append (family : Family) (raw : Bool) (xs ys : List Node) :
    printAll family raw (xs ++ ys) = printAll family raw xs ++ printAll family raw ys := by
  induction xs with
  | nil => rw [List.nil_append, printAll, String.empty_append]
  | cons x xs ih => rw [List.cons_append, printAll, printAll, ih, String.append_assoc]

theorem printAll_singleton (family : Family) (raw : Bool) (n : Node) :
    printAll family raw [n] = n.print family raw := by
  rw [printAll, printAll, String.append_empty]

/-- An end tag stands for itself, or for nothing where there is none. -/
theorem closingLiteral_standsFor {plain : Prop} {t : Tag} (alike : isAlike t)
    (hp : plain → isPlainName t.name) :
    StandsFor plain (closingLiteral t.name)
      (if isVoid t.name then "" else "</" ++ t.name ++ ">") := by
  simp only [isAlike, isRawText, Bool.and_eq_true, Bool.not_eq_true', Bool.or_eq_false_iff,
    List.contains_eq_mem, decide_eq_false_iff_not] at alike
  obtain ⟨⟨⟨script, -⟩, backslash⟩, -⟩ := alike
  unfold closingLiteral
  split
  · exact .empty
  · rw [if_neg (by simp [script])]
    have front : StandsFor plain "</" "</" := .self (by decide) fun _ => rfl
    have back : StandsFor plain ">" ">" := .self (by decide) fun _ => rfl
    exact (front.append (.self backslash hp)).append back

mutual

/-- In a tree without scripts and styles, the literal of a node stands for what
is printed of it. -/
theorem plainLiteral_standsFor {plain : Prop} (o : Options) : ∀ n, Node.allTags isAlike n →
    Node.emptyVoids n → (plain → Node.allTags (isPlainName ·.name) n) →
      StandsFor plain (Node.plainLiteral o n) (printAll o.family false (Node.shown o.hide n))
  | .element t cs, alike, voids, hp => by
      rw [allTags_element] at alike
      rw [Node.emptyVoids, Bool.and_eq_true] at voids
      have plainTag : plain → isPlainName t.name := fun h => (allTags_element.mp (hp h)).1
      have tag := alike.1
      simp only [isAlike, Bool.and_eq_true, Bool.not_eq_true'] at tag
      obtain ⟨⟨raw, -⟩, noBool⟩ := tag
      have script : (t.name == "script") = false := (Bool.or_eq_false_iff.mp raw).1
      have opening : StandsFor plain (tagLiteral o t) ((shownTag o.hide t).print o.family) :=
        tagLiteral_standsFor o (lastBool?_eq_none noBool)
      have inside := plainLiterals_standsFor o cs alike.2 voids.2
        fun h => (allTags_element.mp (hp h)).2
      have closing := closingLiteral_standsFor alike.1 plainTag
      rw [Node.plainLiteral, Node.shown, printAll_singleton, Node.print, name_shownTag, script, raw]
      cases void : isVoid t.name with
      | true =>
          -- what a void element holds is printed in literals only
          obtain rfl : cs = [] := by simpa [void] using voids.1
          rw [void] at closing
          simpa [plainLiterals] using opening.append closing
      | false =>
          rw [void] at closing
          simpa [String.append_assoc] using opening.append (inside.append closing)
  | .document cs, alike, voids, hp => by
      rw [Node.plainLiteral, Node.shown, printAll_singleton, Node.print]
      exact plainLiterals_standsFor o cs alike voids hp
  | .text s, _, _, _ | .doctype s, _, _, _ | .markup s, _, _, _ => by
      rw [Node.plainLiteral, Node.shown, printAll_singleton, Node.print, openingLiteral]
      exact .escape _
  | .comment _, _, _, _ => .empty

theorem plainLiterals_standsFor {plain : Prop} (o : Options) : ∀ cs, allTags isAlike cs →
    emptyVoids cs → (plain → allTags (isPlainName ·.name) cs) →
      StandsFor plain (plainLiterals o false cs) (printAll o.family false (shown o.hide cs))
  | [], _, _, _ => .empty
  | c :: cs, alike, voids, hp => by
      rw [allTags_cons] at alike
      rw [emptyVoids, Bool.and_eq_true] at voids
      rw [plainLiterals, shown, printAll_append]
      exact (plainLiteral_standsFor o c alike.1 voids.1 fun h => (allTags_cons.mp (hp h)).1).append
        (plainLiterals_standsFor o cs alike.2 voids.2 fun h => (allTags_cons.mp (hp h)).2)

end

/-- In a tree without scripts and styles, below whose root no directive stands,
the literal of a node at any place stands for what is printed of the node
without its comments and its hidden attributes. As a string of the generated
script it does so if the names of the elements can stand in one. -/
theorem literalAt_printed (o : Options) (declare : Bool) (path : Path) {p : Progress} {n : Node}
    {rest : List Node} (found : siblingsAt path p.doc = n :: rest)
    (printed : allTags isPrinted n.children) (alike : Node.allTags isAlike n)
    (voids : Node.emptyVoids n) :
    ∃ body, literalAt o declare false path p = .ok (body, p) ∧
      unescape? body = some (printAll o.family false (Node.shown o.hide n)) ∧
      (Node.allTags (isPlainName ·.name) n →
        readExpr? ("'" ++ body ++ "'")
          = some (.text (printAll o.family false (Node.shown o.hide n)))) := by
  have stands := plainLiteral_standsFor o n alike voids id
  exact ⟨_, literalAt_plain o declare path found printed, stands.unescape?_eq,
    fun plain => (stands.inside plain).readExpr?⟩

/-- A paragraph with a directive of its own, a comment, a void element and
characters that are escaped in markup, in strings or in both. -/
def quotedNode : Node :=
  .element { name := "p", attributes := [("yst", some "value"), ("title", some "a\n\"b\"")] }
    [.comment "c", .text "d's & é/\t", .markup "<?e?>",
     .element { name := "input", attributes := [("checked", none), ("ystaux", none)] } []]

theorem literalAt_printed_quotedNode :
    (allTags isPrinted quotedNode.children ∧ Node.allTags isAlike quotedNode ∧
      Node.emptyVoids quotedNode) ∧
    ∃ body, literalAt { family := .ascii, hide := true } true false [1]
        ⟨[.doctype "html", quotedNode], 0⟩ = .ok (body, ⟨[.doctype "html", quotedNode], 0⟩) ∧
      unescape? body = some
        "<p title=\"a &quot;b&quot;\">d's &amp; &eacute;/\t<?e?><input checked></p>" := by
  have conditions : allTags isPrinted quotedNode.children ∧ Node.allTags isAlike quotedNode ∧
      Node.emptyVoids quotedNode := by decide +kernel
  obtain ⟨body, run, reads, -⟩ := literalAt_printed { family := .ascii, hide := true } true [1]
    (p := ⟨[.doctype "html", quotedNode], 0⟩) rfl conditions.1 conditions.2.1 conditions.2.2
  refine ⟨conditions, body, run, ?_⟩
  rw [reads]
  decide +kernel

end PageTemplates.Compile
