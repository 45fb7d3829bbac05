import PageTemplates.Compile.Inline
import PageTemplates.Proofs.Script.Unmark

/-!
# What generating code yields

Code is generated by computations that add functions and may find an unknown
directive. What they give when they succeed is followed step by step:

* `Yields g Q`: whatever functions there are already, a result of `g`
  satisfies `Q`;
* `insideLiteral_yields`, `literals_cons_yields`: the literal of what a node
  holds and of siblings is made up of the literals of the children and of text
  inside a string.
-/

namespace PageTemplates.Compile

open Markup Script

/-! ## Outcomes -/

theorem bind_eq_ok {α β ε : Type} {x : Except ε α} {f : α → Except ε β} {b : β}
    (h : (x >>= f) = .ok b) : ∃ a, x = .ok a ∧ f a = .ok b := by
  cases x with
  | error e => cases h
  | ok a => exact ⟨a, rfl, h⟩

/-- Every result of a computation satisfies `Q`. -/
def Yields {α : Type} (g : Gen α) (Q : α → Prop) : Prop :=
  ∀ codes a codes', g.run codes = .ok (a, codes') → Q a

namespace Yields

variable {α β : Type} {g : Gen α} {P Q : α → Prop}

theorem mono (h : Yields g P) (hPQ : ∀ a, P a → Q a) : Yields g Q :=
  fun codes a codes' hr => hPQ a (h codes a codes' hr)

theorem pure {a : α} (h : Q a) : Yields (Pure.pure a : Gen α) Q := by
  intro codes a' codes' hr
  cases hr
  exact h

theorem bind {f : α → Gen β} {R : β → Prop} (hg : Yields g P)
    (hf : ∀ a, P a → Yields (f a) R) : Yields (g >>= f) R := by
  intro codes b codes' hr
  rw [StateT.run_bind] at hr
  cases hg' : g.run codes with
  | error e => rw [hg'] at hr; cases hr
  | ok r =>
      obtain ⟨a, codes₁⟩ := r
      rw [hg'] at hr
      exact hf a (hg codes a codes₁ hg') codes₁ b codes' hr

/-- A computation whose result does not matter. -/
theorem any (g : Gen α) : Yields g fun _ => True := fun _ _ _ _ => trivial

theorem lift {x : Except TemplateError α} (h : ∀ a, x = .ok a → Q a) :
    Yields (liftM x : Gen α) Q := by
  intro codes a codes' hr
  cases x with
  | error e => cases hr
  | ok _ =>
      cases hr
      exact h a rfl

end Yields

/-- What the code at a place is made of. -/
theorem codeAt_eq_ok {o : Options} {nested declare : Bool} {path : Path} {p p' : Progress}
    {code? : Option String} (h : codeAt o nested declare path p = .ok (code?, p')) :
    ∃ codes, (firstCode o ((Site.ofDocument p.doc).mapPath (seenFrom path)) nested declare
        (siblingsAt path p.doc)).run [] = .ok (code?, codes) ∧
      p' = { doc := place codes p.doc, generated := p.generated + codes.length } := by
  unfold codeAt at h
  dsimp only at h
  generalize hr : StateT.run (firstCode o ((Site.ofDocument p.doc).mapPath (seenFrom path)) nested
    declare (siblingsAt path p.doc)) [] = r at h
  cases r with
  | error e => cases h
  | ok r =>
      obtain ⟨code, codes⟩ := r
      cases h
      exact ⟨codes, rfl, rfl⟩

/-! ## Text inside a string -/

/-- A text that can stand inside a string. -/
def IsInside (t : String) : Prop := ∃ vs, Inside t.toList vs

theorem IsInside.append {s t : String} (hs : IsInside s) (ht : IsInside t) :
    IsInside (s ++ t) := by
  obtain ⟨vs, hv⟩ := hs
  obtain ⟨ws, hw⟩ := ht
  refine ⟨vs ++ ws, ?_⟩
  rw [String.toList_append]
  exact hv.append hw

theorem isInside_empty : IsInside "" := ⟨[], .nil⟩

theorem isInside_escape (t : String) : IsInside (escape t) := ⟨t.toList, inside_escape t⟩

theorem IsInside.join {ts : List String} (h : ∀ t ∈ ts, IsInside t) :
    IsInside (String.join ts) := by
  induction ts with
  | nil => exact isInside_empty
  | cons t ts ih =>
      rw [String.join_cons]
      exact (h t List.mem_cons_self).append (ih fun u hu => h u (List.mem_cons_of_mem _ hu))

/-- The name of an element may stand inside a string as it is. -/
def isPlainName (name : String) : Bool := name.toList.all isPlain

theorem inside_endTag {name : String} (h : isPlainName name) :
    Inside ("</" ++ name ++ ">").toList ("</" ++ name ++ ">").toList := by
  have front : Inside "</".toList "</".toList := .of_plain rfl
  have back : Inside ">".toList ">".toList := .of_plain rfl
  rw [String.toList_append, String.toList_append]
  exact (front.append (.of_plain h)).append back

theorem isInside_closingLiteral {name : String} (h : isPlainName name) :
    IsInside (closingLiteral name) := by
  unfold closingLiteral
  split
  · exact isInside_empty
  split
  · refine ⟨"</script>".toList, ?_⟩
    have front : Inside ['<', '/'] ['<', '/'] := .of_plain rfl
    have back : Inside "script>".toList "script>".toList := .of_plain rfl
    exact front.append (.joined back)
  · exact ⟨_, inside_endTag h⟩

/-- A start tag without a `ystbool` attribute. -/
theorem isInside_tagLiteral (o : Options) {t : Tag} (h : lastBool? t = none) :
    IsInside (tagLiteral o t) := by
  unfold tagLiteral
  have ending : Inside ['>'] ['>'] := .of_plain rfl
  simp only [h]
  exact ((isInside_escape _).append isInside_empty).append ⟨['>'], ending⟩

theorem isInside_functionLiteral (o : Options) (code : String) :
    IsInside (functionLiteral o code) :=
  ((isInside_tagLiteral o rfl).append (Inside.unmark (isInside_escape _))).append
    (isInside_closingLiteral rfl)

theorem madeHead_yields (o : Options) : Yields (madeHead o) IsInside := by
  unfold madeHead
  refine (Yields.any _).bind fun codes _ => .pure ?_
  refine ((isInside_tagLiteral o rfl).append (IsInside.join ?_)).append
    (isInside_closingLiteral rfl)
  intro t ht
  obtain ⟨code, -, rfl⟩ := List.mem_map.mp ht
  exact isInside_functionLiteral o code

/-! ## Literals of siblings -/

/-- A site at which no head has to be made. -/
def Site.isSettled : Site → Bool
  | .html _ => false
  | _ => true

theorem Site.isSettled_mapPath (f : Path → Option Path) {site : Site} (h : site.isSettled) :
    (site.mapPath f).isSettled := by
  cases site with
  | outside => rfl
  | head p =>
      change ((f p).elim Site.outside Site.head).isSettled
      cases f p <;> rfl
  | html p => cases h

theorem Site.isSettled_first {site : Site} (h : site.isSettled) : site.first.isSettled :=
  Site.isSettled_mapPath _ h

theorem Site.isSettled_rest {site : Site} (h : site.isSettled) : site.rest.isSettled :=
  Site.isSettled_mapPath _ h

/-- What a node holds is printed by `walk`, with text inside a string behind
it. Where no head has to be made, none is made on the way. -/
theorem insideLiteral_yields {o : Options} {site : Site} {cs : List Node}
    {walk : Site → Opening → Gen String} {Q : String → Prop}
    (append : ∀ t u, Q t → IsInside u → Q (t ++ u))
    (h : ∀ site' opening, (site.isSettled → site'.isSettled ∧ opening = .settled) →
      Yields (walk site' opening) Q) :
    Yields (insideLiteral o site cs walk) Q := by
  unfold insideLiteral
  split
  · refine (h _ _ fun _ => ⟨rfl, rfl⟩).bind fun t ht => (Yields.any _).bind fun codes _ => .pure ?_
    refine append t _ ht (IsInside.join ?_)
    intro u hu
    obtain ⟨code, -, rfl⟩ := List.mem_map.mp hu
    exact isInside_functionLiteral o code
  · refine (Yields.any _).bind fun codes _ => ?_
    split
    · exact h _ _ fun hs => by cases hs
    · exact h _ _ fun hs => by cases hs
  · exact h _ _ fun hs => ⟨hs, rfl⟩

/-- The literal of a child and its siblings behind the literal `front`. -/
def childrenFrom (o : Options) (site : Site) (declare inScript : Bool) (c : Node)
    (cs : List Node) (front : String) (opening : Opening) : Gen String := do
  let child := childText o site.first declare inScript c
    (literal o site.first declare c) (literal o site.first false c)
    (innerLiteral o site.first c) (branches o site.rest cs)
  let before := (← get).isEmpty
  let text ← child
  let added := before && !(← get).isEmpty
  let (again, opening) := afterChild opening added c cs
  let text' ← if again then child else pure ""
  let rest ← literals o site.rest declare inScript opening cs
  return front ++ text ++ text' ++ rest

theorem literals_cons (o : Options) (site : Site) (declare inScript : Bool) (opening : Opening)
    (c : Node) (cs : List Node) :
    literals o site declare inScript opening (c :: cs) =
      match opening with
      | .behind 0 => do childrenFrom o site declare inScript c cs (← madeHead o) .settled
      | _ => childrenFrom o site declare inScript c cs "" opening := by
  unfold literals childrenFrom
  cases opening with
  | settled => rfl
  | behind n => cases n <;> rfl
  | watch seen => rfl

section

variable {o : Options} {site : Site} {declare inScript : Bool} {opening : Opening} {c : Node}
  {cs : List Node} {A B Q : String → Prop}

/-- A child is printed once, and once more if a head was made in front of it
meanwhile; its siblings follow. -/
theorem childrenFrom_yields {front : String}
    (child : Yields (childText o site.first declare inScript c
      (literal o site.first declare c) (literal o site.first false c)
      (innerLiteral o site.first c) (branches o site.rest cs)) A)
    (rest : ∀ opening', (opening = .settled → opening' = .settled) →
      Yields (literals o site.rest declare inScript opening' cs) B)
    (join : ∀ t t' r, A t → (t' = "" ∨ opening ≠ .settled ∧ A t') → B r →
      Q (front ++ t ++ t' ++ r)) :
    Yields (childrenFrom o site declare inScript c cs front opening) Q := by
  unfold childrenFrom
  refine (Yields.any _).bind fun codes _ => child.bind fun t ht =>
    (Yields.any _).bind fun codes' _ => ?_
  dsimp only
  generalize hafter : afterChild opening (codes.isEmpty && !codes'.isEmpty) c cs = after
  obtain ⟨again, opening'⟩ := after
  -- without a head to be made, the child is met once and nothing changes
  have quiet : opening = .settled → again = false ∧ opening' = .settled := by
    rintro rfl
    cases hafter
    exact ⟨rfl, rfl⟩
  have finish : ∀ t', (t' = "" ∨ opening ≠ .settled ∧ A t') →
      Yields (do
        let rest ← literals o site.rest declare inScript opening' cs
        Pure.pure (front ++ t ++ t' ++ rest)) Q := by
    intro t' ht'
    exact (rest opening' fun hs => (quiet hs).2).bind fun r hr => .pure (join t t' r ht ht' hr)
  split
  · rename_i hagain
    refine child.bind fun t' ht' => finish t' (.inr ⟨fun hs => ?_, ht'⟩)
    rw [(quiet hs).1] at hagain
    cases hagain
  · exact (Yields.pure (Q := fun t' => t' = "" ∨ opening ≠ .settled ∧ A t') (.inl rfl)).bind finish

/-- The literal of siblings is the text of a head that was made in front of
them, if there is one, and what `childrenFrom` prints. -/
theorem literals_cons_yields
    (child : Yields (childText o site.first declare inScript c
      (literal o site.first declare c) (literal o site.first false c)
      (innerLiteral o site.first c) (branches o site.rest cs)) A)
    (rest : ∀ opening', (opening = .settled → opening' = .settled) →
      Yields (literals o site.rest declare inScript opening' cs) B)
    (join : ∀ front t t' r, IsInside front → (opening = .settled → front = "") → A t →
      (t' = "" ∨ opening ≠ .settled ∧ A t') → B r → Q (front ++ t ++ t' ++ r)) :
    Yields (literals o site declare inScript opening (c :: cs)) Q := by
  rw [literals_cons]
  split
  · refine (madeHead_yields o).bind fun front hf => ?_
    refine childrenFrom_yields child (fun opening' _ => rest opening' fun h => by cases h) ?_
    intro t t' r ht ht' hr
    refine join front t t' r hf (fun h => by cases h) ht (ht'.imp_right ?_) hr
    exact fun h => absurd rfl h.1
  · refine childrenFrom_yields child rest fun t t' r ht ht' hr => ?_
    exact join "" t t' r isInside_empty (fun _ => rfl) ht ht' hr

end

theorem literals_nil_yields {o : Options} {site : Site} {declare inScript : Bool}
    (opening : Opening) :
    Yields (literals o site declare inScript opening [])
      fun t => IsInside t ∧ (opening = .settled → t = "") := by
  unfold literals
  split
  · exact (madeHead_yields o).mono fun t ht => ⟨ht, fun h => by cases h⟩
  · exact .pure ⟨isInside_empty, fun _ => rfl⟩

end PageTemplates.Compile
