import PageTemplates.Proofs.Compile.OwnScripts
import PageTemplates.Proofs.Compile.References
import PageTemplates.Proofs.Compile.Solid

/-!
# Functions and references that compiling writes

Compiling elements in place writes functions, and scripts that refer to functions. Extracting
the functions of a body writes one for each element that asks for one. The main facts:

* `among_of_ids`: the functions of a document that was read have the names that its ids make;
* `referred_withIds`: those of a body have the names of the body once all of them have ids;
* `Writes`: what comes of compiling elements: functions with these names, and scripts;
* `Ran.writes`: what a run writes;
* `functions_refer`: what extracting functions writes.
-/

namespace PageTemplates.Compile

open Markup Script

/-! ## The names of a document -/

/-- Only the whole of what was read is a document. -/
theorem document_not_mem {text : String} {doc : Document} (read : Document.ofText text = .ok doc) :
    Node.document [] ∉ preorder doc := by
  obtain ⟨es, -, rfl⟩ := map_eq_ok read
  have nodes : preorder (Document.ofEvents es) = listed [] es := preorder_run es
  rw [nodes, listed, List.mem_filterMap]
  rintro ⟨e, -, made⟩
  cases e with
  | declaration s =>
      have declared : Builder.declared s = .document [] := Option.some.inj made
      unfold Builder.declared at declared
      split at declared <;> cases declared
  | _ => cases made

theorem isDeep_preorder : IsDeep (fun n => Node.document [] ∉ n.preorder)
    fun ns => Node.document [] ∉ preorder ns := by
  refine ⟨fun ns => ?_, fun n h => ?_⟩
  · induction ns with
    | nil => simp [preorder]
    | cons n ns ih => rw [preorder, List.mem_append, not_or, ih, List.forall_mem_cons]
  · cases n with
    | element t cs | document cs => exact fun mem => h (List.mem_cons_of_mem _ mem)
    | text _ | comment _ | doctype _ | markup _ => exact List.not_mem_nil

theorem allTags_of_isText {q : Tag → Bool} {cs : List Node} (h : cs.all Node.isText) :
    allTags q cs := by
  rw [allTags_iff]
  intro c hc
  have text := List.all_eq_true.mp h c hc
  cases c with
  | text s => rfl
  | element _ _ | document _ | comment _ | doctype _ | markup _ => cases text

section

variable {names : List String}

mutual

theorem Node.among_of_ids : ∀ n : Node, Node.document [] ∉ n.preorder → Node.plainScripts n →
    (∀ name, some name ∈ (Node.functions n).map Node.functionName? → name ∈ names) →
    Node.allTags (isAmong names) n
  | .element t cs, tree, plain, ids => by
      rw [plainScripts_element] at plain
      by_cases script : t.name = "script"
      · exact allTags_element.mpr ⟨isAmong_script script, allTags_of_isText (plain.1 script)⟩
      · rw [Node.functions, if_neg (by simpa using script), List.map_append] at ids
        refine allTags_element.mpr ⟨?_, ?_⟩
        · cases asks : isFunction t with
          | false => simp [isAmong, asks]
          | true =>
              cases own : functionName? t with
              | none => simp [isAmong, own]
              | some name =>
                  have given := ids name (List.mem_append_right _ (by
                    rw [asks, if_pos rfl, List.map_singleton, List.mem_singleton,
                      Node.functionName?, own]))
                  simp [isAmong, own, given]
        · exact among_of_ids cs (isDeep_preorder.children _ tree) plain.2
            fun name mem => ids name (List.mem_append_left _ mem)
  | .document _, tree, _, _ => absurd List.mem_cons_self tree
  | .text _, _, _, _ | .comment _, _, _, _ | .doctype _, _, _, _ | .markup _, _, _, _ => rfl

/-- The functions of siblings have the names that their ids make. -/
theorem among_of_ids : ∀ ns : List Node, Node.document [] ∉ preorder ns → plainScripts ns →
    (∀ name, some name ∈ functionIds ns → name ∈ names) → allTags (isAmong names) ns
  | [], _, _, _ => rfl
  | n :: ns, tree, plain, ids => by
      rw [preorder, List.mem_append, not_or] at tree
      rw [plainScripts_cons] at plain
      rw [functionIds, functions, List.map_append] at ids
      exact allTags_cons.mpr
        ⟨Node.among_of_ids n tree.1 plain.1 fun name mem => ids name (List.mem_append_left _ mem),
          among_of_ids ns tree.2 plain.2 fun name mem => ids name (List.mem_append_right _ mem)⟩

end

/-! ## The names of a body -/

theorem referred_elementWithId {k : Nat} {t : Tag} {cs : List Node} (ds : List Node)
    (referred : isReferred names t) (below : allTags (isReferred names) cs)
    (given : namesFrom k
      ((if isFunction t then [.element t ds] else []).map Node.functionName?) ⊆ names) :
    Node.allTags (isReferred names) (elementWithId k t cs).1 := by
  unfold elementWithId
  split
  · rename_i unnamed
    rw [Bool.and_eq_true, Option.isNone_iff_eq_none] at unnamed
    rw [if_pos unnamed.1, List.map_singleton, Node.functionName?, unnamed.2] at given
    have made : madeUpName (k + 1) ∈ names := given (List.mem_singleton_self _)
    refine allTags_element.mpr ⟨isReferred_iff.mpr ⟨?_, ?_⟩, below⟩
    · rw [name_set]
      exact (isReferred_iff.mp referred).1
    · simp [isAmong, functionName?_set_id, made]
  · exact allTags_element.mpr ⟨referred, below⟩

mutual

theorem Node.referred_withIds (k : Nat) : ∀ n : Node, Node.allTags (isReferred names) n →
    namesFrom k ((Node.functions n).map Node.functionName?) ⊆ names →
    Node.allTags (isReferred names) (Node.withIds k n).1
  | .element t cs, referred, given => by
      rw [Node.withIds]
      split
      · exact referred
      · rename_i script
        rw [allTags_element] at referred
        rw [Node.functions, if_neg script, List.map_append, namesFrom_append,
          List.append_subset] at given
        refine referred_elementWithId cs referred.1 (referred_withIds k cs referred.2 given.1) ?_
        rw [(withIds_hasNames k cs).count]
        exact given.2
  | .document _, referred, _ => referred
  | .text _, _, _ | .comment _, _, _ | .doctype _, _, _ | .markup _, _, _ => rfl

/-- The functions of a body have the names of the body once all of them have ids. -/
theorem referred_withIds (k : Nat) : ∀ cs : List Node, allTags (isReferred names) cs →
    namesFrom k (functionIds cs) ⊆ names → allTags (isReferred names) (withIds k cs).1
  | [], _, _ => rfl
  | c :: cs, referred, given => by
      rw [allTags_cons] at referred
      rw [functionIds, functions, List.map_append, namesFrom_append, List.append_subset] at given
      rw [withIds]
      refine allTags_cons.mpr ⟨Node.referred_withIds k c referred.1 given.1,
        referred_withIds _ cs referred.2 ?_⟩
      rw [(Node.withIds_hasNames k c).count]
      exact given.2

end

mutual

theorem Node.plainScripts_withIds (k : Nat) : ∀ n : Node, Node.plainScripts n →
    Node.plainScripts (Node.withIds k n).1
  | .element t cs, plain => by
      rw [Node.withIds]
      split
      · exact plain
      · rename_i script
        rw [plainScripts_element] at plain
        have below := plainScripts_withIds k cs plain.2
        unfold elementWithId
        split
        · refine plainScripts_element.mpr ⟨fun named => ?_, below⟩
          rw [name_set] at named
          simp [named] at script
        · exact plainScripts_element.mpr ⟨fun named => by simp [named] at script, below⟩
  | .document _, plain => plain
  | .text _, _ | .comment _, _ | .doctype _, _ | .markup _, _ => rfl

/-- Ids that are made up leave what scripts hold. -/
theorem plainScripts_withIds (k : Nat) : ∀ cs : List Node, plainScripts cs →
    plainScripts (withIds k cs).1
  | [], _ => rfl
  | c :: cs, plain => by
      rw [plainScripts_cons] at plain
      rw [withIds]
      exact plainScripts_cons.mpr
        ⟨Node.plainScripts_withIds k c plain.1, plainScripts_withIds _ cs plain.2⟩

end

end

/-! ## What a run writes -/

/-- What comes of compiling elements from `p` to `r`, where the functions that elements ask for
have the names `given`: the functions `codes`, and scripts that write out the code in
`written`. -/
structure Writes (o : Options) (given codes written : List String) (p r : Progress) : Prop where
  /-- Where functions are defined elsewhere, there are none. -/
  elsewhere : o.split → codes = []
  /-- What functions refer to. -/
  functions : ∀ later names, codes ⊆ later → Covers o.split later given names →
    ∀ c ∈ codes, IsFunctionUsing given names c
  /-- What scripts refer to. -/
  scripts : ∀ later names, codes ⊆ later → Covers o.split later given names →
    ∀ c ∈ written, Refers names false false c
  /-- Where the scripts come from. -/
  known : ∀ defined others, codes ⊆ defined → written.map writeText ⊆ others →
    everywhere (isKnown defined others) p.doc → everywhere (isKnown defined others) r.doc

namespace Writes

variable {o : Options} {given codes codes' written written' : List String} {p q r : Progress}

theorem refl (p : Progress) : Writes o given [] [] p p where
  elsewhere _ := rfl
  functions _ _ _ _ := List.forall_mem_nil _
  scripts _ _ _ _ := List.forall_mem_nil _
  known _ _ _ _ known := known

theorem trans (h : Writes o given codes written p q) (h' : Writes o given codes' written' q r) :
    Writes o given (codes ++ codes') (written ++ written') p r where
  elsewhere split := by rw [h.elsewhere split, h'.elsewhere split, List.append_nil]
  functions later names all covers := by
    rw [List.append_subset] at all
    exact List.forall_mem_append.mpr
      ⟨h.functions later names all.1 covers, h'.functions later names all.2 covers⟩
  scripts later names all covers := by
    rw [List.append_subset] at all
    exact List.forall_mem_append.mpr
      ⟨h.scripts later names all.1 covers, h'.scripts later names all.2 covers⟩
  known defined others all all' known := by
    rw [List.append_subset] at all
    rw [List.map_append, List.append_subset] at all'
    exact h'.known defined others all.2 all'.2 (h.known defined others all.1 all'.1 known)

end Writes

/-- Whether the name of an element has no bracket that ends a tag. -/
abbrev isBare (t : Tag) : Bool := !t.name.toList.contains '>'

theorem tidy_referred_iff {names : List String} {ns : List Node} :
    Tidy (isReferred names) ns ↔ Tidy isBare ns ∧ allTags (isAmong names) ns := by
  have both : allTags (isReferred names) ns = (allTags isBare ns && allTags (isAmong names) ns) :=
    allTags_and isBare (isAmong names) ns
  constructor
  · rintro ⟨tags, scripts⟩
    rw [both, Bool.and_eq_true] at tags
    exact ⟨⟨tags.1, scripts⟩, tags.2⟩
  · rintro ⟨⟨bare, scripts⟩, among⟩
    exact ⟨by rw [both, bare, among]; rfl, scripts⟩

/-- Functions that are placed ask for no others. -/
theorem referred_place {names : List String} (codes : List String) {doc : Document}
    (tidy : Tidy (isReferred names) doc) : Tidy (isReferred names) (place codes doc) := by
  obtain ⟨bare, among⟩ := tidy_referred_iff.mp tidy
  refine tidy_referred_iff.mpr ⟨tidy_place (fun t name => ?_) codes bare, among_place codes among⟩
  rcases name with name | name <;> rw [isBare, name] <;> decide

theorem referred_replaceFirst {names : List String} (code? : Option String) {p : Progress}
    (tidy : Tidy (isReferred names) p.doc) :
    Tidy (isReferred names) (replaceFirst code? p).doc := by
  refine tidy_replaceFirst (fun t name => isReferred_iff.mpr ⟨?_, isAmong_script name⟩) code? tidy
  rw [name]
  decide

section

variable {o : Options} {given codes written : List String} {p r : Progress}

/-- A step writes the functions and the script of the element that it compiles. -/
theorem step_writes {path : Path} {code? : Option String} (tidy : Tidy (isReferred given) p.doc)
    (found : findPath? isTarget p.doc = some path)
    (run : (firstCode o ((Site.ofDocument p.doc).mapPath (seenFrom path)) false false
      (siblingsAt path p.doc)).run [] = .ok (code?, codes)) (generated : Nat) :
    Writes o given codes code?.toList p (replaceFirst code? ⟨place codes p.doc, generated⟩) := by
  obtain ⟨t, cs, rest, target, here, -⟩ := replaced_found (f := fun _ => []) p.doc path found
  have there := tidy.siblingsAt path
  rw [here] at run there
  -- the step adds what it refers to, whichever names are known
  have uses (later : List String) (names : String → Prop)
      (covers : Covers o.split later given names) :=
    (firstCode_uses covers ((Site.ofDocument p.doc).mapPath (seenFrom path)) false false
      (ne_script_of_isTarget target) there.tags there.scripts [] code? codes run).2
  constructor
  case elsewhere => exact fun split => (firstCode_observes split _ _ _ _).kept [] _ codes run
  case functions =>
    exact fun later names all covers => (uses later names covers all).2 (List.forall_mem_nil _)
  case scripts =>
    intro later names all covers c hc
    exact (uses later names covers all).1 c (Option.mem_toList.mp hc)
  case known =>
    intro defined others all all' known
    refine known_replaceFirst (fun code own => ?_) (known_place all known)
    exact all' (List.mem_map_of_mem (Option.mem_toList.mpr own))

/-- A run writes functions, and scripts that refer to functions. -/
theorem Ran.writes (h : Ran o p codes written r) (tidy : Tidy (isReferred given) p.doc) :
    Writes o given codes written p r := by
  induction h with
  | stop p => exact .refl p
  | step found run _ ih =>
      exact (step_writes tidy found run _).trans
        (ih (referred_replaceFirst _ (referred_place _ tidy)))

end

/-! ## What extracting functions writes -/

section

variable {P : Node → Prop} {Q : List Node → Prop}

mutual

theorem Node.mem_functions (deep : IsDeep P Q) : ∀ n : Node, P n → ∀ m ∈ Node.functions n, P m
  | .element t cs, h => by
      rw [Node.functions]
      split
      · exact List.forall_mem_nil _
      · refine List.forall_mem_append.mpr ⟨mem_functions_of_deep deep cs (deep.children _ h), ?_⟩
        split
        · exact List.forall_mem_singleton.mpr h
        · exact List.forall_mem_nil _
  | .document _, _ | .text _, _ | .comment _, _ | .doctype _, _ | .markup _, _ =>
      List.forall_mem_nil _

/-- What holds of siblings and of what is in them holds of the elements that ask for
functions. -/
theorem mem_functions_of_deep (deep : IsDeep P Q) : ∀ cs : List Node, Q cs →
    ∀ m ∈ functions cs, P m
  | [], _ => List.forall_mem_nil _
  | c :: cs, h => by
      rw [deep.forall_iff, List.forall_mem_cons] at h
      exact List.forall_mem_append.mpr ⟨Node.mem_functions deep c h.1,
        mem_functions_of_deep deep cs ((deep.forall_iff cs).mpr h.2)⟩

end

end

/-- The code defines a function of this name, which refers to functions with the names. -/
def IsNamed (names : List String) (name code : String) : Prop :=
  ∃ body, code = functionCode name body ∧ Refers (· ∈ names) true true body

theorem covers_of_split {later given : List String} : Covers true later given (· ∈ given) where
  defined split := by cases split
  given _ _ mem := mem

theorem forall₂_of_mapM {α β ε : Type} {f : α → Except ε β} {xs : List α} {ys : List β}
    (h : xs.mapM f = .ok ys) : List.Forall₂ (fun x y => f x = .ok y) xs ys := by
  induction xs generalizing ys with
  | nil =>
      cases h
      exact .nil
  | cons x xs ih =>
      rw [List.mapM_cons] at h
      obtain ⟨y, first, h⟩ := bind_eq_ok h
      obtain ⟨ys', others, h⟩ := bind_eq_ok h
      cases h
      exact .cons first (ih others)

/-- The function of an element that has an id. -/
theorem functionOf_refers {o : Options} {names : List String} {n : Node} {code : String}
    (referred : Node.allTags (isReferred names) n) (plain : Node.plainScripts n)
    (h : functionOf o n = .ok code) : IsNamed names ((Node.functionName? n).getD "") code := by
  obtain ⟨body, run, made⟩ := bind_eq_ok h
  rw [StateT.run'_eq] at run
  obtain ⟨⟨body', codes⟩, ran, rfl⟩ := map_eq_ok run
  cases made
  have uses : Uses codes names (· ∈ names) (innerLiteral { o with split := true } .outside n)
      (Refers (· ∈ names) true true) :=
    innerLiteral_uses covers_of_split .outside n referred plain
  exact ⟨body', rfl, ((uses [] body' codes ran).2 (List.Subset.refl codes)).1⟩

/-- The functions of a body, once all elements have ids, are named by these, and refer to each
other. -/
theorem functions_refer {o : Options} {cs : List Node} {names codes : List String}
    (given : names = namesFrom 0 (functionIds cs)) (referred : allTags (isReferred names) cs)
    (plain : plainScripts cs) (h : (functions (withIds 0 cs).1).mapM (functionOf o) = .ok codes) :
    List.Forall₂ (IsNamed names) names codes := by
  have each : ∀ n ∈ functions (withIds 0 cs).1,
      Node.allTags (isReferred names) n ∧ Node.plainScripts n := by
    intro n hn
    exact ⟨mem_functions_of_deep (isDeep_allTags _) _
        (referred_withIds 0 cs referred (given ▸ List.Subset.refl _)) n hn,
      mem_functions_of_deep isDeep_plainScripts _ (plainScripts_withIds 0 cs plain) n hn⟩
  have ids : (functions (withIds 0 cs).1).map Node.functionName? = names.map some := by
    rw [given]
    exact functionIds_withIds 0 cs
  have compiled := (List.forall₂_and_left _ _).mpr ⟨each, forall₂_of_mapM h⟩
  have named : List.Forall₂ (fun id code => IsNamed names (id.getD "") code)
      ((functions (withIds 0 cs).1).map Node.functionName?) codes := by
    rw [List.forall₂_map_left_iff]
    exact compiled.imp fun n code own => functionOf_refers own.1.1 own.1.2 own.2
  rwa [ids, List.forall₂_map_left_iff] at named

end PageTemplates.Compile
