import PageTemplates.Proofs.Charset.Held
import PageTemplates.Proofs.Compile.Arranged
import PageTemplates.Proofs.Compile.Harmless

/-!
# Code of good characters

Text and attribute values are printed in code with references, so that nothing is left of
characters that the family of the charset has none for. Names, the arguments of directives,
the names of functions and markup that is kept as it is are not printed so. Where they have good
characters alone, so has all code. The main facts:

* `Suits good family`: what is printed for a family is good;
* `isClean`: an element whose parts that are not printed are good;
* `literal_good`, `innerLiteral_good`, `branches_good`, `firstCode_good`: literals and
  code of clean elements are good.
-/

namespace PageTemplates.Compile

open Markup Script

/-! ## Good characters -/

/-- Whether all characters of a text are good. -/
def isOver (good : Char → Bool) (s : String) : Bool := s.toList.all good

/-- ASCII characters are good, and so is whatever is printed for a family. -/
structure Suits (good : Char → Bool) (family : Family) : Prop where
  ascii : ∀ c, c.toNat < 128 → good c
  printed : ∀ c, isOver good (printChar family c)

section

variable {good : Char → Bool} {family : Family} {s u : String}

theorem isOver_iff : isOver good s ↔ ∀ c ∈ s.toList, good c := List.all_eq_true

theorem isOver_append : isOver good (s ++ u) ↔ isOver good s ∧ isOver good u := by
  rw [isOver, String.toList_append, List.all_append, Bool.and_eq_true]
  rfl

theorem isOver_join {l : List String} (h : ∀ s ∈ l, isOver good s) :
    isOver good (String.join l) := by
  rw [isOver_iff, String.toList_join]
  simpa using fun c s hs hc => isOver_iff.mp (h s hs) c hc

theorem Suits.const (suits : Suits good family) (ascii : s.toList.all (·.toNat < 128)) :
    isOver good s := by
  rw [List.all_eq_true] at ascii
  exact isOver_iff.mpr fun c hc => suits.ascii c (of_decide_eq_true (ascii c hc))

theorem isOver_replace {word repl : String} (h : isOver good s) (new : isOver good repl) :
    isOver good (Text.replace s word repl) := by
  rw [isOver_iff] at *
  intro c hc
  rw [Text.replace, String.toList_ofList] at hc
  exact (Text.mem_replaceAll hc).elim (new c) (h c)

theorem isOver_strip (h : isOver good s) : isOver good (Text.strip s) :=
  isOver_iff.mpr fun c hc => isOver_iff.mp h c (mem_strip hc)

theorem isOver_firstNonBlank (h : isOver good s) (h' : isOver good u) :
    isOver good (firstNonBlank s u) := by
  unfold firstNonBlank
  split
  · exact h'
  · exact h

variable (suits : Suits good family)

include suits

theorem isOver_escape (h : isOver good s) : isOver good (escape s) := by
  rw [isOver_iff] at *
  intro c hc
  rw [escape, String.toList_ofList, List.mem_flatMap] at hc
  obtain ⟨d, hd, hc⟩ := hc
  have own := h d hd
  have ascii (cs : List Char) (low : cs.all (·.toNat < 128)) (hc : c ∈ cs) : good c :=
    suits.ascii c (of_decide_eq_true (List.all_eq_true.mp low c hc))
  unfold escapeChar at hc
  split at hc
  · rcases List.mem_cons.mp hc with rfl | hc
    · exact suits.ascii _ (by decide)
    · exact List.mem_singleton.mp hc ▸ own
  iterate 5
    split at hc
    · exact ascii _ (by decide) hc
  split at hc
  · rename_i control
    have low : ∀ n < 0x20, ('\\' :: 'u' :: Text.hexDigits 4 n).all (·.toNat < 128) := by decide
    exact ascii _ (low _ control) hc
  · exact List.mem_singleton.mp hc ▸ own

theorem isOver_unmark (h : isOver good s) : isOver good (unmark s) := by
  unfold unmark
  exact isOver_replace (isOver_replace (isOver_replace (isOver_replace (isOver_replace h
    (suits.const (by decide))) (suits.const (by decide))) (suits.const (by decide)))
    (suits.const (by decide))) (suits.const (by decide))

theorem isOver_printText (s : String) : isOver good (printText family s) := by
  rw [isOver_iff]
  intro c hc
  rw [printText, String.toList_ofList, List.mem_flatMap] at hc
  obtain ⟨d, -, hc⟩ := hc
  exact isOver_iff.mp (suits.printed d) c hc

theorem isOver_printAttribute {a : Attribute} (name : isOver good a.1) :
    isOver good (printAttribute family a) := by
  unfold printAttribute
  rw [isOver_append, isOver_append]
  refine ⟨⟨suits.const (by decide), name⟩, ?_⟩
  split
  · rename_i v value
    unfold printValue
    rw [isOver_append, isOver_append, isOver_append]
    refine ⟨⟨⟨suits.const (by decide), suits.const (by decide)⟩, ?_⟩, suits.const (by decide)⟩
    rw [isOver_iff]
    intro c hc
    rw [String.toList_ofList, List.mem_flatMap] at hc
    obtain ⟨d, -, hc⟩ := hc
    refine isOver_iff.mp ?_ c hc
    unfold printValueChar
    split
    · split <;> exact suits.const (by decide)
    split
    · exact suits.const (by decide)
    · exact suits.printed d
  · exact suits.const (by decide)

end

/-! ## Clean elements -/

/-- Whether the name of an attribute is good, and its value if it belongs to a directive. -/
def isCleanAttribute (good : Char → Bool) (a : Attribute) : Bool :=
  isOver good a.1 && (!directiveAttributes.contains a.1 || isOver good (a.2.getD ""))

/-- Whether an element is compiled to a function, where `split` says that the body is. -/
def becomesFunction (split : Bool) (t : Tag) : Bool := Tag.hoists t || split && t.name == "body"

/-- Whether the name and the attributes of an element are clean, and its id if it becomes the
name of a function. -/
def isCleanTag (split : Bool) (good : Char → Bool) (t : Tag) : Bool :=
  isOver good t.name && t.attributes.all (isCleanAttribute good)
    && (!becomesFunction split t || isOver good (t.value "id"))

/-- Whether what is kept as it is of a node in an element is good. No document stands in an
element. -/
def isCleanLeaf (good : Char → Bool) (inScript : Bool) : Node → Bool
  | .text s => !inScript || isOver good s
  | .doctype s | .markup s => isOver good s
  | .element _ _ | .comment _ => true
  | .document _ => false

/-- Whether an element is clean, and what stands directly in it. -/
def isClean (split : Bool) (good : Char → Bool) (t : Tag) (cs : List Node) : Bool :=
  isCleanTag split good t && cs.all (isCleanLeaf good (t.name == "script"))

section

variable {split : Bool} {good : Char → Bool} {t : Tag} {cs : List Node}

theorem isCleanAttribute_iff {a : Attribute} : isCleanAttribute good a ↔
    isOver good a.1 ∧ (a.1 ∈ directiveAttributes → isOver good (a.2.getD "")) := by
  rw [isCleanAttribute, Bool.and_eq_true, Bool.or_eq_true, Bool.not_eq_true',
    ← Bool.not_eq_true, List.contains_iff_mem, ← Decidable.imp_iff_not_or]

theorem isCleanTag_iff : isCleanTag split good t ↔
    isOver good t.name ∧ (∀ a ∈ t.attributes, isCleanAttribute good a) ∧
      (becomesFunction split t → isOver good (t.value "id")) := by
  rw [isCleanTag, Bool.and_eq_true, Bool.and_eq_true, List.all_eq_true, Bool.or_eq_true,
    Bool.not_eq_true', ← Bool.not_eq_true, ← Decidable.imp_iff_not_or, and_assoc]

theorem isClean_iff : isClean split good t cs ↔
    isCleanTag split good t ∧ ∀ c ∈ cs, isCleanLeaf good (t.name == "script") c := by
  rw [isClean, Bool.and_eq_true, List.all_eq_true]

/-- The arguments of a clean element are good. -/
theorem isOver_value (attributes : ∀ a ∈ t.attributes, isCleanAttribute good a) {name : String}
    (own : name ∈ directiveAttributes) : isOver good (t.value name) := by
  unfold Tag.value Tag.get?
  cases found : t.attributes.find? (·.1 == name) with
  | none => rfl
  | some a =>
      have named : a.1 = name := beq_iff_eq.mp
        (List.find?_some (p := fun a : Attribute => a.1 == name) found)
      exact (isCleanAttribute_iff.mp (attributes a (List.mem_of_find?_eq_some found))).2
        (named ▸ own)

theorem isOver_lastBool (attributes : ∀ a ∈ t.attributes, isCleanAttribute good a)
    {v : Option String} (last : lastBool? t = some v) : isOver good (v.getD "") := by
  unfold lastBool? at last
  obtain ⟨a, found, rfl⟩ := Option.map_eq_some_iff.mp last
  obtain ⟨mem, named⟩ := List.mem_filter.mp (List.mem_of_getLast? found)
  refine (isCleanAttribute_iff.mp (attributes a mem)).2 ?_
  rw [beq_iff_eq.mp named]
  decide

end

/-! ## Code -/

/-- From good functions, a computation gives results that satisfy `Q`, and good functions. -/
abbrev MakesGood (good : Char → Bool) {α : Type} (g : Gen α) (Q : α → Prop) : Prop :=
  Preserves (fun codes => ∀ c ∈ codes, isOver good c) g Q

section

variable {split : Bool} {good : Char → Bool} {o : Options} {t : Tag} {s : String}

theorem isOver_functionName {kind : DirectiveKind} {name : String}
    (suits : Suits good o.family) (id : isOver good (t.value "id"))
    (named : (t.directiveOf kind).functionName? = some name) : isOver good name := by
  unfold Directive.functionName? at named
  split at named
  · cases named
  · rw [Option.some.injEq] at named
    rw [← named]
    exact isOver_replace (isOver_strip id) (suits.const (by decide))

variable (suits : Suits good o.family)

include suits

theorem isOver_tagLiteral (name : isOver good t.name)
    (attributes : ∀ a ∈ t.attributes, isCleanAttribute good a) :
    isOver good (tagLiteral o t) := by
  have shown : ∀ a ∈ (if o.hide then t.without directiveAttributes else t).attributes,
      isCleanAttribute good a := by
    intro a ha
    split at ha
    · exact attributes a (List.mem_filter.mp ha).1
    · exact attributes a ha
  unfold tagLiteral
  dsimp only
  rw [isOver_append, isOver_append]
  refine ⟨⟨isOver_escape suits ?_, ?_⟩, suits.const (by decide)⟩
  · rw [isOver_append, isOver_append]
    refine ⟨⟨suits.const (by decide), name⟩, isOver_join fun s hs => ?_⟩
    obtain ⟨a, ha, rfl⟩ := List.mem_map.mp hs
    exact isOver_printAttribute suits (isCleanAttribute_iff.mp (shown a ha)).1
  · cases last : lastBool? t with
    | none => rfl
    | some v =>
        dsimp only
        rw [isOver_append, isOver_append]
        exact ⟨⟨suits.const (by decide), isOver_escape suits (isOver_lastBool attributes last)⟩,
          suits.const (by decide)⟩

theorem isOver_closingLiteral {name : String} (h : isOver good name) :
    isOver good (closingLiteral name) := by
  unfold closingLiteral
  split
  · rfl
  split
  · exact suits.const (by decide)
  · rw [isOver_append, isOver_append]
    exact ⟨⟨suits.const (by decide), h⟩, suits.const (by decide)⟩

theorem isOver_functionLiteral (code : String) : isOver good (functionLiteral o code) := by
  unfold functionLiteral
  dsimp only
  rw [isOver_append, isOver_append]
  refine ⟨⟨isOver_tagLiteral suits (suits.const (by decide)) ?_, ?_⟩,
    isOver_closingLiteral suits (suits.const (by decide))⟩
  · rw [List.forall_mem_cons, List.forall_mem_singleton, isCleanAttribute_iff,
      isCleanAttribute_iff]
    exact ⟨⟨suits.const (by decide), fun _ => suits.const (by decide)⟩,
      suits.const (by decide), fun _ => suits.const (by decide)⟩
  · exact isOver_unmark suits (isOver_escape suits (isOver_printText suits code))

theorem isOver_surroundings (declare : Bool) : isOver good (surroundings declare) := by
  cases declare <;> exact suits.const (by decide)

theorem isOver_auxArgument {aux : Option String} (h : ∀ s ∈ aux, isOver good s) :
    isOver good (auxArgument aux) := by
  cases aux with
  | none => exact suits.const (by decide)
  | some s =>
      rw [auxArgument, isOver_append, isOver_append]
      exact ⟨⟨suits.const (by decide), isOver_escape suits (h s rfl)⟩, suits.const (by decide)⟩

theorem isOver_callCode (nested declare : Bool) {function arguments : String}
    (hf : isOver good function) (ha : isOver good arguments) :
    isOver good (callCode nested declare function arguments) := by
  unfold callCode
  split
  · simp only [isOver_append]
    exact ⟨⟨⟨hf, suits.const (by decide)⟩, ha⟩, suits.const (by decide)⟩
  · simp only [isOver_append]
    exact ⟨⟨⟨hf, isOver_surroundings suits declare⟩, ha⟩, suits.const (by decide)⟩

theorem isOver_functionCode {name body : String} (hn : isOver good name)
    (hb : isOver good body) : isOver good (functionCode name body) := by
  unfold functionCode
  simp only [isOver_append]
  exact ⟨⟨⟨⟨suits.const (by decide), hn⟩, suits.const (by decide)⟩, hb⟩, suits.const (by decide)⟩

theorem isOver_splice (declare : Bool) {code? : Option String}
    (h : ∀ code ∈ code?, isOver good code) : isOver good (splice declare code?) := by
  unfold splice
  split
  · rfl
  · split <;> simp only [isOver_append]
    · exact ⟨⟨suits.const (by decide), h _ rfl⟩, suits.const (by decide)⟩
    · exact ⟨⟨suits.const (by decide), h _ rfl⟩, suits.const (by decide)⟩

end

/-- The arguments of a directive are good. -/
structure HasGood (good : Char → Bool) (d : Directive) : Prop where
  test : isOver good d.test
  targetSet : isOver good d.targetSet
  aux : ∀ s ∈ d.aux, isOver good s
  idRef : isOver good d.idRef
  params : isOver good d.params

section

variable {split : Bool} {good : Char → Bool} {o : Options} {t : Tag} {d : Directive}
  (suits : Suits good o.family)

include suits

theorem hasGood_directiveOf (attributes : ∀ a ∈ t.attributes, isCleanAttribute good a)
    (kind : DirectiveKind) : HasGood good (t.directiveOf kind) where
  test := isOver_firstNonBlank (isOver_value attributes (by decide)) (suits.const (by decide))
  targetSet := isOver_firstNonBlank (isOver_value attributes (by decide))
    (isOver_firstNonBlank (isOver_value attributes (by decide)) (suits.const (by decide)))
  aux := by
    intro s hs
    unfold Tag.directiveOf at hs
    dsimp only at hs
    split at hs
    · cases hs
    · cases hs
      exact isOver_value attributes (by decide)
  idRef := isOver_replace (isOver_strip (isOver_value attributes (by decide)))
    (suits.const (by decide))
  params := isOver_value attributes (by decide)

theorem isOver_branchCode (h : HasGood good d) {body : String} (hb : isOver good body) :
    isOver good (branchCode d body) := by
  unfold branchCode
  simp only [isOver_append]
  exact ⟨⟨⟨⟨⟨⟨suits.const (by decide), isOver_escape suits h.test⟩, suits.const (by decide)⟩,
    isOver_auxArgument suits h.aux⟩, suits.const (by decide)⟩, hb⟩, suits.const (by decide)⟩

theorem hoist_good {inner : Gen String} (inside : MakesGood good inner (isOver good ·))
    (named : ∀ name ∈ d.functionName?, isOver good name) :
    MakesGood good (hoist d inner) fun name? => ∀ name ∈ name?, isOver good name := by
  unfold hoist
  split
  · exact .pure fun name none => by cases none
  · rename_i name some
    refine inside.bind fun body hb => ?_
    refine (Preserves.update fun codes hcodes c hc => ?_).bind fun _ _ => .pure fun n hn => ?_
    · rcases List.mem_append.mp hc with hc | hc
      · exact hcodes c hc
      · rw [List.mem_singleton] at hc
        exact hc ▸ isOver_functionCode suits (named name some) hb
    · cases hn
      exact named name some

theorem isOver_quoted {s : String} (h : isOver good s) :
    isOver good ("'" ++ escape s ++ "'") := by
  simp only [isOver_append]
  exact ⟨⟨suits.const (by decide), isOver_escape suits h⟩, suits.const (by decide)⟩

theorem isOver_array {s : String} (h : isOver good s) : isOver good ("['" ++ s ++ "']") := by
  simp only [isOver_append]
  exact ⟨⟨suits.const (by decide), h⟩, suits.const (by decide)⟩

theorem isOver_test {test s : String} (ht : isOver good test) (h : isOver good s) :
    isOver good ("'" ++ escape test ++ "',['" ++ s ++ "']") := by
  simp only [isOver_append]
  exact ⟨⟨⟨⟨suits.const (by decide), isOver_escape suits ht⟩, suits.const (by decide)⟩, h⟩,
    suits.const (by decide)⟩

theorem isOver_liveItems (name : isOver good t.name) (literal : isOver good (tagLiteral o t))
    {reference : String} (h : isOver good reference) :
    isOver good ("['" ++ tagLiteral o t ++ "'," ++ reference ++ ",'</" ++ t.name ++ ">']") := by
  simp only [isOver_append]
  exact ⟨⟨⟨⟨⟨⟨suits.const (by decide), literal⟩, suits.const (by decide)⟩, h⟩,
    suits.const (by decide)⟩, name⟩, suits.const (by decide)⟩

theorem isOver_select (nested declare : Bool) (h : HasGood good d) {body others : String}
    (hb : isOver good body) (ho : isOver good others) :
    isOver good ((if nested then "YST.Txt.select, [" ++ ("'" ++ escape d.targetSet ++ "'")
      else "YST.Txt.select" ++ surroundings declare ++ ("'" ++ escape d.targetSet ++ "'"))
      ++ branchCode d body ++ others ++ if nested then "]" else ")") := by
  have set := isOver_quoted suits h.targetSet
  have branch := isOver_branchCode suits h hb
  rw [isOver_append, isOver_append, isOver_append]
  refine ⟨⟨⟨?_, branch⟩, ho⟩, by split <;> exact suits.const (by decide)⟩
  split
  · exact isOver_append.mpr ⟨suits.const (by decide), set⟩
  · exact isOver_append.mpr ⟨isOver_append.mpr ⟨suits.const (by decide),
      isOver_surroundings suits declare⟩, set⟩

/-- The code of a directive is good if the literals in it are. -/
theorem directiveCode_good {nested declare : Bool} {whole inner branches : Gen String}
    (name : isOver good t.name) (attributes : ∀ a ∈ t.attributes, isCleanAttribute good a)
    (args : HasGood good d) (named : d.hoists → ∀ name ∈ d.functionName?, isOver good name)
    (hw : MakesGood good whole (isOver good ·)) (hi : MakesGood good inner (isOver good ·))
    (hb : MakesGood good branches (isOver good ·)) :
    MakesGood good (directiveCode o nested declare t d whole inner branches)
      fun code? => ∀ code ∈ code?, isOver good code := by
  have call : ∀ (f : String) {a : String}, f.toList.all (·.toNat < 128) → isOver good a →
      ∀ code ∈ some (callCode nested declare f (auxArgument d.aux ++ a)), isOver good code := by
    rintro f a hf ha code ⟨⟩
    exact isOver_callCode suits nested declare (suits.const hf)
      (isOver_append.mpr ⟨isOver_auxArgument suits args.aux, ha⟩)
  have silent : ∀ code ∈ (none : Option String), isOver good code := by
    rintro code ⟨⟩
  unfold directiveCode
  dsimp only
  split <;> rename_i kind
  · exact .pure silent
  · split
    · exact .pure silent
    · exact (hoist_good suits hi (named (by rw [Directive.hoists, kind]; rfl))).bind
        fun _ _ => .pure silent
  · refine hw.bind fun s hs => hb.bind fun u hu => .pure ?_
    rintro code ⟨⟩
    exact isOver_select suits nested declare args hs hu
  · refine .pure (call "YST.Txt.include" (by decide) ?_)
    simp only [isOver_append]
    exact ⟨⟨⟨⟨suits.const (by decide), isOver_escape suits args.idRef⟩, suits.const (by decide)⟩,
      isOver_escape suits args.params⟩, suits.const (by decide)⟩
  · -- whether the function is defined here or elsewhere, it is called by its name
    have names := named (by rw [Directive.hoists, kind]; rfl)
    have called : ∀ {name? : Option String} {reference : String},
        (∀ name ∈ name?, isOver good name) → (name? = none → reference = "''") →
        (∀ f, name? = some f → reference = f ++ ",[]") → isOver good reference := by
      rintro (_ | f) reference h none some
      · rw [none rfl]
        exact suits.const (by decide)
      · rw [some f rfl]
        exact isOver_append.mpr ⟨h f rfl, suits.const (by decide)⟩
    have items {reference : String} (h : isOver good reference) :=
      isOver_liveItems suits name (isOver_tagLiteral suits name attributes) h
    split
    · exact (Preserves.pure (Q := fun name? => ∀ name ∈ name?, isOver good name) names).bind
        fun name? h => .pure (call "YST.Txt.value" (by decide)
          (items (called h (fun none => by rw [none]) fun f some => by rw [some])))
    · exact (hoist_good suits hi names).bind
        fun name? h => .pure (call "YST.Txt.value" (by decide)
          (items (called h (fun none => by rw [none]) fun f some => by rw [some])))
  · exact hw.bind fun s hs => .pure (call "YST.Txt.value" (by decide) (isOver_array suits hs))
  · exact hw.bind fun s hs => .pure (call "YST.Txt.literal" (by decide) (isOver_array suits hs))
  · exact hw.bind fun s hs =>
      .pure (call "YST.Txt.iff" (by decide) (isOver_test suits args.test hs))
  · exact hw.bind fun s hs =>
      .pure (call "YST.Txt.apply" (by decide) (isOver_test suits args.targetSet hs))

/-- The code of a clean element is good. -/
theorem elementCode_good {site : Site} {nested declare : Bool} {cs : List Node}
    {whole inner branches : Gen String} (clean : isCleanTag split good t)
    (other : t.name ≠ "script") (hw : MakesGood good whole (isOver good ·))
    (hi : MakesGood good inner (isOver good ·)) (hb : MakesGood good branches (isOver good ·)) :
    MakesGood good (elementCode o site nested declare (.element t cs) whole inner branches)
      fun code? => ∀ code ∈ code?, isOver good code := by
  obtain ⟨name, attributes, id⟩ := isCleanTag_iff.mp clean
  unfold elementCode
  refine Preserves.get.bind fun codes _ => ?_
  dsimp only
  refine (Preserves.lift fun d hd => directive_eq_ok hd).bind ?_
  rintro d ⟨kind, hk, rfl⟩
  refine directiveCode_good suits name attributes (hasGood_directiveOf suits attributes kind)
    (fun hoists f hf => ?_) hw hi hb
  have hoisted : Tag.hoists t := by simp [Tag.hoists, hk, hoists, other]
  exact isOver_functionName suits (id (by simp [becomesFunction, hoisted])) hf

end

/-! ## Literals -/

section

variable {split : Bool} {good : Char → Bool} {o : Options} (suits : Suits good o.family)

include suits

theorem isOver_openingLiteral {n : Node} (leaf : isCleanLeaf good false n)
    (other : n.isElement = false) : isOver good (openingLiteral o n) := by
  cases n with
  | text s => exact isOver_escape suits (isOver_printText suits s)
  | doctype s =>
      refine isOver_escape suits ?_
      simp only [isOver_append]
      exact ⟨⟨suits.const (by decide), leaf⟩, suits.const (by decide)⟩
  | markup s => exact isOver_escape suits leaf
  | comment _ => rfl
  | document _ => cases leaf
  | element _ _ => cases other

theorem madeHead_good : MakesGood good (madeHead o) (isOver good ·) := by
  unfold madeHead
  refine Preserves.get.bind fun codes _ => .pure ?_
  have head : isOver good (tagLiteral o { name := "head" }) :=
    isOver_tagLiteral suits (suits.const (by decide)) (List.forall_mem_nil _)
  rw [isOver_append, isOver_append]
  refine ⟨⟨head, isOver_join fun s hs => ?_⟩, isOver_closingLiteral suits (suits.const (by decide))⟩
  obtain ⟨code, -, rfl⟩ := List.mem_map.mp hs
  exact isOver_functionLiteral suits code

theorem insideLiteral_good {site : Site} {cs : List Node} {walk : Site → Opening → Gen String}
    (h : ∀ site' opening, MakesGood good (walk site' opening) (isOver good ·)) :
    MakesGood good (insideLiteral o site cs walk) (isOver good ·) := by
  unfold insideLiteral
  split
  · refine (h _ _).bind fun s hs => Preserves.get.bind fun codes _ => .pure ?_
    refine isOver_append.mpr ⟨hs, isOver_join fun u hu => ?_⟩
    obtain ⟨code, -, rfl⟩ := List.mem_map.mp hu
    exact isOver_functionLiteral suits code
  · refine Preserves.get.bind fun codes _ => ?_
    split
    · exact h _ _
    · exact h _ _
  · exact h _ _

theorem childText_good {site : Site} {declare inScript : Bool} {c : Node}
    {plain whole inner branches : Gen String} (clean : Node.everywhere (isClean split good) c)
    (hp : MakesGood good plain (isOver good ·)) (hw : MakesGood good whole (isOver good ·))
    (hi : MakesGood good inner (isOver good ·)) (hb : MakesGood good branches (isOver good ·)) :
    MakesGood good (childText o site declare inScript c plain whole inner branches)
      (isOver good ·) := by
  unfold childText
  split
  · exact hp.bind fun s hs => .pure (isOver_unmark suits hs)
  split
  · rename_i target
    cases c with
    | element t cs =>
        rw [Bool.and_eq_true, bne_iff_ne] at target
        have own := (isClean_iff.mp (everywhere_element.mp clean).1).1
        exact (elementCode_good suits own target.1 hw hi hb).bind
          fun code? hcode => .pure (isOver_splice suits declare hcode)
    | document _ | text _ | comment _ | doctype _ | markup _ => simp [Node.isDirective] at target
  · exact hp

omit suits in
theorem childrenFrom_good {site : Site} {declare inScript : Bool} {c : Node} {cs : List Node}
    {front : String} {opening : Opening} (hf : isOver good front)
    (child : MakesGood good (childText o site.first declare inScript c
      (literal o site.first declare c) (literal o site.first false c)
      (innerLiteral o site.first c) (branches o site.rest cs)) (isOver good ·))
    (rest : ∀ opening',
      MakesGood good (literals o site.rest declare inScript opening' cs) (isOver good ·)) :
    MakesGood good (childrenFrom o site declare inScript c cs front opening) (isOver good ·) := by
  unfold childrenFrom
  refine Preserves.get.bind fun codes _ => child.bind fun s hs => ?_
  refine Preserves.get.bind fun codes' _ => ?_
  dsimp only
  have finish : ∀ s', isOver good s' → ∀ opening', MakesGood good (do
      let rest ← literals o site.rest declare inScript opening' cs
      Pure.pure (front ++ s ++ s' ++ rest)) (isOver good ·) := by
    intro s' hs' opening'
    refine (rest opening').bind fun r hr => .pure ?_
    simp only [isOver_append]
    exact ⟨⟨⟨hf, hs⟩, hs'⟩, hr⟩
  split
  · exact child.bind fun s' hs' => finish s' hs' _
  · exact (Preserves.pure (Q := (isOver good ·)) rfl).bind fun s' hs' => finish s' hs' _

theorem literals_cons_good {site : Site} {declare inScript : Bool} {opening : Opening} {c : Node}
    {cs : List Node}
    (child : MakesGood good (childText o site.first declare inScript c
      (literal o site.first declare c) (literal o site.first false c)
      (innerLiteral o site.first c) (branches o site.rest cs)) (isOver good ·))
    (rest : ∀ opening',
      MakesGood good (literals o site.rest declare inScript opening' cs) (isOver good ·)) :
    MakesGood good (literals o site declare inScript opening (c :: cs)) (isOver good ·) := by
  rw [literals_cons]
  split
  · exact (madeHead_good suits).bind fun front hf => childrenFrom_good hf child rest
  · exact childrenFrom_good rfl child rest

theorem literals_nil_good {site : Site} {declare inScript : Bool} (opening : Opening) :
    MakesGood good (literals o site declare inScript opening []) (isOver good ·) := by
  unfold literals
  split
  · exact madeHead_good suits
  · exact .pure rfl

theorem isOver_joinedCode {n : Node} (clean : Node.everywhere (isClean split good) n)
    {body : String} (h : isOver good body) : isOver good (joinedCode n body) := by
  cases n with
  | element t cs =>
      have own := (isClean_iff.mp (everywhere_element.mp clean).1).1
      exact isOver_branchCode suits
        (hasGood_directiveOf suits (isCleanTag_iff.mp own).2.1 .ignore) h
  | document _ | text _ | comment _ | doctype _ | markup _ => rfl

end

/-- Text inside a script is clean wherever else it stands. -/
theorem isCleanLeaf_false {good : Char → Bool} {inScript : Bool} {n : Node}
    (h : isCleanLeaf good inScript n) : isCleanLeaf good false n := by
  cases n with
  | text s => rfl
  | element _ _ | document _ | comment _ | doctype _ | markup _ => exact h

mutual

/-- The literal of a clean node is good. -/
theorem literal_good {split : Bool} {good : Char → Bool} {o : Options}
    (suits : Suits good o.family) (site : Site) (declare : Bool) : ∀ n,
      Node.everywhere (isClean split good) n → isCleanLeaf good false n →
      MakesGood good (literal o site declare n) (isOver good ·)
  | .element t cs, clean, _ => by
      obtain ⟨own, below⟩ := everywhere_element.mp clean
      obtain ⟨tag, leaves⟩ := isClean_iff.mp own
      obtain ⟨name, attributes, -⟩ := isCleanTag_iff.mp tag
      rw [literal]
      refine (insideLiteral_good suits fun site' opening => ?_).bind fun s hs => .pure ?_
      · exact literals_good suits site' declare (t.name == "script") opening cs below
          fun c hc => isCleanLeaf_false (leaves c hc)
      · exact isOver_append.mpr ⟨isOver_append.mpr ⟨isOver_tagLiteral suits name attributes, hs⟩,
          isOver_closingLiteral suits name⟩
  | .document _, _, leaf => by cases leaf
  | .text s, _, leaf | .doctype s, _, leaf | .markup s, _, leaf => by
      rw [literal]
      exact .pure (isOver_openingLiteral suits leaf rfl)
  | .comment _, _, _ => by
      rw [literal]
      exact .pure rfl

/-- The literal of what a clean node holds is good. -/
theorem innerLiteral_good {split : Bool} {good : Char → Bool} {o : Options}
    (suits : Suits good o.family) (site : Site) : ∀ n, Node.everywhere (isClean split good) n →
      isCleanLeaf good false n → MakesGood good (innerLiteral o site n) (isOver good ·)
  | .element t cs, clean, _ => by
      obtain ⟨own, below⟩ := everywhere_element.mp clean
      rw [innerLiteral]
      refine insideLiteral_good suits fun site' opening => ?_
      exact literals_good suits site' true (t.name == "script") opening cs below
        fun c hc => isCleanLeaf_false ((isClean_iff.mp own).2 c hc)
  | .document _, _, leaf => by cases leaf
  | .text _, _, _ | .comment _, _, _ | .doctype _, _, _ | .markup _, _, _ => by
      rw [innerLiteral]
      · exact .pure rfl
      all_goals intros; contradiction

theorem literals_good {split : Bool} {good : Char → Bool} {o : Options}
    (suits : Suits good o.family) (site : Site) (declare inScript : Bool) (opening : Opening) :
    ∀ cs, everywhere (isClean split good) cs → (∀ c ∈ cs, isCleanLeaf good false c) →
      MakesGood good (literals o site declare inScript opening cs) (isOver good ·)
  | [], _, _ => literals_nil_good suits opening
  | c :: cs, clean, leaves => by
      obtain ⟨first, behind⟩ := everywhere_cons.mp clean
      rw [List.forall_mem_cons] at leaves
      refine literals_cons_good suits (childText_good suits first ?_ ?_ ?_ ?_) fun opening' => ?_
      · exact literal_good suits site.first declare c first leaves.1
      · exact literal_good suits site.first false c first leaves.1
      · exact innerLiteral_good suits site.first c first leaves.1
      · exact branches_good suits site.rest cs behind
      · exact literals_good suits site.rest declare inScript opening' cs behind leaves.2

/-- The code of further branches of a choice is good. -/
theorem branches_good {split : Bool} {good : Char → Bool} {o : Options}
    (suits : Suits good o.family) (site : Site) : ∀ cs, everywhere (isClean split good) cs →
      MakesGood good (branches o site cs) (isOver good ·)
  | [], _ => by
      rw [branches]
      exact .pure rfl
  | c :: cs, clean => by
      obtain ⟨first, behind⟩ := everywhere_cons.mp clean
      rw [branches]
      split
      · rename_i joined
        have leaf : isCleanLeaf good false c := by
          cases c <;> first | rfl | cases joined
        refine (literal_good suits site.first false c first leaf).bind fun body hb => ?_
        refine (branches_good suits site.rest cs behind).bind fun rest hr => .pure ?_
        exact isOver_append.mpr ⟨isOver_joinedCode suits first hb, hr⟩
      · split
        · exact branches_good suits site.rest cs behind
        · exact .pure rfl

end

/-- The code of the first of some siblings is good, if it is an element. -/
theorem firstCode_good {split : Bool} {good : Char → Bool} {o : Options}
    (suits : Suits good o.family) (site : Site) (nested declare : Bool) {t : Tag}
    {cs rest : List Node} (clean : everywhere (isClean split good) (.element t cs :: rest))
    (other : t.name ≠ "script") :
    MakesGood good (firstCode o site nested declare (.element t cs :: rest))
      fun code? => ∀ code ∈ code?, isOver good code := by
  obtain ⟨first, behind⟩ := everywhere_cons.mp clean
  exact elementCode_good suits (isClean_iff.mp (everywhere_element.mp first).1).1 other
    (literal_good suits site.first false _ first rfl)
    (innerLiteral_good suits site.first _ first rfl)
    (branches_good suits site.rest rest behind)

end PageTemplates.Compile
