import PageTemplates.Model.Artifact
import PageTemplates.Proofs.Text.Search

/-!
# Which bytes are the model section

The model section is described by the offsets of its parts, without a search,
and the search finds exactly what is described. The main facts:

* `IsModelAttribute`, `IsSection`: the attribute and the section, by offsets;
* `hasModelAttribute_iff`, `sectionAt?_eq_some_iff`: what the parts of the search
  say about offsets;
* `locate?_grammar`: the bounds of a page are those of its first section, they
  lie in the page, and the three parts of the page make it up.
-/

namespace PageTemplates.Model

open Text (find? find?_eq_some_iff find?_eq_none_iff drop_eq_cons_iff dropWhile_drop
  exists_dropWhile_drop)

/-! ## Sections by offsets -/

/-- A lower-case ASCII word stands at an offset, in letters of any case. -/
def WordAt (word : String) (bytes : Bytes) (i : Nat) : Prop :=
  Bytes.beginsWith (Bytes.ofAscii word) (bytes.drop i)

/-- A blank stands at an offset. -/
def BlankAt (bytes : Bytes) (i : Nat) : Prop := bytes[i]?.any Bytes.isTagBlank

/-- Nothing but blanks stands from one offset up to another one. -/
def BlankBetween (bytes : Bytes) (i j : Nat) : Prop := i ≤ j ∧ ∀ k, i ≤ k → k < j → BlankAt bytes k

/-- At `v` stands the value `model` of a tag that ends at `f`: between two equal
quotes, or bare and followed by a blank, by a slash or by the end of the tag. -/
def IsModelValue (bytes : Bytes) (v f : Nat) : Prop :=
  (∃ quote, (quote = 0x22 ∨ quote = 0x27) ∧ bytes[v]? = some quote ∧ WordAt "model" bytes (v + 1) ∧
      bytes[v + 6]? = some quote ∧ v + 6 < f) ∨
    (WordAt "model" bytes v ∧ v + 5 ≤ f ∧
      (v + 5 = f ∨ BlankAt bytes (v + 5) ∨ bytes[v + 5]? = some 0x2F))

/-- At `a` stands the attribute `yst` with the value `model`, behind a blank, in
a tag that ends at `f`. The equal sign is at `k` and the value at `v`. -/
structure IsModelAttribute (bytes : Bytes) (a k v f : Nat) : Prop where
  blank : 0 < a ∧ BlankAt bytes (a - 1)
  name : WordAt "yst" bytes a
  gap : BlankBetween bytes (a + 3) k
  equal : bytes[k]? = some 0x3D
  gap' : BlankBetween bytes (k + 1) v
  value : IsModelValue bytes v f

/-- A model section starts at `s`: its start tag ends at `f`, and its end tag,
the first one behind that, starts at `z`. -/
structure IsSectionAt (bytes : Bytes) (s f z : Nat) : Prop where
  opening : WordAt "<script" bytes s
  tagEnd : s ≤ f ∧ bytes[f]? = some 0x3E ∧ ∀ i, s ≤ i → i < f → bytes[i]? ≠ some 0x3E
  marked : ∃ a k v, s + 7 ≤ a ∧ IsModelAttribute bytes a k v f
  closing : f ≤ z ∧ WordAt "</script>" bytes z ∧ ∀ i, f ≤ i → i < z → ¬ WordAt "</script>" bytes i
  unnested : ∀ i, f ≤ i → i < z → ¬ WordAt "<script" bytes i

/-- A model section starts at `s` and ends at `e`. -/
def IsSection (bytes : Bytes) (s e : Nat) : Prop :=
  ∃ f z, IsSectionAt bytes s f z ∧ e = z + "</script>".length

/-- The first model section starts at `s` and ends at `e`. -/
def IsFirstSection (bytes : Bytes) (s e : Nat) : Prop :=
  IsSection bytes s e ∧ ∀ s' < s, ∀ e', ¬ IsSection bytes s' e'

/-! ## Letters of any case -/

theorem toNat_lowerByte (b : UInt8) : (Bytes.lowerByte b).toNat =
    if 0x41 ≤ b.toNat ∧ b.toNat ≤ 0x5A then b.toNat + 0x20 else b.toNat := by
  unfold Bytes.lowerByte
  simp only [Bool.and_eq_true, decide_eq_true_eq, UInt8.le_iff_toNat_le]
  split
  · rename_i h
    have upper : b.toNat ≤ 0x5A := h.2
    have bound : (b + 0x20).toNat = b.toNat + 0x20 := by
      rw [UInt8.toNat_add]
      refine Nat.mod_eq_of_lt ?_
      simpa using Nat.lt_of_le_of_lt (Nat.add_le_add_right upper _) (by decide)
    rw [if_pos (by simpa using h), bound]
  · rename_i h
    rw [if_neg (by simpa using h)]

/-- Only letters have another case. -/
theorem lowerByte_eq_iff {x : UInt8} (hx : x.toNat < 0x41) (b : UInt8) :
    Bytes.lowerByte b = x ↔ b = x := by
  rw [← UInt8.toNat_inj, ← UInt8.toNat_inj, toNat_lowerByte]
  split <;> omega

theorem isTagBlank_lowerByte (b : UInt8) :
    Bytes.isTagBlank (Bytes.lowerByte b) = Bytes.isTagBlank b := by
  have same : ∀ x : UInt8, x.toNat < 0x41 → (Bytes.lowerByte b == x) = (b == x) := by
    intro x hx
    rw [Bool.eq_iff_iff, beq_iff_eq, beq_iff_eq, lowerByte_eq_iff hx]
  simp only [Bytes.isTagBlank, same _ (show (0x20 : UInt8).toNat < 0x41 by decide),
    same _ (show (0x09 : UInt8).toNat < 0x41 by decide),
    same _ (show (0x0D : UInt8).toNat < 0x41 by decide),
    same _ (show (0x0A : UInt8).toNat < 0x41 by decide)]

theorem getElem?_lower (bytes : Bytes) (i : Nat) :
    bytes.lower[i]? = bytes[i]?.map Bytes.lowerByte := by
  rw [Bytes.lower, List.getElem?_map]

theorem wordAt_iff {word : String} {bytes : Bytes} {i : Nat} :
    WordAt word bytes i ↔ Bytes.ofAscii word <+: bytes.lower.drop i := by
  rw [WordAt, Bytes.beginsWith, beq_iff_eq, List.prefix_iff_eq_take, Bytes.lower, Bytes.lower,
    ← List.map_drop, ← List.map_take, eq_comm]

/-! ## Within a tag -/

section

variable {bytes : Bytes} {f i : Nat}

/-- The bytes of a tag that ends at `f`, in lower case, with all before it. -/
def upTo (bytes : Bytes) (f : Nat) : Bytes := bytes.lower.take f

theorem upTo_eq_some {x : UInt8} (hx : x.toNat < 0x41) :
    (upTo bytes f)[i]? = some x ↔ i < f ∧ bytes[i]? = some x := by
  rw [upTo, List.getElem?_take, getElem?_lower]
  split
  · rename_i h
    simp [h, lowerByte_eq_iff hx]
  · rename_i h
    simp [h]

theorem upTo_blank : (upTo bytes f)[i]?.any Bytes.isTagBlank ↔ i < f ∧ BlankAt bytes i := by
  rw [upTo, List.getElem?_take, getElem?_lower, BlankAt]
  split
  · rename_i h
    cases bytes[i]? <;> simp [h, isTagBlank_lowerByte]
  · rename_i h
    simp [h]

theorem prefix_drop_upTo {word : String} (hw : word.length ≠ 0) :
    Bytes.ofAscii word <+: (upTo bytes f).drop i ↔ WordAt word bytes i ∧ i + word.length ≤ f := by
  have length : (Bytes.ofAscii word).length = word.length := by
    rw [Bytes.ofAscii, List.length_map, String.length_toList]
  rw [upTo, List.drop_take, List.prefix_take_iff, ← wordAt_iff, length]
  exact and_congr_right fun _ => by omega

/-- A value of a tag is looked at byte by byte. -/
theorem isModelValue_drop (r : Bytes) (v : Nat) : isModelValue (r.drop v) ↔
    (∃ quote, (quote = 0x22 ∨ quote = 0x27) ∧ r[v]? = some quote ∧ modelWord <+: r.drop (v + 1) ∧
        r[v + 6]? = some quote) ∨
      (modelWord <+: r.drop v ∧ r[v + 5]?.all fun b => Bytes.isTagBlank b || b == 0x2F) := by
  have behind : ∀ i, ((r.drop i).drop modelWord.length).head? = r[i + 5]? := by
    intro i
    rw [List.drop_drop, List.head?_drop]
    rfl
  cases hr : r.drop v with
  | nil =>
      have ends : r[v]? = none := by rw [← List.head?_drop, hr, List.head?_nil]
      have noWord : ¬ modelWord <+: [] := by decide
      simp [isModelValue, ends, noWord]
  | cons q rest =>
      have first : r[v]? = some q := by rw [← List.head?_drop, hr, List.head?_cons]
      have next : r.drop (v + 1) = rest := by rw [← List.drop_drop, hr]; rfl
      have behindNext := behind (v + 1)
      have behindHere := behind v
      rw [next] at behindNext
      rw [hr] at behindHere
      rw [isModelValue, first, next, behindNext, behindHere]
      have noWord : (q = 0x22 ∨ q = 0x27) → ¬ modelWord <+: q :: rest := by
        rintro (rfl | rfl) <;> simp [modelWord, Bytes.ofAscii]
      -- a value that begins with a quote does not begin with the word, so that one side is left
      by_cases hq : q = 0x22 ∨ q = 0x27
      · have quoted : (q == 0x22 || q == 0x27) = true := by simpa using hq
        rw [if_pos quoted, Bool.and_eq_true, List.isPrefixOf_iff_prefix, beq_iff_eq]
        constructor
        · rintro ⟨word, last⟩
          exact .inl ⟨q, hq, rfl, word, last⟩
        · rintro (⟨quote, -, hquote, word, last⟩ | ⟨word, -⟩)
          · cases hquote
            exact ⟨word, last⟩
          · exact absurd word (noWord hq)
      · have unquoted : ¬ (q == 0x22 || q == 0x27) = true := by simpa using hq
        rw [if_neg unquoted, Bool.and_eq_true, List.isPrefixOf_iff_prefix]
        constructor
        · exact .inr
        · rintro (⟨quote, hquote, hfirst, -⟩ | bare)
          · cases hfirst
            exact absurd hquote hq
          · exact bare

theorem isModelValue_drop_upTo (hf : f ≤ bytes.length) :
    isModelValue ((upTo bytes f).drop i) ↔ IsModelValue bytes i f := by
  have word := @prefix_drop_upTo bytes f i "model" (by decide)
  have word' := @prefix_drop_upTo bytes f (i + 1) "model" (by decide)
  have length : "model".length = 5 := by decide
  rw [length] at word word'
  rw [isModelValue_drop, IsModelValue]
  refine or_congr ?_ ?_
  · refine exists_congr fun quote => and_congr_right fun hq => ?_
    have small : quote.toNat < 0x41 := by rcases hq with rfl | rfl <;> decide
    rw [upTo_eq_some small, upTo_eq_some small]
    constructor
    · rintro ⟨⟨-, first⟩, hw, inside, last⟩
      exact ⟨first, (word'.mp hw).1, last, inside⟩
    · rintro ⟨first, hw, last, inside⟩
      exact ⟨⟨by omega, first⟩, word'.mpr ⟨hw, by omega⟩, inside, last⟩
  · rw [modelWord, word, and_assoc]
    refine and_congr_right fun _ => and_congr_right fun inside => ?_
    by_cases ends : i + 5 = f
    · -- the value ends with the tag
      have nothing : (upTo bytes f)[i + 5]? = none := by
        rw [upTo, List.getElem?_take, if_neg (by omega)]
      rw [nothing]
      simp [ends]
    · have present : (upTo bytes f)[i + 5]? = bytes[i + 5]?.map Bytes.lowerByte := by
        rw [upTo, List.getElem?_take, if_pos (by omega), getElem?_lower]
      obtain ⟨b, hb⟩ : ∃ b, bytes[i + 5]? = some b := ⟨_, List.getElem?_eq_getElem (by omega)⟩
      have slash : (Bytes.lowerByte b == 0x2F) = (b == 0x2F) := by
        rw [Bool.eq_iff_iff, beq_iff_eq, beq_iff_eq, lowerByte_eq_iff (by decide)]
      simp [present, hb, ends, BlankAt, isTagBlank_lowerByte, slash]

/-- A value begins with a quote or a letter. -/
theorem not_blank_of_isModelValue {r : Bytes} {v : Nat} (h : isModelValue (r.drop v)) :
    r[v]?.any fun b => !Bytes.isTagBlank b := by
  rcases (isModelValue_drop r v).mp h with ⟨quote, hq, first, -⟩ | ⟨word, -⟩
  · rcases hq with rfl | rfl <;> simp [first, Bytes.isTagBlank]
  · obtain ⟨rest, hrest⟩ := word
    have first : r[v]? = some 0x6D := by
      rw [← List.head?_drop, ← hrest]
      rfl
    simp [first, Bytes.isTagBlank]

/-- An attribute of a tag: its name, the equal sign behind blanks, and its value
behind blanks. -/
theorem modelAttributeAt_drop (r : Bytes) (a : Nat) : modelAttributeAt (r.drop a) ↔
    Bytes.ofAscii "yst" <+: r.drop a ∧ ∃ k v, a + 3 ≤ k ∧
      (∀ i, a + 3 ≤ i → i < k → r[i]?.any Bytes.isTagBlank) ∧ r[k]? = some 0x3D ∧ k + 1 ≤ v ∧
      (∀ i, k + 1 ≤ i → i < v → r[i]?.any Bytes.isTagBlank) ∧ isModelValue (r.drop v) := by
  rw [modelAttributeAt, Bool.and_eq_true, List.isPrefixOf_iff_prefix, List.drop_drop]
  refine and_congr_right fun _ => ?_
  constructor
  · intro h
    obtain ⟨k, hk, gap⟩ := exists_dropWhile_drop Bytes.isTagBlank r (a + 3)
    rw [hk.2] at h
    split at h
    · rename_i rest heq
      obtain ⟨equal, hrest⟩ := drop_eq_cons_iff.mp heq
      obtain ⟨v, hv, gap'⟩ := exists_dropWhile_drop Bytes.isTagBlank r (k + 1)
      rw [← hrest, hv.2] at h
      exact ⟨k, v, hk.1, gap, equal, hv.1, gap', h⟩
    · cases h
  · rintro ⟨k, v, hk, gap, equal, hv, gap', value⟩
    have first : (r.drop (a + 3)).dropWhile Bytes.isTagBlank = 0x3D :: r.drop (k + 1) := by
      rw [dropWhile_drop hk gap (by simp [equal, Bytes.isTagBlank])]
      exact drop_eq_cons_iff.mpr ⟨equal, rfl⟩
    rw [first]
    show isModelValue ((r.drop (k + 1)).dropWhile Bytes.isTagBlank)
    rw [dropWhile_drop hv gap' (not_blank_of_isModelValue value)]
    exact value

/-- A tag has the attribute behind one of its blanks. -/
theorem hasModelAttribute_iff (prev : UInt8) (xs : Bytes) : hasModelAttribute prev xs ↔
    ∃ i, (prev :: xs)[i]?.any Bytes.isTagBlank ∧ modelAttributeAt (xs.drop i) := by
  induction xs generalizing prev with
  | nil =>
      have nothing : modelAttributeAt [] = false := rfl
      simp [hasModelAttribute, nothing]
  | cons b bs ih =>
      rw [hasModelAttribute, Bool.or_eq_true, Bool.and_eq_true, ih]
      constructor
      · rintro (⟨blank, here⟩ | ⟨i, blank, there⟩)
        · exact ⟨0, by simpa using blank, here⟩
        · exact ⟨i + 1, blank, there⟩
      · rintro ⟨i, blank, found⟩
        cases i with
        | zero => exact .inl ⟨by simpa using blank, found⟩
        | succ i => exact .inr ⟨i, blank, found⟩

theorem IsModelValue.lt {v : Nat} (h : IsModelValue bytes v f) : v < f := by
  rcases h with ⟨_, _, _, _, _, inside⟩ | ⟨_, inside, _⟩ <;> omega

theorem modelAttributeAt_drop_upTo {a : Nat} (hf : f ≤ bytes.length) :
    modelAttributeAt ((upTo bytes f).drop a) ↔ WordAt "yst" bytes a ∧ ∃ k v,
      BlankBetween bytes (a + 3) k ∧ bytes[k]? = some 0x3D ∧ BlankBetween bytes (k + 1) v ∧
        IsModelValue bytes v f := by
  have word := @prefix_drop_upTo bytes f a "yst" (by decide)
  have length : "yst".length = 3 := by decide
  rw [length] at word
  have equal : ∀ k, (upTo bytes f)[k]? = some 0x3D ↔ k < f ∧ bytes[k]? = some 0x3D :=
    fun k => upTo_eq_some (by decide)
  rw [modelAttributeAt_drop, word]
  constructor
  · rintro ⟨⟨name, -⟩, k, v, hk, gap, heq, hv, gap', value⟩
    refine ⟨name, k, v, ⟨hk, fun i hi hik => ?_⟩, ((equal k).mp heq).2,
      ⟨hv, fun i hi hiv => ?_⟩, (isModelValue_drop_upTo hf).mp value⟩
    · exact (upTo_blank.mp (gap i hi hik)).2
    · exact (upTo_blank.mp (gap' i hi hiv)).2
  · rintro ⟨name, k, v, ⟨hk, gap⟩, heq, ⟨hv, gap'⟩, value⟩
    have inside := value.lt
    refine ⟨⟨name, by omega⟩, k, v, hk, fun i hi hik => ?_, (equal k).mpr ⟨by omega, heq⟩, hv,
      fun i hi hiv => ?_, (isModelValue_drop_upTo hf).mpr value⟩
    · exact upTo_blank.mpr ⟨by omega, gap i hi hik⟩
    · exact upTo_blank.mpr ⟨by omega, gap' i hi hiv⟩

/-- A start tag that ends at `f` has the attribute, which no blank stands for
before `s + 7`. -/
theorem hasModelAttribute_upTo {s : Nat} (hf : f ≤ bytes.length) (front : ¬ BlankAt bytes (s + 6)) :
    hasModelAttribute 0x74 ((upTo bytes f).drop (s + 7)) ↔
      ∃ a k v, s + 7 ≤ a ∧ IsModelAttribute bytes a k v f := by
  have notBlank : Bytes.isTagBlank 0x74 = false := by decide
  rw [hasModelAttribute_iff]
  constructor
  · rintro ⟨i, blank, here⟩
    cases i with
    | zero => simp [notBlank] at blank
    | succ i =>
        rw [List.getElem?_cons_succ, List.getElem?_drop, upTo_blank] at blank
        rw [List.drop_drop, modelAttributeAt_drop_upTo hf] at here
        obtain ⟨name, k, v, gap, equal, gap', value⟩ := here
        exact ⟨_, k, v, by omega, ⟨by omega, blank.2⟩, name, gap, equal, gap', value⟩
  · rintro ⟨a, k, v, ha, ⟨-, blank⟩, name, gap, equal, gap', value⟩
    obtain ⟨i, rfl⟩ : ∃ i, a = s + 7 + i + 1 := by
      refine ⟨a - (s + 8), ?_⟩
      by_cases first : a = s + 7
      · rw [first] at blank
        exact absurd blank front
      · omega
    refine ⟨i + 1, ?_, ?_⟩
    · have inside := value.lt
      have order := gap.1
      have order' := gap'.1
      rw [List.getElem?_cons_succ, List.getElem?_drop, upTo_blank]
      exact ⟨by omega, blank⟩
    · rw [List.drop_drop, modelAttributeAt_drop_upTo hf]
      exact ⟨name, k, v, gap, equal, gap', value⟩

end

/-! ## Sections -/

theorem sectionAt?_eq_some_iff (bs : Bytes) (n : Nat) : sectionAt? bs = some n ↔
    scriptOpen <+: bs ∧ ∃ tag, find? [0x3E] (bs.drop 7) = some tag ∧
      hasModelAttribute 0x74 ((bs.drop 7).take tag) ∧
      ∃ close, find? scriptClose (bs.drop (7 + tag)) = some close ∧
        ((find? scriptOpen (bs.drop (7 + tag))).all fun nested => close < nested) ∧
        7 + tag + close + 9 = n := by
  have lengths : scriptOpen.length = 7 ∧ scriptClose.length = 9 := by decide
  have guards : ∀ {p : Prop} [Decidable p] {x : Unit}, (guard p : Option Unit) = some x ↔ p := by
    intro p _ x
    by_cases h : p
    · exact ⟨fun _ => h, fun _ => if_pos h⟩
    · have none : (guard p : Option Unit) = none := if_neg h
      rw [none]
      exact ⟨fun absent => (by cases absent), fun hp => absurd hp h⟩
  have steps : ∀ {α : Type} {x : Option α} {f : α → Option Nat},
      (x >>= f) = some n ↔ ∃ a, x = some a ∧ f a = some n := Option.bind_eq_some_iff
  rw [sectionAt?]
  simp only [↓steps, ↓guards, lengths, List.drop_drop, List.isPrefixOf_iff_prefix, exists_const,
    Option.pure_def, Option.some.injEq]

theorem find?_lower_eq_some_iff (word : String) {bytes : Bytes} {f n : Nat} :
    find? (Bytes.ofAscii word) (bytes.lower.drop f) = some n ↔
      WordAt word bytes (f + n) ∧ ∀ i, f ≤ i → i < f + n → ¬ WordAt word bytes i := by
  rw [find?_eq_some_iff, List.drop_drop, ← wordAt_iff]
  refine and_congr_right fun _ => ⟨fun first i hi hn => ?_, fun first j hj => ?_⟩
  · have := first (i - f) (by omega)
    rwa [List.drop_drop, ← wordAt_iff, Nat.add_sub_cancel' hi] at this
  · rw [List.drop_drop, ← wordAt_iff]
    exact first (f + j) (by omega) (by omega)

theorem find?_lower_eq_none_iff (word : String) {bytes : Bytes} {f : Nat} :
    find? (Bytes.ofAscii word) (bytes.lower.drop f) = none ↔
      ∀ i, f ≤ i → ¬ WordAt word bytes i := by
  rw [find?_eq_none_iff]
  refine ⟨fun nowhere i hi => ?_, fun nowhere j => ?_⟩
  · have := nowhere (i - f)
    rwa [List.drop_drop, ← wordAt_iff, Nat.add_sub_cancel' hi] at this
  · rw [List.drop_drop, ← wordAt_iff]
    exact nowhere (f + j) (by omega)

theorem wordAt_bracket {bytes : Bytes} {i : Nat} : WordAt ">" bytes i ↔ bytes[i]? = some 0x3E := by
  have bracket : bytes.lower[i]? = some 0x3E ↔ bytes[i]? = some 0x3E := by
    rw [getElem?_lower]
    cases bytes[i]? <;> simp [lowerByte_eq_iff]
  rw [wordAt_iff, ← bracket]
  constructor
  · rintro ⟨rest, hrest⟩
    exact (drop_eq_cons_iff.mp hrest.symm).1
  · intro h
    exact ⟨_, (drop_eq_cons_iff.mpr ⟨h, rfl⟩).symm⟩

/-- What the bytes of a script tag up to its name are not. -/
theorem WordAt.scriptOpen {bytes : Bytes} {s : Nat} (h : WordAt "<script" bytes s) :
    ¬ BlankAt bytes (s + 6) ∧ (∀ i, s ≤ i → i < s + 7 → bytes[i]? ≠ some 0x3E) ∧
      ¬ WordAt "</script>" bytes s := by
  rw [wordAt_iff] at h
  have letters : ∀ j < 7, bytes[s + j]?.map Bytes.lowerByte = Model.scriptOpen[j]? := by
    intro j hj
    obtain ⟨rest, hrest⟩ := h
    rw [← getElem?_lower, ← List.getElem?_drop, ← hrest]
    exact List.getElem?_append_left hj
  refine ⟨fun blank => ?_, fun i hi hi7 bracket => ?_, fun closing => ?_⟩
  · have last : bytes[s + 6]?.map Bytes.lowerByte = some 0x74 := letters 6 (by decide)
    obtain ⟨b, hb, blank⟩ := (Option.any_eq_true _ _).mp blank
    rw [hb, Option.map_some, Option.some.injEq] at last
    rw [← isTagBlank_lowerByte, last] at blank
    cases blank
  · have none : ∀ j < 7, Model.scriptOpen[j]? ≠ some 0x3E := by decide
    have byte := letters (i - s) (by omega)
    rw [Nat.add_sub_cancel' hi, bracket] at byte
    exact none (i - s) (by omega) byte.symm
  · have shorter := List.prefix_of_prefix_length_le h (wordAt_iff.mp closing) (by decide)
    revert shorter
    decide

/-- No script is opened in front of an end tag. -/
theorem unnested_iff {bytes : Bytes} {f close : Nat}
    (closing : WordAt "</script>" bytes (f + close)) :
    ((find? scriptOpen (bytes.lower.drop f)).all fun nested => close < nested) ↔
      ∀ i, f ≤ i → i < f + close → ¬ WordAt "<script" bytes i := by
  cases found : find? scriptOpen (bytes.lower.drop f) with
  | none =>
      have nowhere := (find?_lower_eq_none_iff "<script").mp found
      exact ⟨fun _ i hi _ => nowhere i hi, fun _ => rfl⟩
  | some nested =>
      obtain ⟨there, first⟩ := (find?_lower_eq_some_iff "<script").mp found
      rw [Option.all_some, decide_eq_true_eq]
      refine ⟨fun h i hi hz => first i hi (by omega), fun unnested => ?_⟩
      -- an end tag is no start tag, so the two are at different offsets
      have apart : nested ≠ close := by
        rintro rfl
        exact there.scriptOpen.2.2 closing
      by_cases before : nested < close
      · exact absurd there (unnested _ (by omega) (by omega))
      · omega

/-- A section that begins in front. -/
theorem sectionAt?_drop_lower (bytes : Bytes) (s n : Nat) :
    sectionAt? (bytes.lower.drop s) = some n ↔ IsSection bytes s (s + n) := by
  have length : "</script>".length = 9 := by decide
  have region : ∀ tag, ((bytes.lower.drop s).drop 7).take tag
      = (upTo bytes (s + 7 + tag)).drop (s + 7) := by
    intro tag
    rw [upTo, List.drop_take, List.drop_drop, Nat.add_sub_cancel_left]
  have places : ∀ tag, (bytes.lower.drop s).drop (7 + tag) = bytes.lower.drop (s + 7 + tag) := by
    intro tag
    rw [List.drop_drop, Nat.add_assoc]
  rw [sectionAt?_eq_some_iff]
  constructor
  · rintro ⟨opening, tag, tagEnd, marked, close, closing, nested, rfl⟩
    have opening : WordAt "<script" bytes s := wordAt_iff.mpr opening
    rw [List.drop_drop] at tagEnd
    obtain ⟨bracket, first⟩ := (find?_lower_eq_some_iff ">").mp tagEnd
    rw [places] at closing nested
    obtain ⟨closing, firstClosing⟩ := (find?_lower_eq_some_iff "</script>").mp closing
    rw [wordAt_bracket] at bracket
    have inside := (List.getElem?_eq_some_iff.mp bracket).1
    rw [region, hasModelAttribute_upTo (Nat.le_of_lt inside) opening.scriptOpen.1] at marked
    refine ⟨_, _, ⟨opening, ⟨by omega, bracket, fun i hi hf => ?_⟩, marked,
      ⟨by omega, closing, firstClosing⟩, (unnested_iff closing).mp nested⟩, by omega⟩
    by_cases front : i < s + 7
    · exact opening.scriptOpen.2.1 i hi front
    · rw [Ne, ← wordAt_bracket]
      exact first i (by omega) hf
  · rintro ⟨f, z, ⟨opening, ⟨order, bracket, first⟩, marked, ⟨order', closing, firstClosing⟩,
      unnested⟩, hn⟩
    -- the tag does not end before its name does
    obtain ⟨tag, rfl⟩ : ∃ tag, f = s + 7 + tag := by
      refine ⟨f - (s + 7), ?_⟩
      by_cases front : f < s + 7
      · exact absurd bracket (opening.scriptOpen.2.1 f order front)
      · omega
    obtain ⟨close, rfl⟩ := Nat.exists_eq_add_of_le order'
    have inside := (List.getElem?_eq_some_iff.mp bracket).1
    refine ⟨wordAt_iff.mp opening, tag, ?_, ?_, close, ?_, ?_, by omega⟩
    · rw [List.drop_drop]
      refine (find?_lower_eq_some_iff ">").mpr ⟨wordAt_bracket.mpr bracket, ?_⟩
      intro i hi hf
      rw [wordAt_bracket]
      exact first i (by omega) hf
    · rw [region, hasModelAttribute_upTo (Nat.le_of_lt inside) opening.scriptOpen.1]
      exact marked
    · rw [places]
      exact (find?_lower_eq_some_iff "</script>").mpr ⟨closing, firstClosing⟩
    · rw [places]
      exact (unnested_iff closing).mpr unnested

theorem IsSection.bounds {bytes : Bytes} {s e : Nat} (h : IsSection bytes s e) :
    s < e ∧ e ≤ bytes.length := by
  obtain ⟨f, z, hz, rfl⟩ := h
  have length : "</script>".length = 9 := by decide
  have order := hz.tagEnd.1
  have order' := hz.closing.1
  have inside := (wordAt_iff.mp hz.closing.2.1).length_le
  rw [List.length_drop, Bytes.length_lower] at inside
  have word : (Bytes.ofAscii "</script>").length = 9 := by decide
  omega

theorem IsSection.sectionAt? {bytes : Bytes} {s e : Nat} (h : IsSection bytes s e) :
    sectionAt? (bytes.lower.drop s) = some (e - s) := by
  rw [sectionAt?_drop_lower, Nat.add_sub_cancel' (Nat.le_of_lt h.bounds.1)]
  exact h

/-- The search from an offset on finds the first section from there on. -/
theorem locateFrom_eq_some_iff (bytes : Bytes) (pos s e : Nat) :
    locateFrom pos (bytes.lower.drop pos) = some (s, e) ↔
      pos ≤ s ∧ IsSection bytes s e ∧ ∀ s', pos ≤ s' → s' < s → ∀ e', ¬ IsSection bytes s' e' := by
  generalize hbs : bytes.lower.drop pos = bs
  -- position by position: a section begins here, or the first one begins behind
  induction bs generalizing pos with
  | nil =>
      have beyond : bytes.length ≤ pos := by
        rw [← Bytes.length_lower]
        exact List.drop_eq_nil_iff.mp hbs
      simp only [locateFrom, reduceCtorEq, false_iff]
      rintro ⟨hpos, section', -⟩
      have := section'.bounds
      omega
  | cons b bs ih =>
      have next := (drop_eq_cons_iff.mp hbs).2
      rw [locateFrom, ← hbs]
      cases here : Model.sectionAt? (bytes.lower.drop pos) with
      | some n =>
          have found := (sectionAt?_drop_lower bytes pos n).mp here
          simp only [Option.some.injEq, Prod.mk.injEq]
          constructor
          · rintro ⟨rfl, rfl⟩
            exact ⟨Nat.le_refl _, found, fun s' h h' => by omega⟩
          · rintro ⟨hpos, section', first⟩
            obtain rfl : pos = s := by
              by_cases behind : pos < s
              · exact absurd found (first pos (Nat.le_refl _) behind _)
              · omega
            have same := section'.sectionAt?
            rw [here, Option.some.injEq] at same
            have := section'.bounds
            exact ⟨rfl, by omega⟩
      | none =>
          have absent : ∀ e', ¬ IsSection bytes pos e' := by
            intro e' h
            rw [h.sectionAt?] at here
            cases here
          dsimp only
          rw [ih (pos + 1) next]
          constructor
          · rintro ⟨hpos, section', first⟩
            refine ⟨by omega, section', fun s' h h' => ?_⟩
            by_cases same : s' = pos
            · rw [same]
              exact absent
            · exact first s' (by omega) h'
          · rintro ⟨hpos, section', first⟩
            have behind : s ≠ pos := by
              rintro rfl
              exact absent e section'
            exact ⟨by omega, section', fun s' h => first s' (by omega)⟩

theorem locate?_eq_some_iff (bytes : Bytes) (s e : Nat) :
    locate? bytes = some (s, e) ↔ IsFirstSection bytes s e := by
  have search := locateFrom_eq_some_iff bytes 0 s e
  simp only [List.drop_zero, Nat.zero_le, true_and, forall_const] at search
  exact search

theorem locate?_eq_none_iff (bytes : Bytes) :
    locate? bytes = none ↔ ∀ s e, ¬ IsSection bytes s e := by
  constructor
  · intro none s
    -- a section with none before it would have been found
    induction s using Nat.strongRecOn with
    | ind s before =>
        intro e here
        rw [(locate?_eq_some_iff bytes s e).mpr ⟨here, before⟩] at none
        cases none
  · intro nowhere
    cases found : locate? bytes with
    | none => rfl
    | some bounds => exact absurd ((locate?_eq_some_iff bytes _ _).mp found).1 (nowhere _ _)

theorem parts_ofContent (bytes : Bytes) :
    let a := Artifact.ofContent bytes
    a.before ++ a.model ++ a.after = bytes := by
  unfold Artifact.ofContent
  cases found : locate? bytes with
  | none => simp [Artifact.before, Artifact.model, Artifact.after, Artifact.isTemplate]
  | some bounds =>
      obtain ⟨s, e⟩ := bounds
      have order := ((locate?_eq_some_iff bytes s e).mp found).1.bounds.1
      have front : (bytes.take e).take s = bytes.take s := by
        rw [List.take_take, Nat.min_eq_left (Nat.le_of_lt order)]
      simp only [Artifact.before, Artifact.model, Artifact.after, Artifact.isTemplate,
        Int.natCast_nonneg, decide_true, Bool.and_self, if_true, Int.toNat_natCast]
      rw [← front, List.take_append_drop, List.take_append_drop]

/-- The bounds of a page are those of its first model section, and there are
none only in a page without a section. They lie in the page, in their order, so
what stands before the section, the section and what stands behind it make up
the page. -/
theorem locate?_grammar (bytes : Bytes) :
    (∀ s e, locate? bytes = some (s, e) ↔ IsFirstSection bytes s e) ∧
    (locate? bytes = none ↔ ∀ s e, ¬ IsSection bytes s e) ∧
    (∀ s e, locate? bytes = some (s, e) → s < e ∧ e ≤ bytes.length) ∧
    let a := Artifact.ofContent bytes
    (a.modelInit, a.modelEnd)
        = (locate? bytes).elim (-1, -1) (fun b => ((b.1 : Int), (b.2 : Int))) ∧
      a.content = bytes ∧ a.before ++ a.model ++ a.after = bytes := by
  refine ⟨locate?_eq_some_iff bytes, locate?_eq_none_iff bytes, fun s e found => ?_, ?_, ?_,
    parts_ofContent bytes⟩
  · exact ((locate?_eq_some_iff bytes s e).mp found).1.bounds
  · unfold Artifact.ofContent
    cases locate? bytes <;> rfl
  · unfold Artifact.ofContent
    cases locate? bytes <;> rfl

end PageTemplates.Model
