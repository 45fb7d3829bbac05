import PageTemplates.Charset.Declared
import PageTemplates.Proofs.Text.Trim

/-!
# Charsets that can be used

A charset that is found by name has a name of its own that is found too. Whether
content can be read with it is a matter of its kind:

* `Codec.isText`: text can be written with the charset;
* `Codec.reads`: content can be read with it;
* `exists_named_name`: the own name of a charset leads to a charset;
* `decode_of_reads`, `decode_of_not_reads`, `encode_of_isText`: reading and writing
  fail for no other reason;
* `guess_cases`: the charset of a template is one that its declaration leads to,
  or the fallback, and only a name with a NUL leads to neither.
-/

namespace PageTemplates

namespace Codec

/-- Whether a charset is one of texts. -/
def isText : Codec → Bool
  | transform _ | unusable _ => false
  | _ => true

/-- Whether content can be read with a charset. -/
def reads (c : Codec) (bs : Bytes) : Bool :=
  c.isText && (c != punycode || (Punycode.stray? bs).isNone)

/-! ## Names -/

theorem named_eq_ok {name : String} {c : Codec} (h : named name = .ok c) :
    name.toList.contains '\x00' = false ∧ ofName? name = some c := by
  unfold named at h
  split at h
  · cases h
  · rename_i noNul
    split at h
    · rename_i found
      cases h
      exact ⟨Bool.eq_false_iff.mpr noNul, found⟩
    · cases h

theorem isRegistered_of_ofName? {name : String} {c : Codec} (h : ofName? name = some c) :
    ∃ r ∈ registry, r.codec = c := by
  have found {isMeant : Registered → Bool}
      (h : (registry.find? isMeant).map (·.codec) = some c) : ∃ r ∈ registry, r.codec = c := by
    obtain ⟨r, hr, rfl⟩ := Option.map_eq_some_iff.mp h
    exact ⟨r, List.mem_of_find?_eq_some hr, rfl⟩
  unfold ofName? at h
  simp only [Option.or_eq_some_iff] at h
  rcases h with h | ⟨-, h | ⟨-, h⟩⟩
  · exact found h
  · exact found h
  · exact found h

/-- What a charset is called by others is the plain form of its name, which has no null
character. -/
theorem plainName_registered : ∀ r ∈ registry,
    (plainName r.name = r.root ∨ plainName r.name ∈ r.aliases) ∧
      r.name.toList.contains '\x00' = false := by decide +kernel

theorem exists_registered_name {c : Codec} (h : ∃ r ∈ registry, r.codec = c) :
    ∃ r ∈ registry, c.name = r.name := by
  unfold name
  split
  · rename_i r found
    exact ⟨r, List.mem_of_find?_eq_some found, rfl⟩
  · rename_i none
    obtain ⟨r, mem, rfl⟩ := h
    exact absurd (beq_self_eq_true r.codec) (List.find?_eq_none.mp none r mem)

/-- The own name of a charset leads to a charset. -/
theorem exists_named_name {name : String} {c : Codec} (h : named name = .ok c) :
    ∃ c', named c.name = .ok c' := by
  obtain ⟨r, mem, eq⟩ := exists_registered_name (isRegistered_of_ofName? (named_eq_ok h).2)
  have meant : ∃ c', ofName? r.name = some c' := by
    have finds {isMeant : Registered → Bool} (h : isMeant r) :
        ((registry.find? isMeant).map (·.codec)).isSome := by
      rw [Option.isSome_map, List.find?_isSome]
      exact ⟨r, mem, h⟩
    refine Option.isSome_iff_exists.mp ?_
    unfold ofName?
    simp only [Option.isSome_or, Bool.or_eq_true]
    rcases (plainName_registered r mem).1 with root | other
    · exact .inr (.inr (finds (beq_iff_eq.mpr root.symm)))
    · exact .inl (finds (List.contains_iff_mem.mpr other))
  obtain ⟨c', found⟩ := meant
  refine ⟨c', ?_⟩
  rw [eq, named, (plainName_registered r mem).2, if_neg Bool.false_ne_true, found]

theorem ne_empty_of_named {name : String} {c : Codec} (h : named name = .ok c) :
    name.isEmpty = false := by
  refine Bool.eq_false_iff.mpr fun empty => ?_
  rw [String.isEmpty_iff] at empty
  subst empty
  have nowhere : ofName? "" = none := by decide +kernel
  rw [(named_eq_ok h).2] at nowhere
  cases nowhere

end Codec

namespace Charset

/-! ## Reading and writing -/

section

variable {name : String} {c : Codec}

/-- Text that is read with a charset, in any way. -/
theorem decode_of_reads (reader : Reader) (known : Codec.named name = .ok c) {bs : Bytes}
    (h : c.reads bs) : ∃ text, decodeWith reader name bs = .ok text := by
  unfold decodeWith
  rw [known]
  dsimp only
  split
  · exact ⟨_, rfl⟩
  · unfold Codec.reads at h
    cases c with
    | punycode =>
        simp only [bne_self_eq_false, Bool.false_or, Bool.and_eq_true, Option.isNone_iff_eq_none]
          at h
        rw [h.2]
        exact ⟨_, rfl⟩
    | transform | unusable => cases h
    | _ => exact ⟨_, rfl⟩

/-- Content that is there and cannot be read, in no way. -/
theorem decode_of_not_reads (reader : Reader) (known : Codec.named name = .ok c) {bs : Bytes}
    (filled : bs ≠ []) (h : c.reads bs = false) : ∃ e, decodeWith reader name bs = .error e := by
  unfold decodeWith
  rw [known]
  dsimp only
  rw [if_neg (by simpa using filled)]
  unfold Codec.reads at h
  cases c with
  | punycode =>
      cases stray : Punycode.stray? bs with
      | none =>
          rw [stray] at h
          cases h
      | some r => exact ⟨_, rfl⟩
  | transform | unusable => exact ⟨_, rfl⟩
  | _ => cases h

/-- Text that is written with a charset. -/
theorem encode_of_isText (known : Codec.named name = .ok c) (h : c.isText) (s : String) :
    encode name s = .ok (c.write s.toList) := by
  unfold encode
  rw [known]
  cases c with
  | transform | unusable => cases h
  | _ => rfl

end

/-! ## The charset of a template -/

/-- The charset that is guessed, and why none may be. -/
inductive Guessed (content : Bytes) (default? : Option String) : Except CharsetError String → Prop
  | declared {name : String} {c : Codec} : declared? content = some name →
      Codec.named (Text.strip name) = .ok c → Guessed content default? (.ok c.name)
  | fallback : Guessed content default? (.ok (fallback default?))
  | unnamed {name : String} : declared? content = some name → '\x00' ∈ name.toList →
      Guessed content default? (.error .nulInName)

theorem guess_cases (content : Bytes) (default? : Option String) :
    Guessed content default? (guess content default?).value := by
  unfold guess resolve
  split
  · exact .fallback
  · rename_i name declared
    split
    · exact .fallback
    · split
      · rename_i c known
        exact .declared declared known
      · exact .fallback
      · rename_i e other refused
        unfold Codec.named at refused
        split at refused
        · rename_i nul
          cases refused
          refine .unnamed declared ?_
          rw [List.contains_iff_mem, Text.toList_strip] at nul
          exact (Text.mem_trim_iff (by decide)).mp nul
        · split at refused
          · cases refused
          · cases refused
            exact absurd rfl (other _)

/-- A name with a NUL is not looked up. -/
theorem guess_of_nul {content : Bytes} {name : String} (declared : declared? content = some name)
    (nul : '\x00' ∈ name.toList) (default? : Option String) :
    (guess content default?).value = .error .nulInName := by
  have filled : Text.allBlank name = false :=
    List.all_eq_false.mpr ⟨_, nul, by decide⟩
  have kept : (Text.strip name).toList.contains '\x00' := by
    rw [List.contains_iff_mem, Text.toList_strip]
    exact (Text.mem_trim_iff (by decide)).mpr nul
  have refused : Codec.named (Text.strip name) = .error .nulInName := if_pos kept
  unfold guess resolve
  rw [declared]
  dsimp only
  rw [filled, if_neg Bool.false_ne_true, refused]
  rfl

end Charset

end PageTemplates
