import PageTemplates.Proofs.Disk.Frame

/-!
# Names and resolved paths

Names that a path can end with are given back when the path is written and read
again, and a path without `..` stands for itself. The main facts:

* `ofText_text`: a path of plain names is read as it was written;
* `IsResolved`, `resolve_isResolved`: resolving a path leaves no `..`;
* `Disk.spot_of_resolved`: the spot of a resolved path is its own names.
-/

namespace PageTemplates.DiskPath

/-! ## Paths as text -/

theorem pieces_append_slash {cs : List Char} (noSlash : '/' ∉ cs) (ds : List Char) :
    pieces (cs ++ '/' :: ds) = cs :: pieces ds := by
  unfold pieces
  induction cs with
  | nil => rfl
  | cons c cs ih =>
      rw [List.mem_cons, not_or] at noSlash
      have other : (c == '/') = false := beq_eq_false_iff_ne.mpr (Ne.symm noSlash.1)
      rw [List.cons_append, Text.splitAtEach, if_neg (by simp [other]), ih noSlash.2]

theorem pieces_intercalate {n : String} {ns : List String}
    (noSlash : ∀ m ∈ n :: ns, '/' ∉ m.toList) :
    pieces ("/".intercalate (n :: ns)).toList = (n :: ns).map String.toList := by
  induction ns generalizing n with
  | nil =>
      rw [String.intercalate_singleton]
      exact pieces_of_noSlash (noSlash n List.mem_cons_self)
  | cons m ns ih =>
      have front := noSlash n List.mem_cons_self
      rw [String.intercalate_cons_cons, String.toList_append, String.toList_append,
        List.append_assoc, List.map_cons, ← ih fun k hk => noSlash k (List.mem_cons_of_mem _ hk)]
      exact pieces_append_slash front _

/-- A path of plain names is read as it was written. -/
theorem ofText_text {ns : List String} (filled : ns ≠ []) (plain : ∀ n ∈ ns, IsPlainName n) :
    ofText (text { names := ns }) = { names := ns } := by
  obtain ⟨n, ms, rfl⟩ := List.exists_cons_of_ne_nil filled
  have written : text { names := n :: ms } = "/".intercalate (n :: ms) := by
    simp [text]
  -- the first name is not empty, so no slash stands in front
  have starts : ∀ cs, ("/".intercalate (n :: ms)).toList ≠ '/' :: cs := by
    intro cs same
    have first := plain n List.mem_cons_self
    have filled : n.toList ≠ [] := by simpa using first.notEmpty
    obtain ⟨c, ds, shape⟩ := List.exists_cons_of_ne_nil filled
    have read : pieces ("/".intercalate (n :: ms)).toList = (n :: ms).map String.toList :=
      pieces_intercalate fun m hm => (plain m hm).noSlash
    rw [same, List.map_cons, shape] at read
    cases read
  have kept : (n :: ms).filter (fun m => m != "" && m != ".") = n :: ms :=
    List.filter_eq_self.mpr fun m hm => by simp [(plain m hm).notEmpty, (plain m hm).notDot]
  unfold ofText
  rw [written, pieces_intercalate fun m hm => (plain m hm).noSlash]
  split
  · rename_i slashes
    exact absurd slashes (starts _)
  · rename_i slashes
    exact absurd slashes (starts _)
  · rename_i slash
    exact absurd slash (starts _)
  · simp only [List.map_map, Function.comp_def, String.ofList_toList, List.map_id', kept]

theorem joinText_text (p : DiskPath) {ns : List String} (filled : ns ≠ [])
    (plain : ∀ n ∈ ns, IsPlainName n) :
    p.joinText (text { names := ns }) = { p with names := p.names ++ ns } := by
  rw [joinText, ofText_text filled plain]
  rfl

theorem text_injective {ns ms : List String} (filled : ns ≠ []) (filled' : ms ≠ [])
    (plain : ∀ n ∈ ns, IsPlainName n) (plain' : ∀ n ∈ ms, IsPlainName n)
    (same : text { names := ns } = text { names := ms }) : ns = ms := by
  have read := congrArg ofText same
  rw [ofText_text filled plain, ofText_text filled' plain'] at read
  exact congrArg names read

/-! ## Endings -/

theorem pieces_append_ending (cs : List Char) {ending : List Char} (noSlash : '/' ∉ ending) :
    ∃ front last, pieces (cs ++ ending) = front ++ [last ++ ending] := by
  unfold pieces
  induction cs with
  | nil => exact ⟨[], [], pieces_of_noSlash noSlash⟩
  | cons c cs ih =>
      obtain ⟨front, last, read⟩ := ih
      rw [List.cons_append, Text.splitAtEach]
      split
      · exact ⟨[] :: front, last, by rw [read]; rfl⟩
      · rw [read]
        cases front with
        | nil => exact ⟨[], c :: last, rfl⟩
        | cons p ps => exact ⟨(c :: p) :: ps, last, rfl⟩

theorem append_ne_of_length (front : String) {ending short : String}
    (long : short.length < ending.length) : front ++ ending ≠ short := by
  intro same
  have length := congrArg String.length same
  rw [String.length_append] at length
  omega

/-- A text with an ending leads to a name with this ending. -/
theorem ofText_append (s : String) {ending : String} (noSlash : '/' ∉ ending.toList)
    (long : 2 < ending.length) :
    ∃ front last, (ofText (s ++ ending)).names = front ++ [last ++ ending] := by
  obtain ⟨front, last, read⟩ := pieces_append_ending s.toList noSlash
  have named : String.ofList (last ++ ending.toList) = String.ofList last ++ ending := by
    rw [String.ofList_append, String.ofList_toList]
  have notEmpty : String.ofList last ++ ending ≠ "" :=
    append_ne_of_length _ (by rw [show "".length = 0 from rfl]; omega)
  have notDot : String.ofList last ++ ending ≠ "." :=
    append_ne_of_length _ (by rw [show ".".length = 1 from rfl]; omega)
  refine ⟨(front.map String.ofList).filter fun n => n != "" && n != ".", String.ofList last, ?_⟩
  unfold ofText
  dsimp only
  rw [String.toList_append, read, List.map_append, List.filter_append, List.map_singleton, named]
  congr 1
  exact List.filter_eq_self.mpr (by simp [notEmpty, notDot])

/-! ## Resolved paths -/

/-- A path from the root without `..`. -/
structure IsResolved (p : DiskPath) : Prop where
  root : p.root = "/"
  noUp : ".." ∉ p.names

theorem climb_noUp {done : List String} (h : ".." ∉ done) (ns : List String) :
    ".." ∉ climb done ns := by
  induction ns generalizing done with
  | nil => exact h
  | cons n ns ih =>
      rw [climb]
      split
      · exact ih fun up => h (List.dropLast_subset _ up)
      · rename_i other
        refine ih ?_
        rw [List.mem_append, List.mem_singleton]
        rintro (up | rfl)
        · exact h up
        · exact other (by simp)

theorem climb_of_noUp {ns : List String} (h : ".." ∉ ns) (done : List String) :
    climb done ns = done ++ ns := by
  induction ns generalizing done with
  | nil => exact (List.append_nil _).symm
  | cons n ns ih =>
      rw [List.mem_cons, not_or] at h
      have other : (n == "..") = false := beq_eq_false_iff_ne.mpr (Ne.symm h.1)
      rw [climb, if_neg (by simp [other]), ih h.2, List.append_assoc]
      rfl

/-- Resolving a path leaves no `..`. -/
theorem resolve_isResolved (here p : DiskPath) : (resolve here p).IsResolved :=
  ⟨rfl, climb_noUp List.not_mem_nil _⟩

/-- Where a path from the root leads to does not depend on the folder it is seen from. -/
theorem resolve_of_isAbsolute {p : DiskPath} (h : p.isAbsolute = true) (here : DiskPath) :
    resolve here p = resolve {} p := by
  unfold resolve join
  rw [if_pos h, if_pos h]

theorem join_names (p q : DiskPath) : ∃ front, (p.join q).names = front ++ q.names := by
  unfold join
  split
  · exact ⟨[], rfl⟩
  · exact ⟨p.names, rfl⟩

/-- A text with an ending leads to a path with this ending. -/
theorem resolve_joinText_append (here p : DiskPath) (s : String) {ending : String}
    (noSlash : '/' ∉ ending.toList) (long : 2 < ending.length) :
    ∃ front last, (resolve here (p.joinText (s ++ ending))).names = front ++ [last ++ ending] := by
  obtain ⟨front, last, read⟩ := ofText_append s noSlash long
  obtain ⟨seen, joined⟩ := join_names p (ofText (s ++ ending))
  obtain ⟨seen', joined'⟩ := join_names here (p.joinText (s ++ ending))
  have notUp : (last ++ ending == "..") = false :=
    beq_eq_false_iff_ne.mpr (append_ne_of_length _ long)
  refine ⟨climb [] (seen' ++ (seen ++ front)), last, ?_⟩
  unfold resolve
  dsimp only
  rw [joined', joinText, joined, read, ← List.append_assoc, ← List.append_assoc, climb_append,
    climb, notUp, if_neg Bool.false_ne_true, climb, List.append_assoc]

namespace IsResolved

variable {p q : DiskPath}

theorem isAbsolute (h : p.IsResolved) : p.isAbsolute = true := by
  rw [DiskPath.isAbsolute, h.root]
  rfl

theorem ext (h : p.IsResolved) (h' : q.IsResolved) (same : p.names = q.names) : p = q := by
  cases p
  cases q
  cases h.root
  cases h'.root
  cases same
  rfl

/-- Names without `..` lead on from a resolved path. -/
theorem append (h : p.IsResolved) {ns : List String} (noUp : ".." ∉ ns) :
    IsResolved { p with names := p.names ++ ns } :=
  ⟨h.root, by simpa using ⟨h.noUp, noUp⟩⟩

/-- Of two resolved paths one lies below the other if its names go on. -/
theorem isBelow_iff (h : p.IsResolved) (h' : q.IsResolved) :
    p.isBelow q ↔ q.names <+: p.names ∧ p.names ≠ q.names := by
  simp only [isBelow, h.root, h'.root, BEq.rfl, Bool.true_and, Bool.and_eq_true,
    List.isPrefixOf_iff_prefix, decide_eq_true_eq]
  refine and_congr_right fun front => ⟨fun longer same => ?_, fun other => ?_⟩
  · rw [same] at longer
    exact Nat.lt_irrefl _ longer
  · exact Nat.lt_of_le_of_ne front.length_le fun same => other (front.eq_of_length same).symm

end IsResolved

end PageTemplates.DiskPath

namespace PageTemplates.Disk

theorem resolve_eq_ok {d : Disk} {p q : DiskPath} (h : d.resolve p = .ok q) :
    q = d.here.resolve p := by
  unfold resolve at h
  split at h
  · cases h
  · cases h
    rfl

/-- The spot of a resolved path is its own names. -/
theorem spot_of_resolved (d : Disk) {p : DiskPath} (h : p.IsResolved) : d.spot p = p.names := by
  rw [spot, DiskPath.resolve, DiskPath.join, if_pos h.isAbsolute]
  exact DiskPath.climb_of_noUp h.noUp []

end PageTemplates.Disk
