import Mathlib.Data.List.TakeWhile
import PageTemplates.Proofs.Charset.Utf8
import PageTemplates.Proofs.Disk.Tree
import PageTemplates.Proofs.Serve.Inside

/-!
# Addresses of body scripts

A browser asks for the path of an address: it leaves out what is behind a question mark or
a number sign, and takes percent-escapes for the bytes they stand for. The main facts:

* `askedPath`, `askedPath_of_plain`: an address without these characters is asked for as it
  is;
* `sendBody_of_file`: a script that stands in the snapshot folder is sent.
-/

namespace PageTemplates.Serve

/-! ## Asking for an address -/

/-- Bytes with those that percent-escapes stand for in place of the escapes. -/
def unescaped : Bytes → Bytes
  | b :: x :: y :: bs =>
      let digits := [x, y].map fun d => Char.ofNat d.toNat
      if b == 0x25 && digits.all Text.isHexDigit then
        UInt8.ofNat (Text.digitsValue 16 digits) :: unescaped bs
      else b :: unescaped (x :: y :: bs)
  | bs => bs

/-- The path that a browser asks for at an address. -/
def askedPath (url : String) : String :=
  let path := url.toList.takeWhile fun c => c != '?' && c != '#'
  String.ofList (Utf8.decode (unescaped (Utf8.encode path)))

theorem unescaped_of_noPercent (bs : Bytes) (h : 0x25 ∉ bs) : unescaped bs = bs := by
  induction bs using unescaped.induct with
  | case1 b x y bs _ escape =>
      rw [Bool.and_eq_true, beq_iff_eq] at escape
      exact absurd (escape.1 ▸ List.mem_cons_self) h
  | case2 b x y bs digits other ih =>
      rw [unescaped, if_neg other, ih fun later => h (List.mem_cons_of_mem b later)]
  | case3 bs short =>
      unfold unescaped
      split
      · exact absurd rfl (short _ _ _ _)
      · rfl

/-- Only a percent sign is written with its byte. -/
theorem percent_notMem_encodeChar {c : Char} (h : c ≠ '%') : 0x25 ∉ String.utf8EncodeChar c := by
  have other : c.val.toNat ≠ 0x25 := fun same =>
    h (by rw [← Char.ofNat_toNat c, Char.toNat, same])
  have byte {n : Nat} (small : n < 256) (notPercent : n ≠ 0x25) : (0x25 : UInt8) ≠ UInt8.ofNat n := by
    intro same
    have value := congrArg UInt8.toNat same
    rw [UInt8.toNat_ofNat', Nat.mod_eq_of_lt small] at value
    exact notPercent value.symm
  unfold String.utf8EncodeChar
  generalize c.val.toNat = v at other
  dsimp only
  split
  · exact mt List.mem_singleton.mp (byte (by omega) other)
  · split
    · simp only [List.mem_cons, List.not_mem_nil, or_false, not_or]
      exact ⟨byte (by omega) (by omega), byte (by omega) (by omega)⟩
    · split <;> simp only [List.mem_cons, List.not_mem_nil, or_false, not_or]
      · exact ⟨byte (by omega) (by omega), byte (by omega) (by omega), byte (by omega) (by omega)⟩
      · exact ⟨byte (by omega) (by omega), byte (by omega) (by omega), byte (by omega) (by omega),
          byte (by omega) (by omega)⟩

/-- An address without reserved characters is asked for as it is. -/
theorem askedPath_of_plain {url : String}
    (plain : ∀ c ∈ url.toList, c ≠ '?' ∧ c ≠ '#' ∧ c ≠ '%') : askedPath url = url := by
  have whole : (url.toList.takeWhile fun c => c != '?' && c != '#') = url.toList :=
    List.takeWhile_eq_self_iff.mpr fun c hc => by simp [plain c hc]
  have noPercent : (0x25 : UInt8) ∉ Utf8.encode url.toList := by
    rw [Utf8.encode, List.mem_flatMap]
    rintro ⟨c, hc, percent⟩
    exact percent_notMem_encodeChar (plain c hc).2.2 percent
  rw [askedPath, whole, unescaped_of_noPercent _ noPercent, Utf8.decode_encode,
    String.ofList_toList]

/-! ## Sending a body script -/

namespace Server

open Cache (bodyName)
open DiskPath

variable {s : Server} {base : String}

theorem bodyName_of_js (base : String) : base ++ ".js" ++ ".tmp" = bodyName base := by
  rw [bodyName, String.append_assoc]
  rfl

/-- Where the body script of an entry would be: in the snapshot folder itself. -/
theorem bodyPath_eq (plain : IsPlainName (bodyName base)) :
    s.bodyPath (base ++ ".js") = { s.bodies with names := s.bodies.names ++ [bodyName base] } := by
  have resolved : s.bodies.IsResolved := resolve_isResolved _ _
  have below : (s.bodies.joinText (bodyName base)).IsResolved := by
    rw [joinText_of_plain _ plain]
    refine resolved.append ?_
    rw [List.mem_singleton]
    exact plain.notUp.symm
  rw [bodyPath, bodyName_of_js, ← joinText_of_plain _ plain]
  exact (resolve_isResolved _ _).ext below (s.context.disk.spot_of_resolved below)

/-- It is where the entry writes its script. -/
theorem bodyPath_eq_resolve (plain : IsPlainName (bodyName base)) :
    s.bodyPath (base ++ ".js") =
      s.context.disk.here.resolve (s.context.config.snapshotFolder.joinText (bodyName base)) := by
  rw [bodyPath_eq plain]
  exact (bodyPath_eq plain ▸ resolve_isResolved _ _ : IsResolved _).ext (resolve_isResolved _ _)
    (s.context.disk.spot_joinText s.context.config.snapshotFolder plain).symm

theorem hasNul_of_place {d : Disk} {p : DiskPath} {names : List String}
    (h : d.place p = .ok names) : p.hasNul = false := by
  unfold Disk.place at h
  split at h
  · cases h
  · rename_i possible
    exact Bool.eq_false_iff.mpr possible

/-- A path with one more name is not much longer. -/
theorem text_concat_le {p : DiskPath} (root : p.root = "/") (n : String) :
    (text { p with names := p.names ++ [n] }).utf8ByteSize
      ≤ p.text.utf8ByteSize + n.utf8ByteSize + 1 := by
  have rooted {ns : List String} : text { p with names := ns } = "/" ++ "/".intercalate ns := by
    simp [text, root]
  have own : p.text = "/" ++ "/".intercalate p.names := rooted
  rw [rooted, own]
  simp only [String.utf8ByteSize_append]
  induction p.names with
  | nil =>
      rw [List.nil_append, String.intercalate_singleton]
      omega
  | cons m ms ih =>
      cases ms with
      | nil =>
          simp only [List.cons_append, List.nil_append, String.intercalate_cons_cons,
            String.intercalate_singleton, String.utf8ByteSize_append]
          have slash : "/".utf8ByteSize = 1 := rfl
          omega
      | cons k ks =>
          simp only [List.cons_append, String.intercalate_cons_cons,
            String.utf8ByteSize_append] at ih ⊢
          omega

/-- The way to a body script is one that can be asked for if that to its folder is, with
some room for the name. -/
theorem bodyPath_possible (plain : IsPlainName (bodyName base)) {names : List String}
    (led : s.context.disk.place (s.context.config.snapshotFolder.joinText (bodyName base))
      = .ok names)
    (noNul : s.bodies.hasNul = false) (short : s.bodies.text.utf8ByteSize + 256 ≤ Disk.maxPath) :
    (s.bodyPath (base ++ ".js")).hasNul = false ∧
      (s.bodyPath (base ++ ".js")).text.utf8ByteSize ≤ Disk.maxPath := by
  have own : bodyName base ∈ names := by
    rw [Disk.place_eq_spot led, s.context.disk.spot_joinText _ plain]
    exact List.mem_append_right _ (List.mem_singleton_self _)
  have room := Disk.short_of_place led _ own
  have none := hasNul_of_place led
  rw [joinText_of_plain _ plain, DiskPath.hasNul, List.any_append, Bool.or_eq_false_iff] at none
  rw [bodyPath_eq plain]
  constructor
  · rw [DiskPath.hasNul, List.any_append, Bool.or_eq_false_iff]
    exact ⟨noNul, none.2⟩
  · have length := text_concat_le (p := s.bodies) rfl (bodyName base)
    have most : Disk.maxName = 255 := rfl
    exact Nat.le_trans length (by omega)

/-- A body script that stands in the snapshot folder is sent, unless the way to it is too
long. -/
theorem sendBody_of_file (plain : IsPlainName (bodyName base)) {names : List String}
    {script : Bytes} {time : Nat}
    (file : s.context.disk.file (s.context.config.snapshotFolder.joinText (bodyName base))
      = .ok (names, script, time))
    (noNul : s.bodies.hasNul = false) (short : s.bodies.text.utf8ByteSize + 256 ≤ Disk.maxPath)
    {r : Except Failure Response} {s' : Server}
    (h : outcome (sendBody "GET" (base ++ ".js")) s = (r, s')) :
    r = .ok { contentType := some "application/x-javascript", body := script, dated := true } := by
  obtain ⟨noNul, short⟩ :=
    bodyPath_possible plain (Disk.standing_of_file file).1 noNul short
  have path := bodyPath_eq_resolve (s := s) plain
  have led : s.context.disk.place (s.bodyPath (base ++ ".js")) = .ok names := by
    rw [path] at noNul short ⊢
    exact Disk.place_resolve (Disk.standing_of_file file).1 noNul short
  have named : names = (s.bodyPath (base ++ ".js")).names := by
    rw [path]
    exact (Disk.standing_of_file file).2.1
  have stands : s.context.disk.item? names = some (.file script time) := by
    have standing := (Disk.standing_of_file file).2.2
    rwa [Disk.standing, ← (Disk.standing_of_file file).2.1] at standing
  have asked : s.context.disk.isFile (s.bodyPath (base ++ ".js")) = .ok true := by
    rw [isFile_eq, Disk.find, led]
    dsimp only
    rw [stands]
    rfl
  have inside : s.IsBodyPath (s.bodyPath (base ++ ".js")) :=
    ⟨bodyName base, bodyPath_eq plain, by
      rw [bodyName, String.toList_append]
      exact List.suffix_append _ _⟩
  -- the path is that of a body script that stands, so every other answer is ruled out
  obtain ⟨answer, -, -⟩ := sendBody_answer h
  cases answer with
  | sent inside stands' =>
      rw [← named, stands] at stands'
      cases stands'
      rfl
  | notFound possible other =>
      rcases other with outside | absent
      · exact absurd inside outside
      · cases asked.symm.trans absent
  | nul hasNul =>
      rcases hasNul with nul | nul
      · -- a NUL in the folder would be one in the path that was followed
        have none := hasNul_of_place (Disk.standing_of_file file).1
        rw [joinText_of_plain _ plain, DiskPath.hasNul, List.any_append, Bool.or_eq_false_iff] at none
        exact absurd nul (Bool.eq_false_iff.mp none.1)
      · rw [bodyName_of_js, joinText_of_plain _ plain, ← bodyPath_eq plain, noNul] at nul
        cases nul
  | refused _ refused => cases asked.symm.trans refused

end Server

end PageTemplates.Serve
