import PageTemplates.Build.File
import PageTemplates.Proofs.Build.Compiling
import PageTemplates.Proofs.Compile.Compiled
import PageTemplates.Proofs.Compile.Loading
import PageTemplates.Proofs.Disk.Written
import PageTemplates.Proofs.Serve.Fetched

/-!
# Pages and their body scripts

A template is compiled into a page and a script for its body, and the page loads the
script by an address that a browser takes from the folder of the page. The main facts:

* `referred?`, `referred?_of_plain`: where an address leads from a page;
* `compileFile_outcome`: what compiling a file comes to;
* `compileFile_links`: the two files and the address of a compiled template. They are in one
  folder unless the name is cut in a folder, and the address leads to the script unless the
  name has folders.
-/

namespace PageTemplates.Build

open Compile DiskPath Serve

/-! ## References -/

/-- Whether an address names a scheme. -/
def hasScheme (cs : List Char) : Bool :=
  let front := cs.takeWhile fun c => c.isAlphanum || "+-.".toList.contains c
  front.head?.any Char.isAlpha && cs[front.length]? == some ':'

/-- What a browser reads of an address: nothing up to a space counts at its ends, tabs and
line ends nowhere, and a backslash is a slash. -/
def referenceText (url : String) : List Char :=
  let inner := ((url.toList.dropWhile (· ≤ ' ')).reverse.dropWhile (· ≤ ' ')).reverse
  (inner.filter fun c => !(['\t', '\n', '\r'].contains c)).map fun c =>
    if c == '\\' then '/' else c

/-- The file that an address leads to from a page, if it leads to a file of the same disk. -/
def referred? (page : DiskPath) (url : String) : Option DiskPath :=
  let cs := referenceText url
  if hasScheme cs || "//".toList.isPrefixOf cs then none
  else
    let path := askedPath (String.ofList cs)
    some (if path == "" then page else page.parent.joinText path)

/-- Whether a character stands for itself in an address that is relative. -/
def isReferenceChar (c : Char) : Bool :=
  Server.isAddressChar c && !([':', '\\', '\t', '\r'].contains c)

/-- Whether a name is an address that is relative. -/
def isReference (name : String) : Bool :=
  name.toList.all isReferenceChar && name.toList.head?.all (' ' < ·)

section

variable {cs : List Char}

theorem hasScheme_of_noColon (h : ':' ∉ cs) : hasScheme cs = false := by
  have colon (k : Nat) : cs[k]? ≠ some ':' := fun here => h (List.mem_of_getElem? here)
  simp [hasScheme, colon]

theorem dropWhile_edge {cs : List Char} (h : cs.head?.all (' ' < ·)) :
    cs.dropWhile (· ≤ ' ') = cs := by
  cases cs with
  | nil => rfl
  | cons c cs =>
      refine List.dropWhile_cons_of_neg ?_
      simpa using h

theorem isReferenceChar_iff {c : Char} : isReferenceChar c ↔
    Server.isAddressChar c ∧ c ≠ ':' ∧ c ≠ '\\' ∧ c ≠ '\t' ∧ c ≠ '\r' := by
  simp [isReferenceChar]

theorem referenceText_of_plain {url : String} (plain : ∀ c ∈ url.toList, isReferenceChar c)
    (front : url.toList.head?.all (' ' < ·)) (last : url.toList.reverse.head?.all (' ' < ·)) :
    referenceText url = url.toList := by
  have each (c : Char) (hc : c ∈ url.toList) : c ≠ '\n' ∧ c ≠ '\\' ∧ c ≠ '\t' ∧ c ≠ '\r' := by
    obtain ⟨own, -, rest⟩ := isReferenceChar_iff.mp (plain c hc)
    exact ⟨(Server.isAddressChar_iff.mp own).2.1, rest⟩
  rw [referenceText, dropWhile_edge front, dropWhile_edge last, List.reverse_reverse,
    List.filter_eq_self.mpr fun c hc => by simp [each c hc]]
  refine (List.map_congr_left fun c hc => ?_).trans (List.map_id _)
  rw [if_neg (by simp [each c hc])]
  rfl

/-- What begins with a slash is read as a path from the root. -/
theorem ofText_slash {s : String} {cs : List Char} (h : s.toList = '/' :: cs) :
    (ofText s).root ≠ "" := by
  unfold ofText
  dsimp only
  rw [h]
  split
  · decide
  · decide
  · decide
  · rename_i other
    exact absurd rfl (other cs)

/-- A plain address leads to the file of that name from the folder of the page. -/
theorem referred?_of_plain {page : DiskPath} {url : String}
    (plain : ∀ c ∈ url.toList, isReferenceChar c) (front : url.toList.head?.all (' ' < ·))
    (last : url.toList.reverse.head?.all (' ' < ·)) (filled : url ≠ "")
    (relative : (ofText url).root = "") :
    referred? page url = some (page.parent.joinText url) := by
  have text := referenceText_of_plain plain front last
  have scheme : hasScheme url.toList = false := hasScheme_of_noColon fun colon =>
    (isReferenceChar_iff.mp (plain _ colon)).2.1 rfl
  have slashes : "//".toList.isPrefixOf url.toList = false := by
    rw [Bool.eq_false_iff, ne_eq, List.isPrefixOf_iff_prefix]
    rintro ⟨cs, begins⟩
    exact ofText_slash begins.symm relative
  have asked : askedPath url = url := askedPath_of_plain fun c hc =>
    (Server.isAddressChar_iff.mp (isReferenceChar_iff.mp (plain c hc)).1).1
  unfold referred?
  dsimp only
  rw [text, scheme, slashes, String.ofList_toList, asked, if_neg (by decide),
    if_neg (by simpa using filled)]

end

/-! ## Compiling a file -/

/-- The name of the page of a template: the name that is asked for, or one made from that of
the template. -/
def resultName (file : String) (dest? : Option String) : String :=
  (dest?.filter (!·.isEmpty)).getD (Names.output file)

/-- How a template is compiled whose body is split off. -/
def linkedSettings (hide : Bool) (result : String) : Settings :=
  { mode := .cacheSplit, hide, bodyUrl := Names.body result }

/-- The page and the body script of a template, each in its file. -/
structure Stored (p : Compilation) (c : CompiledFile) (body : DiskPath) (d : Disk) : Prop where
  named : c.body = some body
  page : d.read c.output = .ok p.artifact.content
  script : ∃ script, p.bodyScript.map (·.2) = some script ∧ d.read body = .ok script

/-- A page loads a script from an address that leads to a file. -/
def LoadsFrom (p : Compilation) (page target : DiskPath) : Prop :=
  ∃ text url, Charset.encode (Markup.outputCharset (some p.charset)) text = .ok p.artifact.content ∧
    Loads text url ∧ referred? page url = some target

section

variable {file : String} {folder : DiskPath} {dest? : Option String} {hide : Bool}
  {h h' : Host} {c : CompiledFile}

theorem returns_writeResult_bind {α : Type} {a : α} {p : DiskPath} {content : Bytes}
    {f : Unit → Act FileFailure α} :
    (writeResult p content >>= f).Returns h a h' ↔ ∃ disk, h.disk.write p content = .ok disk ∧
      (f ()).Returns (Host.tell { h with disk } .info ("Generated output " ++ p.text)) a h' := by
  unfold writeResult
  rw [bind_assoc, Act.returns_onDisk_bind]
  simp only [Act.returns_tell_bind]

/-- What compiling a file comes to when its body is split off. -/
theorem compileFile_outcome (r : (compileFile file folder dest? true hide).Returns h c h') :
    ∃ data p d₁ d₂, h.disk.read (folder.joinText file) = .ok data ∧
      (compile (linkedSettings hide (resultName file dest?)) none data).value = .ok p ∧
      h.disk.makeFolder (folder.joinText (resultName file dest?)).parent = .ok d₁ ∧
      d₁.write (folder.joinText (resultName file dest?)) p.artifact.content = .ok d₂ ∧
      d₂.write (folder.joinText (Names.body (resultName file dest?)))
        ((p.bodyScript.map (·.2)).getD []) = .ok h'.disk ∧
      c = { source := folder.joinText file, output := folder.joinText (resultName file dest?)
            body := some (folder.joinText (Names.body (resultName file dest?)))
            charset := p.charset } := by
  unfold compileFile at r
  dsimp only at r
  rw [Act.returns_tell_bind, Act.read, Act.returns_ask_bind] at r
  obtain ⟨data, read, r⟩ := r
  rw [Act.returns_logged_bind, if_pos rfl] at r
  rw [Host.disk_tell] at read
  split at r
  · cases r
  · rename_i p compiled
    rw [Act.returns_onDisk_bind, Host.disk_tellAll, Host.disk_tell] at r
    obtain ⟨d₁, made, r⟩ := r
    obtain ⟨d₂, page, r⟩ := returns_writeResult_bind.mp r
    rw [if_pos rfl] at r
    dsimp only at r
    obtain ⟨d₃, script, r⟩ := returns_writeResult_bind.mp r
    obtain ⟨rfl, rfl⟩ := Act.returns_pure.mp r
    rw [Host.disk_tell] at script ⊢
    exact ⟨data, p, d₁, d₂, read, compiled, made, page, script, rfl⟩

/-! ## Where the files stand -/

/-- The names that the body script of a page is made from. -/
structure BodyOf (result : String) (dirs : List String) (n : String) (front : List String)
    (b : String) : Prop where
  text : Names.body result = text { names := front ++ [b] }
  plain : ∀ d ∈ front ++ [b], IsPlainName d
  other : front ++ [b] ≠ dirs ++ [n]
  together : front = dirs ↔ '.' ∈ n.toList ∨ ∀ d ∈ dirs, '.' ∉ d.toList

theorem exists_bodyOf {result : String} {dirs : List String} {n : String}
    (dest : result = text { names := dirs ++ [n] }) (plain : ∀ d ∈ dirs ++ [n], IsPlainName d) :
    ∃ front b, BodyOf result dirs n front b := by
  obtain ⟨front, m, back, cut⟩ := exists_isCut (show dirs ++ [n] ≠ [] by simp)
  refine ⟨front, Names.body m, by rw [dest, cut.body_text], ?_, ?_, ?_⟩
  · rw [cut.eq, List.forall_mem_append, List.forall_mem_cons] at plain
    rw [List.forall_mem_append, List.forall_mem_singleton]
    exact ⟨plain.1, Names.isPlainName_body plain.2.1⟩
  · rw [cut.eq, ne_eq, List.append_cancel_left_eq]
    exact fun same => Names.body_ne m (List.head_eq_of_cons_eq same)
  · rw [← cut.back_eq_nil_iff]
    constructor
    · rintro rfl
      have shape := cut.eq
      rw [List.append_cancel_left_eq] at shape
      exact (List.tail_eq_of_cons_eq shape).symm
    · rintro rfl
      exact (List.append_inj' cut.eq rfl).1.symm

/-- The page of a template without a name of its own is in the folder of the template unless
a folder is cut. -/
theorem parent_output_eq_iff {fs : List String} {m : String}
    (source : file = text { names := fs ++ [m] }) (plain : ∀ f ∈ fs ++ [m], IsPlainName f) :
    (folder.joinText (Names.output file)).parent = (folder.joinText file).parent ↔
      '.' ∈ m.toList ∨ ∀ f ∈ fs, '.' ∉ f.toList := by
  obtain ⟨front, k, back, cut⟩ := exists_isCut (show fs ++ [m] ≠ [] by simp)
  have plainOutput : ∀ d ∈ front ++ Names.output k :: back, IsPlainName d := by
    have each := plain
    rw [cut.eq, List.forall_mem_append, List.forall_mem_cons] at each
    rw [List.forall_mem_append, List.forall_mem_cons]
    exact ⟨each.1, Names.isPlainName_output each.2.1, each.2.2⟩
  rw [← cut.back_eq_nil_iff, source, cut.output_text, joinText_text _ (by simp) plainOutput,
    joinText_text _ (by simp) plain]
  simp only [parent, DiskPath.mk.injEq, true_and]
  have inner (x : String) : (folder.names ++ (front ++ x :: back)).dropLast
      = folder.names ++ (front ++ (x :: back).dropLast) := by
    rw [List.dropLast_append_of_ne_nil (by simp), List.dropLast_append_of_ne_nil (by simp)]
  rw [cut.eq, inner, inner, List.append_cancel_left_eq, List.append_cancel_left_eq]
  cases back with
  | nil => simp
  | cons b bs => simp [Names.output_ne k]

/-- A name that is an address is one for the body script. -/
theorem isReference_body {result : String} (h : isReference result) :
    (∀ c ∈ (Names.body result).toList, isReferenceChar c) ∧
      (Names.body result).toList.head?.all (' ' < ·) ∧
      (Names.body result).toList.reverse.head?.all (' ' < ·) := by
  rw [isReference, Bool.and_eq_true, List.all_eq_true] at h
  obtain ⟨stem, front, made⟩ := Names.body_eq result
  have chars : (Names.body result).toList = stem ++ "_b.js".toList := by
    rw [made, String.toList_append, String.toList_ofList]
  rw [chars]
  refine ⟨?_, ?_, by simp⟩
  · rw [List.forall_mem_append]
    exact ⟨fun c hc => h.1 c (front.subset hc), List.all_eq_true.mp (by decide)⟩
  · cases stem with
    | nil => decide
    | cons c cs =>
        obtain ⟨rest, shape⟩ := front
        have first := h.2
        rw [← shape] at first
        exact first

example : Names.output "a.b/p" = "a_t.b/p" ∧ Names.body "a_t.b/p" = "a_t_b.js" := by decide

/-- The address of a body script leads from the page to the folder of the page, as many
folders below the script as the name of the page has. -/
theorem BodyOf.referred {dirs front : List String} {n b : String}
    (script : BodyOf (resultName file dest?) dirs n front b)
    (address : isReference (resultName file dest?)) :
    referred? { folder with names := folder.names ++ (dirs ++ [n]) }
        (Names.body (resultName file dest?))
      = some { folder with names := folder.names ++ (dirs ++ (front ++ [b])) } := by
  obtain ⟨chars, first, last⟩ := isReference_body address
  have filled : Names.body (resultName file dest?) ≠ "" := by
    obtain ⟨stem, -, made⟩ := Names.body_eq (resultName file dest?)
    rw [made]
    exact append_ne_of_length _ (by decide)
  have read : ofText (Names.body (resultName file dest?)) = { names := front ++ [b] } := by
    rw [script.text, ofText_text (by simp) script.plain]
  rw [referred?_of_plain chars first last filled (by rw [read]), joinText, read]
  have inner : parent { folder with names := folder.names ++ (dirs ++ [n]) }
      = { folder with names := folder.names ++ dirs } := by
    simp [parent, ← List.append_assoc]
  rw [inner, ← List.append_assoc]
  rfl

/-- The page of a template loads its body script from an address that is named for it. -/
theorem loadsFrom_of_compile {result : String} {data : Bytes} {p : Compilation}
    {page target : DiskPath}
    (compiled : (compile (linkedSettings hide result) none data).value = .ok p)
    (address : isReference result)
    (leads : referred? page (Names.body result) = some target) : LoadsFrom p page target := by
  obtain ⟨charset, compiled⟩ := exists_charset compiled
  obtain ⟨family, text, -, written, loads⟩ := compileAs_loads rfl compiled
  have chars : ∀ c ∈ (Names.body result).toList, Server.isAddressChar c := fun c hc =>
    (isReferenceChar_iff.mp ((isReference_body address).1 c hc)).1
  refine ⟨text, _, written, loads (fun line => absurd (chars _ line) (by decide)) ?_, leads⟩
  exact List.all_eq_true.mpr fun c hc => (Server.isAddressChar_iff.mp (chars c hc)).2.2 family

/-- A template is compiled into a page and the script of its body. The two are in one folder
unless the name of the page is cut in that of a folder; without a name of its own, the page is in
the folder of the template unless a folder is cut there; and the page loads the script from an
address that leads to the script if, and only if, the name of the page has no folders. -/
theorem compileFile_links {dirs : List String} {n : String}
    (returned : (compileFile file folder dest? true hide).Returns h c h')
    (dest : resultName file dest? = text { names := dirs ++ [n] })
    (plain : ∀ d ∈ dirs ++ [n], IsPlainName d) :
    ∃ p body, Stored p c body h'.disk ∧
      (body.parent = c.output.parent ↔ '.' ∈ n.toList ∨ ∀ d ∈ dirs, '.' ∉ d.toList) ∧
      (∀ fs m, resultName file dest? = Names.output file → file = text { names := fs ++ [m] } →
        (∀ f ∈ fs ++ [m], IsPlainName f) →
          (c.output.parent = c.source.parent ↔ '.' ∈ m.toList ∨ ∀ f ∈ fs, '.' ∉ f.toList)) ∧
      (isReference (resultName file dest?) → ∃ target, LoadsFrom p c.output target ∧
        (h'.disk.spot target = h'.disk.spot body ↔ dirs = [])) := by
  obtain ⟨data, p, d₁, d₂, -, compiled, -, page, script, rfl⟩ := compileFile_outcome returned
  obtain ⟨front, b, named⟩ := exists_bodyOf dest plain
  have output : folder.joinText (resultName file dest?)
      = { folder with names := folder.names ++ (dirs ++ [n]) } := by
    rw [dest, joinText_text _ (by simp) plain]
  have body : folder.joinText (Names.body (resultName file dest?))
      = { folder with names := folder.names ++ (front ++ [b]) } := by
    rw [named.text, joinText_text _ (by simp) named.plain]
  rw [output] at page
  rw [body] at script
  have noUp : ".." ∉ dirs ++ [n] := noUp_of_plain plain
  have noUp' : ".." ∉ front ++ [b] := noUp_of_plain named.plain
  obtain ⟨_, bytes, split, -⟩ := compile_bodyScript rfl compiled
  -- both are written below the folder, where they stand for the names they are given
  refine ⟨p, _, ⟨rfl, ?_, bytes, by rw [split]; rfl, ?_⟩, ?_, ?_, ?_⟩
  · -- the script is written to another file than the page
    dsimp only
    rw [output]
    refine (Disk.write_ok script).1.read_eq ?_ (Disk.read_of_write page)
    rw [Disk.spot_append _ _ noUp, Disk.spot_append _ _ noUp', List.append_cancel_left_eq]
    exact named.other.symm
  · rw [body, Disk.read_of_write script, split]
    rfl
  · rw [output, body, ← named.together]
    simp [parent, ← List.append_assoc]
  · intro fs m own source plainSource
    dsimp only
    rw [own]
    exact parent_output_eq_iff source plainSource
  · intro address
    dsimp only
    rw [output, body]
    refine ⟨_, loadsFrom_of_compile compiled address (named.referred address), ?_⟩
    have noUpBelow : ".." ∉ dirs ++ (front ++ [b]) := fun up =>
      (List.mem_append.mp up).elim (fun up => noUp (List.mem_append_left _ up)) noUp'
    rw [Disk.spot_append _ _ noUpBelow, Disk.spot_append _ _ noUp', List.append_cancel_left_eq,
      List.append_left_eq_self]

end

/-! ## Templates of one folder -/

/-- A folder with a template in it. -/
def webFolder : DiskPath := { root := "/", names := ["w"] }

/-- A host with one template, at some names from its folder. -/
def webHost (names : List String) : Host :=
  { disk :=
      { items := (names.inits.dropLast.map fun ns => ("w" :: ns, Item.folder))
          ++ [("w" :: names, .file (Bytes.ofAscii "<body></body>") 1)] } }

/-- Compiling the template of the host, asked for by its path. -/
def webCompile (names : List String) (dest? : Option String) : Act FileFailure CompiledFile :=
  compileFile (text { names }) webFolder dest? true false

/-- Whether something returns, and the host that is left passes a check. -/
def endsWith (check : Host → Bool) : Except FileFailure CompiledFile × Host → Bool
  | (.ok _, h) => check h
  | (.error _, _) => false

theorem returns_of_endsWith {x : Act FileFailure CompiledFile} {check : Host → Bool}
    (ends : endsWith check (outcome x h)) : ∃ c h', x.Returns h c h' ∧ check h' := by
  unfold Act.Returns
  generalize outcome x h = o at ends
  obtain ⟨_ | c, h'⟩ := o
  · cases ends
  · exact ⟨c, h', rfl, ends⟩

theorem compileFile_links_besides : ∃ c h' p body target,
    (webCompile ["p.html"] (some "q.html")).Returns (webHost ["p.html"]) c h' ∧
      Stored p c body h'.disk ∧ body.parent = c.output.parent ∧ LoadsFrom p c.output target ∧
      h'.disk.spot target = h'.disk.spot body := by
  have ends : endsWith (fun _ => true)
      (outcome (webCompile ["p.html"] (some "q.html")) (webHost ["p.html"])) := by decide +kernel
  obtain ⟨c, h', returned, -⟩ := returns_of_endsWith ends
  have dest : resultName (text { names := ["p.html"] }) (some "q.html")
      = text { names := [] ++ ["q.html"] } := by decide
  obtain ⟨p, body, stored, together, -, loads⟩ :=
    compileFile_links returned dest (by simpa using ⟨by decide, by decide, by decide, by decide⟩)
  obtain ⟨target, loads, here⟩ := loads (by decide)
  exact ⟨c, h', p, body, target, returned, stored, together.mpr (.inl (by decide)), loads,
    here.mpr rfl⟩

/-- Where the page of `out/q.html` looks for its body script. -/
def lostScript : DiskPath := { webFolder with names := ["w", "out", "out", "q_b.js"] }

/-- A page that goes to a folder loads its body script from where there is no file. -/
theorem script_of_folder_not_found : ∃ c h' p body,
    (webCompile ["p.html"] (some "out/q.html")).Returns (webHost ["p.html"]) c h' ∧
      c.body = some body ∧ body ≠ lostScript ∧ LoadsFrom p c.output lostScript ∧
      h'.disk.read c.output = .ok p.artifact.content ∧ h'.disk.isFile lostScript = .ok false := by
  have ends : endsWith (fun h' => decide (h'.disk.isFile lostScript = .ok false))
      (outcome (webCompile ["p.html"] (some "out/q.html")) (webHost ["p.html"])) := by
    decide +kernel
  obtain ⟨c, h', returned, lost⟩ := returns_of_endsWith ends
  obtain ⟨data, p, d₁, d₂, -, compiled, -, page, script, rfl⟩ := compileFile_outcome returned
  refine ⟨_, h', p, _, returned, rfl, by decide, ?_, ?_, of_decide_eq_true lost⟩
  · have leads : referred? (webFolder.joinText "out/q.html") "out/q_b.js" = some lostScript := by
      decide +kernel
    exact loadsFrom_of_compile compiled (by decide) leads
  · dsimp only
    refine (Disk.write_ok script).1.read_eq ?_ (Disk.read_of_write page)
    rw [Disk.spot_of_resolved _ ⟨rfl, by decide +kernel⟩,
      Disk.spot_of_resolved _ ⟨rfl, by decide +kernel⟩]
    decide +kernel

end PageTemplates.Build
