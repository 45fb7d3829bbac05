import PageTemplates.Proofs.Compile.Plain
import PageTemplates.Proofs.Script.Undone

/-!
# Scripts and styles in literals

Text directly inside a script or a style is printed as it is, but in a literal it
is printed with references first. For a script they are undone again, for a
style they are not. The main facts:

* `evaluated`: the text that comes out of the literal;
* `evaluated_eq_self_iff`: when it is the text itself;
* `literalAt_rawText_iff`: for which scripts and styles the literal stands for
  the printed element.
-/

namespace PageTemplates.Compile

open Markup Script

/-! ## The text that comes out -/

/-- What text directly inside a script or a style becomes in a literal. -/
def evaluated (inScript : Bool) (s : String) : List Char :=
  if inScript then (undo s.toList).flatMap (printMarked [noBreak]) else (printText .utf s).toList

/-- Text that comes out as it is: of a script, text without no-break spaces and
without references that are undone; of a style, text without characters that are
printed by references. -/
def Survives (inScript : Bool) (s : String) : Prop :=
  if inScript then noBreak ∉ s.toList ∧ ∀ r ∈ textReferences, ¬ r.1 <:+: s.toList
  else ∀ c ∈ ['&', '<', '>', noBreak], c ∉ s.toList

instance (inScript : Bool) (s : String) : Decidable (Survives inScript s) :=
  inferInstanceAs (Decidable (if inScript then _ else _))

theorem length_flatMap_le {α β : Type} {xs : List α} {f g : α → List β}
    (h : ∀ x ∈ xs, (f x).length ≤ (g x).length) :
    (xs.flatMap f).length ≤ (xs.flatMap g).length := by
  induction xs with
  | nil => exact Nat.le_refl _
  | cons x xs ih =>
      have first := h x List.mem_cons_self
      have rest := ih fun y hy => h y (List.mem_cons_of_mem _ hy)
      rw [List.flatMap_cons, List.flatMap_cons, List.length_append, List.length_append]
      omega

/-- If no piece is longer than the one it is compared with, equal sequences have
equal pieces. -/
theorem flatMap_eq_flatMap_iff {α β : Type} {xs : List α} {f g : α → List β}
    (h : ∀ x ∈ xs, (f x).length ≤ (g x).length) :
    xs.flatMap f = xs.flatMap g ↔ ∀ x ∈ xs, f x = g x := by
  constructor
  · intro same
    induction xs with
    | nil => simp
    | cons x xs ih =>
        have first := h x List.mem_cons_self
        have behind := fun y hy => h y (List.mem_cons_of_mem x hy)
        have rest := length_flatMap_le behind
        have total := congrArg List.length same
        rw [List.flatMap_cons, List.flatMap_cons] at same
        rw [List.flatMap_cons, List.flatMap_cons, List.length_append, List.length_append] at total
        obtain ⟨here, same'⟩ := List.append_inj same (by omega)
        rw [List.forall_mem_cons]
        exact ⟨here, ih behind same'⟩
  · intro same
    rw [List.flatMap_def, List.flatMap_def, List.map_congr_left same]

theorem printMarked_eq_self_iff (c : Char) :
    printMarked ['&', '<', '>', noBreak] c = [c] ↔ c ∉ ['&', '<', '>', noBreak] := by
  refine ⟨fun same hc => ?_, fun hc => if_neg hc⟩
  have differs : ['&', '<', '>', noBreak].all
      fun c => printMarked ['&', '<', '>', noBreak] c != [c] := by decide
  exact bne_iff_ne.mp (List.all_eq_true.mp differs c hc) same

theorem length_printMarked (c : Char) :
    1 ≤ (printMarked ['&', '<', '>', noBreak] c).length := by
  by_cases hc : c ∈ ['&', '<', '>', noBreak]
  · have long : ['&', '<', '>', noBreak].all
        fun c => 1 ≤ (printMarked ['&', '<', '>', noBreak] c).length := by decide
    exact of_decide_eq_true (List.all_eq_true.mp long c hc)
  · rw [(printMarked_eq_self_iff c).mpr hc]
    exact Nat.le_refl 1

theorem toList_printText_utf (s : String) :
    (printText .utf s).toList = s.toList.flatMap (printMarked ['&', '<', '>', noBreak]) := by
  rw [printText, String.toList_ofList]
  congr 1
  funext c
  exact toList_printChar_utf c

/-- Text comes out of a style as it is if all its characters do. -/
theorem printText_eq_self_iff (s : String) :
    (printText .utf s).toList = s.toList ↔ ∀ c ∈ ['&', '<', '>', noBreak], c ∉ s.toList := by
  have pieces := flatMap_eq_flatMap_iff (f := fun c => [c])
    (g := printMarked ['&', '<', '>', noBreak]) fun c (_ : c ∈ s.toList) => length_printMarked c
  rw [List.flatMap_singleton'] at pieces
  rw [toList_printText_utf, eq_comm, pieces]
  constructor
  · exact fun same c hc hs => (printMarked_eq_self_iff c).mp (same c hs).symm hc
  · exact fun absent c hs => ((printMarked_eq_self_iff c).mpr fun hc => absent c hc hs).symm

theorem evaluated_eq_self_iff (inScript : Bool) (s : String) :
    evaluated inScript s = s.toList ↔ Survives inScript s := by
  cases inScript with
  | true => exact undone_eq_self_iff s.toList
  | false => exact printText_eq_self_iff s

/-- All texts together come out as they are only if each of them does: a script
has no no-break spaces then and is never longer than its text, and a style is
never shorter. -/
theorem flatMap_evaluated_eq_iff (inScript : Bool) (texts : List String) :
    texts.flatMap (evaluated inScript) = texts.flatMap String.toList ↔
      ∀ s ∈ texts, Survives inScript s := by
  simp only [← evaluated_eq_self_iff]
  refine ⟨fun same => ?_, fun same => ?_⟩
  rotate_left
  · rw [List.flatMap_def, List.flatMap_def, List.map_congr_left same]
  cases inScript with
  | true =>
      -- the pieces can only be the same one by one, since none of them grows
      refine (flatMap_eq_flatMap_iff fun s hs => ?_).mp same
      -- printing marks it, and no undoing brings it back
      have space : noBreak ∉ s.toList := by
        intro hm
        have : noBreak ∈ texts.flatMap (evaluated true) := by
          rw [same]
          exact List.mem_flatMap.mpr ⟨s, hs, hm⟩
        obtain ⟨u, -, hu⟩ := List.mem_flatMap.mp this
        exact noBreak_notMem_flatMap _ hu
      change ((undo s.toList).flatMap (printMarked [noBreak])).length ≤ _
      rw [flatMap_printMarked (noBreak_notMem_undo space)]
      exact Text.length_foldl_replaceAll_le shrinks
  | false =>
      have long : ∀ s ∈ texts, s.toList.length ≤ (evaluated false s).length := by
        intro s _
        change _ ≤ (printText .utf s).toList.length
        have pieces := length_flatMap_le (f := fun c => [c])
          (g := printMarked ['&', '<', '>', noBreak])
          fun c (_ : c ∈ s.toList) => length_printMarked c
        rwa [toList_printText_utf, List.flatMap_singleton'] at *
      exact fun s hs => ((flatMap_eq_flatMap_iff long).mp same.symm s hs).symm

/-! ## The literal of a script or a style -/

theorem plainLiterals_texts {o : Options} (utf : o.family = .utf) (inScript : Bool)
    (texts : List String) :
    Inside (plainLiterals o inScript (texts.map .text)).toList
      (texts.flatMap (evaluated inScript)) := by
  induction texts with
  | nil => exact .nil
  | cons s texts ih =>
      rw [List.map_cons, plainLiterals, List.flatMap_cons, String.toList_append,
        Node.plainLiteral, openingLiteral, utf]
      refine Inside.append ?_ ih
      cases inScript with
      | true =>
          rw [if_pos rfl, unmark_escape_printText]
          have stands := inside_escape (String.ofList
            ((undo s.toList).flatMap (printMarked [noBreak])))
          rwa [String.toList_ofList] at stands
      | false => exact inside_escape _

theorem toList_printAll_texts (family : Family) (texts : List String) :
    (printAll family true (texts.map .text)).toList = texts.flatMap String.toList := by
  induction texts with
  | nil => rfl
  | cons s texts ih =>
      rw [List.map_cons, printAll, String.toList_append, ih, List.flatMap_cons]
      rfl

/-- The end tag of a script or a style stands for itself. -/
theorem rawText_closing {name : String} (raw : isRawText name) :
    isVoid name = false ∧
      Inside (closingLiteral name).toList ("</" ++ name ++ ">").toList := by
  simp only [isRawText, Bool.or_eq_true, beq_iff_eq] at raw
  rcases raw with rfl | rfl
  · exact ⟨by decide, .plain rfl (.plain rfl (.joined (.of_plain rfl)))⟩
  · exact ⟨by decide, .of_plain rfl⟩

theorem tagLiteral_of_bool (o : Options) {t : Tag} (h : lastBool? t ≠ none) :
    ∃ text behind, tagLiteral o t = escape text ++ " '," ++ behind := by
  obtain ⟨v, hv⟩ := Option.ne_none_iff_exists'.mp h
  unfold tagLiteral
  simp only [hv]
  generalize "<" ++ t.name ++ String.join _ = text
  refine ⟨text, "YST.Txt.ystBool,['" ++ escape (v.getD "") ++ "'],'>", ?_⟩
  apply String.toList_injective
  simp

/-- A start tag with a `ystbool` attribute ends the string that it stands in. -/
theorem readExpr?_of_bool (o : Options) {t : Tag} (h : lastBool? t ≠ none) (rest : String) :
    readExpr? ("'" ++ (tagLiteral o t ++ rest) ++ "'") = none := by
  obtain ⟨text, behind, ht⟩ := tagLiteral_of_bool o h
  have pieces : "'" ++ (tagLiteral o t ++ rest) ++ "'"
      = "'" ++ (escape text ++ " ") ++ "'" ++ ("," ++ (behind ++ rest ++ "'")) := by
    rw [ht]
    apply String.toList_injective
    simp
  have blank : Inside " ".toList " ".toList := .of_plain rfl
  have quoted := (inside_escape text).append blank
  rw [← String.toList_append] at quoted
  rw [pieces, readExpr?, State.read_append, read_quoted quoted, Option.bind_some,
    State.read_append]
  rfl

theorem allTags_texts (q : Tag → Bool) (texts : List String) :
    allTags q (texts.map .text) := by
  induction texts with
  | nil => rfl
  | cons s texts ih => exact allTags_cons.mpr ⟨rfl, ih⟩

/-- What is printed of a script or a style. -/
theorem toList_print_rawText {t : Tag} (raw : isRawText t.name) (texts : List String) :
    ((Node.element t (texts.map .text)).print .utf false).toList
      = (t.print .utf).toList ++ texts.flatMap String.toList ++ ("</" ++ t.name ++ ">").toList := by
  rw [Node.print, (rawText_closing raw).1, raw, ← toList_printAll_texts .utf]
  simp

/-- The literal of a script or a style without a `ystbool` attribute. -/
theorem plainLiteral_rawText {o : Options} (utf : o.family = .utf) {t : Tag}
    (raw : isRawText t.name) (bool : lastBool? t = none) (texts : List String) :
    Inside (Node.plainLiteral o (.element t (texts.map .text))).toList
      (((shownTag o.hide t).print .utf).toList
        ++ texts.flatMap (evaluated (t.name == "script")) ++ ("</" ++ t.name ++ ">").toList) := by
  have opening : Inside (tagLiteral o t).toList ((shownTag o.hide t).print .utf).toList := by
    rw [← utf]
    have stands : StandsFor True (tagLiteral o t) _ := tagLiteral_standsFor o bool
    exact stands.inside trivial
  have inside := plainLiterals_texts utf (t.name == "script") texts
  rw [Node.plainLiteral, String.toList_append, String.toList_append]
  exact (opening.append inside).append (rawText_closing raw).2

/-- The literal of a script or a style at any place stands for what is printed of
the element without its hidden attributes, just if its start tag has no
`ystbool` attribute and its text comes out of the literal as it is. -/
theorem literalAt_rawText_iff {o : Options} (utf : o.family = .utf) (declare : Bool)
    (path : Path) {p : Progress} {t : Tag} {texts : List String} {rest : List Node}
    (raw : isRawText t.name)
    (found : siblingsAt path p.doc = .element t (texts.map .text) :: rest) :
    ∃ body, literalAt o declare false path p = .ok (body, p) ∧
      (readExpr? ("'" ++ body ++ "'") = some (.text
          ((Node.element (shownTag o.hide t) (texts.map .text)).print .utf false)) ↔
        lastBool? t = none ∧ ∀ s ∈ texts, Survives (t.name == "script") s) := by
  refine ⟨_, literalAt_plain o declare path found (allTags_texts isPrinted texts), ?_⟩
  by_cases bool : lastBool? t = none
  · have stands := plainLiteral_rawText utf raw bool texts
    rw [← String.toList_ofList (l := _ ++ _)] at stands
    have raw' : isRawText (shownTag o.hide t).name := by rwa [name_shownTag]
    rw [stands.readExpr?, ← flatMap_evaluated_eq_iff, Option.some.injEq, Script.Expr.text.injEq,
      ← String.toList_inj, String.toList_ofList, toList_print_rawText raw', name_shownTag,
      List.append_left_inj, List.append_right_inj]
    simp [bool]
  · have pieces : Node.plainLiteral o (.element t (texts.map .text)) = tagLiteral o t
        ++ (plainLiterals o (t.name == "script") (texts.map .text) ++ closingLiteral t.name) := by
      rw [Node.plainLiteral, String.append_assoc]
    rw [pieces, readExpr?_of_bool o bool]
    simp [bool]

/-- A directive with a script that survives, a style and a script that do not. -/
def rawTextPage : Document :=
  [.element { name := "div", attributes := [("yst", some "value")] }
    [.element { name := "script", attributes := [("ystaux", none)] }
       [.text "if (a < b && c)\n", .text "d = '</p>';"],
     .element { name := "style" } [.text "a > b"],
     .element { name := "script" } [.text "e = '&lt;';"]]]

theorem literalAt_rawText_iff_script :
    (∀ s ∈ ["if (a < b && c)\n", "d = '</p>';"], Survives true s) ∧
    ∃ body, literalAt { hide := true } false false [0, 0] ⟨rawTextPage, 0⟩
        = .ok (body, ⟨rawTextPage, 0⟩) ∧
      readExpr? ("'" ++ body ++ "'")
        = some (.text "<script>if (a < b && c)\nd = '</p>';</script>") := by
  have survive : ∀ s ∈ ["if (a < b && c)\n", "d = '</p>';"], Survives true s := by decide +kernel
  have found : siblingsAt [0, 0] rawTextPage
      = .element { name := "script", attributes := [("ystaux", none)] }
          (["if (a < b && c)\n", "d = '</p>';"].map .text) :: _ := rfl
  obtain ⟨body, run, reads⟩ := literalAt_rawText_iff (o := { hide := true }) rfl false [0, 0]
    (p := ⟨rawTextPage, 0⟩) rfl found
  exact ⟨survive, body, run, reads.mpr ⟨rfl, survive⟩⟩

/-- References are left in the text of a style, and undone in the text of a
script that had them itself. -/
theorem literalAt_rawText_changed :
    (literalAt {} false false [0, 1] ⟨rawTextPage, 0⟩
        = .ok ("<style>a &gt; b</style>", ⟨rawTextPage, 0⟩) ∧
      readExpr? "'<style>a &gt; b</style>'" = some (.text "<style>a &gt; b</style>") ∧
      (Node.element { name := "style" } [.text "a > b"]).print .utf false
        = "<style>a > b</style>") ∧
    literalAt {} false false [0, 2] ⟨rawTextPage, 0⟩
        = .ok ("<script>e = \\'<\\';</'+'script>", ⟨rawTextPage, 0⟩) ∧
      readExpr? "'<script>e = \\'<\\';</'+'script>'" = some (.text "<script>e = '<';</script>") ∧
      (Node.element { name := "script" } [.text "e = '&lt;';"]).print .utf false
        = "<script>e = '&lt;';</script>" :=
  ⟨⟨rfl, rfl, rfl⟩, rfl, rfl, rfl⟩

end PageTemplates.Compile
