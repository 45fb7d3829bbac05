import Mathlib.Data.List.TakeWhile
import PageTemplates.Serve.Route

/-!
# Paths of body scripts

Patterns of paths have many forms, and a server needs few of them. All that pages and their
body scripts ask of routing is here: a pattern of plain characters with one parameter behind
them takes the rest of a path. The main facts:

* `PathPattern.readFrom_literal`: what has no brace stands for itself in a pattern;
* `PathPattern.taken?_rest`: a parameter for paths behind plain characters takes the rest;
* `below_body`, `target?_body`: a path below the folder of body scripts asks for the script
  of the rest.
-/

namespace PageTemplates.Serve

namespace PathPattern

/-- What has no brace stands for itself. -/
theorem readFrom_literal {cs : List Char} (noBrace : '\x7b' ∉ cs) (ds : List Char) :
    readFrom 0 (cs ++ ds) = (readFrom 0 ds).map (cs.map .char ++ ·) := by
  induction cs with
  | nil =>
      rw [List.nil_append]
      cases readFrom 0 ds <;> rfl
  | cons c cs ih =>
      rw [List.mem_cons, not_or] at noBrace
      have none : parameterAt? (c :: (cs ++ ds)) = .none := by
        unfold parameterAt?
        split
        · rename_i brace
          exact absurd (List.cons.inj brace).1.symm noBrace.1
        · rfl
      rw [List.cons_append, readFrom, none]
      dsimp only
      rw [ih noBrace.2]
      cases readFrom 0 ds <;> rfl

/-- The first of the lengths that anything on one line may have is that of the rest. -/
theorem lengths_path {cs : List Char} (line : '\n' ∉ cs) :
    ∃ shorter, ParameterKind.path.lengths cs = cs.length :: shorter := by
  have whole : cs.takeWhile (· != '\n') = cs :=
    List.takeWhile_eq_self_iff.mpr fun c hc => by
      rw [bne_iff_ne]
      rintro rfl
      exact line hc
  rw [ParameterKind.lengths, whole, ParameterKind.countdown]
  cases cs with
  | nil => exact ⟨[], rfl⟩
  | cons c cs =>
      rw [List.length_cons, List.range_succ, List.reverse_append]
      exact ⟨_, rfl⟩

/-- Behind characters that stand for themselves a parameter takes the rest. -/
theorem taken?_rest (cs : List Char) (name : String) {rest : List Char} (line : '\n' ∉ rest) :
    taken? (cs.map .char ++ [.parameter name .path]) (cs ++ rest) = some [(name, .path, rest)] := by
  induction cs with
  | nil =>
      obtain ⟨shorter, lengths⟩ := lengths_path line
      rw [List.map_nil, List.nil_append, List.nil_append, taken?, lengths, List.findSome?_cons,
        List.drop_length, List.take_length]
      rfl
  | cons c cs ih =>
      rw [List.map_cons, List.cons_append, List.cons_append, taken?, List.head?_cons,
        if_pos (beq_self_eq_true _), List.drop_one, List.tail_cons, ih]

end PathPattern

/-- The pattern of body scripts below a folder that is no pattern itself. -/
theorem below_body {root : String} {routes : Routes} (noBrace : '\x7b' ∉ root.toList)
    (h : Routes.below root = .ok routes) :
    routes.body = root.toList.map .char ++ [.parameter "body_id" .path] := by
  have parameter : PathPattern.readFrom 0 "\x7bbody_id:path\x7d".toList
      = .ok [.parameter "body_id" .path] := by rfl
  -- without braces the root stands for itself, and the parameter is the only one
  have read : PathPattern.ofText (root ++ "\x7bbody_id:path\x7d")
      = .ok (root.toList.map .char ++ [.parameter "body_id" .path]) := by
    have names : PathPattern.names (root.toList.map .char ++ [.parameter "body_id" .path])
        = ["body_id"] := by
      have none : PathPattern.names (root.toList.map .char) = [] := by
        rw [PathPattern.names, List.filterMap_map]
        exact List.filterMap_eq_nil_iff.mpr fun _ _ => rfl
      exact List.filterMap_append.trans (congrArg (· ++ ["body_id"]) none)
    rw [PathPattern.ofText, String.toList_append, PathPattern.readFrom_literal noBrace, parameter]
    simp only [Except.map, bind, Except.bind, names]
    rfl
  unfold Routes.below at h
  rw [read] at h
  cases template : PathPattern.ofText "/\x7btemplate_id:path\x7d" with
  | error e =>
      rw [template] at h
      cases h
  | ok p =>
      rw [template] at h
      cases h
      rfl

/-- A path below the folder of body scripts asks for one. -/
theorem target?_body {root name : String} {routes : Routes} (noBrace : '\x7b' ∉ root.toList)
    (h : Routes.below root = .ok routes) (line : '\n' ∉ name.toList) :
    routes.target? (root ++ name) = .ok (some (.body name)) := by
  have value : routes.body.value? "body_id" (root ++ name).toList = .ok (some name.toList) := by
    rw [below_body noBrace h, PathPattern.value?, String.toList_append,
      PathPattern.taken?_rest _ _ line]
    rfl
  simp only [Routes.target?, value, bind, Except.bind, pure, Except.pure, String.ofList_toList]

end PageTemplates.Serve
