import MapLoom.Proofs.Output.OneLine

set_option autoImplicit false

/-!
# Lines that open a declaration

A struct is declared by the line that opens it, which no other line of a layout is. So the lines of a
printed layout that open a type are as many as the layout declares it.
-/
namespace MapLoom
open Text (trimEnd)

/-- The types that a layout declares: those of its structs and then that of all members. -/
def Layout.declaredNames (l : Layout) : List Text :=
  l.structs.map StructDecl.name ++ [("Ex10CalibrationParams" : Text)]

def cOpening (type : Text) : Text := "struct " ++ type ++ "V5 \x7b"

def ctypesOpening (type : Text) : Text := "class " ++ type ++ "V5(Structure):"

/-- Whether lines that open types start with a character of their own, tell the types apart and have
no blank at their end. -/
structure Opens (opening : Text → Text) (initial : Char) : Prop where
  head : ∀ type, (opening type).head? = some initial
  injective : ∀ {type other}, opening type = opening other → type = other
  trimmed : ∀ type, trimEnd (opening type) = opening type

theorem opens_cOpening : Opens cOpening 's' where
  head _ := rfl
  injective h := by
    unfold cOpening at h
    exact List.append_cancel_left (List.append_cancel_right h)
  trimmed type := by
    have hlast : (cOpening type).getLast? = some '\x7b' := by
      have hpiece : ("V5 \x7b" : Text).getLast? = some '\x7b' := by decide
      unfold cOpening
      rw [List.getLast?_append, hpiece, Option.some_or]
    refine Text.trimEnd_eq_self fun c hc => ?_
    rw [hlast] at hc
    cases hc
    decide

theorem opens_ctypesOpening : Opens ctypesOpening 'c' where
  head _ := rfl
  injective h := by
    unfold ctypesOpening at h
    exact List.append_cancel_left (List.append_cancel_right h)
  trimmed type := by
    have hlast : (ctypesOpening type).getLast? = some ':' := by
      have hpiece : ("V5(Structure):" : Text).getLast? = some ':' := by decide
      unfold ctypesOpening
      rw [List.getLast?_append, hpiece, Option.some_or]
    refine Text.trimEnd_eq_self fun c hc => ?_
    rw [hlast] at hc
    cases hc
    decide

namespace Opens
variable {opening : Text → Text} {initial : Char} {type : Text}

def count (opening : Text → Text) (type : Text) (lines : List Text) : Nat :=
  lines.countP fun line => trimEnd line = opening type

theorem count_append (opening : Text → Text) (type : Text) (lines others : List Text) :
    count opening type (lines ++ others) = count opening type lines + count opening type others :=
  List.countP_append

theorem count_eq_zero (h : Opens opening initial) {lines : List Text}
    (hlines : ∀ line ∈ lines, line.head? ≠ some initial) : count opening type lines = 0 := by
  refine List.countP_eq_zero.2 fun line hline hopens => hlines line hline ?_
  have hprefix := Text.trimEnd_isPrefix line
  rw [of_decide_eq_true hopens] at hprefix
  obtain ⟨rest, rfl⟩ := hprefix
  rw [List.head?_append, h.head]
  rfl

theorem count_block (h : Opens opening initial) (name : Text) {rest : List Text}
    (hrest : ∀ line ∈ rest, line.head? ≠ some initial) :
    count opening type (opening name :: rest) = if name = type then 1 else 0 := by
  have hzero : count opening type rest = 0 := h.count_eq_zero hrest
  unfold count at hzero ⊢
  rw [List.countP_cons, hzero, h.trimmed, Nat.zero_add]
  by_cases hname : name = type
  · rw [hname, if_pos rfl, if_pos (decide_eq_true rfl)]
  · rw [if_neg hname, if_neg fun hsame => hname (h.injective (of_decide_eq_true hsame))]

theorem count_nil_cons (h : Opens opening initial) (type : Text) (lines : List Text) :
    count opening type ([] :: lines) = count opening type lines := by
  have hzero : count opening type [[]] = 0 :=
    h.count_eq_zero (List.forall_mem_singleton.2 (by simp))
  rw [← List.singleton_append, count_append, hzero, Nat.zero_add]

theorem count_structs {lines? : StructDecl → Option (List Text)}
    (hblock : ∀ d lines, lines? d = some lines →
      count opening type lines = if d.name = type then 1 else 0)
    {structs : List StructDecl} {all : List Text} (h : linesOf? lines? structs = some all) :
    count opening type all = (structs.map StructDecl.name).count type := by
  induction structs generalizing all with
  | nil =>
    cases h
    rfl
  | cons d structs ih =>
    rw [linesOf?_cons] at h
    obtain ⟨first, hfirst, h⟩ := Option.bind_eq_some_iff.1 h
    obtain ⟨rest, hrest, rfl⟩ := Option.map_eq_some_iff.1 h
    rw [count_append, hblock d first hfirst, ih hrest, List.map_cons, List.count_cons, Nat.add_comm]
    simp only [beq_iff_eq]

end Opens

section Layouts
variable {l : Layout} {type : Text}

theorem StructBody.head?_of_mem_cLines {body : StructBody} {line : Text} (h : line ∈ body.cLines) :
    line.head? = some ' ' := by
  cases body with
  | fields decls =>
    obtain ⟨f, -, rfl⟩ := List.mem_map.1 h
    rfl
  | raw length =>
    rw [List.mem_singleton.1 h]
    rfl

theorem StructBody.head?_of_mem_ctypesLines? {body : StructBody} {lines : List Text}
    (h : body.ctypesLines? = some lines) {line : Text} (hline : line ∈ lines) :
    line.head? = some ' ' := by
  cases body with
  | fields decls =>
    have h : linesOf? (fun f => (FieldDecl.ctypesLine? f).map ([·])) decls = some lines :=
      (linesOf?_singleton _ _).trans h
    obtain ⟨f, -, found, hfound, hmem⟩ := exists_of_mem_linesOf? h hline
    obtain ⟨only, honly, rfl⟩ := Option.map_eq_some_iff.1 hfound
    obtain ⟨type, -, rfl⟩ := Option.map_eq_some_iff.1 honly
    rw [List.mem_singleton.1 hmem]
    rfl
  | raw length =>
    cases h
    rw [List.mem_singleton.1 hline]
    rfl

theorem count_declaredNames_eq (l : Layout) (type : Text) : l.declaredNames.count type =
    (l.structs.map StructDecl.name).count type +
      if "Ex10CalibrationParams" = type then 1 else 0 := by
  rw [Layout.declaredNames, List.count_append, List.count_singleton]
  simp only [beq_iff_eq]

theorem Layout.count_cLines (l : Layout) (type : Text) :
    Opens.count cOpening type l.cLines = l.declaredNames.count type := by
  have hstructs : Opens.count cOpening type (l.structs.flatMap StructDecl.cLines) =
      (l.structs.map StructDecl.name).count type := by
    refine Opens.count_structs (fun d lines hlines => ?_) (linesOf?_some StructDecl.cLines _)
    cases hlines
    refine opens_cOpening.count_block d.name (List.forall_mem_append.2 ⟨fun line hline => ?_, ?_⟩)
    · rw [StructBody.head?_of_mem_cLines hline]
      decide
    · exact List.forall_mem_singleton.2 (by decide)
  have hmembers : Opens.count cOpening type l.cMembers =
      if "Ex10CalibrationParams" = type then 1 else 0 := by
    have hopening : ("struct Ex10CalibrationParamsV5 \x7b" : Text) =
      cOpening "Ex10CalibrationParams" := by decide
    rw [Layout.cMembers, hopening]
    refine opens_cOpening.count_block _ (List.forall_mem_append.2 ⟨fun line hline => ?_, ?_⟩)
    · obtain ⟨d, -, rfl⟩ := List.mem_map.1 hline
      rw [show d.cLine.head? = some ' ' from rfl]
      decide
    · exact List.forall_mem_singleton.2 (by decide)
  have hlength : Opens.count cOpening type [[], l.cLength] = 0 := by
    refine opens_cOpening.count_eq_zero (List.forall_mem_cons.2 ⟨by decide, ?_⟩)
    rw [List.forall_mem_singleton, show l.cLength.head? = some '#' from rfl]
    decide
  rw [Layout.cLines, Opens.count_append, Opens.count_append, hstructs,
    opens_cOpening.count_nil_cons, hmembers, hlength, count_declaredNames_eq]
  rfl

theorem Layout.count_ctypesLines? {lines : List Text} (h : l.ctypesLines? = some lines)
    (type : Text) : Opens.count ctypesOpening type lines = l.declaredNames.count type := by
  obtain ⟨structs, hstructs, rfl⟩ := Option.map_eq_some_iff.1 h
  have hcount : Opens.count ctypesOpening type structs =
      (l.structs.map StructDecl.name).count type := by
    refine Opens.count_structs (fun d lines hlines => ?_) hstructs
    obtain ⟨body, hbody, rfl⟩ := Option.map_eq_some_iff.1 hlines
    refine opens_ctypesOpening.count_block d.name (List.forall_mem_cons.2 ⟨by decide,
      List.forall_mem_append.2 ⟨fun line hline => ?_, List.forall_mem_singleton.2 (by decide)⟩⟩)
    rw [StructBody.head?_of_mem_ctypesLines? hbody hline]
    decide
  have hmembers : Opens.count ctypesOpening type l.ctypesMembers =
      if "Ex10CalibrationParams" = type then 1 else 0 := by
    have hopening : ("class Ex10CalibrationParamsV5(Structure):" : Text) =
      ctypesOpening "Ex10CalibrationParams" := by decide
    rw [Layout.ctypesMembers, hopening]
    refine opens_ctypesOpening.count_block _ (List.forall_mem_cons.2 ⟨by decide,
      List.forall_mem_append.2 ⟨fun line hline => ?_, List.forall_mem_singleton.2 (by decide)⟩⟩)
    obtain ⟨d, -, rfl⟩ := List.mem_map.1 hline
    rw [show d.ctypesLine.head? = some ' ' from rfl]
    decide
  rw [Opens.count_append, hcount, opens_ctypesOpening.count_nil_cons, hmembers,
    count_declaredNames_eq]

end Layouts

/-- In a printed text the lines that open a type are those that were printed for it. -/
theorem Opens.count_lines {opening : Text → Text} {initial : Char} (h : Opens opening initial)
    {bodies : List Text} (hbodies : ∀ body ∈ bodies, '\n' ∉ body) (type : Text) :
    (normalize (Text.unlines ([] :: bodies))).lines.count (opening type ++ ['\n']) =
      count opening type bodies := by
  rw [← h.count_nil_cons, lines_normalize_unlines (List.cons_ne_nil [] bodies)
    (List.forall_mem_cons.2 ⟨List.not_mem_nil, hbodies⟩), List.count, List.countP_map, count]
  refine List.countP_congr fun body _ => ?_
  rw [Function.comp_apply, beq_iff_eq, decide_eq_true_iff]
  exact ⟨List.append_cancel_right, congrArg (· ++ ['\n'])⟩

end MapLoom
