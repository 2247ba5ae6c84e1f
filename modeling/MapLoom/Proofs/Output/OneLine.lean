import MapLoom.Proofs.Output.Identifiers
import MapLoom.Proofs.Schema.Bands
import MapLoom.Proofs.Template.NativeType
import MapLoom.Proofs.Weave.Trimming

set_option autoImplicit false

/-!
# Printed lines that are one line each

Names and types may be any texts, and one with a line feed takes more than one line where it is
printed. Without them a printed line is a line of the text: neither the snake case of a name nor its
band name has a line feed that the name lacks.
-/
namespace MapLoom
open List (not_mem_append)
open Text (Numeral trimEnd)

theorem Text.Numeral.not_mem {base n : Nat} {t : Text} {c : Char} (h : Numeral base t n)
    (hc : Text.digit? base c = none) : c ∉ t := fun hmem => by
  have hsome := h.isSome_digit? c hmem
  rw [hc] at hsome
  cases hsome

section Names
variable {c d last : Char} {t name : Text}

theorem le_of_mapRuns? {runs : List (Nat × Nat × Nat × Int)} {least n k : Nat}
    (hruns : ∀ run ∈ runs, (least : Int) ≤ run.1 + run.2.2.2) (h : mapRuns? runs n = some k) :
    least ≤ k := by
  induction runs with
  | nil => cases h
  | cons run runs ih =>
    obtain ⟨first, last, step, shift⟩ := run
    obtain ⟨hrun, hrest⟩ := List.forall_mem_cons.1 hruns
    unfold mapRuns? at h
    split_ifs at h with hbelow hin hstep
    · have hfirst : (first : Int) ≤ n := Int.ofNat_le.2 (Nat.le_of_not_lt hbelow)
      obtain rfl := Option.some.inj h
      dsimp only at hrun
      omega
    · exact ih hrest h

theorem Letter.mem_lower (h : d ∈ Letter.lower c) : d = c ∨ d.toNat = 0 ∨ 97 ≤ d.toNat := by
  have hruns : ∀ run ∈ Case.toLowerRuns, ((97 : Nat) : Int) ≤ run.1 + run.2.2.2 := by
    decide +kernel
  unfold Letter.lower at h
  split at h
  · rcases List.mem_pair.1 h with rfl | rfl <;> exact .inr (.inr (by decide))
  · split at h
    · rename_i k hk
      have hle := le_of_mapRuns? hruns hk
      obtain rfl := List.mem_singleton.1 h
      have hvalue : (Char.ofNat k).toNat = k ∨ (Char.ofNat k).toNat = 0 := by
        by_cases hvalid : k.isValidChar
        · rw [Char.ofNat, dif_pos hvalid]
          exact .inl rfl
        · rw [Char.ofNat, dif_neg hvalid]
          exact .inr rfl
      omega
    · exact .inl (List.mem_singleton.1 h)

theorem mem_of_mem_snakeRest (hpos : 0 < d.toNat) (hlow : d.toNat < 95)
    (h : d ∈ snakeRest last t) : d ∈ t := by
  induction t generalizing last with
  | nil => cases h
  | cons c t ih =>
    rcases List.mem_append.1 h with hhead | hrest
    · refine List.mem_cons.2 (.inl ?_)
      split at hhead
      · rcases List.mem_append.1 hhead with hsep | hlower
        · split at hsep
          · cases hsep
          · obtain rfl := List.mem_singleton.1 hsep
            exact absurd hlow (by decide)
        · rcases Letter.mem_lower hlower with rfl | hzero | hle
          · rfl
          · omega
          · omega
      · exact List.mem_singleton.1 hhead
    · exact List.mem_cons_of_mem c (ih hrest)

theorem mem_of_mem_snakeName (hpos : 0 < d.toNat) (hlow : d.toNat < 95)
    (h : d ∈ snakeName name) : d ∈ name := by
  rw [snakeName_eq_snakeRest] at h
  exact mem_of_mem_snakeRest hpos hlow h

theorem newline_not_mem_snakeName (h : '\n' ∉ name) : '\n' ∉ snakeName name := fun hmem =>
  h (mem_of_mem_snakeName (by decide) (by decide) hmem)

theorem newline_not_mem_bandName (h : '\n' ∉ name) : '\n' ∉ (bandName name).name := by
  have hbanded := banded_bandName name
  generalize bandName name = b at hbanded
  have hper : '\n' ∉ perBand := by decide
  cases hbanded with
  | plain => exact h
  | _ =>
    simp only [List.mem_append, not_or] at h ⊢
    exact ⟨⟨h.1.1, hper⟩, h.2⟩

end Names

theorem newline_not_mem_ofNat (n : Nat) : '\n' ∉ Text.ofNat n :=
  (Text.numeral_ofNat n).not_mem (by decide)

theorem newline_not_mem_upperHex (width n : Nat) : '\n' ∉ Text.upperHex width n :=
  (Text.numeral_upperHex width n).not_mem (by decide)

namespace Entry
variable {e : Entry}

/-- What a comment has besides the name are hexadecimal digits and four pieces. -/
theorem not_mem_rangeLine {c : Char} (hdigit : Text.digit? 16 c = none)
    (hpieces : ∀ piece ∈ (["    // ", ": [0x", ":0x", "]"] : List Text), c ∉ piece)
    (h : c ∉ e.name) : c ∉ e.rangeLine := by
  simp only [List.forall_mem_cons] at hpieces
  obtain ⟨hcomment, hfirst, hsecond, hclose, -⟩ := hpieces
  have hhex : ∀ n, c ∉ Text.upperHex 4 n := fun n => (Text.numeral_upperHex 4 n).not_mem hdigit
  exact not_mem_append hcomment (not_mem_append (not_mem_append (not_mem_append (not_mem_append
    (not_mem_append h hfirst) (hhex _)) hsecond) (hhex _)) hclose)

theorem newline_not_mem_copyLine (h : '\n' ∉ e.name) : '\n' ∉ e.copyLine :=
  not_mem_append (not_mem_append (not_mem_append (not_mem_append (not_mem_append (not_mem_append
    (by decide) (newline_not_mem_snakeName h)) (by decide)) (newline_not_mem_upperHex 4 _))
      (by decide)) (newline_not_mem_ofNat _)) (by decide)

end Entry

/-- Whether no name and no type of a map has a line feed. -/
def AddressMap.Unbroken (m : AddressMap) : Prop :=
  ∀ e ∈ m.entries, '\n' ∉ e.name ∧ ∀ f ∈ e.fields, '\n' ∉ f.name ∧ '\n' ∉ f.resolveAs

instance (m : AddressMap) : Decidable m.Unbroken :=
  inferInstanceAs (Decidable (∀ e ∈ m.entries, _ ∧ ∀ f ∈ e.fields, _))

section Declared
variable {m : AddressMap} {e : Entry} {f : Field}

theorem newline_not_mem_arraySuffix (f : FieldDecl) {start stop : Text} (hstart : '\n' ∉ start)
    (hstop : '\n' ∉ stop) : '\n' ∉ f.arraySuffix start stop := by
  unfold FieldDecl.arraySuffix
  split
  · exact not_mem_append (not_mem_append hstart (newline_not_mem_ofNat _)) hstop
  · exact List.not_mem_nil

theorem Field.newline_not_mem_cLine (hname : '\n' ∉ f.name) (htype : '\n' ∉ f.resolveAs) :
    '\n' ∉ f.decl.cLine :=
  not_mem_append (not_mem_append (not_mem_append (not_mem_append (not_mem_append (by decide) htype)
    (by decide)) (newline_not_mem_snakeName hname))
      (newline_not_mem_arraySuffix _ (by decide) (by decide))) (by decide)

theorem Template.NativeType.newline_not_mem {type name : Text}
    (h : Template.NativeType type name) : '\n' ∉ name := by
  cases h with
  | float => decide
  | double => decide
  | _ => exact not_mem_append (by decide) (newline_not_mem_ofNat _)

theorem Field.newline_not_mem_ctypesLine? (hname : '\n' ∉ f.name) {line : Text}
    (h : f.decl.ctypesLine? = some line) : '\n' ∉ line := by
  obtain ⟨type, htype, rfl⟩ := Option.map_eq_some_iff.1 h
  have hnative := (Template.ctypeName?_eq_some_iff.1 htype).newline_not_mem
  exact not_mem_append (not_mem_append (not_mem_append (not_mem_append (not_mem_append (by decide)
    (newline_not_mem_snakeName hname)) (by decide)) hnative)
      (newline_not_mem_arraySuffix _ (by decide) List.not_mem_nil)) (by decide)

theorem Entry.newline_not_mem_cLines (hname : '\n' ∉ e.name)
    (hfields : ∀ f ∈ e.fields, '\n' ∉ f.name ∧ '\n' ∉ f.resolveAs) :
    ∀ line ∈ e.decl.cLines, '\n' ∉ line := by
  refine List.forall_mem_cons.2 ⟨?_, List.forall_mem_append.2 ⟨fun line hline => ?_,
    List.forall_mem_singleton.2 (by decide)⟩⟩
  · exact not_mem_append (not_mem_append (by decide) (newline_not_mem_bandName hname)) (by decide)
  · have hbody := e.decl_body_cLines
    split at hbody
    · obtain hraw := Option.some.inj hbody
      rw [hraw, List.mem_singleton] at hline
      rw [hline]
      exact not_mem_append (not_mem_append (by decide) (newline_not_mem_ofNat _)) (by decide)
    · obtain ⟨f, hf, lines, hlines, hmem⟩ := exists_of_mem_linesOf? hbody.symm hline
      cases hlines
      obtain rfl := List.mem_singleton.1 hmem
      exact Field.newline_not_mem_cLine (hfields f hf).1 (hfields f hf).2

theorem Entry.newline_not_mem_ctypesLines? (hname : '\n' ∉ e.name)
    (hfields : ∀ f ∈ e.fields, '\n' ∉ f.name ∧ '\n' ∉ f.resolveAs) {lines : List Text}
    (h : e.decl.ctypesLines? = some lines) : ∀ line ∈ lines, '\n' ∉ line := by
  obtain ⟨body, hbody, rfl⟩ := Option.map_eq_some_iff.1 h
  refine List.forall_mem_cons.2 ⟨?_, List.forall_mem_cons.2 ⟨by decide,
    List.forall_mem_append.2 ⟨fun line hline => ?_, List.forall_mem_singleton.2 (by decide)⟩⟩⟩
  · exact not_mem_append (not_mem_append (by decide) (newline_not_mem_bandName hname)) (by decide)
  · rw [e.decl_body_ctypesLines?] at hbody
    split at hbody
    · cases hbody
      rw [List.mem_singleton.1 hline]
      exact not_mem_append (not_mem_append (by decide) (newline_not_mem_ofNat _)) (by decide)
    · obtain ⟨f, hf, found, hfound, hmem⟩ := exists_of_mem_linesOf? hbody hline
      obtain ⟨only, honly, rfl⟩ := Option.map_eq_some_iff.1 hfound
      rw [List.mem_singleton.1 hmem]
      exact Field.newline_not_mem_ctypesLine? (hfields f hf).1 honly

theorem AddressMap.Unbroken.newline_not_mem_cLines (h : m.Unbroken) :
    ∀ line ∈ m.layout.cLines, '\n' ∉ line := by
  have hstructs : ∀ line ∈ m.layout.structs.flatMap StructDecl.cLines, '\n' ∉ line := by
    intro line hline
    obtain ⟨_, hdecl, hline⟩ := List.mem_flatMap.1 hline
    obtain ⟨e, he, rfl⟩ := List.mem_map.1 hdecl
    obtain ⟨hname, hfields⟩ := h e (List.mem_of_mem_filter he)
    exact Entry.newline_not_mem_cLines hname hfields line hline
  have hmembers : ∀ line ∈ m.layout.cMembers, '\n' ∉ line := by
    refine List.forall_mem_cons.2 ⟨by decide, List.forall_mem_append.2 ⟨fun line hline => ?_,
      List.forall_mem_singleton.2 (by decide)⟩⟩
    obtain ⟨_, hmember, rfl⟩ := List.mem_map.1 hline
    obtain ⟨e, he, rfl⟩ := List.mem_map.1 hmember
    have hname := (h e he).1
    exact not_mem_append (not_mem_append (not_mem_append (not_mem_append (by decide)
      (newline_not_mem_bandName hname)) (by decide)) (newline_not_mem_snakeName hname)) (by decide)
  have hlength : '\n' ∉ m.layout.cLength :=
    not_mem_append (not_mem_append (by decide) (newline_not_mem_upperHex 4 _)) (by decide)
  refine List.forall_mem_append.2 ⟨List.forall_mem_append.2 ⟨hstructs,
    List.forall_mem_cons.2 ⟨List.not_mem_nil, hmembers⟩⟩, ?_⟩
  exact List.forall_mem_cons.2 ⟨List.not_mem_nil, List.forall_mem_singleton.2 hlength⟩

theorem AddressMap.Unbroken.newline_not_mem_ctypesLines? (h : m.Unbroken) {lines : List Text}
    (hlines : m.layout.ctypesLines? = some lines) : ∀ line ∈ lines, '\n' ∉ line := by
  obtain ⟨structs, hstructs, rfl⟩ := Option.map_eq_some_iff.1 hlines
  refine List.forall_mem_append.2 ⟨fun line hline => ?_, List.forall_mem_cons.2
    ⟨List.not_mem_nil, List.forall_mem_cons.2 ⟨by decide, List.forall_mem_cons.2 ⟨by decide,
      List.forall_mem_append.2 ⟨fun line hline => ?_, List.forall_mem_singleton.2 (by decide)⟩⟩⟩⟩⟩
  · obtain ⟨_, hdecl, found, hfound, hmem⟩ := exists_of_mem_linesOf? hstructs hline
    obtain ⟨e, he, rfl⟩ := List.mem_map.1 hdecl
    obtain ⟨hname, hfields⟩ := h e (List.mem_of_mem_filter he)
    exact Entry.newline_not_mem_ctypesLines? hname hfields hfound line hmem
  · obtain ⟨_, hmember, rfl⟩ := List.mem_map.1 hline
    obtain ⟨e, he, rfl⟩ := List.mem_map.1 hmember
    have hname := (h e he).1
    exact not_mem_append (not_mem_append (not_mem_append (not_mem_append (by decide)
      (newline_not_mem_snakeName hname)) (by decide)) (newline_not_mem_bandName hname)) (by decide)

end Declared

section Printed
variable {bodies : List Text}

/-- Lines without a line feed are printed as the lines of the text, without the blanks at their
ends. -/
theorem lines_normalize_unlines (hne : bodies ≠ []) (h : ∀ body ∈ bodies, '\n' ∉ body) :
    (normalize (Text.unlines bodies)).lines = bodies.map fun body => trimEnd body ++ ['\n'] := by
  have hunlines : Text.unlines bodies ≠ [] := by
    obtain ⟨body, bodies, rfl⟩ := List.exists_cons_of_ne_nil hne
    simp [Text.unlines]
  rw [lines_normalize, trimmedLines_of_ne_nil hunlines, Text.lines_unlines h, List.map_map,
    List.map_map]
  refine List.map_congr_left fun body _ => ?_
  rw [Function.comp_apply, Function.comp_apply, Text.trimEnd_append_newline]

end Printed

end MapLoom
