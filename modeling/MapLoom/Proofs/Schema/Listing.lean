import MapLoom.Proofs.Schema.Indentation
import MapLoom.Proofs.Text.LineFeeds
import MapLoom.Proofs.Text.Numeral

set_option autoImplicit false

/-!
# What printed forms keep

The printed form of an entry holds its header as it is, and then the printed forms of its fields
with four spaces before each line. Trimming takes blanks from the end of what is printed of a field
and from the end of a description, and nothing else.
-/
namespace MapLoom
open Text

/-- Whether a text ends with one line feed, after a character that is not blank. -/
def Finished (t : Text) : Prop := ∃ body c, t = body ++ [c, '\n'] ∧ isBlank c = false

/-- The lines of a field, up to its description. -/
def Field.properties (f : Field) : Text :=
  "name: " ++ f.name ++ "\n" ++
  labelled "brief: " f.brief ++
  "pos:  " ++ (Text.ofNat f.pos.toNat).leftpad 2 ' ' ++ "\n" ++
  "bits: " ++ (Text.ofNat f.bits.toNat).leftpad 2 ' ' ++ "\n" ++
  labelled "resolve_as: " f.resolveAs ++
  (if f.isArray then "num_entries: " ++ Text.ofNat f.numEntries.toNat ++ "\n" else [])

/-- The fields as an entry prints them: a heading, and their printed forms after four spaces. -/
def fieldLines (fields : List Field) : Text :=
  if fields = [] then [] else "fields:\n" ++ fields.flatMap fun f => shifted f.listing

/-- A description as it is printed: a heading, and the lines of the text after four spaces. -/
def remark (body : Text) : Text :=
  "description:\n" ++ if body = [] then [] else shifted (body ++ ['\n'])

section
variable {t body : Text} {c : Char}

theorem finished_of_getLast? (h : body.getLast? = some c) (hc : isBlank c = false) :
    Finished (body ++ ['\n']) := by
  obtain ⟨init, rfl⟩ := List.getLast?_eq_some_iff.1 h
  exact ⟨init, c, (List.append_cons init c _).symm, hc⟩

theorem finished_trimEnd (h : trimEnd t ≠ []) : Finished (trimEnd t ++ ['\n']) := by
  obtain ⟨c, hc⟩ := Option.ne_none_iff_exists'.1 (mt List.getLast?_eq_none_iff.1 h)
  exact finished_of_getLast? hc (not_isBlank_of_getLast?_trimEnd hc)

theorem Finished.append (h : Finished t) (s : Text) : Finished (s ++ t) := by
  obtain ⟨body, c, rfl, hc⟩ := h
  exact ⟨s ++ body, c, (List.append_assoc s body _).symm, hc⟩

theorem Finished.shifted (h : Finished t) : Finished (shifted t) := by
  obtain ⟨body, c, rfl, hc⟩ := h
  rw [List.append_cons, ← padded_append_newline_eq_shifted,
    padded_concat (ne_newline_of_not_isBlank hc)]
  exact ⟨padded body, c, (List.append_cons _ c _).symm, hc⟩

theorem Finished.trimEnd_append (h : Finished t) : trimEnd t ++ ['\n'] = t := by
  obtain ⟨body, c, rfl, hc⟩ := h
  have hlast : ∀ d ∈ (body ++ [c]).getLast?, isBlank d = false := by
    intro d hd
    rw [List.getLast?_concat] at hd
    rwa [← Option.some.inj hd]
  rw [List.append_cons body c, trimEnd_line hlast]

theorem Finished.endsOnce (h : Finished t) : EndsOnce t := by
  obtain ⟨body, c, rfl, hc⟩ := h
  exact ⟨body, c, rfl, ne_newline_of_not_isBlank hc⟩

theorem trim_cons (h : isBlank c = false) (t : Text) : trim (c :: t) = trimEnd (c :: t) := by
  rw [trim, trimStart_eq_self]
  rintro d hd
  rwa [← Option.some.inj hd]

theorem finished_remark (t : Text) : Finished (remark (trimEnd t)) := by
  unfold remark
  split
  · exact ⟨"description", ':', rfl, by decide⟩
  · rename_i hne
    exact (finished_trimEnd hne).shifted.append _

theorem trimEnd_described (s : Text) {t : Text} (h : t ≠ []) :
    trimEnd (s ++ described t) ++ ['\n'] = s ++ remark (trimEnd t) := by
  have hdescribed : trimEnd (s ++ described t) =
      trimEnd (s ++ "description:\n" ++ padded (trimEnd t)) := by
    rw [described, if_neg h, ← List.append_assoc, trimEnd_append_indent]
  have hremark : trimEnd (s ++ "description:\n" ++ padded (trimEnd t)) =
      trimEnd (s ++ remark (trimEnd t)) := by
    unfold remark
    split
    · rename_i hnil
      have hspaces : ∀ c ∈ padded [], isBlank c = true := List.all_eq_true.1 rfl
      rw [hnil, trimEnd_append hspaces, List.append_nil]
    · rw [← padded_append_newline_eq_shifted, ← List.append_assoc, ← List.append_assoc,
        trimEnd_append_newline]
  rw [hdescribed, hremark]
  exact ((finished_remark t).append s).trimEnd_append

end

namespace Field

theorem listing_eq (f : Field) :
    f.listing = trimEnd (f.properties ++ described f.description) ++ ['\n'] := by
  have hname : isBlank 'n' = false := by decide
  exact congrArg (· ++ ['\n']) (trim_cons hname _)

theorem finished_listing (f : Field) : Finished f.listing := by
  rw [listing_eq]
  refine finished_trimEnd fun hnil => ?_
  have hname := trimEnd_eq_nil_iff.1 hnil 'n' List.mem_cons_self
  exact absurd hname (by decide)

theorem indent_listing (f : Field) : indent f.listing = shifted f.listing := by
  rw [listing_eq, indent_eq_shifted]

end Field

namespace Entry

theorem trim_header_append (e : Entry) (t : Text) :
    trim (e.header ++ t) = trimEnd (e.header ++ t) := by
  have hname : isBlank 'n' = false := by decide
  exact trim_cons hname _

theorem finished_header (e : Entry) : Finished e.header := by
  have hdigits := numeral_hex 4 e.length.toNat
  obtain ⟨c, hc⟩ := Option.ne_none_iff_exists'.1 (mt List.getLast?_eq_none_iff.1 hdigits.ne_nil)
  have hblank := hdigits.not_isBlank (by decide) c (List.mem_of_getLast? hc)
  unfold header
  rw [List.append_assoc]
  exact (finished_of_getLast? hc hblank).append _

theorem finished_fieldLines (e : Entry) : Finished (e.header ++ fieldLines e.fields) := by
  unfold fieldLines
  split
  · rw [List.append_nil]
    exact e.finished_header
  · rename_i hne
    obtain ⟨init, last, hfields⟩ := (List.eq_nil_or_concat' e.fields).resolve_left hne
    rw [hfields, List.flatMap_append, List.flatMap_singleton]
    exact ((last.finished_listing.shifted.append _).append _).append _

/-- The fields are printed in full: trimming takes the last line feed, which is put back. -/
theorem fields_eq (e : Entry) : (if e.fields = [] then e.header
    else (e.header ++ "fields:\n" ++ (e.fields.map (indent ·.listing)).flatten).trim ++ "\n") =
    e.header ++ fieldLines e.fields := by
  have hfinished := e.finished_fieldLines
  unfold fieldLines at hfinished ⊢
  split
  · rw [List.append_nil]
  · rename_i hne
    rw [if_neg hne] at hfinished
    have hlines : (e.fields.map (indent ·.listing)).flatten =
        e.fields.flatMap fun f => shifted f.listing := by
      simp only [Field.indent_listing, List.flatMap_def]
    rw [hlines, List.append_assoc, trim_header_append]
    exact hfinished.trimEnd_append

theorem listing_eq (e : Entry) : e.listing = e.header ++ fieldLines e.fields ++
    if e.description = [] then [] else remark (trimEnd e.description) := by
  unfold listing
  dsimp only
  rw [fields_eq]
  split
  · rw [List.append_nil]
  · rename_i hne
    rw [List.append_assoc, trim_header_append, ← List.append_assoc]
    exact trimEnd_described _ hne

theorem finished_listing (e : Entry) : Finished e.listing := by
  rw [listing_eq]
  split
  · rw [List.append_nil]
    exact e.finished_fieldLines
  · exact (finished_remark _).append _

end Entry

/-- The printed form of an entry holds its header and the printed forms of its fields in full, the
latter with four spaces before each line. Of a description, and of all that is to be printed of a
field, only blanks at the end are lost. Indenting can be undone, because it adds the spaces before
every piece between line feeds but an empty last one. -/
theorem listing_keeps_fields (e : Entry) :
    (∃ body, Stripped e.description body ∧ e.listing =
      e.header ++ fieldLines e.fields ++ if e.description = [] then [] else remark body) ∧
    (∀ f : Field, ∃ body, Stripped (f.properties ++ described f.description) body ∧
      f.listing = body ++ ['\n']) ∧
    (∀ t, (∃ before last, t.splitAt '\n' = before ++ [last] ∧
      (indent t).splitAt '\n' = before.map (("    " : Text) ++ ·) ++
        [if last = [] ∧ before ≠ [] then [] else ("    " : Text) ++ last]) ∧
      outdent (indent t) = t) ∧
    EndsOnce e.listing := by
  refine ⟨⟨_, stripped_trimEnd e.description, e.listing_eq⟩, fun f => ?_, fun t => ?_,
    e.finished_listing.endsOnce⟩
  · exact ⟨_, stripped_trimEnd _, f.listing_eq⟩
  · exact ⟨splitAt_indent t, outdent_indent t⟩

example : Entry.listing
    ⟨"Gain", 16, 2, [⟨"Step", 0, 8, "uint8_t ", 0, .integer 0, [], []⟩,
      ⟨"Base", 8, 8, "int8_t", 0, .integer 0, [], "a\n\n b \n"⟩], [], " \n"⟩ =
    ("name:      Gain\naddress:   0x0010\nlength:    0x0002\nfields:\n" ++
      "    name: Step\n    pos:   0\n    bits:  8\n    resolve_as: uint8_t\n" ++
      "    name: Base\n    pos:   8\n    bits:  8\n    resolve_as: int8_t\n" ++
      "    description:\n        a\n        \n         b\ndescription:\n" : Text) := by
  decide +kernel

end MapLoom
