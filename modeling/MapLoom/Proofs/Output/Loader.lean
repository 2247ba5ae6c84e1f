import Mathlib.Data.List.Fold
import Mathlib.Data.List.MinMax
import Mathlib.Order.Nat
import MapLoom.Proofs.Output.Interface
import MapLoom.Proofs.Output.OneLine
import MapLoom.Proofs.Schema.Ranges

set_option autoImplicit false

/-!
# The loader

The loader copies every entry of the page in ascending order, each with a comment before it. In an
accepted map the copied ranges have no byte in common, and end within the length that the header
gives. The text starts with an empty line. A name may be any text: the comments and the copies are a
line each when no name has a line feed, and the copies are the only calls when no name has a
parenthesis.
-/
namespace MapLoom
open Template (Bundled)
open Text (Numeral trimEnd)

/-- Whether a line copies so many bytes of the page, from an address on, to a member. -/
def Copies (line name : Text) (address length : Nat) : Prop :=
  ∃ start count, Numeral 16 start address ∧ Numeral 10 count length ∧
    line = "    memcpy(&calibration_v5." ++ name ++ ", calibration_page + 0x" ++ start ++ "u, " ++
      count ++ "u);"

def GivesLength (line : Text) (length : Nat) : Prop :=
  ∃ digits, Numeral 16 digits length ∧
    line = "#define EX10_CALIBRATION_V5_LENGTH 0x" ++ digits ++ "u"

theorem Entry.copies_copyLine (e : Entry) :
    Copies e.copyLine e.snakeName e.address.toNat e.length.toNat :=
  ⟨_, _, Text.numeral_upperHex 4 _, Text.numeral_ofNat _, rfl⟩

theorem Entry.trimEnd_rangeLine (e : Entry) : trimEnd e.rangeLine = e.rangeLine := by
  refine Text.trimEnd_eq_self fun c hc => ?_
  have hlast : e.rangeLine.getLast? = some ']' := by
    unfold rangeLine rangeText
    rw [← List.append_assoc]
    exact List.getLast?_concat
  rw [hlast] at hc
  cases hc
  decide

theorem Entry.trimEnd_copyLine (e : Entry) : trimEnd e.copyLine = e.copyLine := by
  refine Text.trimEnd_eq_self fun c hc => ?_
  have hlast : e.copyLine.getLast? = some ';' := by
    have hpiece : ("u);" : Text).getLast? = some ';' := by decide
    unfold copyLine
    rw [List.getLast?_append, hpiece, Option.some_or]
  rw [hlast] at hc
  cases hc
  decide

def AddressMap.loaderText (m : AddressMap) : Text :=
  normalize (Text.unlines ([] :: m.entries.flatMap fun e => [e.rangeLine, e.copyLine]))

theorem AddressMap.lines_loaderText {m : AddressMap} (h : ∀ e ∈ m.entries, '\n' ∉ e.name) :
    m.loaderText.lines =
      ([] :: m.entries.flatMap fun e => [e.rangeLine, e.copyLine]).map (· ++ ['\n']) := by
  have hlines : ∀ line ∈ [] :: m.entries.flatMap fun e => [e.rangeLine, e.copyLine],
      '\n' ∉ line ∧ trimEnd line = line := by
    refine List.forall_mem_cons.2 ⟨⟨List.not_mem_nil, rfl⟩, fun line hline => ?_⟩
    obtain ⟨e, he, hline⟩ := List.mem_flatMap.1 hline
    rcases List.mem_pair.1 hline with rfl | rfl
    · exact ⟨Entry.not_mem_rangeLine (by decide) (by decide) (h e he), e.trimEnd_rangeLine⟩
    · exact ⟨Entry.newline_not_mem_copyLine (h e he), e.trimEnd_copyLine⟩
  rw [loaderText, lines_normalize_unlines (List.cons_ne_nil _ _) fun line hline =>
    (hlines line hline).1]
  exact List.map_congr_left fun line hline => by rw [(hlines line hline).2]

theorem Entry.count_parenthesis_copyLine {e : Entry} (h : '(' ∉ e.name) :
    e.copyLine.count '(' = 1 := by
  have hname : '(' ∉ e.snakeName := fun hmem =>
    h (mem_of_mem_snakeName (by decide) (by decide) hmem)
  have hstart : '(' ∉ Text.upperHex 4 e.address.toNat :=
    (Text.numeral_upperHex 4 _).not_mem (by decide)
  have hcount : '(' ∉ Text.ofNat e.length.toNat := (Text.numeral_ofNat _).not_mem (by decide)
  have hcall : ("    memcpy(&calibration_v5." : Text).count '(' = 1 := by decide
  have hpage : (", calibration_page + 0x" : Text).count '(' = 0 := by decide
  have hcomma : ("u, " : Text).count '(' = 0 := by decide
  have hclose : ("u);" : Text).count '(' = 0 := by decide
  unfold copyLine
  generalize e.snakeName = name at hname ⊢
  generalize Text.upperHex 4 e.address.toNat = start at hstart ⊢
  generalize Text.ofNat e.length.toNat = count at hcount ⊢
  rw [List.count_append, List.count_append, List.count_append, List.count_append,
    List.count_append, List.count_append, List.count_eq_zero.2 hname,
    List.count_eq_zero.2 hstart, List.count_eq_zero.2 hcount, hcall, hpage, hcomma, hclose]

theorem AddressMap.calls_loaderText {m : AddressMap}
    (h : ∀ e ∈ m.entries, '\n' ∉ e.name ∧ '(' ∉ e.name) :
    m.loaderText.lines.filter (fun line => '(' ∈ line) =
      m.entries.map fun e => e.copyLine ++ ['\n'] := by
  have hentry : ∀ e ∈ m.entries, [e.rangeLine, e.copyLine].filter (fun line => '(' ∈ line) =
      [e.copyLine] := by
    intro e he
    have hrange := Entry.not_mem_rangeLine (by decide) (by decide) (h e he).2
    have hcopy : '(' ∈ e.copyLine := List.count_pos_iff.1 (by
      rw [Entry.count_parenthesis_copyLine (h e he).2]
      exact Nat.one_pos)
    simp [hrange, hcopy]
  have hfeed : ∀ line : Text, decide ('(' ∈ line ++ ['\n']) = decide ('(' ∈ line) := by
    intro line
    simp
  rw [lines_loaderText fun e he => (h e he).1, List.filter_map]
  simp only [Function.comp_def, hfeed]
  rw [List.filter_cons_of_neg (by simp), List.filter_flatMap, List.flatMap_congr hentry,
    ← List.map_eq_flatMap, List.map_map]
  rfl

theorem Layout.givesLength_cLength (l : Layout) : GivesLength l.cLength l.length.toNat :=
  ⟨_, Text.numeral_upperHex 4 _, rfl⟩

theorem Layout.exists_cLines_eq (l : Layout) : ∃ lines, l.cLines = lines ++ [l.cLength] :=
  ⟨l.structs.flatMap StructDecl.cLines ++ [] :: l.cMembers ++ [[]], by simp [Layout.cLines]⟩

theorem Modules.UsesBundled.render_loader {ms : Modules} (h : ms.UsesBundled .loader)
    (source : SchemaSource) :
    ms.render Bundled.loader.tag source = .ok source.map.loaderText := by
  refine eq_ok_of_toOption ?_
  rw [h.render_toOption, Bundled.nodes, Template.render_loader]
  rfl

theorem Entry.stop_le_totalLength {m : AddressMap} {e : Entry}
    (hproper : ∀ e ∈ m.entries, e.Proper) (he : e ∈ m.entries) : e.stop ≤ m.totalLength.toNat := by
  rw [AddressMap.totalLength_toNat hproper, greatest, List.foldl_eq_foldr]
  exact List.le_max_of_le (List.mem_map_of_mem he) (Nat.le_refl _)

section Bands
open AddressMap (bandTree)

def bandCopies : List Text :=
  ["    // Lower: [0x0000:0x0003]",
    "    memcpy(&calibration_v5.lower, calibration_page + 0x0000u, 4u);",
    "    // Upper: [0x0004:0x0005]",
    "    memcpy(&calibration_v5.upper, calibration_page + 0x0004u, 2u);"]

theorem exists_load_bands : ∃ m, AddressMap.load bandTree "/bands" none = .ok m ∧
    (m.entries.flatMap fun e => [e.rangeLine, e.copyLine]) = bandCopies ∧
    ∀ e ∈ m.entries, '\n' ∉ e.name ∧ '(' ∉ e.name := by
  have hcopies : ((AddressMap.load bandTree "/bands" none).toOption.any fun m => decide (
      (m.entries.flatMap fun e => [e.rangeLine, e.copyLine]) = bandCopies ∧
        ∀ e ∈ m.entries, '\n' ∉ e.name ∧ '(' ∉ e.name)) = true := by decide +kernel
  obtain ⟨m, hload, hparts⟩ := exists_ok_of_any hcopies
  exact ⟨m, hload, of_decide_eq_true hparts⟩

/-- A quoted name of three lines, the second of which is the copy of another entry. -/
def copyingName : Text :=
  "\"Lower\\n    memcpy(&calibration_v5.upper, calibration_page + 0x0004u, 4u);\\n\""

end Bands

end MapLoom
