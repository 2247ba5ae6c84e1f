import MapLoom.Proofs.Weave.Gate
import MapLoom.Proofs.Weave.Turns

set_option autoImplicit false

/-!
# Pairs of markers

Markers in turn are pairs of an opening and a closing one, with or without one opening marker more
after them. In a text with markers a scan comes to one block for each pair, or to none because the
last marker is left open.
-/
namespace MapLoom

/-- Whether markers are so many pairs of an opening and a closing one. -/
inductive Balanced (sentinel : Text) : List (Text × Nat) → Nat → Prop
  | nil : Balanced sentinel [] 0
  | pair {opening closing : Text × Nat} {markers : List (Text × Nat)} {n : Nat}
      (opens : LineKind.ofLine sentinel opening.1 = .opening)
      (closes : LineKind.ofLine sentinel closing.1 = .closing)
      (rest : Balanced sentinel markers n) :
      Balanced sentinel (opening :: closing :: markers) (n + 1)

/-- Whether markers are pairs and, after them, one opening marker that is never closed. -/
def Dangling (sentinel : Text) (markers : List (Text × Nat)) : Prop :=
  ∃ pairs n last, markers = pairs ++ [last] ∧ Balanced sentinel pairs n ∧
    LineKind.ofLine sentinel last.1 = .opening

/-- Whether every opening marker names a generator. -/
def Named (sentinel : Text) (markers : List (Text × Nat)) : Prop :=
  ∀ m ∈ markers, LineKind.ofLine sentinel m.1 = .opening → ∃ tag, markerTag m.1 = .ok tag

section
variable {sentinel : Text} {markers : List (Text × Nat)} {n : Nat}

theorem Balanced.length_eq (h : Balanced sentinel markers n) : markers.length = 2 * n := by
  induction h with
  | nil => rfl
  | pair _ _ _ ih =>
    simp only [List.length_cons]
    omega

theorem Paired.length_eq {blocks : List Block} (h : Paired markers blocks) :
    markers.length = 2 * blocks.length := by
  induction h with
  | nil => rfl
  | cons _ _ ih =>
    simp only [List.length_cons]
    omega

theorem inTurn_add_two_iff {line : Text} :
    InTurn sentinel (2 + n) line ↔ InTurn sentinel n line := by
  unfold InTurn
  rw [Nat.add_mod_left]

theorem alternates_pair_iff {opening closing : Text × Nat} :
    Alternates sentinel (opening :: closing :: markers) ↔
      InTurn sentinel 0 opening.1 ∧ InTurn sentinel 1 closing.1 ∧ Alternates sentinel markers := by
  have hnil : Alternates sentinel [] := tracks_nil.1
  have hfirst : Alternates sentinel [opening] ↔ InTurn sentinel 0 opening.1 := by
    simpa [hnil] using @alternates_concat_iff sentinel opening.1 opening.2 []
  have hpair : Alternates sentinel [opening, closing] ↔
      InTurn sentinel 0 opening.1 ∧ InTurn sentinel 1 closing.1 := by
    rw [← hfirst]
    exact @alternates_concat_iff sentinel closing.1 closing.2 [opening]
  have hsplit : opening :: closing :: markers = [opening, closing] ++ markers := rfl
  rw [hsplit, alternates_append_iff, hpair, and_assoc]
  refine and_congr_right fun _ => and_congr_right fun _ => ?_
  exact forall₃_congr fun n m _ => inTurn_add_two_iff

theorem alternates_even_iff : ∀ markers : List (Text × Nat),
    Alternates sentinel markers ∧ markers.length % 2 = 0 ↔
      (∃ n, Balanced sentinel markers n) ∧ Named sentinel markers
  | [] => iff_of_true ⟨tracks_nil.1, rfl⟩ ⟨⟨0, .nil⟩, by simp [Named]⟩
  | [m] => by
    refine iff_of_false (by simp) ?_
    rintro ⟨⟨n, ⟨⟩⟩, -⟩
  | opening :: closing :: markers => by
    have ih := alternates_even_iff markers
    have hlength : (opening :: closing :: markers).length % 2 = markers.length % 2 := by
      simp only [List.length_cons]
      omega
    rw [alternates_pair_iff, hlength]
    constructor
    · rintro ⟨⟨⟨hopens, htag⟩, hcloses, halt⟩, heven⟩
      obtain ⟨⟨n, hrest⟩, hnamed⟩ := ih.1 ⟨halt, heven⟩
      have hcloses : LineKind.ofLine sentinel closing.1 = .closing := hcloses
      refine ⟨⟨n + 1, .pair hopens hcloses hrest⟩, ?_⟩
      simpa [Named, hcloses, htag] using fun a b hm => hnamed (a, b) hm
    · rintro ⟨⟨_, hbalanced⟩, hnamed⟩
      cases hbalanced with
      | pair hopens hcloses hrest =>
        have hnamed' : Named sentinel markers := fun m hm =>
          hnamed m (List.mem_cons_of_mem _ (List.mem_cons_of_mem _ hm))
        obtain ⟨halt, heven⟩ := ih.2 ⟨⟨_, hrest⟩, hnamed'⟩
        exact ⟨⟨⟨hopens, hnamed _ List.mem_cons_self hopens⟩, hcloses, halt⟩, heven⟩

theorem alternates_odd_iff :
    Alternates sentinel markers ∧ markers.length % 2 = 1 ↔
      Dangling sentinel markers ∧ Named sentinel markers := by
  have hconcat : ∀ pairs (last : Text × Nat), (pairs ++ [last]).length % 2 = 1 ↔
      pairs.length % 2 = 0 := by
    intro pairs last
    rw [List.length_append, List.length_singleton]
    omega
  constructor
  · rintro ⟨halt, hodd⟩
    rcases List.eq_nil_or_concat' markers with rfl | ⟨pairs, last, rfl⟩
    · simp at hodd
    · obtain ⟨hpairs, hturn⟩ := alternates_concat_iff.1 halt
      have heven := (hconcat pairs last).1 hodd
      obtain ⟨hopens, htag⟩ : LineKind.ofLine sentinel last.1 = .opening ∧
          ∃ tag, markerTag last.1 = .ok tag := by
        simpa [InTurn, heven] using hturn
      obtain ⟨⟨n, hbalanced⟩, hnamed⟩ := (alternates_even_iff pairs).1 ⟨hpairs, heven⟩
      refine ⟨⟨pairs, n, last, rfl, hbalanced, hopens⟩, fun m hm => ?_⟩
      rcases List.mem_append.1 hm with hm | hm
      · exact hnamed m hm
      · rw [List.mem_singleton.1 hm]
        exact fun _ => htag
  · rintro ⟨⟨pairs, n, last, rfl, hbalanced, hopens⟩, hnamed⟩
    have hnamed' : Named sentinel pairs := fun m hm => hnamed m (List.mem_append_left _ hm)
    obtain ⟨hpairs, heven⟩ := (alternates_even_iff pairs).2 ⟨⟨n, hbalanced⟩, hnamed'⟩
    have hturn : InTurn sentinel pairs.length last.1 := by
      simpa [InTurn, heven] using ⟨hopens, hnamed last (by simp) hopens⟩
    exact ⟨alternates_concat_iff.2 ⟨hpairs, hturn⟩, (hconcat pairs last).2 heven⟩

theorem markersFrom_ne_nil {t : Text} (hlf : '\n' ∉ sentinel) (h : hasMarker sentinel t = true) :
    markersFrom sentinel 0 t.lines ≠ [] := by
  rw [hasMarker_eq_any_lines hlf, List.any_eq_true] at h
  obtain ⟨line, hline, hfound⟩ := h
  have hkind : LineKind.ofLine sentinel line ≠ .hand := by
    rw [Ne, LineKind.ofLine_eq_hand_iff, hasInfix_of_hasMarker hfound]
    decide
  obtain ⟨before, after, hlines⟩ := List.append_of_mem hline
  rw [hlines, markersFrom_append, markersFrom_cons_marker hkind]
  simp

theorem scan_blocks_eq_nil_iff {t : Text} (hne : markersFrom sentinel 0 t.lines ≠ []) :
    (∃ s, scan sentinel t = .ok s ∧ s.blocks = []) ↔
      Dangling sentinel (markersFrom sentinel 0 t.lines) ∧
        Named sentinel (markersFrom sentinel 0 t.lines) := by
  rw [← alternates_odd_iff]
  constructor
  · rintro ⟨s, hscan, hblocks⟩
    obtain ⟨halt, ⟨hodd, -⟩ | ⟨-, hpaired⟩⟩ := alternates_of_scan hscan
    · exact ⟨halt, hodd⟩
    · have hlength := hpaired.length_eq
      rw [hblocks] at hlength
      exact absurd (List.length_eq_zero_iff.1 hlength) hne
  · rintro ⟨halt, hodd⟩
    cases hscan : scan sentinel t with
    | error e => exact absurd halt (scan_eq_error_iff.1 hscan).not_alternates
    | ok s =>
      obtain ⟨-, ⟨-, rfl⟩ | ⟨heven, -⟩⟩ := alternates_of_scan hscan
      · exact ⟨_, rfl, rfl⟩
      · omega

theorem length_blocks_of_balanced {t : Text} {s : Scanned} (hscan : scan sentinel t = .ok s)
    (h : Balanced sentinel (markersFrom sentinel 0 t.lines) n) : s.blocks.length = n := by
  have hlength := h.length_eq
  obtain ⟨-, ⟨hodd, -⟩ | ⟨-, hpaired⟩⟩ := alternates_of_scan hscan
  · omega
  · have hpairs := hpaired.length_eq
    omega

end
end MapLoom
