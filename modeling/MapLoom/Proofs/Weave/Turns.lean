import MapLoom.Proofs.Text.Lines
import MapLoom.Weave.Scan

set_option autoImplicit false

/-!
# Markers in turn

A scan accepts a text when its marker lines take turns, an opening one first, and every opening one
names a generator. The state of a scan says no more than that: the markers so far are in turn, and
a block is open after an odd number of them. So the first line out of turn is where a scan fails,
and the pairs of markers are its blocks.
-/
namespace MapLoom
open Text

/-- The marker lines among lines that are counted from `i` on, each with its number. -/
def markersFrom (sentinel : Text) (i : Nat) (lines : List Text) : List (Text × Nat) :=
  (lines.zipIdx i).filter fun m => LineKind.ofLine sentinel m.1 ≠ .hand

/-- Whether a line may be the marker after `n` others: opening and closing markers take turns, an
opening one comes first, and each opening one names a generator. -/
def InTurn (sentinel : Text) (n : Nat) (line : Text) : Prop :=
  if n % 2 = 0 then LineKind.ofLine sentinel line = .opening ∧ ∃ tag, markerTag line = .ok tag
  else LineKind.ofLine sentinel line = .closing

def Alternates (sentinel : Text) (markers : List (Text × Nat)) : Prop :=
  ∀ n m, markers[n]? = some m → InTurn sentinel n m.1

/-- What is wrong with a line as the next marker. A block is open after an odd number of markers. -/
inductive Breaks (sentinel : Text) (markers : List (Text × Nat)) (line : Text) : BlockFault → Prop
  | nested {opening : Text} {start : Nat} (odd : markers.length % 2 = 1)
      (last : markers.getLast? = some (opening, start))
      (kind : LineKind.ofLine sentinel line = .opening) :
      Breaks sentinel markers line (.nested start)
  | untagged {fault : BlockFault} (even : markers.length % 2 = 0)
      (kind : LineKind.ofLine sentinel line = .opening) (tag : markerTag line = .error fault) :
      Breaks sentinel markers line fault
  | stray (even : markers.length % 2 = 0) (kind : LineKind.ofLine sentinel line = .closing) :
      Breaks sentinel markers line .neverOpened
  | malformed (kind : LineKind.ofLine sentinel line = .malformed) :
      Breaks sentinel markers line .noBrace

/-- Whether the blocks are those of an opening and a closing marker each. -/
inductive Paired : List (Text × Nat) → List Block → Prop
  | nil : Paired [] []
  | cons {opening closing tag : Text} {start stop : Nat} {markers : List (Text × Nat)}
      {blocks : List Block} (named : markerTag opening = .ok tag) (rest : Paired markers blocks) :
      Paired ((opening, start) :: (closing, stop) :: markers) (⟨start, stop, tag⟩ :: blocks)

/-- Whether an error tells the first line that breaks the turns, and what is wrong with it. -/
def FirstBreak (sentinel : Text) (lines : List Text) (e : BlockError) : Prop :=
  ∃ before line after, lines = before ++ line :: after ∧ e.line = before.length ∧
    Alternates sentinel (markersFrom sentinel 0 before) ∧
    Breaks sentinel (markersFrom sentinel 0 before) line e.fault

section
variable {sentinel line : Text} {lines : List Text} {i : Nat} {markers : List (Text × Nat)}

theorem markersFrom_cons_hand (h : LineKind.ofLine sentinel line = .hand) :
    markersFrom sentinel i (line :: lines) = markersFrom sentinel (i + 1) lines := by
  simp [markersFrom, h]

theorem markersFrom_cons_marker (h : LineKind.ofLine sentinel line ≠ .hand) :
    markersFrom sentinel i (line :: lines) = (line, i) :: markersFrom sentinel (i + 1) lines := by
  simp [markersFrom, h]

theorem markersFrom_append (i : Nat) (a b : List Text) :
    markersFrom sentinel i (a ++ b) =
      markersFrom sentinel i a ++ markersFrom sentinel (i + a.length) b := by
  rw [markersFrom, List.zipIdx_append, List.filter_append]
  rfl

theorem markersFrom_cons (i : Nat) (line : Text) (lines : List Text) :
    markersFrom sentinel i (line :: lines) =
      markersFrom sentinel i [line] ++ markersFrom sentinel (i + 1) lines :=
  markersFrom_append i [line] lines

theorem alternates_append_iff {others : List (Text × Nat)} :
    Alternates sentinel (markers ++ others) ↔
      Alternates sentinel markers ∧
        ∀ n m, others[n]? = some m → InTurn sentinel (markers.length + n) m.1 := by
  constructor
  · intro h
    refine ⟨fun n m hm => ?_, fun n m hm => ?_⟩
    · have hlt := (List.getElem?_eq_some_iff.1 hm).1
      exact h n m (by rwa [List.getElem?_append_left hlt])
    · refine h _ m ?_
      rwa [List.getElem?_append_right (Nat.le_add_right _ _), Nat.add_sub_cancel_left]
  · rintro ⟨hfirst, hothers⟩ n m hm
    by_cases hlt : n < markers.length
    · rw [List.getElem?_append_left hlt] at hm
      exact hfirst n m hm
    · have hle : markers.length ≤ n := by omega
      rw [List.getElem?_append_right hle] at hm
      have hturn := hothers _ m hm
      rwa [Nat.add_sub_cancel' hle] at hturn

theorem alternates_concat_iff :
    Alternates sentinel (markers ++ [(line, i)]) ↔
      Alternates sentinel markers ∧ InTurn sentinel markers.length line := by
  rw [alternates_append_iff]
  refine and_congr_right fun _ => ⟨fun h => h 0 _ rfl, fun h n m hm => ?_⟩
  obtain ⟨rfl, rfl⟩ : n = 0 ∧ (line, i) = m := by
    simpa [List.getElem?_singleton] using hm
  exact h

theorem Breaks.not_inTurn {fault : BlockFault} (h : Breaks sentinel markers line fault) :
    ¬ InTurn sentinel markers.length line := by
  unfold InTurn
  cases h with
  | nested hopen _ hkind => simp [hopen, hkind]
  | untagged hclosed _ htag => simp [hclosed, htag]
  | stray hclosed hkind => simp [hclosed, hkind]
  | malformed hkind => simp [hkind]

theorem Breaks.ne_hand {fault : BlockFault} (h : Breaks sentinel markers line fault) :
    LineKind.ofLine sentinel line ≠ .hand := by
  cases h <;> simp [*]

namespace ScanState

def next (sentinel : Text) (i : Nat) (line : Text) :
    ScanState → Except BlockFault ScanState
  | .outside =>
    match LineKind.ofLine sentinel line with
    | .hand => .ok .outside
    | .opening => (markerTag line).map (.inside i)
    | .closing => .error .neverOpened
    | .malformed => .error .noBrace
  | .inside start tag =>
    match LineKind.ofLine sentinel line with
    | .hand => .ok (.inside start tag)
    | .opening => .error (.nested start)
    | .closing => .ok .outside
    | .malformed => .error .noBrace

/-- Whether a state is that of a scan after some markers, all of them in turn. -/
def Tracks (sentinel : Text) (markers : List (Text × Nat)) : ScanState → Prop
  | .outside => Alternates sentinel markers ∧ markers.length % 2 = 0
  | .inside start tag => Alternates sentinel markers ∧ markers.length % 2 = 1 ∧
      ∃ opening, markers.getLast? = some (opening, start) ∧ markerTag opening = .ok tag

variable {st st' : ScanState}

theorem Tracks.alternates (h : st.Tracks sentinel markers) : Alternates sentinel markers := by
  cases st with
  | outside => exact h.1
  | inside => exact h.1

theorem next_eq_ok_cases (h : st.next sentinel i line = .ok st') :
    (LineKind.ofLine sentinel line = .hand ∧ st' = st) ∨
    (LineKind.ofLine sentinel line = .opening ∧ st = .outside ∧
      ∃ tag, markerTag line = .ok tag ∧ st' = .inside i tag) ∨
    (LineKind.ofLine sentinel line = .closing ∧ (∃ start tag, st = .inside start tag) ∧
      st' = .outside) := by
  cases st with
  | outside =>
    rw [next] at h
    cases hkind : LineKind.ofLine sentinel line with
    | hand => exact .inl ⟨rfl, by simpa [hkind] using h.symm⟩
    | opening =>
      cases htag : markerTag line with
      | error fault => simp [hkind, htag, Except.map] at h
      | ok tag =>
        have hst : st' = .inside i tag := by simpa [hkind, htag, Except.map] using h.symm
        exact .inr (.inl ⟨rfl, rfl, tag, rfl, hst⟩)
    | closing => simp [hkind] at h
    | malformed => simp [hkind] at h
  | inside start tag =>
    rw [next] at h
    cases hkind : LineKind.ofLine sentinel line with
    | hand => exact .inl ⟨rfl, by simpa [hkind] using h.symm⟩
    | opening => simp [hkind] at h
    | closing => exact .inr (.inr ⟨rfl, ⟨start, tag, rfl⟩, by simpa [hkind] using h.symm⟩)
    | malformed => simp [hkind] at h

theorem next_outside_eq_error_iff {fault : BlockFault} (hclosed : markers.length % 2 = 0) :
    next sentinel i line .outside = .error fault ↔ Breaks sentinel markers line fault := by
  constructor
  · intro h
    rw [next] at h
    cases hkind : LineKind.ofLine sentinel line with
    | hand => simp [hkind] at h
    | opening =>
      cases htag : markerTag line with
      | error f =>
        obtain rfl : f = fault := by simpa [hkind, htag, Except.map] using h
        exact .untagged hclosed hkind htag
      | ok tag => simp [hkind, htag, Except.map] at h
    | closing =>
      obtain rfl : BlockFault.neverOpened = fault := by simpa [hkind] using h
      exact .stray hclosed hkind
    | malformed =>
      obtain rfl : BlockFault.noBrace = fault := by simpa [hkind] using h
      exact .malformed hkind
  · intro h
    cases h with
    | nested hopen => omega
    | untagged _ hkind htag => simp [next, hkind, htag, Except.map]
    | stray _ hkind => simp [next, hkind]
    | malformed hkind => simp [next, hkind]

theorem next_inside_eq_error_iff {opening tag : Text} {start : Nat} {fault : BlockFault}
    (hopen : markers.length % 2 = 1) (hlast : markers.getLast? = some (opening, start)) :
    next sentinel i line (.inside start tag) = .error fault ↔
      Breaks sentinel markers line fault := by
  constructor
  · intro h
    rw [next] at h
    cases hkind : LineKind.ofLine sentinel line with
    | hand => simp [hkind] at h
    | opening =>
      obtain rfl : BlockFault.nested start = fault := by simpa [hkind] using h
      exact .nested hopen hlast hkind
    | closing => simp [hkind] at h
    | malformed =>
      obtain rfl : BlockFault.noBrace = fault := by simpa [hkind] using h
      exact .malformed hkind
  · intro h
    cases h with
    | nested _ hlast' hkind =>
      obtain ⟨-, rfl⟩ := Prod.mk.inj (Option.some.inj (hlast.symm.trans hlast'))
      simp [next, hkind]
    | untagged hclosed => omega
    | stray hclosed => omega
    | malformed hkind => simp [next, hkind]

theorem Tracks.next_eq_error_iff {fault : BlockFault} (h : st.Tracks sentinel markers) :
    st.next sentinel i line = .error fault ↔ Breaks sentinel markers line fault := by
  cases st with
  | outside => exact next_outside_eq_error_iff h.2
  | inside start tag =>
    obtain ⟨-, hopen, opening, hlast, -⟩ := h
    exact next_inside_eq_error_iff hopen hlast

theorem Tracks.next (h : st.Tracks sentinel markers) (hn : st.next sentinel i line = .ok st') :
    st'.Tracks sentinel (markers ++ markersFrom sentinel i [line]) := by
  rcases next_eq_ok_cases hn with ⟨hkind, rfl⟩ | ⟨hkind, rfl, tag, htag, rfl⟩ |
    ⟨hkind, ⟨start, tag, rfl⟩, rfl⟩
  · rw [markersFrom_cons_hand hkind]
    simpa [markersFrom] using h
  · obtain ⟨halt, hclosed⟩ := h
    have hmarker : markersFrom sentinel i [line] = [(line, i)] :=
      markersFrom_cons_marker (by simp [hkind])
    have hturn : InTurn sentinel markers.length line := by
      simpa [InTurn, hclosed] using ⟨hkind, tag, htag⟩
    rw [hmarker]
    refine ⟨alternates_concat_iff.2 ⟨halt, hturn⟩, ?_, line, by simp, htag⟩
    rw [List.length_append, List.length_singleton]
    omega
  · obtain ⟨halt, hopen, -⟩ := h
    have hmarker : markersFrom sentinel i [line] = [(line, i)] :=
      markersFrom_cons_marker (by simp [hkind])
    have hturn : InTurn sentinel markers.length line := by
      simpa [InTurn, hopen] using hkind
    rw [hmarker]
    refine ⟨alternates_concat_iff.2 ⟨halt, hturn⟩, ?_⟩
    rw [List.length_append, List.length_singleton]
    omega

def gather (sentinel : Text) (i : Nat) (line : Text) : ScanState → Scanned → Scanned
  | .outside, s =>
    match LineKind.ofLine sentinel line with
    | .opening => s.prependSpan line
    | _ => s.prepend line
  | .inside start tag, s =>
    match LineKind.ofLine sentinel line with
    | .closing => (s.prepend line).prependBlock ⟨start, i, tag⟩
    | _ => s

end ScanState

namespace Scanned
open ScanState
variable {st st' : ScanState} {e : BlockError} {r : Option Scanned}

theorem ofLines_cons (st : ScanState) (i : Nat) (line : Text) (lines : List Text) :
    ofLines sentinel st i (line :: lines) =
      match st.next sentinel i line with
      | .error fault => .error ⟨i, fault⟩
      | .ok st' =>
        (ofLines sentinel st' (i + 1) lines).map (·.map (st.gather sentinel i line)) := by
  cases st with
  | outside =>
    rw [ofLines, ScanState.next]
    unfold gather
    cases hkind : LineKind.ofLine sentinel line with
    | hand => rfl
    | opening => cases htag : markerTag line <;> simp only [Except.map]
    | closing => rfl
    | malformed => rfl
  | inside start tag =>
    rw [ofLines, ScanState.next]
    unfold gather
    cases hkind : LineKind.ofLine sentinel line with
    | hand =>
      dsimp only
      cases ofLines sentinel (.inside start tag) (i + 1) lines with
      | error e => rfl
      | ok r => cases r <;> rfl
    | opening => rfl
    | closing => rfl
    | malformed => rfl

theorem ofLines_cons_eq_error_iff :
    ofLines sentinel st i (line :: lines) = .error e ↔
      (st.next sentinel i line = .error e.fault ∧ i = e.line) ∨
        ∃ st', st.next sentinel i line = .ok st' ∧
          ofLines sentinel st' (i + 1) lines = .error e := by
  rw [ofLines_cons]
  cases st.next sentinel i line with
  | error fault =>
    obtain ⟨n, f⟩ := e
    simp [and_comm]
  | ok st' =>
    dsimp only
    cases hrest : ofLines sentinel st' (i + 1) lines <;> simp [Except.map, hrest]

theorem ofLines_cons_eq_ok (h : ofLines sentinel st i (line :: lines) = .ok r) :
    ∃ st' r', st.next sentinel i line = .ok st' ∧ ofLines sentinel st' (i + 1) lines = .ok r' ∧
      r = r'.map (st.gather sentinel i line) := by
  rw [ofLines_cons] at h
  cases hn : st.next sentinel i line with
  | error fault => simp [hn] at h
  | ok st' =>
    simp only [hn] at h
    cases hrest : ofLines sentinel st' (i + 1) lines with
    | error e => simp [hrest, Except.map] at h
    | ok r' => exact ⟨st', r', rfl, hrest, by simpa [hrest, Except.map] using h.symm⟩

theorem ofLines_eq_error_iff (h : st.Tracks sentinel markers) :
    ofLines sentinel st i lines = .error e ↔
      ∃ before line after, lines = before ++ line :: after ∧ e.line = i + before.length ∧
        Alternates sentinel (markers ++ markersFrom sentinel i before) ∧
        Breaks sentinel (markers ++ markersFrom sentinel i before) line e.fault := by
  -- each line that passes adds its marker to those that the state tracks
  induction lines generalizing st i markers with
  | nil => cases st <;> simp [ofLines]
  | cons l lines ih =>
    rw [ofLines_cons_eq_error_iff]
    constructor
    · rintro (⟨hn, hline⟩ | ⟨st', hn, hrest⟩)
      · refine ⟨[], l, lines, rfl, hline.symm, ?_, ?_⟩
        · simpa [markersFrom] using h.alternates
        · simpa [markersFrom] using h.next_eq_error_iff.1 hn
      · obtain ⟨before, line, after, rfl, hline, halt, hbreak⟩ := (ih (h.next hn)).1 hrest
        refine ⟨l :: before, line, after, rfl, ?_, ?_, ?_⟩
        · rw [hline, List.length_cons]
          omega
        · rwa [markersFrom_cons, ← List.append_assoc]
        · rwa [markersFrom_cons, ← List.append_assoc]
    · rintro ⟨before, line, after, hlines, hline, halt, hbreak⟩
      cases before with
      | nil =>
        obtain ⟨rfl, rfl⟩ := List.cons.inj hlines
        have hbreak' : Breaks sentinel markers l e.fault := by
          simpa [markersFrom] using hbreak
        exact .inl ⟨h.next_eq_error_iff.2 hbreak', hline.symm⟩
      | cons b before =>
        obtain ⟨rfl, rfl⟩ := List.cons.inj hlines
        rw [markersFrom_cons, ← List.append_assoc] at halt hbreak
        cases hn : st.next sentinel i l with
        | error fault =>
          -- the run would have stopped here, before the line that is said to be the first
          have hfirst := h.next_eq_error_iff.1 hn
          rw [markersFrom_cons_marker hfirst.ne_hand] at halt
          have hturn := (alternates_concat_iff.1 (alternates_append_iff.1 halt).1).2
          exact absurd hturn hfirst.not_inTurn
        | ok st' =>
          refine .inr ⟨st', rfl, (ih (h.next hn)).2 ⟨before, line, after, rfl, ?_, halt, hbreak⟩⟩
          rw [hline, List.length_cons]
          omega

theorem alternates_of_ofLines (h : st.Tracks sentinel markers)
    (hr : ofLines sentinel st i lines = .ok r) :
    Alternates sentinel (markers ++ markersFrom sentinel i lines) ∧
      (r = none ↔ (markers ++ markersFrom sentinel i lines).length % 2 = 1) := by
  induction lines generalizing st i markers r with
  | nil =>
    have hnil : markers ++ markersFrom sentinel i [] = markers := List.append_nil markers
    rw [hnil]
    cases st with
    | outside =>
      obtain rfl : some ⟨[], [[]]⟩ = r := Except.ok.inj hr
      refine ⟨h.1, iff_of_false (by simp) ?_⟩
      have hclosed := h.2
      omega
    | inside start tag =>
      obtain rfl : none = r := Except.ok.inj hr
      exact ⟨h.1, iff_of_true rfl h.2.1⟩
  | cons l lines ih =>
    obtain ⟨st', r', hn, hrest, rfl⟩ := ofLines_cons_eq_ok hr
    rw [markersFrom_cons, ← List.append_assoc, Option.map_eq_none_iff]
    exact ih (h.next hn) hrest

@[simp] theorem blocks_prepend (line : Text) (s : Scanned) :
    (s.prepend line).blocks = s.blocks := by
  unfold prepend
  split <;> rfl

/-- The opening marker that a state waits to pair. -/
def Pending : ScanState → List (Text × Nat) → Prop
  | .outside, pending => pending = []
  | .inside start tag, pending =>
    ∃ opening, pending = [(opening, start)] ∧ markerTag opening = .ok tag

theorem paired_of_ofLines {pending : List (Text × Nat)} {s : Scanned} (h : Pending st pending)
    (hr : ofLines sentinel st i lines = .ok (some s)) :
    Paired (pending ++ markersFrom sentinel i lines) s.blocks := by
  induction lines generalizing st i pending s with
  | nil =>
    cases st with
    | outside =>
      obtain rfl : ⟨[], [[]]⟩ = s := Option.some.inj (Except.ok.inj hr)
      rw [show pending = [] from h]
      exact .nil
    | inside => simp [ofLines] at hr
  | cons l lines ih =>
    obtain ⟨st', r', hn, hrest, hs⟩ := ofLines_cons_eq_ok hr
    obtain ⟨s', rfl, rfl⟩ := Option.map_eq_some_iff.1 hs.symm
    rcases next_eq_ok_cases hn with ⟨hkind, rfl⟩ | ⟨hkind, rfl, tag, htag, rfl⟩ |
      ⟨hkind, ⟨start, tag, rfl⟩, rfl⟩
    · have hblocks : (st'.gather sentinel i l s').blocks = s'.blocks := by
        cases st' <;> simp [gather, hkind]
      rw [markersFrom_cons_hand hkind, hblocks]
      exact ih h hrest
    · have hblocks : (gather sentinel i l .outside s').blocks = s'.blocks := by
        simp [gather, hkind, prependSpan]
      rw [show pending = [] from h, markersFrom_cons_marker (by simp [hkind]), hblocks]
      have hpending : Pending (.inside i tag) [(l, i)] := ⟨l, rfl, htag⟩
      exact ih hpending hrest
    · have hblocks : (gather sentinel i l (.inside start tag) s').blocks =
          ⟨start, i, tag⟩ :: s'.blocks := by
        simp [gather, hkind, prependBlock]
      obtain ⟨opening, rfl, htag⟩ := h
      rw [markersFrom_cons_marker (by simp [hkind]), hblocks]
      have hpending : Pending .outside [] := rfl
      exact .cons htag (ih hpending hrest)

end Scanned

theorem Alternates.getLast?_opening_iff {m : Text × Nat} (h : Alternates sentinel markers)
    (hlast : markers.getLast? = some m) :
    LineKind.ofLine sentinel m.1 = .opening ↔ markers.length % 2 = 1 := by
  have hpos : 0 < markers.length := by
    cases markers with
    | nil => simp at hlast
    | cons => simp
  rw [List.getLast?_eq_getElem?] at hlast
  have hturn := h _ m hlast
  unfold InTurn at hturn
  split at hturn
  · exact iff_of_true hturn.1 (by omega)
  · exact iff_of_false (by simp [hturn]) (by omega)

theorem tracks_nil : ScanState.outside.Tracks sentinel [] :=
  ⟨fun n m h => by simp at h, rfl⟩

theorem scan_eq_error_iff {t : Text} {e : BlockError} :
    scan sentinel t = .error e ↔ FirstBreak sentinel t.lines e := by
  have hscan : scan sentinel t = .error e ↔
      Scanned.ofLines sentinel .outside 0 t.lines = .error e := by
    rw [scan]
    cases Scanned.ofLines sentinel .outside 0 t.lines <;> simp [Except.map]
  rw [hscan, Scanned.ofLines_eq_error_iff tracks_nil, FirstBreak]
  simp only [List.nil_append, Nat.zero_add]

theorem alternates_of_scan {t : Text} {s : Scanned} (h : scan sentinel t = .ok s) :
    Alternates sentinel (markersFrom sentinel 0 t.lines) ∧
      ((markersFrom sentinel 0 t.lines).length % 2 = 1 ∧ s = ⟨[], [t]⟩ ∨
        (markersFrom sentinel 0 t.lines).length % 2 = 0 ∧
          Paired (markersFrom sentinel 0 t.lines) s.blocks) := by
  rw [scan] at h
  cases hr : Scanned.ofLines sentinel .outside 0 t.lines with
  | error e => simp [hr, Except.map] at h
  | ok r =>
    obtain ⟨halt, hopen⟩ := Scanned.alternates_of_ofLines tracks_nil hr
    rw [List.nil_append] at halt hopen
    refine ⟨halt, ?_⟩
    cases r with
    | none => exact .inl ⟨hopen.1 rfl, by simpa [hr, Except.map] using h.symm⟩
    | some s' =>
      obtain rfl : s' = s := by simpa [hr, Except.map] using h
      have hclosed : ¬ (markersFrom sentinel 0 t.lines).length % 2 = 1 :=
        fun hodd => absurd (hopen.2 hodd) (by simp)
      have hpending : Scanned.Pending .outside [] := rfl
      exact .inr ⟨by omega, by simpa using Scanned.paired_of_ofLines hpending hr⟩

theorem FirstBreak.not_alternates {e : BlockError} (h : FirstBreak sentinel lines e) :
    ¬ Alternates sentinel (markersFrom sentinel 0 lines) := by
  obtain ⟨before, line, after, rfl, -, -, hbreak⟩ := h
  intro halt
  rw [markersFrom_append, markersFrom_cons_marker hbreak.ne_hand, List.append_cons] at halt
  have hturn := (alternates_concat_iff.1 (alternates_append_iff.1 halt).1).2
  exact hbreak.not_inTurn hturn

theorem FirstBreak.replace_rest {t : Text} {e : BlockError} (h : FirstBreak sentinel t.lines e)
    (hline : t.lines[e.line]? = some line) (hend : line.getLast? = some '\n') (rest : Text) :
    FirstBreak sentinel (Text.lines ((t.lines.take (e.line + 1)).flatten ++ rest)) e := by
  obtain ⟨before, l, after, hlines, hcount, halt, hbreak⟩ := h
  obtain rfl : l = line := by simpa [hlines, hcount] using hline
  have hsplit : t.lines = (before ++ [l]) ++ after := by
    rw [hlines, List.append_cons]
  have htake : t.lines.take (e.line + 1) = before ++ [l] := by
    rw [hsplit, hcount, List.take_left']
    simp
  have hkept : Text.lines (before ++ [l]).flatten = before ++ [l] := (lines_split hsplit).1
  have hwhole : Whole (before ++ [l]).flatten :=
    .inr (by simp [List.getLast?_append, hend])
  refine ⟨before, l, rest.lines, ?_, hcount, halt, hbreak⟩
  rw [htake, lines_append hwhole, hkept, ← List.append_cons]

/-- A scan accepts a text when its markers are in turn. Then every pair of them is a block, unless
the last one opens a block that is never closed. Otherwise the scan names the first line that is
out of turn, whatever comes after it. -/
theorem scan_accepts_turns (sentinel t : Text) :
    ((∃ s, scan sentinel t = .ok s) ↔ Alternates sentinel (markersFrom sentinel 0 t.lines)) ∧
    (∀ s, scan sentinel t = .ok s →
      ((∀ m, (markersFrom sentinel 0 t.lines).getLast? = some m →
          LineKind.ofLine sentinel m.1 = .closing) →
        Paired (markersFrom sentinel 0 t.lines) s.blocks) ∧
      (∀ m, (markersFrom sentinel 0 t.lines).getLast? = some m →
        LineKind.ofLine sentinel m.1 = .opening → s = ⟨[], [t]⟩)) ∧
    (∀ e, scan sentinel t = .error e ↔ FirstBreak sentinel t.lines e) ∧
    (∀ e, scan sentinel t = .error e →
      ∀ line, t.lines[e.line]? = some line → line.getLast? = some '\n' →
        ∀ rest, scan sentinel ((t.lines.take (e.line + 1)).flatten ++ rest) = .error e) := by
  refine ⟨⟨fun ⟨s, hs⟩ => (alternates_of_scan hs).1, fun halt => ?_⟩, fun s hs => ?_,
    fun e => scan_eq_error_iff, fun e he line hline hend rest => ?_⟩
  · cases hs : scan sentinel t with
    | error e => exact absurd halt (scan_eq_error_iff.1 hs).not_alternates
    | ok s => exact ⟨s, rfl⟩
  · obtain ⟨halt, hcases⟩ := alternates_of_scan hs
    refine ⟨fun hclosing => ?_, fun m hlast hopening => ?_⟩
    · rcases hcases with ⟨hodd, -⟩ | ⟨-, hpaired⟩
      · have hne : markersFrom sentinel 0 t.lines ≠ [] := by
          intro hnil
          simp [hnil] at hodd
        have hlast := List.getLast?_eq_some_getLast hne
        have hopening := (halt.getLast?_opening_iff hlast).2 hodd
        simp [hclosing _ hlast] at hopening
      · exact hpaired
    · have hodd := (halt.getLast?_opening_iff hlast).1 hopening
      rcases hcases with ⟨-, hs⟩ | ⟨heven, -⟩
      · exact hs
      · omega
  · exact scan_eq_error_iff.2 ((scan_eq_error_iff.1 he).replace_rest hline hend rest)

end
end MapLoom
