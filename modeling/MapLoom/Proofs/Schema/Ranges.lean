import MapLoom.Proofs.Schema.Reading
import MapLoom.Schema.Load

set_option autoImplicit false

/-!
# Ranges of accepted entries

Entries by address share no byte when each one begins only after its neighbour has ended, so the
comparison of neighbours decides about all pairs, in whatever order they were declared.
-/
namespace MapLoom
open Yaml (Value)

def Entry.stop (e : Entry) : Nat := e.address.toNat + e.length.toNat

/-- Whether an address is one of an entry's bytes. -/
def Entry.Covers (e : Entry) (n : Nat) : Prop := e.address.toNat ≤ n ∧ n < e.stop

def Entry.Apart (e f : Entry) : Prop := ∀ n, ¬ (e.Covers n ∧ f.Covers n)

/-- Whether entries all end within an address space, if its size is given. -/
def Within (size : Option UInt64) (entries : List Entry) : Prop :=
  ∀ s, size = some s → ∀ e ∈ entries, e.stop ≤ s.toNat

/-- Whether each entry begins only after all those before it have ended. -/
def Stacked (entries : List Entry) : Prop :=
  entries.Pairwise fun e f => e.stop ≤ f.address.toNat

/-- Where the last of some entries ends, or zero when there is none. -/
def lastStop (entries : List Entry) : Nat := (entries.getLast?.map Entry.stop).getD 0

/-- The greatest of some numbers, or zero when there is none. -/
def greatest (ns : List Nat) : Nat := ns.foldl max 0

def sumLengths : List Entry → Nat
  | [] => 0
  | e :: entries => e.length.toNat + sumLengths entries

section
variable {e f : Entry} {entries : List Entry}

theorem Entry.Proper.endAddress_toNat (h : e.Proper) : e.endAddress.toNat = e.stop := by
  have hlt := h.end_lt
  rw [Entry.endAddress, UInt64.toNat_add, Entry.stop]
  exact Nat.mod_eq_of_lt hlt

theorem Entry.Proper.lt_endAddress_iff (h : e.Proper) {a : UInt64} :
    a < e.endAddress ↔ a.toNat < e.stop := by
  rw [UInt64.lt_iff_toNat_lt, h.endAddress_toNat]

theorem Entry.Apart.symm (h : e.Apart f) : f.Apart e := fun n hn => h n hn.symm

theorem Entry.apart_iff_stop_le (hf : f.Proper) (hle : e.address ≤ f.address) :
    e.Apart f ↔ e.stop ≤ f.address.toNat := by
  have hpos := hf.length_pos
  have haddr := UInt64.le_iff_toNat_le.1 hle
  constructor
  · intro h
    refine Nat.le_of_not_lt fun hlt => ?_
    refine h f.address.toNat ⟨⟨haddr, hlt⟩, Nat.le_refl _, ?_⟩
    unfold Entry.stop
    omega
  · rintro h n ⟨⟨_, hbelow⟩, habove, _⟩
    omega

theorem placeEntry_perm (e : Entry) (entries : List Entry) :
    (placeEntry e entries).Perm (e :: entries) := by
  induction entries with
  | nil => exact List.Perm.refl _
  | cons f entries ih =>
    unfold placeEntry
    split
    · exact (ih.cons f).trans (List.Perm.swap e f entries)
    · exact List.Perm.refl _

theorem foldl_placeEntry_perm (entries placed : List Entry) :
    (entries.foldl (fun placed e => placeEntry e placed) placed).Perm (entries ++ placed) := by
  induction entries generalizing placed with
  | nil => exact List.Perm.refl _
  | cons e entries ih =>
    have hplace := (placeEntry_perm e placed).append_left entries
    exact (ih _).trans (hplace.trans List.perm_middle)

theorem sortEntries_perm (entries : List Entry) : (sortEntries entries).Perm entries := by
  have hperm := foldl_placeEntry_perm entries []
  rwa [List.append_nil] at hperm

theorem stacked_cons_cons_iff :
    Stacked (e :: f :: entries) ↔ e.stop ≤ f.address.toNat ∧ Stacked (f :: entries) := by
  constructor
  · intro h
    obtain ⟨hafter, hrest⟩ := List.pairwise_cons.1 h
    exact ⟨hafter f List.mem_cons_self, hrest⟩
  · rintro ⟨hle, hrest⟩
    refine List.pairwise_cons.2 ⟨fun g hg => ?_, hrest⟩
    rcases List.mem_cons.1 hg with rfl | hg
    · exact hle
    · have hfg := (List.pairwise_cons.1 hrest).1 g hg
      unfold Entry.stop at hfg
      omega

/-- The comparison of neighbours decides about all pairs. -/
theorem overlap?_eq_none_iff (hproper : ∀ e ∈ entries, e.Proper) :
    overlap? entries = none ↔ Stacked entries := by
  induction entries with
  | nil => exact iff_of_true rfl List.Pairwise.nil
  | cons e entries ih =>
    cases entries with
    | nil => exact iff_of_true rfl (List.pairwise_singleton _ _)
    | cons f entries =>
      have he := hproper e List.mem_cons_self
      have hrest := ih fun g hg => hproper g (List.mem_cons_of_mem _ hg)
      rw [overlap?, stacked_cons_cons_iff, ← hrest]
      by_cases hlt : f.address < e.endAddress
      · have hover := he.lt_endAddress_iff.1 hlt
        rw [if_pos hlt]
        refine iff_of_false (by simp) fun h => ?_
        omega
      · have hle := mt he.lt_endAddress_iff.2 hlt
        rw [if_neg hlt]
        exact (and_iff_right (Nat.le_of_not_lt hle)).symm

theorem exists_of_overlap?_eq_some (hproper : ∀ e ∈ entries, e.Proper)
    (h : overlap? entries = some (e, f)) :
    ∃ before after, entries = before ++ e :: f :: after ∧ Stacked (before ++ [e]) ∧
      f.address.toNat < e.stop := by
  induction entries with
  | nil => cases h
  | cons first entries ih =>
    cases entries with
    | nil => cases h
    | cons second entries =>
      have hfirst := hproper first List.mem_cons_self
      rw [overlap?] at h
      split at h
      · rename_i hlt
        cases h
        exact ⟨[], entries, rfl, List.pairwise_singleton _ _, hfirst.lt_endAddress_iff.1 hlt⟩
      · rename_i hlt
        have hle := Nat.le_of_not_lt (mt hfirst.lt_endAddress_iff.2 hlt)
        obtain ⟨before, after, hsplit, hstacked, hover⟩ :=
          ih (fun g hg => hproper g (List.mem_cons_of_mem _ hg)) h
        refine ⟨first :: before, after, by rw [hsplit, List.cons_append], ?_, hover⟩
        cases before with
        | nil =>
          obtain ⟨rfl, -⟩ := List.cons.inj hsplit
          exact stacked_cons_cons_iff.2 ⟨hle, hstacked⟩
        | cons head before =>
          obtain ⟨rfl, -⟩ := List.cons.inj hsplit
          exact stacked_cons_cons_iff.2 ⟨hle, hstacked⟩

theorem stacked_iff_apart (hasc : Ascending entries) (hproper : ∀ e ∈ entries, e.Proper) :
    Stacked entries ↔ entries.Pairwise Entry.Apart := by
  constructor
  · intro h
    refine (hasc.and h).imp_of_mem fun _ hf hef => ?_
    exact (Entry.apart_iff_stop_le (hproper _ hf) hef.1).2 hef.2
  · intro h
    refine (hasc.and h).imp_of_mem fun _ hf hef => ?_
    exact (Entry.apart_iff_stop_le (hproper _ hf) hef.1).1 hef.2

theorem checkOverlap_eq_ok_iff (hproper : ∀ e ∈ entries, e.Proper) :
    checkOverlap entries = .ok () ↔ entries.Pairwise Entry.Apart := by
  have hperm := sortEntries_perm entries
  have hsorted : ∀ e ∈ sortEntries entries, e.Proper :=
    fun e he => hproper e (hperm.mem_iff.1 he)
  rw [← hperm.pairwise_iff Entry.Apart.symm,
    ← stacked_iff_apart (ascending_sortEntries entries) hsorted, ← overlap?_eq_none_iff hsorted]
  unfold checkOverlap
  split
  · rename_i hover
    simp [hover]
  · rename_i hover
    exact iff_of_true rfl hover

theorem checkBounds_eq_ok_iff (hproper : ∀ e ∈ entries, e.Proper) (size : UInt64) :
    checkBounds entries size = .ok () ↔ ∀ e ∈ entries, e.stop ≤ size.toNat := by
  have hend : ∀ e ∈ entries, (size < e.endAddress ↔ size.toNat < e.stop) :=
    fun e he => (hproper e he).lt_endAddress_iff
  unfold checkBounds
  split
  · rename_i e hfind
    have hmem := List.mem_of_find?_eq_some hfind
    have hlt : size < e.endAddress := by simpa using List.find?_some hfind
    refine iff_of_false (by simp) fun h => ?_
    have hle := h e hmem
    have hover := (hend e hmem).1 hlt
    omega
  · rename_i hfind
    refine iff_of_true rfl fun e he => ?_
    have hnot : ¬ size < e.endAddress := by simpa using List.find?_eq_none.1 hfind e he
    have hle := mt (hend e he).2 hnot
    omega

theorem AddressMap.validate_eq_ok_iff {m : AddressMap} (hproper : ∀ e ∈ m.entries, e.Proper)
    (size : Option UInt64) :
    m.validate size = .ok () ↔ m.entries.Pairwise Entry.Apart ∧ Within size m.entries := by
  rw [← checkOverlap_eq_ok_iff hproper]
  unfold AddressMap.validate Within
  cases checkOverlap m.entries with
  | error e => simp
  | ok u =>
    cases size with
    | none => simp
    | some s => simp [checkBounds_eq_ok_iff hproper]

theorem Stacked.ascending (h : Stacked entries) (hproper : ∀ e ∈ entries, e.Proper) :
    entries.Pairwise fun e f => e.address < f.address := by
  refine h.imp_of_mem fun {e f} he _ hef => ?_
  have hpos := (hproper e he).length_pos
  rw [UInt64.lt_iff_toNat_lt]
  unfold Entry.stop at hef
  omega

theorem foldl_max_toNat (ws : List UInt64) (w : UInt64) :
    (ws.foldl max w).toNat = (ws.map UInt64.toNat).foldl max w.toNat := by
  induction ws generalizing w with
  | nil => rfl
  | cons x ws ih =>
    have hmax : (max w x).toNat = max w.toNat x.toNat := by
      by_cases hle : w ≤ x
      · have hle' := UInt64.le_iff_toNat_le.1 hle
        rw [Nat.max_eq_right hle']
        exact congrArg UInt64.toNat (if_pos hle)
      · have hle' := mt UInt64.le_iff_toNat_le.2 hle
        rw [Nat.max_eq_left (by omega)]
        exact congrArg UInt64.toNat (if_neg hle)
    rw [List.foldl_cons, ih, hmax]
    rfl

theorem AddressMap.totalLength_toNat {m : AddressMap} (hproper : ∀ e ∈ m.entries, e.Proper) :
    m.totalLength.toNat = greatest (m.entries.map Entry.stop) := by
  have hstops : (m.entries.map Entry.endAddress).map UInt64.toNat = m.entries.map Entry.stop := by
    rw [List.map_map]
    exact List.map_congr_left fun e he => (hproper e he).endAddress_toNat
  rw [totalLength, foldl_max_toNat, hstops]
  rfl

theorem foldl_max_stacked (h : Stacked entries) {n : Nat} (hn : ∀ e ∈ entries, n ≤ e.stop) :
    (entries.map Entry.stop).foldl max n = (entries.getLast?.map Entry.stop).getD n := by
  induction entries generalizing n with
  | nil => rfl
  | cons e entries ih =>
    obtain ⟨hafter, hrest⟩ := List.pairwise_cons.1 h
    have hgrow : ∀ f ∈ entries, e.stop ≤ f.stop := fun f hf =>
      Nat.le_trans (hafter f hf) (Nat.le_add_right _ _)
    rw [List.map_cons, List.foldl_cons, Nat.max_eq_right (hn e List.mem_cons_self), ih hrest hgrow,
      List.getLast?_cons]
    cases entries.getLast? <;> rfl

theorem AddressMap.totalLength_eq {m : AddressMap} (h : Stacked m.entries)
    (hproper : ∀ e ∈ m.entries, e.Proper) : m.totalLength.toNat = lastStop m.entries := by
  rw [totalLength_toNat hproper]
  exact foldl_max_stacked h fun _ _ => Nat.zero_le _

theorem address_add_sumLengths_le (h : Stacked (e :: entries)) :
    e.address.toNat + sumLengths (e :: entries) ≤ lastStop (e :: entries) := by
  induction entries generalizing e with
  | nil => exact Nat.le_refl _
  | cons f entries ih =>
    obtain ⟨hafter, hrest⟩ := List.pairwise_cons.1 h
    have htail := ih hrest
    have hstop := hafter f List.mem_cons_self
    have hlast : lastStop (e :: f :: entries) = lastStop (f :: entries) := by
      simp [lastStop]
    rw [hlast, sumLengths]
    unfold Entry.stop at hstop
    omega

theorem Stacked.sumLengths_le (h : Stacked entries) : sumLengths entries ≤ lastStop entries := by
  cases entries with
  | nil => exact Nat.le_refl _
  | cons e entries =>
    have hsum := address_add_sumLengths_le h
    omega

theorem lastStop_le {size : UInt64} (h : ∀ e ∈ entries, e.stop ≤ size.toNat) :
    lastStop entries ≤ size.toNat := by
  unfold lastStop
  cases hlast : entries.getLast? with
  | none => exact Nat.zero_le _
  | some e => exact h e (List.mem_of_getLast? hlast)

theorem Within.perm {size : Option UInt64} {others : List Entry} (h : entries.Perm others) :
    Within size entries ↔ Within size others :=
  forall₂_congr fun _ _ => forall_congr' fun _ => imp_congr_left h.mem_iff

namespace AddressMap

theorem ofValidValue_eq_ok_iff {v : Value} {size : Option UInt64} {m : AddressMap} :
    ofValidValue v size = .ok m ↔ ofValue v = .ok m ∧ m.validate size = .ok () := by
  unfold ofValidValue
  cases ofValue v with
  | error e => simp
  | ok read =>
    dsimp only
    cases hvalid : read.validate size with
    | error e =>
      simp only [reduceCtorEq, Except.ok.injEq, false_iff, not_and]
      rintro rfl
      simp [hvalid]
    | ok u =>
      simp only [Except.ok.injEq]
      refine ⟨?_, fun h => h.1⟩
      rintro rfl
      exact ⟨rfl, hvalid⟩

theorem load_eq_ok_iff {tree : Files.Tree} {path : Text} {size : Option UInt64} {m : AddressMap} :
    load tree path size = .ok m ↔
      ∃ t v, tree.read path = .ok t ∧ Yaml.Value.ofYaml? t = some v ∧
        ofValidValue v size = .ok m := by
  unfold load
  cases tree.read path with
  | error failure => simp
  | ok t => cases hdoc : Yaml.Value.ofYaml? t <;> simp [hdoc]

theorem validate_ofEntries_iff {brief : Text} {declared : List Entry}
    (hproper : ∀ e ∈ declared, e.Proper) (size : Option UInt64) :
    (ofEntries brief declared).validate size = .ok () ↔
      declared.Pairwise Entry.Apart ∧ Within size declared := by
  have hperm := sortEntries_perm declared
  have hsorted : ∀ e ∈ (ofEntries brief declared).entries, e.Proper :=
    fun e he => hproper e (hperm.mem_iff.1 he)
  rw [validate_eq_ok_iff hsorted, ← hperm.pairwise_iff Entry.Apart.symm, ← Within.perm hperm]
  rfl

theorem proper_of_ofValue {v : Value} {m : AddressMap} (h : ofValue v = .ok m) :
    ∀ e ∈ m.entries, e.Proper := by
  obtain ⟨brief, declared, hdeclares, rfl⟩ := ofValue_eq_ok_iff.1 h
  intro e he
  exact hdeclares.proper e ((sortEntries_perm declared).mem_iff.1 he)

theorem ofValidValue_ok_iff_declares {v : Value} {size : Option UInt64} {m : AddressMap} :
    ofValidValue v size = .ok m ↔
      ofValue v = .ok m ∧ ∃ declared, Declares v m.brief declared ∧
        declared.Pairwise Entry.Apart ∧ Within size declared := by
  rw [ofValidValue_eq_ok_iff]
  refine and_congr_right fun hm => ?_
  obtain ⟨brief, declared, hdeclares, rfl⟩ := ofValue_eq_ok_iff.1 hm
  rw [validate_ofEntries_iff hdeclares.proper]
  constructor
  · intro h
    exact ⟨declared, hdeclares, h⟩
  · rintro ⟨others, hothers, h⟩
    rwa [hdeclares.unique hothers]

/-- A schema file is accepted when its document can be read, no two of the declared entries share a
byte, and none ends beyond the address space. The map then has the declared entries by address,
and its length is where the last one ends. -/
theorem load_accepts_apart {tree : Files.Tree} {path t : Text} {v : Value}
    (hread : tree.read path = .ok t) (hdoc : Yaml.Value.ofYaml? t = some v)
    (size : Option UInt64) :
    (∀ m, load tree path size = .ok m ↔
      ofValue v = .ok m ∧ ∃ declared, Declares v m.brief declared ∧
        declared.Pairwise Entry.Apart ∧ Within size declared) ∧
    (∀ m, load tree path size = .ok m →
      (∃ declared, Declares v m.brief declared ∧ m.entries.Perm declared) ∧
      (m.entries.Pairwise fun e f => e.address < f.address) ∧
      m.totalLength.toNat = lastStop m.entries ∧
      sumLengths m.entries ≤ m.totalLength.toNat ∧
      ∀ s, size = some s → m.totalLength.toNat ≤ s.toNat) := by
  have hload : ∀ m, load tree path size = .ok m ↔ ofValidValue v size = .ok m := by
    intro m
    simp [load_eq_ok_iff, hread, hdoc]
  refine ⟨fun m => (hload m).trans ofValidValue_ok_iff_declares, fun m hm => ?_⟩
  obtain ⟨hvalue, hvalid⟩ := ofValidValue_eq_ok_iff.1 ((hload m).1 hm)
  have hproper := proper_of_ofValue hvalue
  obtain ⟨hapart, hwithin⟩ := (validate_eq_ok_iff hproper size).1 hvalid
  have hstacked := (stacked_iff_apart m.ascending hproper).2 hapart
  have htotal := totalLength_eq hstacked hproper
  obtain ⟨brief, declared, hdeclares, rfl⟩ := ofValue_eq_ok_iff.1 hvalue
  refine ⟨⟨declared, hdeclares, sortEntries_perm declared⟩, hstacked.ascending hproper, htotal,
    ?_, fun s hs => ?_⟩
  · rw [htotal]
    exact hstacked.sumLengths_le
  · rw [htotal]
    exact lastStop_le (hwithin s hs)

def bandSchema : Text :=
  "brief: bands\nparameters:\n- name: Upper\n  address: 4\n  length: 2\n- name: Lower\n" ++
    "  address: 0\n  length: 4\n"

def bandTree : Files.Tree := ⟨[(["bands"], .file (.text bandSchema) 0o644)]⟩

/-- Two neighbours declared the other way round fill their address space to its end. -/
theorem load_accepts_touching :
    ∃ v m declared, bandTree.read "/bands" = .ok bandSchema ∧
      Yaml.Value.ofYaml? bandSchema = some v ∧ load bandTree "/bands" (some 6) = .ok m ∧
      Declares v m.brief declared ∧ m.entries.Perm declared ∧
      m.totalLength.toNat = lastStop m.entries ∧ m.totalLength.toNat ≤ 6 := by
  have hread : bandTree.read "/bands" = .ok bandSchema := rfl
  obtain ⟨v, hdoc⟩ : ∃ v, Yaml.Value.ofYaml? bandSchema = some v :=
    Option.isSome_iff_exists.1 (by decide +kernel)
  have haccepted : (load bandTree "/bands" (some 6)).toOption.any (fun _ => true) = true := by
    decide +kernel
  obtain ⟨m, hm, -⟩ := exists_ok_of_any haccepted
  obtain ⟨⟨declared, hdeclares, hperm⟩, -, htotal, -, hfits⟩ :=
    (load_accepts_apart hread hdoc (some 6)).2 m hm
  exact ⟨v, m, declared, hread, hdoc, hm, hdeclares, hperm, htotal, hfits 6 rfl⟩

end AddressMap

def twoEntries (first second : Text) : Files.Tree where
  items :=
    [(["map"], .file (.text ("brief: map\nparameters:\n- name: " ++ first ++
      "\n  address: 0\n  length: 4\n- name: " ++ second ++
      "\n  address: 4\n  length: 4\n")) 0o644)]

end
end MapLoom
