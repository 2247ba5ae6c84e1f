import Mathlib.Data.List.Perm.Basic
import MapLoom.Project.Run
import MapLoom.Proofs.Schema.Grammar
import MapLoom.Proofs.Schema.Ranges
import MapLoom.Proofs.Yaml.Value

set_option autoImplicit false

/-!
# Schemas in another order

An entry is read alike wherever it is declared, and entries that share no byte have one order by
address. So the order in which an accepted document declares its entries leaves no trace in the
address map, nor in anything that is made of it.
-/
namespace MapLoom
open Yaml (Value)
open Yaml.Value (IsList)

/-- Whether two documents differ in nothing but the order of their parameters. -/
def Reordered (v w : Value) : Prop :=
  (∃ items others, v.Has "parameters" IsList items ∧ w.Has "parameters" IsList others ∧
    items.Perm others) ∧
  ∀ key : Text, key ≠ "parameters" → v.member? key = w.member? key

theorem reordered_map {before after : List (Value × Value)} {items others : List Value}
    (hfirst : Value.lookup "parameters" before = none) (h : items.Perm others) :
    Reordered (.map (before ++ (.text "parameters", .list items) :: after))
      (.map (before ++ (.text "parameters", .list others) :: after)) := by
  have hlist : ∀ items, (Value.map (before ++ (.text "parameters", .list items) :: after)).Has
      "parameters" IsList items := by
    intro items
    refine ⟨.list items, ?_, rfl⟩
    rw [Value.member?_map, hfirst, if_pos rfl]
    rfl
  refine ⟨⟨items, others, hlist items, hlist others, h⟩, fun key hkey => ?_⟩
  rw [Value.member?_map, Value.member?_map, if_neg hkey.symm, if_neg hkey.symm]

section
variable {v w : Value} {brief : Text} {declared others : List Entry}

theorem Reordered.symm (h : Reordered v w) : Reordered w v := by
  obtain ⟨⟨items, others, hv, hw, hperm⟩, hkeys⟩ := h
  exact ⟨⟨others, items, hw, hv, hperm.symm⟩, fun key hkey => (hkeys key hkey).symm⟩

theorem Reordered.isSchema (h : Reordered v w) (hv : IsSchema v brief declared) :
    ∃ others, IsSchema w brief others ∧ declared.Perm others := by
  obtain ⟨⟨items, items', ⟨list, hlist, hitems⟩, hw, hperm⟩, hkeys⟩ := h
  obtain ⟨parsed, ⟨list', hlist', hparsed⟩, hentries⟩ := hv.parameters
  obtain rfl : list = list' := Option.some.inj (hlist.symm.trans hlist')
  obtain rfl := hitems.unique hparsed
  obtain ⟨others, hothers, hentries'⟩ := List.perm_comp_forall₂ hperm.symm hentries
  refine ⟨others, ⟨?_, items', hw, hothers⟩, hentries'.symm⟩
  have hbrief := hkeys "brief" (by decide)
  simpa only [Value.Has, hbrief] using hv.brief

theorem sortEntries_strict (hproper : ∀ e ∈ declared, e.Proper)
    (hapart : declared.Pairwise Entry.Apart) :
    (sortEntries declared).Pairwise fun e f => e.address < f.address := by
  have hperm := sortEntries_perm declared
  have hsorted : ∀ e ∈ sortEntries declared, e.Proper := fun e he => hproper e (hperm.mem_iff.1 he)
  have hapart' := (hperm.pairwise_iff Entry.Apart.symm).2 hapart
  exact ((stacked_iff_apart (ascending_sortEntries declared) hsorted).2 hapart').ascending hsorted

theorem sortEntries_eq_of_perm (hperm : declared.Perm others)
    (hproper : ∀ e ∈ declared, e.Proper) (hapart : declared.Pairwise Entry.Apart) :
    sortEntries declared = sortEntries others := by
  have hproper' : ∀ e ∈ others, e.Proper := fun e he => hproper e (hperm.mem_iff.2 he)
  have hapart' := (hperm.pairwise_iff Entry.Apart.symm).1 hapart
  refine List.Perm.eq_of_pairwise (fun e f _ _ hlt hgt => ?_) (sortEntries_strict hproper hapart)
    (sortEntries_strict hproper' hapart')
    ((sortEntries_perm declared).trans (hperm.trans (sortEntries_perm others).symm))
  exact absurd hlt (UInt64.lt_asymm hgt)

namespace AddressMap
variable {size : Option UInt64} {m : AddressMap}

theorem ofValidValue_eq_ok_iff_isSchema :
    ofValidValue v size = .ok m ↔ ∃ brief declared, IsSchema v brief declared ∧
      declared.Pairwise Entry.Apart ∧ Within size declared ∧ m = .ofEntries brief declared := by
  rw [ofValidValue_eq_ok_iff]
  constructor
  · rintro ⟨hvalue, hvalid⟩
    obtain ⟨brief, declared, hdeclares, rfl⟩ := ofValue_eq_ok_iff.1 hvalue
    obtain ⟨hapart, hwithin⟩ := (validate_ofEntries_iff hdeclares.proper size).1 hvalid
    exact ⟨brief, declared, declares_iff_isSchema.1 hdeclares, hapart, hwithin, rfl⟩
  · rintro ⟨brief, declared, hschema, hapart, hwithin, rfl⟩
    have hdeclares := declares_iff_isSchema.2 hschema
    exact ⟨ofValue_eq_ok_iff.2 ⟨brief, declared, hdeclares, rfl⟩,
      (validate_ofEntries_iff hdeclares.proper size).2 ⟨hapart, hwithin⟩⟩

theorem ofValidValue_of_reordered (h : Reordered v w) (hm : ofValidValue v size = .ok m) :
    ofValidValue w size = .ok m := by
  obtain ⟨brief, declared, hschema, hapart, hwithin, rfl⟩ := ofValidValue_eq_ok_iff_isSchema.1 hm
  obtain ⟨others, hothers, hperm⟩ := h.isSchema hschema
  have hproper := (declares_iff_isSchema.2 hschema).proper
  refine ofValidValue_eq_ok_iff_isSchema.2 ⟨brief, others, hothers,
    (hperm.pairwise_iff Entry.Apart.symm).1 hapart, (Within.perm hperm).1 hwithin, ?_⟩
  simp only [ofEntries, sortEntries_eq_of_perm hperm hproper hapart]

/-- Of two schema files whose documents differ in the order of their parameters, one is accepted
when the other one is, and then with the same map: what templates see, what blocks render to and
what files are woven to is the same for both. -/
theorem load_reordered {tree other : Files.Tree} {path t u : Text}
    (hread : tree.read path = .ok t) (hdoc : Value.ofYaml? t = some v)
    (hread' : other.read path = .ok u) (hdoc' : Value.ofYaml? u = some w)
    (h : Reordered v w) (size : Option UInt64) :
    (∀ m, load tree path size = .ok m ↔ load other path size = .ok m) ∧
    ∀ m m', load tree path size = .ok m → load other path size = .ok m' →
      ∀ (c : Config) (modules : Modules),
        (⟨path, m⟩ : SchemaSource).scope = (⟨path, m'⟩ : SchemaSource).scope ∧
        (∀ tag, modules.render tag ⟨path, m⟩ = modules.render tag ⟨path, m'⟩) ∧
        ∀ files target, (⟨c, ⟨path, m⟩, modules⟩ : Project).process files target =
          (⟨c, ⟨path, m'⟩, modules⟩ : Project).process files target := by
  have hload : ∀ m, load tree path size = .ok m ↔ load other path size = .ok m := by
    intro m
    simp only [load, hread, hdoc, hread', hdoc']
    exact ⟨ofValidValue_of_reordered h, ofValidValue_of_reordered h.symm⟩
  refine ⟨hload, fun m m' hm hm' c modules => ?_⟩
  obtain rfl : m = m' := Except.ok.inj (((hload m).1 hm).symm.trans hm')
  exact ⟨rfl, fun _ => rfl, fun _ _ => rfl⟩

def sortedBandSchema : Text :=
  "brief: bands\nparameters:\n- name: Lower\n  address: 0\n  length: 4\n- name: Upper\n" ++
    "  address: 4\n  length: 2\n"

def sortedBandTree : Files.Tree := ⟨[(["bands"], .file (.text sortedBandSchema) 0o644)]⟩

def bandItem (name : Text) (address length : Int) : Value :=
  .map [(.text "name", .text name), (.text "address", .integer address),
    (.text "length", .integer length)]

def bandDocument (items : List Value) : Value :=
  .map ([(.text "brief", .text "bands")] ++ (.text "parameters", .list items) :: [])

theorem load_swapped_bands :
    ∃ v w, bandTree.read "/bands" = .ok bandSchema ∧ Value.ofYaml? bandSchema = some v ∧
      sortedBandTree.read "/bands" = .ok sortedBandSchema ∧
      Value.ofYaml? sortedBandSchema = some w ∧ Reordered v w ∧ v ≠ w ∧
      ∃ m, load bandTree "/bands" (some 6) = .ok m ∧
        load sortedBandTree "/bands" (some 6) = .ok m := by
  have hread : bandTree.read "/bands" = .ok bandSchema := rfl
  have hread' : sortedBandTree.read "/bands" = .ok sortedBandSchema := rfl
  have hdoc : Value.ofYaml? bandSchema =
      some (bandDocument [bandItem "Upper" 4 2, bandItem "Lower" 0 4]) := by decide +kernel
  have hdoc' : Value.ofYaml? sortedBandSchema =
      some (bandDocument [bandItem "Lower" 0 4, bandItem "Upper" 4 2]) := by decide +kernel
  have hreorder : Reordered (bandDocument [bandItem "Upper" 4 2, bandItem "Lower" 0 4])
      (bandDocument [bandItem "Lower" 0 4, bandItem "Upper" 4 2]) :=
    reordered_map (by decide) (.swap _ _ [])
  have hne : bandDocument [bandItem "Upper" 4 2, bandItem "Lower" 0 4] ≠
      bandDocument [bandItem "Lower" 0 4, bandItem "Upper" 4 2] := by decide +kernel
  have haccepted : (load bandTree "/bands" (some 6)).toOption.any (fun _ => true) = true := by
    decide +kernel
  obtain ⟨m, hm, -⟩ := exists_ok_of_any haccepted
  have hload := load_reordered hread hdoc hread' hdoc' hreorder (some 6)
  exact ⟨_, _, hread, hdoc, hread', hdoc', hreorder, hne, m, hm, (hload.1 m).1 hm⟩

end AddressMap
end
end MapLoom
