import MapLoom.Schema.Reading

set_option autoImplicit false

/-!
# What a schema declares

A document that is read is a brief and a list of entries in their declared order, which the address
map sorts. Addresses and lengths are integers of 64 bits with a sign, so the end of an entry that
was read is never a wrapped one.
-/
namespace MapLoom
open Yaml (Value)

/-- Whether an entry has bytes, and its last address is no wrapped one. -/
structure Entry.Proper (e : Entry) : Prop where
  length_pos : 0 < e.length.toNat
  end_lt : e.address.toNat + e.length.toNat < UInt64.size

theorem bind_eq_ok_iff {ε α β : Type} {x : Except ε α} {f : α → Except ε β} {b : β} :
    (x >>= f) = .ok b ↔ ∃ a, x = .ok a ∧ f a = .ok b := by
  cases x with
  | error e => simp [bind, Except.bind]
  | ok a => simp [bind, Except.bind]

theorem exists_ok_of_any {ε α : Type} {x : Except ε α} {p : α → Bool}
    (h : x.toOption.any p = true) : ∃ a, x = .ok a ∧ p a = true := by
  cases x with
  | error e => cases h
  | ok a => exact ⟨a, rfl, h⟩

theorem inInt64?_lt {m n : Int} (h : inInt64? m = some n) : n < twoTo 63 := by
  unfold inInt64? at h
  split at h
  · rename_i hfits
    obtain rfl := Option.some.inj h
    simp only [fitsSigned, decide_eq_true_eq] at hfits
    exact hfits.2
  · cases h

theorem integerLiteral?_lt {t : Text} {n : Int} (h : integerLiteral? t = some n) :
    n < twoTo 63 := by
  unfold integerLiteral? at h
  split at h
  all_goals
    obtain ⟨m, -, hm⟩ := Option.bind_eq_some_iff.1 h
    exact inInt64?_lt hm

namespace Yaml.Value

theorem asInteger?_lt {v : Value} {n : Int} (h : v.asInteger? = some n) : n < twoTo 63 := by
  cases v with
  | integer m => exact inInt64?_lt h
  | float x =>
    obtain ⟨-, hlt⟩ := Option.filter_eq_some_iff.1 h
    have hbound : n.natAbs < twoTo 63 := by simpa using hlt
    omega
  | text t => exact integerLiteral?_lt h
  | _ => cases h

theorem asNatural64?_lt {v : Value} {a : UInt64} (h : v.asNatural64? = some a) :
    a.toNat < twoTo 63 := by
  obtain ⟨n, hn, ha⟩ := Option.bind_eq_some_iff.1 h
  have hlt := asInteger?_lt hn
  split at ha
  · obtain rfl := Option.some.inj ha
    have hmod := Nat.mod_le n.toNat (2 ^ 64)
    rw [UInt64.toNat_ofNat']
    omega
  · cases ha

theorem asPositive64?_pos {v : Value} {a : UInt64} (h : v.asPositive64? = some a) :
    0 < a.toNat ∧ a.toNat < twoTo 63 := by
  obtain ⟨ha, hpos⟩ := Option.filter_eq_some_iff.1 h
  refine ⟨?_, asNatural64?_lt ha⟩
  have hlt : 0 < a := by simpa using hpos
  simpa using UInt64.lt_iff_toNat_lt.1 hlt

end Yaml.Value

theorem SchemaNode.required_eq_ok {α : Type} {n : SchemaNode} {key : Text} {expected : Expected}
    {coerce : Value → Option α} {a : α} (h : n.required key expected coerce = .ok a) :
    ∃ v, n.value? key = some v ∧ coerce v = some a := by
  unfold SchemaNode.required at h
  split at h
  · rename_i v hv
    unfold SchemaNode.coerced at h
    split at h
    · rename_i b hb
      cases h
      exact ⟨v, hv, hb⟩
    · cases h
  · cases h

theorem proper_of_readEntry {path : NodePath} {v : Value} {e : Entry}
    (h : readEntry path v = .ok e) : e.Proper := by
  unfold readEntry at h
  simp only [bind_eq_ok_iff] at h
  obtain ⟨_, _, ⟨name, n⟩, _, address, haddress, length, hlength, _, _, _, _, _, _, _, _, he⟩ := h
  cases he
  obtain ⟨_, -, ha⟩ := SchemaNode.required_eq_ok haddress
  obtain ⟨_, -, hl⟩ := SchemaNode.required_eq_ok hlength
  have haddr := Value.asNatural64?_lt ha
  obtain ⟨hpos, hlen⟩ := Value.asPositive64?_pos hl
  have hhalf : twoTo 63 + twoTo 63 = UInt64.size := by decide
  refine ⟨hpos, ?_⟩
  dsimp only
  omega

theorem mem_readElements {α : Type} {read : NodePath → Value → Except SchemaError α}
    {path : NodePath} {list : Text} {i : Nat} {vs : List Value} {as : List α}
    (h : readElements read path list i vs = .ok as) {a : α} (ha : a ∈ as) :
    ∃ p, ∃ v ∈ vs, read p v = .ok a := by
  induction vs generalizing i as with
  | nil =>
    cases h
    simp at ha
  | cons v vs ih =>
    unfold readElements at h
    simp only [bind_eq_ok_iff] at h
    obtain ⟨first, hfirst, rest, hrest, has⟩ := h
    cases has
    rcases List.mem_cons.1 ha with rfl | ha
    · exact ⟨_, v, List.mem_cons_self, hfirst⟩
    · obtain ⟨p, w, hw, hread⟩ := ih hrest ha
      exact ⟨p, w, List.mem_cons_of_mem v hw, hread⟩

/-- Whether a document has a brief and declares some entries, in that order. -/
def Declares (v : Value) (brief : Text) (declared : List Entry) : Prop :=
  ∃ n parameters, SchemaNode.ofValue v .root = .ok n ∧
    n.required "brief" .string Value.asText? = .ok brief ∧
    n.required "parameters" .list Value.asList? = .ok parameters ∧
    readElements readEntry n.path "parameters" 0 parameters = .ok declared

theorem Declares.unique {v : Value} {brief brief' : Text} {declared others : List Entry}
    (h : Declares v brief declared) (h' : Declares v brief' others) : declared = others := by
  obtain ⟨_, _, hnode, -, hlist, hread⟩ := h
  obtain ⟨_, _, hnode', -, hlist', hread'⟩ := h'
  cases hnode.symm.trans hnode'
  cases hlist.symm.trans hlist'
  exact Except.ok.inj (hread.symm.trans hread')

theorem Declares.proper {v : Value} {brief : Text} {declared : List Entry}
    (h : Declares v brief declared) : ∀ e ∈ declared, e.Proper := by
  obtain ⟨_, _, -, -, -, hread⟩ := h
  intro e he
  obtain ⟨_, _, -, hentry⟩ := mem_readElements hread he
  exact proper_of_readEntry hentry

theorem AddressMap.ofValue_eq_ok_iff {v : Value} {m : AddressMap} :
    AddressMap.ofValue v = .ok m ↔
      ∃ brief declared, Declares v brief declared ∧ m = .ofEntries brief declared := by
  unfold AddressMap.ofValue Declares
  simp only [bind_eq_ok_iff]
  constructor
  · rintro ⟨n, hn, brief, hbrief, parameters, hparameters, declared, hread, hm⟩
    cases hm
    exact ⟨brief, declared, ⟨n, parameters, hn, hbrief, hparameters, hread⟩, rfl⟩
  · rintro ⟨brief, declared, ⟨n, parameters, hn, hbrief, hparameters, hread⟩, rfl⟩
    exact ⟨n, hn, brief, hbrief, parameters, hparameters, declared, hread, rfl⟩

end MapLoom
