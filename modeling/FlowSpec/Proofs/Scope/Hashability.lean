import FlowSpec.Proofs.Scope.Alias
import FlowSpec.Proofs.Scope.AliasChain

/-!
The walk that looks for hashable types. A name leads to a key if its chain of aliases comes to a
name that spells a hashable primitive type, or under which one is declared. The walk needs one step
for each alias, and at the end two: one for the name and one for the shape behind it
(`isHashableAux_named_iff`). A declared shape leaves room for both, since it is one of the types and
no alias; a spelling is not among the types. So the walk from a name may take one step less than it
needs: it misses the spelling exactly if as many aliases lead there as there are types, and then all
types are aliases on the way (`isHashableName_iff`). The walk from a declared shape begins one step
later and misses nothing.
-/

set_option autoImplicit false

namespace FlowSpec

namespace Primitive

/-- The name spells a hashable type. -/
def SpellsKey (name : String) : Prop := ∃ kind, ofName? name = some kind ∧ kind.isHashable

/-- The only type that is not hashable has one spelling, and this is native. -/
theorem spellsKey_of_foreign {name : String} {kind : Primitive} (hkind : ofName? name = some kind)
    (hforeign : name ∉ nativeNames) : SpellsKey name := by
  have hspellings : ∀ spelling ∈ spellings, spelling.1 ∉ nativeNames → spelling.2.isHashable := by
    decide
  obtain ⟨before, after, hsplit, -⟩ := List.lookup_eq_some_iff.mp hkind
  exact ⟨kind, hkind, hspellings (name, kind) (by simp [hsplit]) hforeign⟩

end Primitive

namespace Scope

open Primitive (SpellsKey)

variable {scope : Scope} {name target last : String} {count fuel : Nat}

/-- A hashable primitive type is declared under the name. -/
def DeclaresKey (scope : Scope) (name : String) : Prop :=
  ∃ kind, scope.shape? name = some (.primitive kind) ∧ kind.isHashable

/-- The chain of the name comes to a hashable primitive type, to a declaration or to a spelling of
it. -/
def LeadsToKey (scope : Scope) (name : String) : Prop :=
  ∃ count last, scope.aliasChain name count = some last ∧ (SpellsKey last ∨ scope.DeclaresKey last)

/-- No name before this place of the chain spells a primitive type. -/
def UnspelledBefore (scope : Scope) (name : String) (count : Nat) : Prop :=
  ∀ place < count, ∀ earlier, scope.aliasChain name place = some earlier →
    Primitive.ofName? earlier = none

/-- As many aliases as there are types lead to the first name that spells a primitive type. -/
structure Exhausted (scope : Scope) (name : String) : Prop where
  reaches : ∃ last, scope.aliasChain name scope.size = some last ∧ (Primitive.ofName? last).isSome
  unspelled : scope.UnspelledBefore name scope.size

/-! ### Steps of the walk -/

/-- Where a walk that looks for spellings first comes to a hashable type. -/
structure KeyAt (scope : Scope) (name : String) (count : Nat) (last : String) : Prop where
  reaches : scope.aliasChain name count = some last
  unspelled : scope.UnspelledBefore name count
  key : SpellsKey last ∨ Primitive.ofName? last = none ∧ scope.DeclaresKey last

theorem KeyAt.eq_zero_of_spelled {kind : Primitive} (h : scope.KeyAt name count last)
    (hkind : Primitive.ofName? name = some kind) : count = 0 := by
  by_contra hcount
  cases (h.unspelled 0 (Nat.pos_of_ne_zero hcount) name rfl).symm.trans hkind

theorem unspelledBefore_succ_iff (hplain : Primitive.ofName? name = none)
    (htarget : scope.aliasTarget? name = some target) :
    scope.UnspelledBefore name (count + 1) ↔ scope.UnspelledBefore target count := by
  constructor
  · intro h place hplace earlier hearlier
    exact h (place + 1) (Nat.succ_lt_succ hplace) earlier
      (aliasChain_succ_of_target htarget place ▸ hearlier)
  · intro h place hplace earlier hearlier
    cases place with
    | zero => exact Option.some.inj hearlier ▸ hplain
    | succ place =>
      exact h place (Nat.lt_of_succ_lt_succ hplace) earlier
        (aliasChain_succ_of_target htarget place ▸ hearlier)

theorem keyAt_succ_iff (hplain : Primitive.ofName? name = none)
    (htarget : scope.aliasTarget? name = some target) :
    scope.KeyAt name (count + 1) last ↔ scope.KeyAt target count last := by
  constructor
  · rintro ⟨hreaches, hunspelled, hkey⟩
    exact ⟨aliasChain_succ_of_target htarget count ▸ hreaches,
      (unspelledBefore_succ_iff hplain htarget).mp hunspelled, hkey⟩
  · rintro ⟨hreaches, hunspelled, hkey⟩
    exact ⟨aliasChain_succ_of_target htarget count ▸ hreaches,
      (unspelledBefore_succ_iff hplain htarget).mpr hunspelled, hkey⟩

theorem keyAt_zero_iff_of_spelled {kind : Primitive} (hkind : Primitive.ofName? name = some kind) :
    scope.KeyAt name 0 last ↔ name = last ∧ kind.isHashable := by
  constructor
  · rintro ⟨hreaches, -, hkey⟩
    obtain rfl := Option.some.inj hreaches
    rcases hkey with ⟨found, hfound, hhashable⟩ | ⟨hplain, -⟩
    · cases hkind.symm.trans hfound
      exact ⟨rfl, hhashable⟩
    · cases hplain.symm.trans hkind
  · rintro ⟨rfl, hhashable⟩
    exact ⟨rfl, fun place hplace ↦ absurd hplace (Nat.not_lt_zero place),
      .inl ⟨kind, hkind, hhashable⟩⟩

theorem keyAt_zero_iff_of_plain (hplain : Primitive.ofName? name = none) :
    scope.KeyAt name 0 last ↔ name = last ∧ scope.DeclaresKey name := by
  constructor
  · rintro ⟨hreaches, -, hkey⟩
    obtain rfl := Option.some.inj hreaches
    rcases hkey with ⟨kind, hkind, -⟩ | ⟨-, hdeclares⟩
    · cases hplain.symm.trans hkind
    · exact ⟨rfl, hdeclares⟩
  · rintro ⟨rfl, hdeclares⟩
    exact ⟨rfl, fun place hplace ↦ absurd hplace (Nat.not_lt_zero place), .inr ⟨hplain, hdeclares⟩⟩

theorem not_declaresKey_of_target (htarget : scope.aliasTarget? name = some target) :
    ¬scope.DeclaresKey name := by
  rintro ⟨kind, hkind, -⟩
  cases (aliasTarget?_eq_some_iff.mp htarget).symm.trans hkind

theorem isHashableAux_primitive_iff {kind : Primitive} :
    scope.isHashableAux fuel (.primitive kind) = true ↔ 0 < fuel ∧ kind.isHashable := by
  cases fuel <;> simp [isHashableAux]

/-- Behind a name that is neither a spelling nor an alias, only a declared primitive type is
hashable. -/
theorem isHashableAux_succ_iff_of_end (hplain : Primitive.ofName? name = none)
    (hend : scope.aliasTarget? name = none) :
    scope.isHashableAux (fuel + 1) (.named name) = true ↔ 0 < fuel ∧ scope.DeclaresKey name := by
  simp only [isHashableAux, hplain, DeclaresKey]
  cases hshape : scope.shape? name with
  | none => simp
  | some shape =>
    cases shape with
    | primitive kind => simp [isHashableAux_primitive_iff]
    | named target => simp [aliasTarget?, hshape] at hend
    | _ => cases fuel <;> simp [isHashableAux]

/-- The walk from a name takes a step for each alias, one for the last name and one for the shape
behind it. -/
theorem isHashableAux_named_iff : scope.isHashableAux fuel (.named name) = true ↔
    ∃ count last, scope.KeyAt name count last ∧ count + 2 ≤ fuel := by
  induction fuel generalizing name with
  | zero => simp [isHashableAux]
  | succ fuel ih =>
    cases hkind : Primitive.ofName? name with
    | some kind =>
      simp only [isHashableAux, hkind, isHashableAux_primitive_iff]
      constructor
      · rintro ⟨hfuel, hhashable⟩
        exact ⟨0, name, (keyAt_zero_iff_of_spelled hkind).mpr ⟨rfl, hhashable⟩, by omega⟩
      · rintro ⟨count, last, hkey, hfuel⟩
        obtain rfl := hkey.eq_zero_of_spelled hkind
        exact ⟨by omega, ((keyAt_zero_iff_of_spelled hkind).mp hkey).2⟩
    | none =>
      cases htarget : scope.aliasTarget? name with
      | some target =>
        simp only [isHashableAux, hkind, aliasTarget?_eq_some_iff.mp htarget, ih]
        constructor
        · rintro ⟨count, last, hkey, hfuel⟩
          exact ⟨count + 1, last, (keyAt_succ_iff hkind htarget).mpr hkey, by omega⟩
        · rintro ⟨count, last, hkey, hfuel⟩
          cases count with
          | zero =>
            exact absurd ((keyAt_zero_iff_of_plain hkind).mp hkey).2
              (not_declaresKey_of_target htarget)
          | succ count => exact ⟨count, last, (keyAt_succ_iff hkind htarget).mp hkey, by omega⟩
      | none =>
        rw [isHashableAux_succ_iff_of_end hkind htarget]
        constructor
        · rintro ⟨hfuel, hdeclares⟩
          exact ⟨0, name, (keyAt_zero_iff_of_plain hkind).mpr ⟨rfl, hdeclares⟩, by omega⟩
        · rintro ⟨count, last, hkey, hfuel⟩
          cases count with
          | zero => exact ⟨by omega, ((keyAt_zero_iff_of_plain hkind).mp hkey).2⟩
          | succ count => cases (aliasChain_succ_of_end htarget count).symm.trans hkey.reaches

/-! ### How far the walk has to go -/

/-- A spelling under which something is declared is not native, and so spells a hashable type. -/
theorem Sealed.spellsKey_of_declared (h : scope.Sealed) {kind : Primitive}
    (hkind : Primitive.ofName? name = some kind) (hdeclared : (scope.shape? name).isSome) :
    SpellsKey name :=
  Primitive.spellsKey_of_foreign hkind fun hnative ↦ by
    simp [h.shape?_of_native hnative] at hdeclared

theorem Sealed.exists_keyAt_iff (h : scope.Sealed) :
    (∃ count last, scope.KeyAt name count last) ↔ scope.LeadsToKey name := by
  constructor
  · rintro ⟨count, last, hreaches, -, hkey⟩
    exact ⟨count, last, hreaches, hkey.imp_right And.right⟩
  · rintro ⟨count, last, hreaches, hkey⟩
    -- a spelling that the chain meets earlier is declared, and so the walk may stop there
    induction count generalizing name with
    | zero =>
      obtain rfl := Option.some.inj hreaches
      cases hkind : Primitive.ofName? name with
      | none =>
        have hdeclares := hkey.resolve_left fun ⟨kind, hspelled, _⟩ ↦ by
          cases hkind.symm.trans hspelled
        exact ⟨0, name, (keyAt_zero_iff_of_plain hkind).mpr ⟨rfl, hdeclares⟩⟩
      | some kind =>
        have hspells : SpellsKey name := by
          rcases hkey with hspells | ⟨other, hdeclared, -⟩
          · exact hspells
          · exact h.spellsKey_of_declared hkind (by simp [hdeclared])
        exact ⟨0, name, rfl, fun place hplace ↦ absurd hplace (Nat.not_lt_zero place), .inl hspells⟩
    | succ count ih =>
      cases htarget : scope.aliasTarget? name with
      | none => cases (aliasChain_succ_of_end htarget count).symm.trans hreaches
      | some target =>
        cases hkind : Primitive.ofName? name with
        | none =>
          obtain ⟨count, last, hfound⟩ := ih (aliasChain_succ_of_target htarget count ▸ hreaches)
          exact ⟨count + 1, last, (keyAt_succ_iff hkind htarget).mpr hfound⟩
        | some kind =>
          have hspells :=
            h.spellsKey_of_declared hkind (by simp [aliasTarget?_eq_some_iff.mp htarget])
          exact ⟨0, name, rfl, fun place hplace ↦ absurd hplace (Nat.not_lt_zero place),
            .inl hspells⟩

/-- The name that the walk stops at has not occurred before. -/
theorem KeyAt.first (h : scope.KeyAt name count last) (place : Nat) (hplace : place < count) :
    scope.aliasChain name place ≠ some last := by
  intro hbefore
  rcases h.key with ⟨kind, hkind, -⟩ | ⟨-, hdeclares⟩
  · cases (h.unspelled place hplace last hbefore).symm.trans hkind
  · obtain ⟨-, target, -, -, hnext⟩ := exists_typeAt_of_lt h.reaches hplace
    rw [aliasChain, hbefore, Option.bind_some] at hnext
    exact not_declaresKey_of_target hnext hdeclares

/-- Where a primitive type is declared, not all types are aliases. -/
theorem aliases_lt_size_of_declaresKey (h : scope.DeclaresKey name) :
    scope.aliases.length < scope.size := by
  obtain ⟨kind, hkind, -⟩ := h
  obtain ⟨type, htype, hshape⟩ := Option.map_eq_some_iff.mp hkind
  refine List.length_filter_lt_length_iff_exists.mpr ⟨type, mem_of_lookupType htype, ?_⟩
  simp [NamedType.isAlias, hshape]

theorem KeyAt.lt_size_iff (h : scope.KeyAt name count last) :
    count < scope.size ↔ ¬scope.Exhausted name := by
  constructor
  · intro hlt hexhausted
    obtain ⟨final, hfinal, -⟩ := hexhausted.reaches
    rcases h.key with ⟨kind, hkind, -⟩ | ⟨-, hdeclares⟩
    · cases (hexhausted.unspelled count hlt last h.reaches).symm.trans hkind
    · -- the chain would end with the declaration
      obtain ⟨-, target, -, -, hnext⟩ := exists_typeAt_of_lt hfinal hlt
      rw [aliasChain, h.reaches, Option.bind_some] at hnext
      exact not_declaresKey_of_target hnext hdeclares
  · intro hroom
    have hcount := le_aliases_of_first h.reaches h.first
    rcases h.key with ⟨kind, hkind, -⟩ | ⟨-, hdeclares⟩
    · refine lt_of_le_of_ne (hcount.trans (List.length_filter_le ..)) ?_
      rintro rfl
      exact hroom ⟨⟨last, h.reaches, by simp [hkind]⟩, h.unspelled⟩
    · exact hcount.trans_lt (aliases_lt_size_of_declaresKey hdeclares)

theorem KeyAt.le_size (h : scope.KeyAt name count last) : count ≤ scope.size :=
  (le_aliases_of_first h.reaches h.first).trans (List.length_filter_le ..)

/-- Where the walk is exhausted, it has passed all types. -/
theorem Exhausted.exists_place (h : scope.Exhausted name)
    (hnames : (scope.types.map NamedType.name).Nodup) {type : NamedType}
    (htype : type ∈ scope.types) : ∃ place < scope.size, scope.typeAt name place = some type := by
  obtain ⟨last, hlast, hspelled⟩ := h.reaches
  have hfirst : ∀ place < scope.size, scope.aliasChain name place ≠ some last := by
    intro place hplace hbefore
    simp [h.unspelled place hplace last hbefore] at hspelled
  have hnodup : (scope.types.map some).Nodup :=
    (List.Nodup.of_map _ hnames).map (Option.some_injective _)
  have hinside : ∀ place ∈ Finset.range scope.size,
      scope.typeAt name place ∈ (scope.types.map some).toFinset := by
    intro place hplace
    obtain ⟨found, -, hfound, -, -⟩ := exists_typeAt_of_lt hlast (Finset.mem_range.mp hplace)
    obtain ⟨middle, -, hlookup⟩ := Option.bind_eq_some_iff.mp hfound
    rw [hfound, List.mem_toFinset]
    exact List.mem_map_of_mem (mem_of_lookupType hlookup)
  have hcard : (scope.types.map some).toFinset.card ≤ (Finset.range scope.size).card := by
    rw [Finset.card_range, List.toFinset_card_of_nodup hnodup, List.length_map]
    rfl
  have hsurj :=
    Finset.surjOn_of_injOn_of_card_le _ hinside (typeAt_injOn_of_first hlast hfirst) hcard
  obtain ⟨place, hplace, hfound⟩ := hsurj (List.mem_toFinset.mpr (List.mem_map_of_mem htype))
  exact ⟨place, Finset.mem_range.mp hplace, hfound⟩

theorem Sealed.isHashableAux_iff (h : scope.Sealed) :
    scope.isHashableAux (scope.size + 2) (.named name) = true ↔ scope.LeadsToKey name := by
  rw [isHashableAux_named_iff, ← h.exists_keyAt_iff]
  constructor
  · rintro ⟨count, last, hkey, -⟩
    exact ⟨count, last, hkey⟩
  · rintro ⟨count, last, hkey⟩
    exact ⟨count, last, hkey, Nat.add_le_add_right hkey.le_size 2⟩

/-- The walk from a name accepts the names that lead to hashable primitive types, but for those
which are exhausted: as many aliases as there are types lead to a spelling, and all types are among
them. With one step more it would accept these too, as does the walk from the declaration of a
name. -/
theorem isHashableName_iff (hsealed : scope.Sealed) (name : String) :
    (scope.isHashableName name = true ↔ scope.LeadsToKey name ∧ ¬scope.Exhausted name) ∧
    (scope.Exhausted name → ∀ type ∈ scope.types, ∃ place < scope.size,
      scope.typeAt name place = some type) ∧
    (scope.isHashableAux (scope.size + 2) (.named name) = true ↔ scope.LeadsToKey name) ∧
    ∀ shape, scope.shape? name = some shape → Primitive.ofName? name = none →
      (scope.isHashable shape = true ↔ scope.LeadsToKey name) := by
  refine ⟨?_, fun hexhausted type htype ↦ hexhausted.exists_place hsealed.nodup htype,
    hsealed.isHashableAux_iff, fun shape hshape hplain ↦ ?_⟩
  · rw [isHashableName, isHashable, isHashableAux_named_iff, ← hsealed.exists_keyAt_iff]
    constructor
    · rintro ⟨count, last, hkey, hfuel⟩
      exact ⟨⟨count, last, hkey⟩, hkey.lt_size_iff.mp (by omega)⟩
    · rintro ⟨⟨count, last, hkey⟩, hroom⟩
      have hlt := hkey.lt_size_iff.mpr hroom
      exact ⟨count, last, hkey, by omega⟩
  · rw [← hsealed.isHashableAux_iff, isHashableAux, isHashable]
    simp only [hplain, hshape]

/-- Beside the two aliases a time is declared, so that the walk comes to the spelling. -/
def loginScope : Scope :=
  { types := [{ name := "handle", shape := .named "nick-name" },
      { name := "login", shape := .primitive .s64 },
      { name := "nick_name", shape := .named "string" }] }

theorem isHashableName_iff_login :
    loginScope.Sealed ∧ loginScope.LeadsToKey "handle" ∧ ¬loginScope.Exhausted "handle" ∧
      loginScope.isHashableName "handle" = true := by
  have hsealed : loginScope.Sealed :=
    sealed_of_isSettled (by decide) (by decide) (by simp [NamedType.IsSettled])
  have hleads : loginScope.LeadsToKey "handle" :=
    ⟨2, "string", by decide, .inl ⟨.string, by decide, rfl⟩⟩
  have hroom : ¬loginScope.Exhausted "handle" := by
    rintro ⟨⟨last, hlast, -⟩, -⟩
    cases (by decide : loginScope.aliasChain "handle" loginScope.size = none).symm.trans hlast
  exact ⟨hsealed, hleads, hroom, (isHashableName_iff hsealed "handle").1.mpr ⟨hleads, hroom⟩⟩

/-- Has an alias of a string and nothing else. -/
def idScope : Scope := { types := [{ name := "id", shape := .named "string" }] }

/-- The walk stops before the string that the only type stands for, and where no type is declared,
before the string itself. -/
theorem isHashableName_misses_string :
    (idScope.Sealed ∧ idScope.LeadsToKey "id" ∧ idScope.isHashableName "id" = false) ∧
      Scope.Sealed { types := [] } ∧ LeadsToKey { types := [] } "string" ∧
        isHashableName { types := [] } "string" = false := by
  refine ⟨⟨sealed_of_isSettled (by decide) (by decide) (by simp [NamedType.IsSettled]),
      ?_, by decide⟩,
    sealed_of_isSettled .nil (by simp) (by simp), ?_, by decide⟩
  · exact ⟨1, "string", by decide, .inl ⟨.string, by decide, rfl⟩⟩
  · exact ⟨0, "string", rfl, .inl ⟨.string, by decide, rfl⟩⟩

end Scope

end FlowSpec
