import FlowSpec.Proofs.Outcome
import FlowSpec.Scope
import Mathlib.Data.List.Nodup
import Mathlib.Data.List.Permutation
import Mathlib.Data.String.Basic

/-!
Declarations seen as a map from names to types, and the scope that sealing makes of them. Every
operation has one equation for what is declared under a name afterwards. Sealing changes the values
of keyed states only, so a keyed state is settled by the sealed types as it is by the declarations.
-/

set_option autoImplicit false

namespace FlowSpec

open Outcome

theorem Text.sortByName_perm {α : Type} (name : α → String) (items : List α) :
    (sortByName name items).Perm items := List.mergeSort_perm items _

theorem Text.mem_sortByName {α : Type} {name : α → String} {items : List α} {item : α} :
    item ∈ sortByName name items ↔ item ∈ items := List.mem_mergeSort

/-- Among items whose keys are all different, the one that is found under a key is the one that has
it. -/
theorem Text.find?_key_eq_some_iff {α : Type} {key : α → String} {items : List α} {item : α}
    {name : String} (h : (items.map key).Nodup) :
    (items.find? fun other ↦ key other == name) = some item ↔ item ∈ items ∧ key item = name := by
  constructor
  · intro hfound
    exact ⟨List.mem_of_find?_eq_some hfound, by simpa using List.find?_some hfound⟩
  · rintro ⟨hmem, rfl⟩
    obtain ⟨other, hother⟩ := Option.isSome_iff_exists.mp
      (List.find?_isSome (p := fun other ↦ key other == key item) |>.mpr ⟨item, hmem, by simp⟩)
    have hkey : key other = key item := by simpa using List.find?_some hother
    rw [hother, List.inj_on_of_nodup_map h (List.mem_of_find?_eq_some hother) hmem hkey]

/-- Where all keys are different, what is found under a key does not depend on the order of the
items. -/
theorem Text.find?_key_perm {α : Type} {key : α → String} {items others : List α}
    (hperm : items.Perm others) (h : (items.map key).Nodup) (name : String) :
    (items.find? fun other ↦ key other == name) = others.find? fun other ↦ key other == name := by
  ext item
  rw [find?_key_eq_some_iff h, find?_key_eq_some_iff ((hperm.map key).nodup_iff.mp h),
    hperm.mem_iff]

theorem Text.pairwise_le_sortByName {α : Type} (name : α → String) (items : List α) :
    (sortByName name items).Pairwise fun a b ↦ name a ≤ name b := by
  have hsorted := @List.pairwise_mergeSort α (fun a b ↦ decide (name a ≤ name b))
    (fun a b c hab hbc ↦ by simpa using le_trans (of_decide_eq_true hab) (of_decide_eq_true hbc))
    (fun a b ↦ by simpa using le_total (name a) (name b)) items
  exact hsorted.imp fun hab ↦ of_decide_eq_true hab

/-- Sorting by names that are all different puts them in strictly ascending order. -/
theorem Text.pairwise_lt_sortByName {α : Type} (name : α → String) (items : List α)
    (h : (items.map name).Nodup) : (sortByName name items).Pairwise fun a b ↦ name a < name b := by
  have hle := pairwise_le_sortByName name items
  have hne : (sortByName name items).Pairwise fun a b ↦ name a ≠ name b := by
    have hperm := (sortByName_perm name items).map name
    exact List.pairwise_map.mp (hperm.nodup_iff.mpr h)
  exact (hle.and hne).imp fun h ↦ lt_of_le_of_ne h.1 h.2

/-- Items that their names tell apart are sorted alike, in whatever order they were. -/
theorem Text.sortByName_congr {α : Type} {name : α → String} {items others : List α}
    (hperm : items.Perm others)
    (h : ∀ first ∈ items, ∀ second ∈ items, name first = name second → first = second) :
    sortByName name items = sortByName name others := by
  have hsame : (sortByName name items).Perm (sortByName name others) :=
    ((sortByName_perm name items).trans hperm).trans (sortByName_perm name others).symm
  refine hsame.eq_of_pairwise (fun first second hfirst hsecond hle hge ↦
      ?_) (pairwise_le_sortByName name items)
    (pairwise_le_sortByName name others)
  exact h first (mem_sortByName.mp hfirst) second (hperm.mem_iff.mpr (mem_sortByName.mp hsecond))
    (le_antisymm hle hge)

theorem Primitive.isSome_ofName?_of_native {name : String} (h : name ∈ nativeNames) :
    (ofName? name).isSome := by
  have hall : ∀ name ∈ nativeNames, (ofName? name).isSome := by decide
  exact hall name h

/-! ### Types by name -/

variable {types results : List NamedType} {type result : NamedType} {name : String}

theorem find?_name_eq_some_iff (h : (types.map NamedType.name).Nodup) :
    (types.find? fun other ↦ other.name == name) = some type ↔ type ∈ types ∧ type.name = name :=
  Text.find?_key_eq_some_iff h

theorem find?_name_eq_none_iff :
    (types.find? fun other ↦ other.name == name) = none ↔ name ∉ types.map NamedType.name := by
  rw [List.find?_eq_none, List.mem_map, not_exists]
  simp only [beq_iff_eq, not_and]

/-- A name stands for the type of that name; if there is none, for the type of the name with
underscores. -/
theorem lookupType_eq_some_iff (h : (types.map NamedType.name).Nodup) :
    lookupType types name = some type ↔ type ∈ types ∧ (type.name = name ∨
      name ∉ types.map NamedType.name ∧ type.name = Text.replaceChar '-' '_' name) := by
  unfold lookupType
  cases hexact : types.find? fun other ↦ other.name == name with
  | none =>
    have hnew := find?_name_eq_none_iff.mp hexact
    rw [Option.orElse_none, find?_name_eq_some_iff h]
    refine and_congr_right fun hmem ↦ ⟨fun hname ↦ Or.inr ⟨hnew, hname⟩, ?_⟩
    rintro (rfl | ⟨-, hname⟩)
    · exact absurd (List.mem_map_of_mem hmem) hnew
    · exact hname
  | some other =>
    obtain ⟨hother, hname⟩ := (find?_name_eq_some_iff h).mp hexact
    have hold : name ∈ types.map NamedType.name := hname ▸ List.mem_map_of_mem hother
    rw [Option.orElse_some, ← hexact, find?_name_eq_some_iff h]
    exact and_congr_right fun _ ↦ ⟨Or.inl, fun hcases ↦ hcases.resolve_right fun hnew ↦ hnew.1 hold⟩

theorem mem_of_lookupType (h : lookupType types name = some type) : type ∈ types := by
  rcases Option.or_eq_some_iff.mp (Option.orElse_eq_or.symm.trans h) with hexact | ⟨-, hspelled⟩
  · exact List.mem_of_find?_eq_some hexact
  · exact List.mem_of_find?_eq_some hspelled

theorem lookupType_eq_none_iff : lookupType types name = none ↔
    name ∉ types.map NamedType.name ∧ Text.replaceChar '-' '_' name ∉ types.map NamedType.name := by
  unfold lookupType
  rw [← find?_name_eq_none_iff, ← find?_name_eq_none_iff]
  cases types.find? fun other ↦ other.name == name <;> simp

/-- Two results of a search: both fail, or both succeed with types that are related. -/
def FoundAlike (relation : NamedType → NamedType → Prop) (first second : Option NamedType) : Prop :=
  (first = none ∧ second = none) ∨
    ∃ type result, first = some type ∧ second = some result ∧ relation type result

theorem foundAlike_of_forall₂ {relation : NamedType → NamedType → Prop}
    (h : List.Forall₂ relation types results)
    (hname : ∀ type result, relation type result → result.name = type.name) :
    FoundAlike relation (types.find? fun other ↦ other.name == name)
      (results.find? fun other ↦ other.name == name) := by
  induction h with
  | nil => exact Or.inl ⟨rfl, rfl⟩
  | @cons type result types results hhead _ ih =>
    rw [List.find?_cons, List.find?_cons, hname type result hhead]
    by_cases heq : type.name = name
    · rw [beq_iff_eq.mpr heq]
      exact Or.inr ⟨type, result, rfl, rfl, hhead⟩
    · rw [beq_false_of_ne heq]
      exact ih

theorem FoundAlike.orElse {relation : NamedType → NamedType → Prop}
    {first second first' second' : Option NamedType} (h : FoundAlike relation first second)
    (h' : FoundAlike relation first' second') :
    FoundAlike relation (first.orElse fun _ ↦ first') (second.orElse fun _ ↦ second') := by
  rcases h with ⟨rfl, rfl⟩ | ⟨type, result, rfl, rfl, hrelation⟩
  · exact h'
  · exact Or.inr ⟨type, result, rfl, rfl, hrelation⟩

theorem find?_sortByName (h : (types.map NamedType.name).Nodup) :
    ((Text.sortByName NamedType.name types).find? fun other ↦ other.name == name) =
      types.find? fun other ↦ other.name == name :=
  (Text.find?_key_perm (Text.sortByName_perm NamedType.name types).symm h name).symm

/-- What a name stands for does not depend on the order of the types. -/
theorem lookupType_perm {others : List NamedType} (hperm : types.Perm others)
    (h : (types.map NamedType.name).Nodup) (name : String) :
    lookupType types name = lookupType others name := by
  rw [lookupType, lookupType, Text.find?_key_perm hperm h, Text.find?_key_perm hperm h]

namespace Declarations

/-! ### Insertion -/

/-- No name occurs twice, and none is that of a primitive type. -/
structure Tidy (declarations : Declarations) : Prop where
  nodup : (declarations.types.map NamedType.name).Nodup
  foreign : ∀ type ∈ declarations.types, type.name ∉ Primitive.nativeNames

variable {self : Declarations}

theorem Tidy.declared?_eq_some_iff (h : self.Tidy) :
    self.declared? name = some type ↔ type ∈ self.types ∧ type.name = name :=
  find?_name_eq_some_iff h.nodup

theorem Tidy.empty : ({} : Declarations).Tidy := ⟨List.nodup_nil, by simp⟩

theorem insert_of_native (self : Declarations) (type : NamedType)
    (h : type.name ∈ Primitive.nativeNames) :
    self.insert type = self := by
  rw [insert, if_pos (List.contains_iff_mem.mpr h)]

theorem types_insert_of_declared (hforeign : type.name ∉ Primitive.nativeNames)
    (h : (self.declared? type.name).isSome) :
    (self.insert type).types =
      self.types.map fun old ↦ if old.name == type.name then type else old := by
  rw [insert, if_neg (by simpa using hforeign), if_pos h]

theorem types_insert_of_new (hforeign : type.name ∉ Primitive.nativeNames)
    (h : self.declared? type.name = none) : (self.insert type).types = self.types ++ [type] := by
  rw [insert, if_neg (by simpa using hforeign), if_neg (by simp [h])]

theorem declared?_insert_self (self : Declarations) (type : NamedType)
    (hforeign : type.name ∉ Primitive.nativeNames) :
    (self.insert type).declared? type.name = some type := by
  cases hold : self.declared? type.name with
  | none =>
    have hnone : (self.types.find? fun other ↦ other.name == type.name) = none := hold
    rw [declared?, types_insert_of_new hforeign hold, List.find?_append, hnone]
    simp
  | some old =>
    have hsome : (self.types.find? fun other ↦ other.name == type.name) = some old := hold
    have hsame : ((fun other : NamedType ↦ other.name == type.name) ∘
        fun old ↦ if old.name == type.name then type else old) = fun other ↦
          other.name == type.name := by
      funext other
      by_cases heq : other.name = type.name <;> simp [heq]
    have hname : old.name = type.name := by simpa using List.find?_some hsome
    rw [declared?, types_insert_of_declared hforeign (by simp [hold]), List.find?_map, hsame, hsome]
    simp [hname]

theorem declared?_insert_of_ne (self : Declarations) (type : NamedType) (hne : name ≠ type.name) :
    (self.insert type).declared? name = self.declared? name := by
  by_cases hforeign : type.name ∈ Primitive.nativeNames
  · rw [insert_of_native self type hforeign]
  · cases hold : self.declared? type.name with
    | none =>
      rw [declared?, types_insert_of_new hforeign hold, List.find?_append]
      simp [declared?, hne.symm]
    | some old =>
      have hsame : ((fun other : NamedType ↦ other.name == name) ∘
          fun old ↦ if old.name == type.name then type else old) = fun other ↦
            other.name == name := by
        funext other
        by_cases heq : other.name = type.name <;> simp [heq]
      rw [declared?, types_insert_of_declared hforeign (by simp [hold]), List.find?_map,
        hsame, declared?]
      -- what is found has another name than the type that is stored
      cases hfound : self.types.find? fun other ↦ other.name == name with
      | none => rfl
      | some found =>
        have hname : found.name = name := by simpa using List.find?_some hfound
        simp [hname, hne]

theorem Tidy.insert (h : self.Tidy) (type : NamedType) : (self.insert type).Tidy := by
  by_cases hforeign : type.name ∈ Primitive.nativeNames
  · rwa [insert_of_native self type hforeign]
  · cases hold : self.declared? type.name with
    | none =>
      constructor
      · rw [types_insert_of_new hforeign hold, List.map_append, List.nodup_append]
        refine ⟨h.nodup, by simp, ?_⟩
        intro other hother name hname heq
        obtain ⟨old, hmem, rfl⟩ := List.mem_map.mp hother
        rw [List.map_singleton, List.mem_singleton] at hname
        have hdeclared := h.declared?_eq_some_iff.mpr ⟨hmem, heq.trans hname⟩
        rw [hold] at hdeclared
        cases hdeclared
      · rw [types_insert_of_new hforeign hold]
        intro other hother
        rcases List.mem_append.mp hother with hother | hother
        · exact h.foreign other hother
        · rwa [List.mem_singleton.mp hother]
    | some old =>
      have hnames : ((self.insert type).types.map NamedType.name) =
          self.types.map NamedType.name := by
        rw [types_insert_of_declared hforeign (by simp [hold]), List.map_map]
        refine List.map_congr_left fun other _ ↦ ?_
        by_cases heq : other.name = type.name <;> simp [heq]
      constructor
      · rw [hnames]
        exact h.nodup
      · intro other hother hnative
        have hmem : other.name ∈ self.types.map NamedType.name :=
          hnames ▸ List.mem_map_of_mem hother
        obtain ⟨same, hsame, heq⟩ := List.mem_map.mp hmem
        exact h.foreign same hsame (heq ▸ hnative)

theorem insertAll_cons (type : NamedType) (types : List NamedType) :
    self.insertAll (type :: types) = (self.insert type).insertAll types := rfl

theorem Tidy.insertAll (h : self.Tidy) (types : List NamedType) : (self.insertAll types).Tidy := by
  induction types generalizing self with
  | nil => exact h
  | cons type rest ih => exact ih (h.insert type)

theorem declared?_insertAll_of_notMem (h : name ∉ types.map NamedType.name) :
    (self.insertAll types).declared? name = self.declared? name := by
  induction types generalizing self with
  | nil => rfl
  | cons type rest ih =>
    rw [List.map_cons, List.mem_cons, not_or] at h
    rw [insertAll_cons, ih h.2, declared?_insert_of_ne _ _ h.1]

theorem declared?_insertAll_of_mem (hnodup : (types.map NamedType.name).Nodup) (hmem : type ∈ types)
    (hforeign : type.name ∉ Primitive.nativeNames) :
    (self.insertAll types).declared? type.name = some type := by
  induction types generalizing self with
  | nil => simp at hmem
  | cons first rest ih =>
    rw [List.map_cons, List.nodup_cons] at hnodup
    rw [insertAll_cons]
    rcases List.mem_cons.mp hmem with rfl | hmem
    · rw [declared?_insertAll_of_notMem hnodup.1, declared?_insert_self _ _ hforeign]
    · exact ih hnodup.2 hmem

/-- Of several types of one name one is stored. -/
theorem exists_declared?_insertAll (self : Declarations) (hmem : type ∈ types)
    (hforeign : type.name ∉ Primitive.nativeNames) :
    ∃ other ∈ types, other.name = type.name ∧
      (self.insertAll types).declared? type.name = some other := by
  induction types generalizing self type with
  | nil => simp at hmem
  | cons first rest ih =>
    rw [insertAll_cons]
    by_cases hlater : type.name ∈ rest.map NamedType.name
    · obtain ⟨later, hmem, hname⟩ := List.mem_map.mp hlater
      rw [← hname] at hforeign ⊢
      obtain ⟨other, hother, hdeclared⟩ := ih _ hmem hforeign
      exact ⟨other, List.mem_cons_of_mem _ hother, hdeclared⟩
    · rcases List.mem_cons.mp hmem with rfl | hmem
      · refine ⟨type, List.mem_cons_self, rfl, ?_⟩
        rw [declared?_insertAll_of_notMem hlater, declared?_insert_self _ _ hforeign]
      · exact absurd (List.mem_map_of_mem hmem) hlater

theorem mem_of_mem_insertAll (h : result ∈ (self.insertAll types).types) :
    result ∈ self.types ∨ result ∈ types := by
  induction types generalizing self with
  | nil => exact Or.inl h
  | cons type rest ih =>
    rcases ih h with h | h
    · by_cases hforeign : type.name ∈ Primitive.nativeNames
      · rw [insert_of_native self type hforeign] at h
        exact Or.inl h
      · cases hold : self.declared? type.name with
        | none =>
          rw [types_insert_of_new hforeign hold, List.mem_append, List.mem_singleton] at h
          rcases h with h | rfl
          · exact Or.inl h
          · exact Or.inr List.mem_cons_self
        | some old =>
          rw [types_insert_of_declared hforeign (by simp [hold]), List.mem_map] at h
          obtain ⟨other, hother, rfl⟩ := h
          split_ifs
          · exact Or.inr List.mem_cons_self
          · exact Or.inl hother
    · exact Or.inr (List.mem_cons_of_mem _ h)

/-- What is declared by a list of types is one of them. -/
theorem mem_of_declared?_insertAll
    (h : (({} : Declarations).insertAll types).declared? name = some type) :
    type ∈ types ∧ type.name = name := by
  obtain ⟨hmem, hname⟩ := (Tidy.empty.insertAll types).declared?_eq_some_iff.mp h
  exact ⟨(mem_of_mem_insertAll hmem).resolve_left List.not_mem_nil, hname⟩

/-! ### Sealing -/

/-- Sealing leaves names and origins as they are, and all shapes but those of keyed states. -/
structure Settled (declarations : Declarations) (type result : NamedType) : Prop where
  settles : declarations.settle type = .ok result
  name : result.name = type.name
  origin : result.origin = type.origin
  shape : result.shape = type.shape ∨
    ∃ before after, type.shape = .keyedState before ∧ result.shape = .keyedState after

theorem settled_of_settle (h : self.settle type = .ok result) : self.Settled type result := by
  have hsettles := h
  unfold settle at h
  split at h
  · rename_i state hshape
    obtain ⟨typed, -, h⟩ := bind_eq_ok_iff.mp h
    cases h
    exact ⟨hsettles, rfl, rfl, Or.inr ⟨state, typed.type, hshape, rfl⟩⟩
  · cases h
    exact ⟨hsettles, rfl, rfl, Or.inl rfl⟩

theorem forall₂_settled_of_toScope {scope : Scope} (h : self.toScope = .ok scope) :
    List.Forall₂ self.Settled (Text.sortByName NamedType.name self.types) scope.types := by
  obtain ⟨results, hresults, h⟩ := bind_eq_ok_iff.mp h
  cases h
  exact (mapM_eq_ok_iff.mp hresults).imp fun type result ↦ settled_of_settle

theorem map_name_of_forall₂ (h : List.Forall₂ self.Settled types results) :
    results.map NamedType.name = types.map NamedType.name :=
  map_eq_map_of_forall₂ h fun _ _ ↦ Settled.name

/-- The types of a scope are in the order of their names. -/
theorem Tidy.pairwise_lt_of_toScope {scope : Scope} (h : self.Tidy)
    (hscope : self.toScope = .ok scope) :
    scope.types.Pairwise fun a b ↦ a.name < b.name := by
  have hsorted :=
    List.pairwise_map.mpr (Text.pairwise_lt_sortByName NamedType.name self.types h.nodup)
  rw [← map_name_of_forall₂ (forall₂_settled_of_toScope hscope)] at hsorted
  exact List.pairwise_map.mp hsorted

theorem exists_settled_of_mem {scope : Scope} (hscope : self.toScope = .ok scope)
    (hmem : type ∈ self.types) :
    ∃ result ∈ scope.types, self.Settled type result :=
  exists_right_of_forall₂ (forall₂_settled_of_toScope hscope) (Text.mem_sortByName.mpr hmem)

theorem exists_declared_of_mem {scope : Scope} (hscope : self.toScope = .ok scope)
    (hmem : result ∈ scope.types) : ∃ type ∈ self.types, self.Settled type result := by
  obtain ⟨type, htype, hsettled⟩ := exists_left_of_forall₂ (forall₂_settled_of_toScope hscope) hmem
  exact ⟨type, Text.mem_sortByName.mp htype, hsettled⟩

theorem Tidy.lookup_alike {scope : Scope} (h : self.Tidy) (hscope : self.toScope = .ok scope)
    (name : String) :
    FoundAlike self.Settled (lookupType self.types name) (lookupType scope.types name) := by
  have hfind (name : String) : FoundAlike self.Settled
      (self.types.find? fun other ↦ other.name == name)
      (scope.types.find? fun other ↦ other.name == name) := by
    rw [← find?_sortByName h.nodup]
    exact foundAlike_of_forall₂ (forall₂_settled_of_toScope hscope) fun _ _ hsettled ↦ hsettled.name
  exact (hfind name).orElse (hfind _)

/-- Sealed types settle a keyed state as the declarations do: where a keyed state stands for a
value, both refuse it. -/
theorem Tidy.resolve_toScope {scope : Scope} (h : self.Tidy) (hscope : self.toScope = .ok scope)
    (state : TypedState) : state.resolve scope.shape? = state.resolve self.shape? := by
  cases hvalue : state.type.value with
  | u32 => simp only [TypedState.resolve, hvalue]
  | row columns => simp only [TypedState.resolve, hvalue]
  | unresolved name =>
    simp only [TypedState.resolve, hvalue, TypedState.valueShape, Scope.shape?,
      Scope.lookup?, shape?]
    rcases h.lookup_alike hscope name with ⟨htype, hresult⟩ |
      ⟨type, result, htype, hresult, hsettled⟩
    · rw [htype, hresult]
    · rw [htype, hresult]
      rcases hsettled.shape with hshape | ⟨before, after, hbefore, hafter⟩
      · simp only [Option.map_some, hshape]
      · simp only [Option.map_some, hbefore, hafter, Option.orElse_some]

/-- What a type is settled to can be told from the sealed types alone. -/
theorem Tidy.settle_toScope {scope : Scope} (h : self.Tidy) (hscope : self.toScope = .ok scope)
    (type : NamedType) : settle { types := scope.types } type = self.settle type := by
  unfold settle
  have hresolve (state : TypedState) : state.resolve (shape? { types := scope.types }) =
      state.resolve self.shape? := h.resolve_toScope hscope state
  simp only [hresolve]

end Declarations

end FlowSpec
