import FlowSpec.Proofs.Scope.Settling

/-!
Aliases followed to their end. A name denotes the shape that is declared under it or, through an
alias, what the target of the alias denotes; a name under which nothing is declared denotes the
primitive type that it spells. The bounded walk that looks for hashable types asks first whether the
target of an alias spells a primitive type, and only then what is declared. The two part where a
type is declared under such a spelling (`Misread`); everywhere else, what the walk accepts denotes a
hashable primitive type. Names that are not declared are not walked at all, and of these `bytes` is
not hashable (`Sealed.denotesHashable_iff`).
-/

set_option autoImplicit false

namespace FlowSpec.Scope

variable {scope : Scope} {name target : String} {shape other : Shape}

/-- Following aliases from a name ends in a shape. -/
inductive Denotes (scope : Scope) : String → Shape → Prop
  | declared {name : String} {shape : Shape} (hshape : scope.shape? name = some shape)
      (hend : ∀ target, shape ≠ .named target) : Denotes scope name shape
  | spelled {name : String} {kind : Primitive} (hfree : scope.shape? name = none)
      (hkind : Primitive.ofName? name = some kind) : Denotes scope name (.primitive kind)
  | synonym {name target : String} {shape : Shape}
      (htarget : scope.shape? name = some (.named target)) (hrest : Denotes scope target shape) :
      Denotes scope name shape

theorem denotes_iff_of_named (h : scope.shape? name = some (.named target)) :
    scope.Denotes name shape ↔ scope.Denotes target shape := by
  refine ⟨fun hdenotes ↦ ?_, .synonym h⟩
  cases hdenotes with
  | declared hshape hend => exact absurd (Option.some.inj (hshape.symm.trans h)) (hend target)
  | spelled hfree => cases hfree.symm.trans h
  | synonym htarget hrest =>
    cases htarget.symm.trans h
    exact hrest

theorem denotes_iff_of_declared (h : scope.shape? name = some other)
    (hend : ∀ target, other ≠ .named target) :
    scope.Denotes name shape ↔ shape = other := by
  constructor
  · intro hdenotes
    cases hdenotes with
    | declared hshape => exact Option.some.inj (hshape.symm.trans h)
    | spelled hfree => cases hfree.symm.trans h
    | synonym htarget => exact absurd (Option.some.inj (h.symm.trans htarget)) (hend _)
  · rintro rfl
    exact .declared h hend

theorem denotes_iff_of_free (h : scope.shape? name = none) :
    scope.Denotes name shape ↔ ∃ kind, Primitive.ofName? name = some kind ∧
      shape = .primitive kind := by
  constructor
  · intro hdenotes
    cases hdenotes with
    | declared hshape => cases h.symm.trans hshape
    | spelled _ hkind => exact ⟨_, hkind, rfl⟩
    | synonym htarget => cases h.symm.trans htarget
  · rintro ⟨kind, hkind, rfl⟩
    exact .spelled h hkind

/-- A name denotes one shape at most. -/
theorem Denotes.unique (h : scope.Denotes name shape) (h' : scope.Denotes name other) :
    shape = other := by
  induction h with
  | declared hshape hend => exact ((denotes_iff_of_declared hshape hend).mp h').symm
  | spelled hfree hkind =>
    obtain ⟨kind, hkind', rfl⟩ := (denotes_iff_of_free hfree).mp h'
    cases hkind.symm.trans hkind'
    rfl
  | synonym htarget _ ih => exact ih ((denotes_iff_of_named htarget).mp h')

/-! ### Hashable types -/

/-- Following aliases from a name ends in a hashable primitive type. -/
def DenotesHashable (scope : Scope) (name : String) : Prop :=
  ∃ kind, scope.Denotes name (.primitive kind) ∧ kind.isHashable

theorem denotesHashable_iff_of_named (h : scope.shape? name = some (.named target)) :
    scope.DenotesHashable name ↔ scope.DenotesHashable target :=
  exists_congr fun _ ↦ and_congr_left fun _ ↦ denotes_iff_of_named h

/-- Some alias on the way has a target that spells a primitive type, and under that spelling a type
is declared which is not hashable. -/
inductive Misread (scope : Scope) : String → Prop
  | target {name target : String} (htarget : scope.shape? name = some (.named target))
      (hspelled : (Primitive.ofName? target).isSome) (hdeclared : (scope.shape? target).isSome)
      (hnot : ¬scope.DenotesHashable target) : Misread scope name
  | further {name target : String} (htarget : scope.shape? name = some (.named target))
      (hrest : Misread scope target) : Misread scope name

theorem Misread.not_denotesHashable (h : scope.Misread name) : ¬scope.DenotesHashable name := by
  induction h with
  | target htarget _ _ hnot => rwa [denotesHashable_iff_of_named htarget]
  | further htarget _ ih => rwa [denotesHashable_iff_of_named htarget]

theorem not_misread_of_free (h : scope.shape? name = none) : ¬scope.Misread name := by
  intro hmisread
  cases hmisread with
  | target htarget => cases h.symm.trans htarget
  | further htarget => cases h.symm.trans htarget

theorem misread_iff_of_named (h : scope.shape? name = some (.named target)) : scope.Misread name ↔
    ((Primitive.ofName? target).isSome ∧ (scope.shape? target).isSome ∧
      ¬scope.DenotesHashable target) ∨ scope.Misread target := by
  constructor
  · intro hmisread
    cases hmisread with
    | target htarget hspelled hdeclared hnot =>
      cases h.symm.trans htarget
      exact .inl ⟨hspelled, hdeclared, hnot⟩
    | further htarget hrest =>
      cases h.symm.trans htarget
      exact .inr hrest
  · rintro (⟨hspelled, hdeclared, hnot⟩ | hrest)
    · exact .target h hspelled hdeclared hnot
    · exact .further h hrest

theorem isHashable_of_primitive {fuel : Nat} {kind : Primitive}
    (h : scope.isHashableAux fuel (.primitive kind) = true) : kind.isHashable := by
  cases fuel with
  | zero => cases h
  | succ fuel => exact h

/-- What the walk accepts denotes a hashable type, unless it was taken for another on the way. -/
theorem denotesHashable_or_misread {fuel : Nat} (hshape : scope.shape? name = some shape)
    (h : scope.isHashableAux fuel shape = true) :
    scope.DenotesHashable name ∨ scope.Misread name := by
  induction fuel generalizing name shape with
  | zero => cases h
  | succ fuel ih =>
    cases shape with
    | primitive kind => exact .inl ⟨kind, .declared hshape (by simp), h⟩
    | named target =>
      rw [isHashableAux] at h
      cases hkind : Primitive.ofName? target with
      | some kind =>
        simp only [hkind] at h
        by_cases hdenotes : scope.DenotesHashable target
        · exact .inl ((denotesHashable_iff_of_named hshape).mpr hdenotes)
        · -- the spelling is not free, else the target would denote the kind that was accepted
          refine .inr (.target hshape (by simp [hkind])
            (Option.isSome_iff_ne_none.mpr fun hfree ↦ hdenotes ?_) hdenotes)
          exact ⟨kind, .spelled hfree hkind, isHashable_of_primitive h⟩
      | none =>
        cases hnext : scope.shape? target with
        | none => simp [hkind, hnext] at h
        | some next =>
          simp only [hkind, hnext] at h
          rcases ih hnext h with hdenotes | hmisread
          · exact .inl ((denotesHashable_iff_of_named hshape).mpr hdenotes)
          · exact .inr (.further hshape hmisread)
    | _ => cases h

theorem denotesHashable_iff_of_isHashable (hshape : scope.shape? name = some shape)
    (h : scope.isHashable shape = true) : scope.DenotesHashable name ↔ ¬scope.Misread name :=
  ⟨fun hdenotes hmisread ↦ hmisread.not_denotesHashable hdenotes,
    fun hread ↦ (denotesHashable_or_misread hshape h).resolve_right hread⟩

/-! ### Native names -/

/-- What is in scope and not declared is native. -/
theorem native_of_contains (h : scope.contains name) (hfree : scope.shape? name = none) :
    name ∈ Primitive.nativeNames := by
  rw [shape?, Option.map_eq_none_iff] at hfree
  simpa [contains, hfree] using h

/-- Nothing is declared under the name of a primitive type. -/
theorem Sealed.shape?_of_native (h : scope.Sealed) (hnative : name ∈ Primitive.nativeNames) :
    scope.shape? name = none := by
  have hplain : ∀ name ∈ Primitive.nativeNames, Text.replaceChar '-' '_' name = name := by decide
  have hforeign : name ∉ scope.types.map NamedType.name := by
    intro hmem
    obtain ⟨type, htype, rfl⟩ := List.mem_map.mp hmem
    exact h.foreign htype hnative
  have hnone : scope.lookup? name = none :=
    lookupType_eq_none_iff.mpr ⟨hforeign, (hplain name hnative).symm ▸ hforeign⟩
  rw [shape?, hnone, Option.map_none]

/-- Of the primitive types, only `bytes` is not hashable. -/
theorem Sealed.denotesHashable_iff_of_native (h : scope.Sealed)
    (hnative : name ∈ Primitive.nativeNames) :
    scope.DenotesHashable name ↔ name ≠ "bytes" := by
  have hkinds : ∀ name ∈ Primitive.nativeNames, ∀ kind ∈ Primitive.ofName? name,
      (kind.isHashable ↔ name ≠ "bytes") := by decide
  obtain ⟨kind, hkind⟩ := Option.isSome_iff_exists.mp (Primitive.isSome_ofName?_of_native hnative)
  rw [← hkinds name hnative kind hkind]
  constructor
  · rintro ⟨other, hdenotes, hhashable⟩
    obtain ⟨found, hfound, hsame⟩ := (denotes_iff_of_free (h.shape?_of_native hnative)).mp hdenotes
    cases hsame
    cases hkind.symm.trans hfound
    exact hhashable
  · exact fun hhashable ↦ ⟨kind, .spelled (h.shape?_of_native hnative) hkind, hhashable⟩

/-- A name of the scope whose shape is hashable, if it is declared, denotes a hashable type with two
exceptions. -/
theorem Sealed.denotesHashable_iff (h : scope.Sealed) (hcontains : scope.contains name)
    (hhashable : ∀ shape ∈ scope.shape? name, scope.isHashable shape) :
    scope.DenotesHashable name ↔ name ≠ "bytes" ∧ ¬scope.Misread name := by
  cases hshape : scope.shape? name with
  | none =>
    rw [h.denotesHashable_iff_of_native (native_of_contains hcontains hshape)]
    exact (and_iff_left (not_misread_of_free hshape)).symm
  | some shape =>
    have hforeign : name ≠ "bytes" := by
      rintro rfl
      rw [h.shape?_of_native (by decide)] at hshape
      cases hshape
    rw [denotesHashable_iff_of_isHashable hshape (hhashable shape hshape)]
    exact (and_iff_right hforeign).symm

end FlowSpec.Scope
