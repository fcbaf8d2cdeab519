import FlowSpec.Proofs.Lowering.Hoisting

/-!
The two names of a list that is declared without one. A declaration tells a made-up name from the
word behind the `type` of its items (`generatedName`); hoisting makes one up from the name by which
the items are referred to. They are the same exactly for items that are called by their word
(`IsCalledByType`): a primitive in its usual spelling, a type that is declared elsewhere, or a
declaration that takes its own word for a name.
-/

set_option autoImplicit false

namespace FlowSpec

/-! ### Names and words -/

namespace Primitive

/-- The spellings that are normalized away. -/
def secondSpellings : List String :=
  (spellings.filter fun spelling ↦ spelling.2.name ≠ spelling.1).map Prod.fst

example : secondSpellings = ["i8", "i16", "i32", "i64", "float32", "float64", "String"] := by decide

theorem normalize_eq_self_iff {name : String} : normalize name = name ↔ name ∉ secondSpellings := by
  constructor
  · have hchanged : ∀ spelling ∈ secondSpellings, normalize spelling ≠ spelling := by decide
    exact fun h hmem ↦ hchanged name hmem h
  · intro hmem
    unfold normalize
    split
    · next primitive hspelled =>
      by_contra hne
      obtain ⟨earlier, later, hspellings, -⟩ := List.lookup_eq_some_iff.mp hspelled
      have hspelling : (name, primitive) ∈ spellings := hspellings ▸ List.mem_append_cons_self
      exact hmem (List.mem_map.mpr ⟨_, List.mem_filter.mpr ⟨hspelling, by simpa using hne⟩, rfl⟩)
    · rfl

end Primitive

namespace Document.Declaration

theorem listName_injective : Function.Injective listName := by
  intro first second h
  simpa [listName] using h

theorem listName_ne_list (item : String) : listName item ≠ "list" := by
  intro h
  have hlength := congrArg String.length h
  rw [listName, String.length_append, String.length_append, show "list-".length = 5 from rfl,
    show "list".length = 4 from rfl] at hlength
  omega

/-- A declaration is referred to by the word behind its `type`. -/
def IsCalledByType : Declaration → Prop
  | plain _ type => type ∉ Primitive.secondSpellings
  | other => other.info.typeName = other.type

theorem refName_eq_type_iff (declaration : Declaration) :
    declaration.refName = declaration.type ↔ declaration.IsCalledByType := by
  cases declaration with
  | plain info type => exact Primitive.normalize_eq_self_iff
  | list info items =>
    change refName (.list info items) = "list" ↔ info.typeName = "list"
    rw [refName]
    split
    · next hunnamed => simp [hunnamed, listName_ne_list]
    · rfl
  | _ => exact Iff.rfl

end Document.Declaration

namespace Lowering

open Document (Declaration)

/-- A list without a name is hoisted under a name made from the one of its items, and the same as
the one that its declaration tells exactly if the items are called by their word. -/
theorem reference_list_eq_generatedName_iff {isV5 : Bool} {info : Document.DeclarationInfo}
    {items : Declaration} {name : String} {before after : Table} (hunnamed : info.typeName = "")
    (h : (reference (.list info items) (shapeOf isV5 (.list info items))).run before =
      .ok (name, after)) :
    name = Declaration.listName items.refName ∧ after.lookup name = some (.list items.refName) ∧
      (name = (Declaration.list info items).generatedName ↔ items.IsCalledByType) := by
  have hrefName : (Declaration.list info items).refName = Declaration.listName items.refName := by
    rw [Declaration.refName, if_pos hunnamed]
  obtain ⟨⟨hname, -⟩, hhoisted⟩ :=
    (visits_reference (visits_shapeOf isV5 (.list info items))).lowers.ok _ _ _ h
  rw [hrefName] at hname
  refine ⟨hname, hhoisted.found _ _ ⟨.list info items, among_singleton_iff.mpr (.inl rfl), rfl, ?_⟩,
    ?_⟩
  · rw [hname, hrefName]
    rfl
  · rw [hname, Declaration.generatedName, Declaration.listName_injective.eq_iff,
      items.refName_eq_type_iff]

theorem reference_list_of_counters :
    (reference (.list {} (.plain {} "u32")) (shapeOf false (.list {} (.plain {} "u32")))).run [] =
        .ok ("list-u32-gen-type", [("list-u32-gen-type", .list "u32")]) ∧
      "list-u32-gen-type" = (Declaration.list {} (.plain {} "u32")).generatedName := by
  have hrun :
      (reference (.list {} (.plain {} "u32")) (shapeOf false (.list {} (.plain {} "u32")))).run [] =
      .ok ("list-u32-gen-type", [("list-u32-gen-type", .list "u32")]) := rfl
  have hword : (Declaration.plain {} "u32").IsCalledByType := by
    simp [Declaration.IsCalledByType, Primitive.secondSpellings, Primitive.spellings,
      Primitive.name]
  exact ⟨hrun, (reference_list_eq_generatedName_iff rfl hrun).2.2.mpr hword⟩

/-- A list of integers in their second spelling has two names. -/
theorem reference_list_of_integers :
    (reference (.list {} (.plain {} "i32")) (shapeOf false (.list {} (.plain {} "i32")))).run [] =
        .ok ("list-s32-gen-type", [("list-s32-gen-type", .list "s32")]) ∧
      (Declaration.list {} (.plain {} "i32")).generatedName = "list-i32-gen-type" :=
  ⟨rfl, rfl⟩

end Lowering

end FlowSpec
