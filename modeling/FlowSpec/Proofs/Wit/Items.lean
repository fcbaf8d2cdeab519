import FlowSpec.Proofs.Outcome
import FlowSpec.Wit.Generate
import Mathlib.Data.List.Nodup
import Mathlib.Data.List.Pairwise
import Mathlib.Data.String.Basic

/-!
The names of the interfaces and worlds that describe a package. Every function has up to five of
them, each made from the function's normal name by a word before or behind it, and the description
is refused only if two functions have one normal name. Names of different makes can coincide all the
same, because a function's own name may contain the words. The ways in which they do are listed by
`Clash`; a description in which no two functions clash has no name twice.
-/

set_option autoImplicit false

namespace FlowSpec.Wit

open Outcome

def Item.name : Item → String
  | interface item => item.name
  | world item => item.name

namespace Description

/-- The names of all interfaces and worlds. -/
def itemNames (description : Description) : List String := description.items.map Item.name

end Description

/-! ### The items of a function -/

/-- What an item of a function is for. -/
inductive Role where
  | service
  | reader
  | readerWorld
  | writer
  | writerWorld
deriving DecidableEq

namespace Role

/-- The name of the item that plays a role for a function with this normal name. -/
def nameFor (function : String) : Role → String
  | service => function ++ "-service"
  | reader => "deserialize-" ++ function
  | readerWorld => "deserialize-" ++ function ++ "-world"
  | writer => "serialize-" ++ function
  | writerWorld => "serialize-" ++ function ++ "-world"

end Role

/-- The roles that the items of a function play; one without an output is not written. -/
def roles (function : Operation) : List Role :=
  [.service, .reader, .readerWorld] ++ if function.step.output.isSome then
    [.writer, .writerWorld] else []

/-- The normal name of a function. -/
def functionName (function : Operation) : String := normalName function.step.uses

/-- The names of a function's items. -/
def namesOf (function : Operation) : List String :=
  (roles function).map (Role.nameFor (functionName function))

theorem map_name_functionItems (function : Operation) :
    (functionItems function).map Item.name = namesOf function := by
  unfold functionItems namesOf roles serializeInterface
  cases function.step.output <;> rfl

theorem mem_roles_iff {function : Operation} {role : Role} : role ∈ roles function ↔
    (role = .writer ∨ role = .writerWorld → function.step.output.isSome) := by
  cases role <;> cases hwritten : function.step.output <;> simp [roles, hwritten]

theorem nodup_roles (function : Operation) : (roles function).Nodup := by
  unfold roles
  split <;> decide

/-! ### Names that coincide -/

/-- The first name followed by `service` is the second behind `word`: they share a stem between
them, or the hyphen of the one is that of the other. -/
def Bridges (word first second : String) : Prop :=
  (first = word ∧ second = "service") ∨ ∃ stem, first = word ++ "-" ++ stem ∧
    second = stem ++ "-service"

theorem bridges_iff {word first second : String} :
    first ++ "-service" = word ++ "-" ++ second ↔ Bridges word first second := by
  constructor
  · intro h
    have hlist := congrArg String.toList h
    rw [String.toList_append, String.toList_append] at hlist
    rcases List.append_eq_append_iff.mp hlist with ⟨middle, hword, hservice⟩ |
      ⟨stem, hfirst, hsecond⟩
    · cases middle with
      | nil =>
        refine Or.inr ⟨"", ?_, ?_⟩
        · rw [← String.toList_inj, String.append_empty, hword, List.append_nil]
        · rw [← String.toList_inj, String.empty_append]
          exact hservice.symm
      | cons hyphen rest =>
        rw [show "-service".toList = '-' :: "service".toList from rfl, List.cons_append,
          List.cons.injEq] at hservice
        obtain ⟨rfl, hservice⟩ := hservice
        -- the hyphen ends the word, so nothing can follow it in the part that overlaps
        have hrest : rest = [] := by
          by_contra hne
          have hlast := congrArg List.getLast? hword
          rw [String.toList_append, List.getLast?_append] at hlast
          have hmem : '-' ∈ rest := by
            rw [List.getLast?_append, List.getLast?_cons,
              List.getLast?_eq_some_getLast hne] at hlast
            rw [show '-' = rest.getLast hne by simpa using hlast]
            exact List.getLast_mem hne
          have hservices : '-' ∈ "service".toList := by
            rw [hservice]
            exact List.mem_append_left _ hmem
          exact absurd hservices (by decide)
        subst hrest
        refine Or.inl ⟨?_, ?_⟩
        · rw [String.toList_append] at hword
          exact (String.toList_inj.mp (List.append_cancel_right hword)).symm
        · exact (String.toList_inj.mp hservice).symm
    · refine Or.inr ⟨String.ofList stem, ?_, ?_⟩
      · rw [← String.toList_inj, String.toList_append, String.toList_ofList, hfirst]
      · rw [← String.toList_inj, String.toList_append, String.toList_ofList, hsecond]
  · rintro (⟨rfl, rfl⟩ | ⟨stem, rfl, rfl⟩)
    · rw [String.append_assoc]
      rfl
    · simp only [String.append_assoc]

/-- An item of the first function has the name of another item of the second. -/
inductive Clash (first second : Operation) : Prop
  | world (h : functionName second = functionName first ++ "-world")
  | reader (h : Bridges "deserialize" (functionName first) (functionName second))
  | writer (hwritten : second.step.output.isSome)
      (h : Bridges "serialize" (functionName first) (functionName second))

theorem service_ne_world (first second : String) : first ++ "-service" ≠ second ++ "-world" := by
  intro h
  have hlast := congrArg (fun text : String ↦ text.toList.getLast?) h
  simp [String.toList_append, List.getLast?_append] at hlast

theorem deserialize_ne_serialize (first second : String) :
    "deserialize-" ++ first ≠ "serialize-" ++ second := by
  intro h
  have hfirst := congrArg (fun text : String ↦ text.toList.head?) h
  simp [String.toList_append] at hfirst

theorem Role.eq_of_ctorIdx_eq {role other : Role} (h : role.ctorIdx = other.ctorIdx) :
    role = other := by
  rw [← Role.ofNat_ctorIdx role, h, Role.ofNat_ctorIdx]

theorem Role.nameFor_inj {first second : String} {role : Role} :
    role.nameFor first = role.nameFor second ↔ first = second := by
  cases role <;> simp [nameFor, String.append_assoc]

/-- Two items of different roles have one name only where the functions clash. -/
theorem clash_of_nameFor_eq {first second : Operation} {role other : Role}
    (hother : other ∈ roles second) (hlt : role.ctorIdx < other.ctorIdx)
    (h : role.nameFor (functionName first) = other.nameFor (functionName second)) :
    Clash first second ∨ Clash second first := by
  cases role <;> cases other <;> simp only [Role.ctorIdx, Nat.reduceLT, lt_self_iff_false] at hlt
  case service.reader => exact .inl (.reader (bridges_iff.mp h))
  case service.readerWorld => exact absurd h (service_ne_world _ _)
  case service.writer =>
    exact .inl (.writer (mem_roles_iff.mp hother (.inl rfl)) (bridges_iff.mp h))
  case service.writerWorld => exact absurd h (service_ne_world _ _)
  case reader.readerWorld =>
    rw [Role.nameFor, Role.nameFor, String.append_assoc, String.append_right_inj] at h
    exact .inr (.world h)
  case reader.writer => exact absurd h (deserialize_ne_serialize _ _)
  case reader.writerWorld =>
    rw [Role.nameFor, Role.nameFor, String.append_assoc] at h
    exact absurd h (deserialize_ne_serialize _ _)
  case readerWorld.writer =>
    rw [Role.nameFor, Role.nameFor, String.append_assoc] at h
    exact absurd h (deserialize_ne_serialize _ _)
  case readerWorld.writerWorld =>
    rw [Role.nameFor, Role.nameFor, String.append_assoc, String.append_assoc] at h
    exact absurd h (deserialize_ne_serialize _ _)
  case writer.writerWorld =>
    rw [Role.nameFor, Role.nameFor, String.append_assoc, String.append_right_inj] at h
    exact .inr (.world h)

theorem not_disjoint_of_nameFor_eq {first second : Operation} {role other : Role}
    (hrole : role ∈ roles first) (hother : other ∈ roles second)
    (h : role.nameFor (functionName first) = other.nameFor (functionName second)) :
    ¬ (namesOf first).Disjoint (namesOf second) := by
  intro hdisjoint
  refine hdisjoint (List.mem_map_of_mem hrole) ?_
  rw [h]
  exact List.mem_map_of_mem hother

theorem Clash.not_disjoint {first second : Operation} (h : Clash first second) :
    ¬ (namesOf first).Disjoint (namesOf second) := by
  have hservice (function : Operation) : Role.service ∈ roles function :=
    mem_roles_iff.mpr (by simp)
  have hreader (function : Operation) : Role.reader ∈ roles function := mem_roles_iff.mpr (by simp)
  cases h with
  | world h =>
    have hworld : Role.readerWorld ∈ roles first := mem_roles_iff.mpr (by simp)
    refine not_disjoint_of_nameFor_eq hworld (hreader second) ?_
    rw [Role.nameFor, Role.nameFor, h, String.append_assoc]
  | reader h =>
    exact not_disjoint_of_nameFor_eq (hservice first) (hreader second) (bridges_iff.mpr h)
  | writer hwritten h =>
    have hwriter : Role.writer ∈ roles second := mem_roles_iff.mpr fun _ ↦ hwritten
    exact not_disjoint_of_nameFor_eq (hservice first) hwriter (bridges_iff.mpr h)

/-- Functions with different names have an item name in common exactly if they clash. -/
theorem disjoint_namesOf_iff {first second : Operation}
    (hne : functionName first ≠ functionName second) :
    (namesOf first).Disjoint (namesOf second) ↔ ¬ Clash first second ∧ ¬ Clash second first := by
  constructor
  · intro hdisjoint
    exact ⟨fun hclash ↦ hclash.not_disjoint hdisjoint, fun hclash ↦
      hclash.not_disjoint fun _ hsecond hfirst ↦ hdisjoint hfirst hsecond⟩
  · rintro ⟨hforth, hback⟩ name hfirst hsecond
    obtain ⟨role, hrole, rfl⟩ := List.mem_map.mp hfirst
    obtain ⟨other, hother, hname⟩ := List.mem_map.mp hsecond
    rcases lt_trichotomy role.ctorIdx other.ctorIdx with hlt | heq | hlt
    · exact (clash_of_nameFor_eq hother hlt hname.symm).elim hforth hback
    · obtain rfl := Role.eq_of_ctorIdx_eq heq
      exact hne (Role.nameFor_inj.mp hname.symm)
    · exact (clash_of_nameFor_eq hrole hlt hname).elim hback hforth

/-- No function clashes with itself: the words around the two names have different lengths. -/
theorem not_clash_self (function : Operation) : ¬ Clash function function := by
  intro h
  cases h with
  | world h =>
    have hlength := congrArg String.length h
    simp [String.length_append] at hlength
  | reader h =>
    have hlength := congrArg String.length (bridges_iff.mpr h)
    rw [String.length_append, String.length_append, show "-service".length = 8 from rfl,
      show ("deserialize" ++ "-").length = 12 from rfl] at hlength
    omega
  | writer _ h =>
    have hlength := congrArg String.length (bridges_iff.mpr h)
    rw [String.length_append, String.length_append, show "-service".length = 8 from rfl,
      show ("serialize" ++ "-").length = 10 from rfl] at hlength
    omega

theorem nodup_namesOf (function : Operation) : (namesOf function).Nodup := by
  refine (List.nodup_map_iff_inj_on (nodup_roles function)).mpr fun role hrole other hother hname ↦
    ?_
  rcases lt_trichotomy role.ctorIdx other.ctorIdx with hlt | heq | hlt
  · exact ((clash_of_nameFor_eq hother hlt hname).elim (not_clash_self _) (not_clash_self _)).elim
  · exact Role.eq_of_ctorIdx_eq heq
  · exact ((clash_of_nameFor_eq hrole hlt hname.symm).elim (not_clash_self _)
        (not_clash_self _)).elim

/-! ### Descriptions -/

/-- Services are told apart by their names, which differ exactly if the normal names of the
functions do. -/
theorem nodup_of_serviceNames {functions : List Operation} {owners : List (String × String)}
    {names : List String} (h : serviceNames functions owners = .ok names) :
    (functions.map functionName).Nodup ∧
      ∀ function ∈ functions, serviceName function.step.uses ∉ owners.map Prod.fst := by
  induction functions generalizing owners names with
  | nil => simp
  | cons function rest ih =>
    unfold serviceNames at h
    dsimp only at h
    split at h
    next => cases h
    next hnew =>
      obtain ⟨others, hothers, -⟩ := bind_eq_ok_iff.mp h
      obtain ⟨hnodup, hold⟩ := ih hothers
      simp only [List.map_cons, List.mem_cons, not_or] at hold
      refine ⟨List.nodup_cons.mpr ⟨?_, hnodup⟩, List.forall_mem_cons.mpr ⟨?_, ?_⟩⟩
      · intro hmem
        obtain ⟨other, hother, hname⟩ := List.mem_map.mp hmem
        exact (hold other hother).1 (congrArg (· ++ "-service") hname)
      · intro hmem
        obtain ⟨owner, howner, hname⟩ := List.mem_map.mp hmem
        simpa [hname] using List.lookup_eq_none_iff.mp hnew owner howner
      · exact fun other hother ↦ (hold other hother).2

/-- The world of everything and the shared types have names that no item of a function has. -/
theorem notMem_namesOf {function : Operation} {name : String}
    (hname : name ∈ ["default-world", typesName]) :
    name ∉ namesOf function := by
  intro hmem
  obtain ⟨role, -, hrole⟩ := List.mem_map.mp hmem
  have hfirst := congrArg (fun text : String ↦ text.toList.take 3) hrole
  have hlast := congrArg (fun text : String ↦ text.toList.getLast?) hrole
  rcases List.mem_pair.mp hname with rfl | rfl
  · cases role <;> simp [Role.nameFor, String.toList_append, List.getLast?_append] at hfirst hlast
  · cases role <;> simp [Role.nameFor, typesName, String.toList_append,
      List.getLast?_append] at hfirst hlast

theorem itemNames_of_describe {package : Package} {scope : Scope} {description : Description}
    (h : describe package scope = .ok description) :
    description.itemNames = ["default-world", typesName] ++ package.functions.flatMap namesOf ∧
      (package.functions.map functionName).Nodup := by
  obtain ⟨services, hservices, h⟩ := bind_eq_ok_iff.mp h
  obtain ⟨types, htypes, h⟩ := bind_eq_ok_iff.mp h
  obtain ⟨-, -, htypes⟩ := bind_eq_ok_iff.mp htypes
  cases htypes
  cases h
  refine ⟨?_, (nodup_of_serviceNames hservices).1⟩
  simp [Description.itemNames, Item.name, List.map_flatMap, map_name_functionItems]

/-- A description holds no name twice exactly if no two functions of the package clash. -/
theorem nodup_itemNames_iff {package : Package} {scope : Scope} {description : Description}
    (h : describe package scope = .ok description) :
    description.itemNames.Nodup ↔
      ∀ first ∈ package.functions, ∀ second ∈ package.functions, ¬ Clash first second := by
  obtain ⟨hnames, hdistinct⟩ := itemNames_of_describe h
  have hfixed : ["default-world", typesName].Nodup := by decide
  have hapart : List.Disjoint ["default-world", typesName] (package.functions.flatMap namesOf) := by
    intro name hname hmem
    obtain ⟨function, -, hmem⟩ := List.mem_flatMap.mp hmem
    exact notMem_namesOf hname hmem
  rw [hnames, List.nodup_append', List.nodup_flatMap]
  constructor
  · rintro ⟨-, ⟨-, hpairs⟩, -⟩ first hfirst second hsecond hclash
    have hne : first ≠ second := by
      rintro rfl
      exact not_clash_self first hclash
    have hsymm : Std.Symm (Function.onFun List.Disjoint namesOf) :=
      ⟨fun _ _ hdisjoint _ hleft hright ↦ hdisjoint hright hleft⟩
    exact hclash.not_disjoint (hpairs.forall hfirst hsecond hne)
  · intro hclear
    refine ⟨hfixed, ⟨fun function _ ↦ nodup_namesOf function, ?_⟩, hapart⟩
    refine (List.pairwise_map.mp hdistinct).imp_of_mem fun hfirst hsecond hne ↦ ?_
    exact (disjoint_namesOf_iff hne).mpr ⟨hclear _ hfirst _ hsecond, hclear _ hsecond _ hfirst⟩

/-! ### Functions on orders -/

/-- A function from texts to texts. -/
def textFunction (uses : String) : Operation :=
  { operator := .map
    step :=
      { uses, inputs := [{ name := "text", type := "string" }],
        output := some { value := "string" } } }

def textPackage (functions : List String) : Package :=
  { apiVersion := "0.6.0"
    header := { owner := "shop", name := "orders", version := "1.0.0" }
    functions := functions.map textFunction }

theorem exists_describe_textPackage {functions names : List String}
    (h : serviceNames (functions.map textFunction) [] = .ok names) :
    ∃ description, describe (textPackage functions) { types := [] } = .ok description :=
  exists_bind_eq_ok_iff.mpr ⟨names, h, exists_bind_eq_ok_iff.mpr ⟨_, rfl, _, rfl⟩⟩

/-- Functions that are named after readers, writers and worlds need not clash. -/
theorem nodup_itemNames_iff_orders : ∃ description,
    describe (textPackage ["order", "deserialize-order", "serializeWorld"]) { types := [] } =
      .ok description ∧ description.itemNames.Nodup ∧
      ∀ first ∈ ["order", "deserialize-order", "serializeWorld"].map textFunction,
        ∀ second ∈ ["order", "deserialize-order", "serializeWorld"].map textFunction,
          ¬ Clash first second := by
  obtain ⟨description, h⟩ :=
    @exists_describe_textPackage ["order", "deserialize-order", "serializeWorld"] _ rfl
  have hnodup : description.itemNames.Nodup := by
    rw [(itemNames_of_describe h).1]
    decide
  exact ⟨description, h, hnodup, (nodup_itemNames_iff h).mp hnodup⟩

/-- The service of the first function has the name of the reader of the second. -/
theorem service_named_like_reader : ∃ description,
    describe (textPackage ["deserialize-order", "order-service"]) { types := [] } =
      .ok description ∧ ¬ description.itemNames.Nodup := by
  obtain ⟨description, h⟩ :=
    @exists_describe_textPackage ["deserialize-order", "order-service"] _ rfl
  refine ⟨description, h, ?_⟩
  rw [(itemNames_of_describe h).1]
  decide

end FlowSpec.Wit
