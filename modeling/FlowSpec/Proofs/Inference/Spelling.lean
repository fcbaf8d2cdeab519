import FlowSpec.Proofs.Inference.Recording
import FlowSpec.Proofs.Scope.Settling
import FlowSpec.Proofs.Validation.Sketch

/-!
Names of types and their spellings. Inference takes names that differ in hyphens and underscores
only for one name; a scope looks for the name as it is written and, where it has none, for the name
with underscores. What is found has the name that was looked for, up to spelling
(`sameTypeName_of_lookup?`). So the two ways to compare names agree exactly if no two types of the
scope have names that inference takes for one (`spellings_coherent_iff`); where they do, a step is
accepted that takes another type than the one that reaches it.
-/

set_option autoImplicit false

namespace FlowSpec

open Validation Inference Outcome

/-! ### Spellings -/

theorem Text.replaceChar_eq_self {c d : Char} {text : String} (h : c ∉ text.toList) :
    replaceChar c d text = text := by
  have hmap : (text.toList.map fun x ↦ if x = c then d else x) = text.toList := by
    refine (List.map_congr_left fun x hx ↦ if_neg ?_).trans (List.map_id _)
    rintro rfl
    exact h hx
  rw [replaceChar, hmap, String.ofList_toList]

theorem Text.notMem_replaceChar {c d : Char} (hne : d ≠ c) (text : String) :
    c ∉ (replaceChar c d text).toList := by
  rw [replaceChar, String.toList_ofList, List.mem_map]
  rintro ⟨x, -, hx⟩
  split_ifs at hx with hsame
  · exact hne hx
  · exact hsame hx

theorem Text.replaceChar_replaceChar {c d : Char} (hne : d ≠ c) (text : String) :
    replaceChar c d (replaceChar c d text) = replaceChar c d text :=
  replaceChar_eq_self (notMem_replaceChar hne text)

theorem Text.mem_replaceChar_of_mem {c d : Char} {text : String} (h : c ∈ text.toList) :
    d ∈ (replaceChar c d text).toList := by
  rw [replaceChar, String.toList_ofList, List.mem_map]
  exact ⟨c, h, if_pos rfl⟩

/-- A primitive type has one spelling. -/
theorem eq_of_sameTypeName_native {native name : String} (hnative : native ∈ Primitive.nativeNames)
    (h : sameTypeName native name) : native = name := by
  have hplain : ∀ native ∈ Primitive.nativeNames, '-' ∉ native.toList ∧ '_' ∉ native.toList := by
    decide
  obtain ⟨hhyphen, hunderscore⟩ := hplain native hnative
  rw [sameTypeName, beq_iff_eq, Text.replaceChar_eq_self hhyphen] at h
  -- a hyphen of the name would be an underscore of the native name
  have hname : '-' ∉ name.toList := fun hmem ↦ hunderscore (h ▸ Text.mem_replaceChar_of_mem hmem)
  rw [h, Text.replaceChar_eq_self hname]

namespace Scope

variable {scope : Scope} {a b name : String} {type : NamedType}

/-- Names that are both in scope stand for one type. -/
def Alike (scope : Scope) (a b : String) : Prop :=
  scope.contains a → scope.contains b → scope.lookup? a = scope.lookup? b

/-- No two types have names that differ in hyphens and underscores only. -/
def SpelledOnce (scope : Scope) : Prop :=
  ∀ first ∈ scope.types, ∀ second ∈ scope.types, sameTypeName first.name second.name →
    first.name = second.name

instance : Decidable scope.SpelledOnce :=
  inferInstanceAs (Decidable (∀ first ∈ scope.types, ∀ second ∈ scope.types,
    sameTypeName first.name second.name → first.name = second.name))

theorem sameTypeName_of_lookup? (hsealed : scope.Sealed) (h : scope.lookup? name = some type) :
    sameTypeName type.name name := by
  obtain ⟨-, hname | ⟨-, hname⟩⟩ := (lookupType_eq_some_iff hsealed.nodup).mp h
  · rw [hname]
    exact sameTypeName_refl name
  · rw [hname, sameTypeName, beq_iff_eq]
    exact Text.replaceChar_replaceChar (by decide) name

theorem lookup?_name (hsealed : scope.Sealed) (htype : type ∈ scope.types) :
    scope.lookup? type.name = some type :=
  (lookupType_eq_some_iff hsealed.nodup).mpr ⟨htype, .inl rfl⟩

theorem contains_name (hsealed : scope.Sealed) (htype : type ∈ scope.types) :
    scope.contains type.name := by
  simp [contains, lookup?_name hsealed htype]

theorem SpelledOnce.alike (h : scope.SpelledOnce) (hsealed : scope.Sealed)
    (hsame : sameTypeName a b) :
    scope.Alike a b := by
  intro ha hb
  by_cases hnative : a ∈ Primitive.nativeNames
  · rw [eq_of_sameTypeName_native hnative hsame]
  by_cases hnative' : b ∈ Primitive.nativeNames
  · rw [eq_of_sameTypeName_native hnative' (sameTypeName.symm hsame)]
  -- both are declared, under names that are spelled alike
  have hfound {name : String} (hforeign : name ∉ Primitive.nativeNames)
      (hcontains : scope.contains name) :
      ∃ type, scope.lookup? name = some type := by
    rw [contains, Bool.or_eq_true, List.contains_iff_mem] at hcontains
    exact Option.isSome_iff_exists.mp (hcontains.resolve_left hforeign)
  obtain ⟨first, hfirst⟩ := hfound hnative ha
  obtain ⟨second, hsecond⟩ := hfound hnative' hb
  have hmem : first ∈ scope.types := mem_of_lookupType hfirst
  have hmem' : second ∈ scope.types := mem_of_lookupType hsecond
  have hnames : sameTypeName first.name second.name :=
    sameTypeName.trans (sameTypeName.trans (sameTypeName_of_lookup? hsealed hfirst) hsame)
      (sameTypeName.symm (sameTypeName_of_lookup? hsealed hsecond))
  have hname : first.name = second.name := h first hmem second hmem' hnames
  rw [hfirst, hsecond, List.inj_on_of_nodup_map hsealed.nodup hmem hmem' hname]

theorem SpelledOnce.of_alike (hsealed : scope.Sealed)
    (h : ∀ first ∈ scope.types, ∀ second ∈ scope.types, sameTypeName first.name second.name →
      scope.Alike first.name second.name) : scope.SpelledOnce := by
  intro first hfirst second hsecond hsame
  have hlookup :=
    h first hfirst second hsecond hsame (contains_name hsealed hfirst)
      (contains_name hsealed hsecond)
  rw [lookup?_name hsealed hfirst, lookup?_name hsealed hsecond, Option.some.injEq] at hlookup
  rw [hlookup]

/-! ### Steps that are accepted -/

/-- A pair that is declared and a pair that arrives stand for the same types. -/
structure SameTypes (scope : Scope) (declared pair : Pair) : Prop where
  value : scope.Alike declared.value pair.value
  key : ∀ key found, declared.key = some key → pair.key = some found → scope.Alike key found

/-- What the step declares stands for the types that reach it; the inputs of aggregates are not
compared. -/
def Agrees (scope : Scope) (operation : Operation) (step : StepTyping) : Prop :=
  operation.operator ≠ .aggregate → ∀ declared, operation.step.inputPair = some declared →
    scope.SameTypes declared step.input

theorem sameTypes_of_takes (h : ∀ a b, sameTypeName a b → scope.Alike a b) {step : Step}
    {declared pair : Pair} (htakes : step.Takes pair) (hdeclared : step.inputPair = some declared) :
    scope.SameTypes declared pair := by
  rw [Step.inputPair_eq, Option.map_eq_some_iff] at hdeclared
  obtain ⟨parameter, hparameter, rfl⟩ := hdeclared
  obtain ⟨hkey, hvalue⟩ := (Step.takes_iff_of_valueInput hparameter).mp htakes
  refine ⟨h _ _ hvalue, fun key found hdeclared hfound ↦ ?_⟩
  obtain ⟨other, hother, hsame⟩ := hkey key hdeclared
  obtain rfl := Option.some.inj (hfound.symm.trans hother)
  exact h key found hsame

theorem agrees_of_infer (h : ∀ a b, sameTypeName a b → scope.Alike a b) {topics : List Topic}
    {service : Service} {typing : ServiceTyping} (hinfer : infer topics service = .ok typing) :
    List.Forall₂ scope.Agrees (service.layout.flatMap Segment.operations) typing.steps := by
  obtain ⟨sources, stage, sinks, hconnected⟩ := exists_connected hinfer
  rw [Segment.flatMap_operations, List.forall₂_map_left_iff]
  exact hconnected.recorded.imp fun _ _ hrecorded hchecked _ ↦
    sameTypes_of_takes h (hrecorded.takes hchecked)

end Scope

/-! ### A step between two spellings -/

namespace Relay

/-- A topic of values of a type. -/
def topic (type : String) : Topic :=
  { id := "topic", name := "topic", value := { type, converter := "json" } }

/-- Passes on what comes from the topic through a step that declares a type. -/
def service (declared : String) : Service :=
  { name := "relay"
    sources := [{ kind := .topic, id := "topic" }]
    transforms :=
      [⟨.filter, { uses := "keep", inputs := [{ name := "value", type := declared }] }⟩] }

/-- What inference makes of it. -/
def typing (type : String) : ServiceTyping :=
  { name := "relay", input := { value := type }, output := { value := type }
    steps := [{ position := "transforms[0]", operator := .filter, uses := "keep"
                input := { value := type }, output := { value := type } }] }

end Relay

theorem infer_relay {declared type : String} (h : sameTypeName declared type) :
    infer [Relay.topic type] (Relay.service declared) = .ok (Relay.typing type) := by
  have hexpect (position : String) (operation : Operation)
      (hinput : operation.step.inputPair = some { value := declared }) :
      expect "relay" position operation { value := type } = .ok () := by
    simp only [expect, hinput, h]
    rfl
  have hchain : chain "relay" "transforms" 0 (Relay.service declared).transforms { value := type } =
      .ok { pair := { value := type }, steps := (Relay.typing type).steps } := by
    simp only [Relay.service, chain]
    rw [hexpect _ _ rfl]
    rfl
  have hsources : inferSources "relay" [Relay.topic type] (Relay.service declared).sources =
      .ok { pair := { value := type } } := rfl
  simp only [infer, Trace.andThen, show (Relay.service declared).name = "relay" from rfl, hsources,
    bind, Except.bind, hchain]
  rfl

/-- Has one type with an underscore, which both spellings find. -/
def tagScope : Scope :=
  { types := [{ name := "count", shape := .primitive .u32 },
      { name := "price_tag", shape := .primitive .string }] }

theorem sealed_tagScope : tagScope.Sealed :=
  Scope.sealed_of_isSettled (by decide) (by decide) (by simp [NamedType.IsSettled])

/-- Names that inference takes for one stand for one type exactly if the scope has each name in one
spelling, and exactly then every step that inference accepts takes the types that reach it. -/
theorem spellings_coherent_iff (scope : Scope) (hsealed : scope.Sealed) :
    ((∀ a b, sameTypeName a b → scope.Alike a b) ↔ scope.SpelledOnce) ∧
      ((∀ topics service typing, infer topics service = .ok typing →
        List.Forall₂ scope.Agrees (service.layout.flatMap Segment.operations) typing.steps) ↔
        scope.SpelledOnce) := by
  refine ⟨⟨fun h ↦ .of_alike hsealed fun _ _ _ _ ↦ h _ _, fun h _ _ ↦ h.alike hsealed⟩,
    fun h ↦ .of_alike hsealed fun first _ second _ hsame ↦ ?_,
    fun h _ _ _ ↦ Scope.agrees_of_infer fun _ _ ↦ h.alike hsealed⟩
  have hsteps := h _ _ _ (infer_relay hsame)
  obtain ⟨hstep, -⟩ := List.forall₂_cons.mp hsteps
  exact (hstep Operator.noConfusion _ rfl).value

theorem spellings_coherent_iff_tagScope : tagScope.Sealed ∧ tagScope.SpelledOnce ∧
    tagScope.lookup? "price-tag" = tagScope.lookup? "price_tag" ∧
    List.Forall₂ tagScope.Agrees ((Relay.service "price-tag").layout.flatMap Segment.operations)
      (Relay.typing "price_tag").steps := by
  have honce : tagScope.SpelledOnce := by decide
  obtain ⟨halike, hagrees⟩ := spellings_coherent_iff tagScope sealed_tagScope
  exact ⟨sealed_tagScope, honce,
    halike.mpr honce "price-tag" "price_tag" (by decide) (by decide) (by decide),
    hagrees.mpr honce _ _ _ (infer_relay (by decide))⟩

/-- Has a name in both spellings. -/
def twinScope : Scope :=
  { types := [{ name := "price-tag", shape := .primitive .u32 },
      { name := "price_tag", shape := .primitive .string }] }

/-- A step that takes numbers is accepted behind a topic of texts. -/
theorem infer_relay_twinScope : twinScope.Sealed ∧ sameTypeName "price-tag" "price_tag" ∧
    twinScope.lookup? "price-tag" = some { name := "price-tag", shape := .primitive .u32 } ∧
    twinScope.lookup? "price_tag" = some { name := "price_tag", shape := .primitive .string } ∧
    infer [Relay.topic "price_tag"] (Relay.service "price-tag") =
      .ok (Relay.typing "price_tag") := by
  have hsealed : twinScope.Sealed :=
    Scope.sealed_of_isSettled (by decide) (by decide) (by simp [NamedType.IsSettled])
  exact ⟨hsealed, by decide, by decide, by decide, infer_relay (by decide)⟩

end FlowSpec
