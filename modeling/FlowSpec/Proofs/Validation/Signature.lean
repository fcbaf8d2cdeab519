import Mathlib.Data.Fintype.EquivFin
import FlowSpec.Proofs.Scope.Alias
import FlowSpec.Proofs.Validation.Sketch

/-!
What the signature of a step that passes its checks guarantees. The types of its inputs and of the
value it puts out are in scope; the type of a key that it puts out is not looked at, so that only
the operators which allow no such key have closed signatures (`signatures_closed_iff`). A step that
assigns keys puts out a hashable type, if the type is declared; a primitive type is taken as it is,
and so `bytes` passes (`assignKey_hashable_iff`).
-/

set_option autoImplicit false

namespace FlowSpec

/-- The names of the types that a step takes and puts out. -/
def Step.typeNames (step : Step) : List String :=
  step.inputs.map Parameter.type ++
    (step.output.map fun output ↦ output.key.toList ++ [output.value]).getD []

/-- The key that the step puts out. -/
def Step.outputKey? (step : Step) : Option String := step.output.bind Output.key

/-- All types of the signature are in scope. -/
def Step.Closed (scope : Scope) (step : Step) : Prop := ∀ name ∈ step.typeNames, scope.contains name

theorem Step.closed_iff {scope : Scope} {step : Step} : step.Closed scope ↔
    (∀ input ∈ step.inputs, scope.contains input.type) ∧
      (∀ key, step.outputKey? = some key → scope.contains key) ∧
      ∀ output, step.output = some output → scope.contains output.value := by
  unfold Step.Closed Step.typeNames Step.outputKey?
  rw [List.forall_mem_append, List.forall_mem_map]
  refine and_congr_right fun _ ↦ ?_
  cases step.output with
  | none => simp
  | some output => cases hkey : output.key <;> simp [hkey]

/-- No scope has all names. -/
theorem Scope.exists_unknown (scope : Scope) : ∃ name, scope.contains name = false := by
  have hlength (name : String) : (Text.replaceChar '-' '_' name).length = name.length := by
    simp [Text.replaceChar, String.length_toList]
  obtain ⟨count, hcount⟩ := Infinite.exists_notMem_finset
    ((Primitive.nativeNames ++ scope.types.map NamedType.name).map String.length).toFinset
  rw [List.mem_toFinset, List.map_append, List.mem_append, not_or] at hcount
  -- a length that no name of the scope has, so that no other spelling of the new name is found
  -- either
  have hnew {names : List String} {name : String} (hnames : count ∉ names.map String.length)
      (hname : name.length = count) : name ∉ names :=
    fun hmem ↦ hnames (hname ▸ List.mem_map_of_mem hmem)
  let name := String.ofList (List.replicate count 'x')
  have hname : name.length = count := by simp [name]
  have hnone : scope.lookup? name = none :=
    lookupType_eq_none_iff.mpr ⟨hnew hcount.2 hname, hnew hcount.2 ((hlength name).trans hname)⟩
  have hforeign : name ∉ Primitive.nativeNames := hnew hcount.1 hname
  exact ⟨name, by simp [Scope.contains, hnone, hforeign]⟩

namespace Validation

variable {scope : Scope} {operator : Operator} {step : Step} {output : Output} {kind : String}

/-! ### Single checks -/

theorem inputsInScope_eq_nil_iff : inputsInScope scope step = [] ↔
    ∀ input ∈ step.inputs, scope.contains input.type := by
  simp [inputsInScope]

theorem outputInScope_eq_nil_iff : outputInScope scope step = [] ↔
    ∀ output, step.output = some output → scope.contains output.value := by
  unfold outputInScope
  cases step.output <;> simp

theorem noInputs_eq_nil_iff : noInputs kind step = [] ↔ step.inputs = [] := by
  unfold noInputs
  cases step.inputs <;> simp

theorem noOutput_eq_nil_iff : noOutput kind step = [] ↔ step.output = none := by
  unfold noOutput
  cases step.output <;> simp

theorem outputKey?_of_boolOutput (h : boolOutput step = []) : step.outputKey? = none := by
  unfold boolOutput at h
  unfold Step.outputKey?
  cases houtput : step.output with
  | none => rfl
  | some output =>
    rw [houtput] at h
    have hbool : output.isBool := by
      by_contra hbool
      simp [hbool] at h
    rw [Output.isBool, Bool.and_eq_true, Option.isNone_iff_eq_none] at hbool
    exact hbool.1

/-- Every operator has the types of inputs and of the value put out checked, or allows none. -/
theorem inScope_of_stepProblems (h : stepProblems scope operator step = []) :
    (∀ input ∈ step.inputs, scope.contains input.type) ∧
      ∀ output, step.output = some output → scope.contains output.value := by
  have hsignature := (List.append_eq_nil_iff.mp h).1
  rw [← inputsInScope_eq_nil_iff, ← outputInScope_eq_nil_iff]
  cases operator with
  | aggregate =>
    simp only [signature, List.append_eq_nil_iff, noInputs_eq_nil_iff] at hsignature
    exact ⟨by simp [inputsInScope, hsignature.1.1], hsignature.2⟩
  | updateState =>
    simp only [signature, List.append_eq_nil_iff, noOutput_eq_nil_iff] at hsignature
    exact ⟨hsignature.1.2, by simp [outputInScope, hsignature.2]⟩
  | map | filter | filterMap | flatMap | assignKey | assignTimestamp =>
    simp_all only [signature, List.append_eq_nil_iff, and_self]

theorem closed_iff_of_stepProblems (h : stepProblems scope operator step = []) :
    step.Closed scope ↔ ∀ key, step.outputKey? = some key → scope.contains key := by
  obtain ⟨hinputs, houtput⟩ := inScope_of_stepProblems h
  rw [Step.closed_iff]
  exact ⟨fun hclosed ↦ hclosed.2.1, fun hkey ↦ ⟨hinputs, hkey, houtput⟩⟩

/-- Filters put out truth values and updates nothing. -/
theorem outputKey?_of_stepProblems (h : stepProblems scope operator step = [])
    (hoperator : operator = .filter ∨ operator = .updateState) : step.outputKey? = none := by
  have hsignature := (List.append_eq_nil_iff.mp h).1
  rcases hoperator with rfl | rfl
  · simp only [signature, List.append_eq_nil_iff] at hsignature
    exact outputKey?_of_boolOutput hsignature.1.1.2
  · simp only [signature, List.append_eq_nil_iff, noOutput_eq_nil_iff] at hsignature
    rw [Step.outputKey?, hsignature.2, Option.bind_none]

/-! ### Keys that are put out -/

/-- A step that puts out a time under a key of any type. -/
def keyingStep (operator : Operator) (key : String) : Step :=
  { uses := "stamp"
    inputs := match operator with
      | .aggregate => []
      | .assignTimestamp => [{ name := "value", type := "s64" }, { name := "time", type := "s64" }]
      | _ => [{ name := "value", type := "s64" }]
    output := some { key := some key, value := "s64", isOptional := true } }

/-- The type of the key does not count. -/
theorem stepProblems_keyingStep (hsealed : scope.Sealed) (hfilter : operator ≠ .filter)
    (hupdate : operator ≠ .updateState) (key : String) :
    stepProblems scope operator (keyingStep operator key) = [] := by
  have hnone : scope.shape? "s64" = none := hsealed.shape?_of_native (by decide)
  have hcontains : scope.contains "s64" = true := rfl
  have htime : scope.isS64 "s64" = true := by
    rw [Scope.isS64, show Primitive.normalize "s64" = "s64" from rfl, Scope.resolveAlias,
      Scope.resolveAliasAux, hnone]
    rfl
  have hinputs : inputsInScope scope (keyingStep operator key) = [] := by
    rw [inputsInScope_eq_nil_iff]
    cases operator <;> simp [keyingStep, hcontains]
  have houtput : outputInScope scope (keyingStep operator key) = [] := by
    simp [outputInScope, keyingStep, hcontains]
  have hcode : inlineCode (keyingStep operator key) = [] := rfl
  rw [stepProblems, hcode, List.append_nil]
  cases operator with
  | filter => exact absurd rfl hfilter
  | updateState => exact absurd rfl hupdate
  | map | flatMap | filterMap => rw [signature, hinputs, houtput]; rfl
  | aggregate => rw [signature, houtput]; rfl
  | assignKey =>
    rw [signature, hinputs, houtput]
    simp [hashableOutput, keyingStep, hnone, inputCount, outputPresent, Step.requiresKey]
  | assignTimestamp =>
    rw [signature, hinputs, houtput]
    simp [timestampSignature, timestampType, keyingStep, htime, inputCount, outputPresent,
      Step.requiresKey]

/-- The types of a step that passes its checks are in scope, but for that of a key which it puts
out. So all of them are, for every step of an operator, exactly if the operator is a filter or an
update of states: these put out no keys. -/
theorem signatures_closed_iff (hsealed : scope.Sealed) (operator : Operator) :
    (∀ step, stepProblems scope operator step = [] →
      (∀ input ∈ step.inputs, scope.contains input.type) ∧
        (∀ output, step.output = some output → scope.contains output.value) ∧
        (step.Closed scope ↔ ∀ key, step.outputKey? = some key → scope.contains key)) ∧
      ((∀ step, stepProblems scope operator step = [] → step.Closed scope) ↔
        operator = .filter ∨ operator = .updateState) := by
  refine ⟨fun step h ↦ ?_, fun h ↦ ?_, fun hoperator step h ↦ ?_⟩
  · obtain ⟨hinputs, houtput⟩ := inScope_of_stepProblems h
    exact ⟨hinputs, houtput, closed_iff_of_stepProblems h⟩
  · by_contra hoperator
    obtain ⟨hfilter, hupdate⟩ := not_or.mp hoperator
    obtain ⟨key, hkey⟩ := scope.exists_unknown
    have hvalid := stepProblems_keyingStep hsealed hfilter hupdate key
    have hcontains := (closed_iff_of_stepProblems hvalid).mp (h _ hvalid) key rfl
    rw [hkey] at hcontains
    cases hcontains
  · rw [closed_iff_of_stepProblems h, outputKey?_of_stepProblems h hoperator]
    simp

/-- Puts out words by their shops. -/
def pairStep : Step :=
  { uses := "pair", inputs := [{ name := "word", type := "string" }]
    output := some { key := some "shop", value := "string" } }

def shopScope : Scope := { types := [{ name := "shop", shape := .primitive .u32 }] }

theorem signatures_closed_iff_shopScope :
    shopScope.Sealed ∧ stepProblems shopScope .map pairStep = [] ∧
      pairStep.Closed shopScope ∧ ∀ step, stepProblems shopScope .filter step = [] →
      step.Closed shopScope := by
  have hsealed : shopScope.Sealed :=
    Scope.sealed_of_isSettled (by decide) (by decide) (by simp [NamedType.IsSettled])
  have hvalid : stepProblems shopScope .map pairStep = [] := by decide
  refine ⟨hsealed, hvalid, ((signatures_closed_iff hsealed .map).1 pairStep hvalid).2.2.mpr ?_,
    (signatures_closed_iff hsealed .filter).2.mpr (.inl rfl)⟩
  rintro key ⟨⟩
  decide

/-- Where no shop is declared, the step passes all the same. -/
theorem pairStep_not_closed :
    Scope.Sealed { types := [] } ∧ stepProblems { types := [] } .map pairStep = [] ∧
    ¬pairStep.Closed { types := [] } := by
  refine ⟨Scope.sealed_of_isSettled .nil (by simp) (by simp), by decide, fun hclosed ↦ ?_⟩
  exact absurd (hclosed "shop" (by decide)) (by decide)

/-! ### Keys that are assigned -/

theorem hashableOutput_eq_nil_iff : hashableOutput scope step = [] ↔
    ∀ output ∈ step.output, ∀ shape ∈ scope.shape? output.value, scope.isHashable shape := by
  unfold hashableOutput
  cases step.output with
  | none => simp
  | some output =>
    simp only [Option.mem_some_iff, forall_eq']
    cases scope.shape? output.value <;> simp

/-- A step that assigns keys and passes its checks puts out a type which ends in a hashable
primitive type, unless the type is `bytes` or an alias on the way is misread. -/
theorem assignKey_hashable_iff (hsealed : scope.Sealed)
    (h : stepProblems scope .assignKey step = []) :
    ∃ output, step.output = some output ∧
      (scope.DenotesHashable output.value ↔ output.value ≠ "bytes" ∧ ¬scope.Misread output.value) ∧
      ∀ shape, scope.Denotes output.value shape →
      (∀ kind, kind.isHashable → shape ≠ .primitive kind) →
        output.value = "bytes" ∨ scope.Misread output.value := by
  have hsignature := (List.append_eq_nil_iff.mp h).1
  simp only [signature, List.append_eq_nil_iff] at hsignature
  obtain ⟨⟨⟨⟨-, hpresent⟩, -⟩, hscope⟩, hhashable⟩ := hsignature
  obtain ⟨output, houtput⟩ := Option.isSome_iff_exists.mp (output_of_outputPresent hpresent)
  have hcontains := outputInScope_eq_nil_iff.mp hscope output houtput
  have hiff :=
    hsealed.denotesHashable_iff hcontains (hashableOutput_eq_nil_iff.mp hhashable output houtput)
  refine ⟨output, houtput, hiff, fun shape hdenotes hshape ↦ ?_⟩
  by_contra hneither
  obtain ⟨kind, hkind, hhash⟩ := hiff.mpr (not_or.mp hneither)
  exact hshape kind hhash (hdenotes.unique hkind)

/-- Assigns to words the keys of a type. -/
def wordKey (type : String) : Step :=
  { uses := "key-of", inputs := [{ name := "word", type := "string" }],
    output := some { value := type } }

/-- Has an alias of an alias of a primitive type. -/
def nickScope : Scope :=
  { types := [{ name := "handle", shape := .named "nick" },
      { name := "nick", shape := .named "string" }] }

theorem not_misread_nickScope : ¬nickScope.Misread "handle" := by
  have hhandle : nickScope.shape? "handle" = some (.named "nick") := by decide
  have hnick : nickScope.shape? "nick" = some (.named "string") := by decide
  have hstring : nickScope.shape? "string" = none := by decide
  have hplain : Primitive.ofName? "nick" = none := by decide
  rw [Scope.misread_iff_of_named hhandle, Scope.misread_iff_of_named hnick]
  simp [hplain, hstring, Scope.not_misread_of_free hstring]

theorem assignKey_hashable_iff_nickScope : nickScope.Sealed ∧
    stepProblems nickScope .assignKey (wordKey "handle") = [] ∧
      nickScope.DenotesHashable "handle" := by
  have hsealed : nickScope.Sealed :=
    Scope.sealed_of_isSettled (by decide) (by decide) (by simp [NamedType.IsSettled])
  have hvalid : stepProblems nickScope .assignKey (wordKey "handle") = [] := by decide
  obtain ⟨output, houtput, hiff, -⟩ := assignKey_hashable_iff hsealed hvalid
  cases houtput
  exact ⟨hsealed, hvalid, hiff.mpr ⟨by decide, not_misread_nickScope⟩⟩

/-- Has an object under another spelling of a primitive type, and an alias of it. -/
def tagObjectScope : Scope :=
  { types := [{ name := "String", shape := .object [{ name := "text", type := "string" }] },
              { name := "tag", shape := .named "String" }] }

/-- Bytes are assigned as keys, and objects whose type is taken for a primitive type. -/
theorem assignKey_not_hashable :
    (Scope.Sealed { types := [] } ∧ stepProblems { types := [] } .assignKey (wordKey "bytes") = [] ∧
      Scope.Denotes { types := [] } "bytes" (.primitive .bytes)) ∧
    tagObjectScope.Sealed ∧ stepProblems tagObjectScope .assignKey (wordKey "tag") = [] ∧
      tagObjectScope.Denotes "tag" (.object [{ name := "text", type := "string" }]) := by
  have hsealed : tagObjectScope.Sealed :=
    Scope.sealed_of_isSettled (by decide) (by decide) (by simp [NamedType.IsSettled])
  have hobject : tagObjectScope.Denotes "String" (.object [{ name := "text", type := "string" }]) :=
    .declared (by decide) (by simp)
  refine ⟨⟨Scope.sealed_of_isSettled .nil (by simp) (by simp), by decide, .spelled rfl (by decide)⟩,
    hsealed, by decide, .synonym (by decide) hobject⟩

end Validation

end FlowSpec
