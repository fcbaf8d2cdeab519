import FlowSpec.Proofs.Text.Lines
import FlowSpec.Proofs.Validation.Agreement

/-!
The wording of what is said about steps and stages. Where the names of a definition are single
lines, so is almost every line that validation puts down: the one exception is the line on a key
that cannot be hashed, which lists the hashable types behind a line break (`Worded`). This is shown
check by check, and along the pairs that validation carries from stage to stage, since their types
are named too.
-/

set_option autoImplicit false

namespace FlowSpec

open Text (OneLine oneLine_append_iff)

/-! ### Names on single lines -/

/-- The types of the pair have names of one line. -/
structure Pair.Plain (pair : Pair) : Prop where
  key : ∀ key ∈ pair.key, OneLine key
  value : OneLine pair.value

/-- The names in the signature are single lines. The inline code may be of any form. -/
structure Step.Plain (step : Step) : Prop where
  uses : OneLine step.uses
  inputs : ∀ input ∈ step.inputs, OneLine input.name ∧ OneLine input.type
  output : ∀ output ∈ step.output, output.pair.Plain

namespace Step.Plain

variable {step : Step}

theorem valueInput (h : step.Plain) {parameter : Parameter}
    (hparameter : step.valueInput = some parameter) :
    OneLine parameter.type := by
  unfold Step.valueInput at hparameter
  split at hparameter <;> exact (h.inputs parameter (List.mem_of_getElem? hparameter)).2

theorem keyInput (h : step.Plain) {key : String} (hkey : Validation.keyInput step = some key) :
    OneLine key := by
  unfold Validation.keyInput at hkey
  split at hkey
  next first rest hinputs =>
    split at hkey
    · exact Option.some.inj hkey ▸ (h.inputs first (by simp [hinputs])).2
    · cases hkey
  next => cases hkey

theorem inputPair (h : step.Plain) {pair : Pair} (hpair : step.inputPair = some pair) :
    pair.Plain := by
  unfold Step.inputPair at hpair
  split at hpair
  next => cases hpair
  next first rest hinputs =>
    have hfirst := h.inputs first (by simp [hinputs])
    split at hpair
    · obtain ⟨second, hsecond, rfl⟩ := Option.map_eq_some_iff.mp hpair
      have hmem : second ∈ step.inputs := by
        rw [hinputs]
        exact List.mem_cons_of_mem _ (List.mem_of_head? hsecond)
      exact ⟨fun key hkey ↦ Option.some.inj hkey ▸ hfirst.2, (h.inputs second hmem).2⟩
    · obtain rfl := Option.some.inj hpair
      exact ⟨fun key hkey ↦ (by cases hkey), hfirst.2⟩

end Step.Plain

theorem Pair.Plain.apply {pair : Pair} (h : pair.Plain) {output : Output}
    (houtput : output.pair.Plain) :
    (pair.apply output).Plain where
  key := by
    intro key hkey
    unfold Pair.apply at hkey
    cases hown : output.key with
    | none => exact h.key key (by simpa [hown] using hkey)
    | some own => exact houtput.key key (by simpa [Output.pair, hown] using hkey)
  value := houtput.value

theorem Pair.Plain.passOn {pair : Pair} (h : pair.Plain) {operation : Operation}
    (hstep : operation.step.Plain) :
    (operation.passOn pair).Plain := by
  unfold Operation.passOn
  split
  · exact h
  · exact h
  next houtput _ => exact h.apply (hstep.output _ houtput)

theorem Pair.Plain.text {pair : Pair} (h : pair.Plain) : OneLine pair.text := by
  unfold Pair.text
  split
  next key hkey =>
    exact .naming (.append (h.key key hkey) (.fixed rfl)) h.value rfl
  next => exact oneLine_append_iff.mpr ⟨h.value, .fixed rfl⟩

/-- Inline code of any form names a function on one line. -/
theorem Code.oneLine_functionName (code : Code) : OneLine code.functionName := by
  have hname {cs name : List Char} (h : nameAfterKeyword cs = some name) : '\n' ∉ name := by
    unfold nameAfterKeyword at h
    split at h
    · cases h
    · dsimp only at h
      split at h
      · split at h
        · obtain rfl := Option.some.inj h
          intro hbreak
          exact absurd (List.all_eq_true.mp List.all_takeWhile '\n' hbreak) (by decide)
        · cases h
      · cases h
  have hdefined {keyword cs name : List Char} (h : definedName keyword cs = some name) :
      '\n' ∉ name := by
    induction cs with
    | nil => cases h
    | cons c cs ih =>
      rw [definedName, Option.orElse_eq_or, Option.or_eq_some_iff] at h
      rcases h with h | ⟨-, h⟩
      · split at h
        · exact hname h
        · cases h
      · exact ih h
  unfold functionName
  split
  next keyword _ =>
    cases hfound : definedName keyword.toList code.source.toList with
    | none => exact .fixed rfl
    | some name =>
      rw [OneLine, Option.getD_some, String.toList_ofList]
      exact hdefined hfound
  next => exact .fixed rfl

namespace Validation

variable {scope : Scope} {operator : Operator} {step : Step} {operation : Operation}
  {line provider : String} {operations others : List Operation} {pair : Pair}

/-! ### The line on keys -/

/-- What is said of a key that cannot be hashed. -/
def unhashableText (step : Step) (type : String) : String :=
  "output type for assign-key type function `" ++ step.uses
    ++ "` must be hashable, or a reference to a hashable type. found `" ++ type
    ++ "`.\n hashable types: [" ++ hashableNames ++ "]"

/-- The line says, in some context, that the operation assigns a key whose declared type cannot be
hashed. -/
structure TellsUnhashable (scope : Scope) (operation : Operation) (line : String) : Prop where
  operator : operation.operator = .assignKey
  text : ∃ context output shape, operation.step.output = some output ∧
    scope.shape? output.value = some shape ∧
    scope.isHashable shape = false ∧ line = context ++ unhashableText operation.step output.value

/-- One line, or the line on a key that one of the operations assigns. -/
def Worded (scope : Scope) (operations : List Operation) (line : String) : Prop :=
  OneLine line ∨ ∃ operation ∈ operations, TellsUnhashable scope operation line

theorem TellsUnhashable.not_oneLine (h : TellsUnhashable scope operation line) : ¬OneLine line := by
  obtain ⟨context, output, shape, -, -, -, rfl⟩ := h.text
  unfold unhashableText
  simp only [oneLine_append_iff, and_assoc]
  rintro ⟨-, -, -, -, -, hfixed, -, -⟩
  exact OneLine.not_fixed rfl hfixed

theorem Worded.mono (h : Worded scope operations line) (hsubset : operations ⊆ others) :
    Worded scope others line :=
  h.imp_right fun ⟨operation, hoperation, htells⟩ ↦ ⟨operation, hsubset hoperation, htells⟩

theorem Worded.of_mem (h : Worded scope [operation] line) (hoperation : operation ∈ operations) :
    Worded scope operations line :=
  h.mono fun _ hother ↦ List.mem_singleton.mp hother ▸ hoperation

/-- A context in front of a line leaves the line what it was. -/
theorem worded_inContext {context : String} {lines : List String} (hcontext : OneLine context)
    (h : ∀ line ∈ lines, Worded scope operations line) :
    ∀ line ∈ Report.inContext context lines, Worded scope operations line := by
  intro line hline
  obtain ⟨inner, hinner, rfl⟩ := List.mem_map.mp hline
  rcases h inner hinner with hone | ⟨operation, hoperation, htells⟩
  · exact .inl (oneLine_append_iff.mpr ⟨oneLine_append_iff.mpr ⟨hcontext, .fixed rfl⟩, hone⟩)
  · obtain ⟨before, output, shape, houtput, hshape, hhash, rfl⟩ := htells.text
    exact .inr ⟨operation, hoperation, htells.operator, context ++ " " ++ before, output, shape,
      houtput, hshape, hhash, (String.append_assoc ..).symm⟩

/-! ### Steps -/

theorem forall_mem_unless {P : String → Prop} {condition : Prop} [Decidable condition]
    {text : String} (h : P text) :
    ∀ line ∈ (if condition then [] else [text]), P line := by
  split
  · exact List.forall_mem_nil _
  · exact List.forall_mem_singleton.mpr h

theorem forall_mem_where {P : String → Prop} {condition : Prop} [Decidable condition]
    {text : String} (h : P text) :
    ∀ line ∈ (if condition then [text] else []), P line := by
  split
  · exact List.forall_mem_singleton.mpr h
  · exact List.forall_mem_nil _

theorem oneLine_operatorName (operator : Operator) : OneLine operator.name := by
  cases operator <;> dsimp only [Operator.name] <;> exact .fixed rfl

theorem oneLine_unknownTypeLine {name : String} (h : OneLine name) :
    OneLine (unknownTypeLine name) := by
  unfold unknownTypeLine
  exact .naming (.fixed rfl) h rfl

section Signature

variable {kind : String} (hstep : step.Plain)

include hstep

theorem oneLine_functionLabel (hkind : OneLine kind) : OneLine (functionLabel kind step) := by
  unfold functionLabel
  exact .naming (.append hkind (.fixed rfl)) hstep.uses rfl

theorem oneLine_inputCount (hkind : OneLine kind) (count : Nat) :
    ∀ line ∈ inputCount count kind step, OneLine line := by
  refine forall_mem_unless ?_
  simp only [oneLine_append_iff, and_assoc]
  exact ⟨oneLine_functionLabel hstep hkind, .fixed rfl, Text.oneLine_natText _, .fixed rfl,
    Text.oneLine_natText _⟩

theorem oneLine_noInputs (hkind : OneLine kind) : ∀ line ∈ noInputs kind step, OneLine line := by
  have hinputs :
      ∀ text ∈ step.inputs.map fun input => "[" ++ input.name ++ ": " ++ input.type ++ "]",
      OneLine text := by
    intro text htext
    obtain ⟨input, hinput, rfl⟩ := List.mem_map.mp htext
    obtain ⟨hname, htype⟩ := hstep.inputs input hinput
    exact .naming (.naming (.fixed rfl) hname rfl) htype rfl
  refine forall_mem_unless ?_
  simp only [oneLine_append_iff, and_assoc]
  exact ⟨oneLine_functionLabel hstep hkind, .fixed rfl, Text.oneLine_join (.fixed rfl) hinputs⟩

theorem oneLine_outputPresent (hkind : OneLine kind) :
    ∀ line ∈ outputPresent kind step, OneLine line :=
  forall_mem_unless (oneLine_append_iff.mpr ⟨oneLine_functionLabel hstep hkind, .fixed rfl⟩)

theorem oneLine_noOutput (hkind : OneLine kind) : ∀ line ∈ noOutput kind step, OneLine line := by
  unfold noOutput
  split
  next output houtput =>
    refine List.forall_mem_singleton.mpr ?_
    simp only [oneLine_append_iff, and_assoc]
    exact ⟨oneLine_functionLabel hstep hkind, .fixed rfl, (hstep.output output houtput).value,
      .fixed rfl⟩
  next => exact List.forall_mem_nil _

theorem oneLine_boolOutput : ∀ line ∈ boolOutput step, OneLine line := by
  have hmessage {found : String} (hfound : OneLine found) :
      OneLine (functionLabel "filter" step ++ " requires an output type of `bool`, but found " ++
        found) := by
    exact .append (.append (oneLine_functionLabel hstep (.fixed rfl)) (.fixed rfl)) hfound
  unfold boolOutput
  dsimp only
  split
  next output houtput =>
    refine forall_mem_unless (hmessage ?_)
    exact .naming (.fixed rfl) ((hstep.output output houtput).value) rfl
  next => exact List.forall_mem_singleton.mpr (hmessage (.fixed rfl))

theorem oneLine_optionalOutput (hkind : OneLine kind) :
    ∀ line ∈ optionalOutput scope kind step, OneLine line :=
  forall_mem_unless (oneLine_append_iff.mpr ⟨oneLine_functionLabel hstep hkind, .fixed rfl⟩)

theorem oneLine_inputsInScope : ∀ line ∈ inputsInScope scope step, OneLine line := by
  intro line hline
  obtain ⟨input, hinput, rfl⟩ := List.mem_map.mp hline
  have htype := (hstep.inputs input (List.mem_filter.mp hinput).1).2
  exact .append (.naming (.fixed rfl) hstep.uses rfl) (oneLine_unknownTypeLine htype)

theorem oneLine_outputInScope : ∀ line ∈ outputInScope scope step, OneLine line := by
  unfold outputInScope
  split
  next output houtput =>
    refine forall_mem_unless ?_
    simp only [oneLine_append_iff, and_assoc]
    exact ⟨.fixed rfl, hstep.uses, .fixed rfl,
      oneLine_unknownTypeLine (hstep.output output houtput).value⟩
  next => exact List.forall_mem_nil _

theorem oneLine_timestampType {which type : String} (hwhich : OneLine which)
    (htype : OneLine type) :
    ∀ line ∈ timestampType scope which step type, OneLine line := by
  refine forall_mem_unless ?_
  exact .naming (.naming (.append hwhich (.fixed rfl)) hstep.uses rfl) htype rfl

theorem oneLine_timestampSignature : ∀ line ∈ timestampSignature scope step, OneLine line := by
  unfold timestampSignature
  refine List.forall_mem_append.mpr ⟨?_, ?_⟩
  · split
    next last hlast =>
      exact oneLine_timestampType hstep (.fixed rfl)
        (hstep.inputs last (List.mem_of_getLast? hlast)).2
    next => exact List.forall_mem_nil _
  · split
    next output houtput =>
      exact oneLine_timestampType hstep (.fixed rfl) (hstep.output output houtput).value
    next => exact List.forall_mem_nil _

theorem oneLine_inlineCode : ∀ line ∈ inlineCode step, OneLine line := by
  unfold inlineCode
  dsimp only
  split
  · exact List.forall_mem_nil _
  · split
    · refine List.forall_mem_singleton.mpr ?_
      exact .naming (.fixed rfl) hstep.uses rfl
    · split
      · refine List.forall_mem_singleton.mpr ?_
        exact .append (.naming (.fixed rfl) step.code.oneLine_functionName rfl) hstep.uses
      · exact List.forall_mem_nil _

/-- What is said of any operator's function but the one that assigns keys is single lines. -/
theorem oneLine_signature (hoperator : operator ≠ .assignKey) :
    ∀ line ∈ signature scope operator step, OneLine line := by
  have hkind := oneLine_operatorName operator
  have hinputs : ∀ line ∈ inputsInScope scope step, OneLine line := oneLine_inputsInScope hstep
  have houtput : ∀ line ∈ outputInScope scope step, OneLine line := oneLine_outputInScope hstep
  have hcount := oneLine_inputCount hstep hkind
  have hpresent := oneLine_outputPresent hstep hkind
  unfold signature
  cases operator <;> simp only [List.forall_mem_append, and_assoc]
  case map | flatMap => exact ⟨hcount 1, hpresent, hinputs, houtput⟩
  case filter => exact ⟨hcount 1, oneLine_boolOutput hstep, hinputs, houtput⟩
  case filterMap => exact ⟨hcount 1, hpresent, oneLine_optionalOutput hstep hkind, hinputs, houtput⟩
  case updateState => exact ⟨hcount 1, hinputs, oneLine_noOutput hstep hkind⟩
  case aggregate =>
    exact ⟨oneLine_noInputs hstep (.fixed rfl), oneLine_outputPresent hstep (.fixed rfl), houtput⟩
  case assignTimestamp =>
    exact ⟨hcount 2, hpresent, hinputs, houtput, oneLine_timestampSignature hstep⟩
  case assignKey => exact absurd rfl hoperator

end Signature

theorem tellsUnhashable_of_mem_hashableOutput (h : line ∈ hashableOutput scope step) :
    TellsUnhashable scope ⟨.assignKey, step⟩ line := by
  unfold hashableOutput at h
  split at h
  next => cases h
  next output houtput =>
    split at h
    next => cases h
    next shape hshape =>
      split at h
      · cases h
      next hhash =>
        refine ⟨rfl, "", output, shape, houtput, hshape, Bool.eq_false_iff.mpr hhash, ?_⟩
        rw [List.mem_singleton.mp h, String.empty_append]
        rfl

theorem worded_stepProblems (hstep : step.Plain) :
    ∀ line ∈ stepProblems scope operator step, Worded scope [⟨operator, step⟩] line := by
  refine List.forall_mem_append.mpr ⟨?_,
    fun line hline ↦ .inl (oneLine_inlineCode hstep line hline)⟩
  by_cases hoperator : operator = .assignKey
  · subst hoperator
    have hkind := oneLine_operatorName .assignKey
    simp only [signature, List.forall_mem_append, and_assoc]
    exact ⟨fun line hline ↦ .inl (oneLine_inputCount hstep hkind 1 line hline),
      fun line hline ↦ .inl (oneLine_outputPresent hstep hkind line hline),
      fun line hline ↦ .inl (oneLine_inputsInScope hstep line hline),
      fun line hline ↦ .inl (oneLine_outputInScope hstep line hline),
      fun line hline ↦
        .inr ⟨_, List.mem_singleton_self _, tellsUnhashable_of_mem_hashableOutput hline⟩⟩
  · exact fun line hline ↦ .inl (oneLine_signature hstep hoperator line hline)

/-! ### Transforms -/

theorem oneLine_keyProblems (hstep : operation.step.Plain) (hpair : pair.Plain) :
    ∀ line ∈ keyProblems operation pair, OneLine line := by
  unfold keyProblems
  split
  next first rest hinputs =>
    split
    · exact List.forall_mem_nil _
    · split
      next =>
        exact List.forall_mem_singleton.mpr (hstep.uses.append (.append (.fixed rfl) (.fixed rfl)))
      next key hkey =>
        refine forall_mem_unless ?_
        simp only [oneLine_append_iff, and_assoc]
        exact ⟨.fixed rfl, hstep.uses, .fixed rfl, (hstep.inputs first (by simp [hinputs])).2,
          .fixed rfl, hpair.key key hkey⟩
  next => exact List.forall_mem_nil _

theorem oneLine_valueProblems (hstep : operation.step.Plain) (hpair : pair.Plain)
    (hprovider : OneLine provider) :
    ∀ line ∈ valueProblems operation pair provider, OneLine line := by
  unfold valueProblems
  split
  next value hvalue =>
    refine forall_mem_unless ?_
    simp only [oneLine_append_iff, and_assoc]
    exact ⟨.fixed rfl, hstep.uses, .fixed rfl, hpair.value, .fixed rfl, hprovider, .fixed rfl,
      hstep.valueInput hvalue, .fixed rfl⟩
  next => exact List.forall_mem_nil _

theorem oneLine_functionName (hstep : operation.step.Plain) : OneLine (functionName operation) := by
  unfold functionName
  exact .naming (.fixed rfl) hstep.uses rfl

theorem worded_transformProblems (hsteps : ∀ operation ∈ operations, operation.step.Plain)
    (hpair : pair.Plain) (hprovider : OneLine provider) :
    ∀ line ∈ transformProblems scope operations pair provider, Worded scope operations line := by
  induction operations generalizing pair provider with
  | nil => exact List.forall_mem_nil _
  | cons operation rest ih =>
    obtain ⟨hstep, hrest⟩ := List.forall_mem_cons.mp hsteps
    have hnext : OneLine (if operation.step.output.isSome then functionName operation
          else provider) := by
      split
      · exact oneLine_functionName hstep
      · exact hprovider
    simp only [transformProblems, List.forall_mem_append, and_assoc]
    exact ⟨fun line hline ↦ (worded_stepProblems hstep line hline).of_mem List.mem_cons_self,
      fun line hline ↦ .inl (oneLine_keyProblems hstep hpair line hline),
      fun line hline ↦ .inl (oneLine_valueProblems hstep hpair hprovider line hline),
      fun line hline ↦
        (ih hrest (hpair.passOn hstep) hnext line hline).mono (List.subset_cons_self ..)⟩

theorem plain_of_transformsOutput (hsteps : ∀ operation ∈ operations, operation.step.Plain)
    (hpair : pair.Plain) {output : Pair} (h : transformsOutput operations pair = some output) :
    output.Plain := by
  induction operations generalizing pair with
  | nil => exact Option.some.inj h ▸ hpair
  | cons operation rest ih =>
    obtain ⟨hstep, hrest⟩ := List.forall_mem_cons.mp hsteps
    rw [transformsOutput] at h
    split at h
    · split at h
      · exact ih hrest (hpair.passOn hstep) h
      · cases h
    · cases h

theorem oneLine_lastProvider (hsteps : ∀ operation ∈ operations, operation.step.Plain)
    (hprovider : OneLine provider) :
    OneLine (lastProvider operations provider) := by
  unfold lastProvider
  split
  next operation hfound =>
    exact oneLine_functionName
      (hsteps operation (List.mem_reverse.mp (List.mem_of_find?_eq_some hfound)))
  next => exact hprovider

/-! ### Windows and partitions -/

theorem oneLine_providedMismatch {label what expected found : String} (hstep : step.Plain)
    (hlabel : OneLine label) (hwhat : OneLine what) (hexpected : OneLine expected)
    (hprovider : OneLine provider) (hfound : OneLine found) :
    ∀ line ∈ providedMismatch label step what expected provider found, OneLine line := by
  refine forall_mem_unless ?_
  simp only [oneLine_append_iff, and_assoc]
  exact ⟨hlabel, .fixed rfl, hstep.uses, .fixed rfl, hwhat, .fixed rfl, hexpected, .fixed rfl,
    hprovider, .fixed rfl, hfound, .fixed rfl⟩

theorem oneLine_valueMismatch {label : String} (hstep : step.Plain) (hlabel : OneLine label)
    (hpair : pair.Plain) (hprovider : OneLine provider) :
    ∀ line ∈ valueMismatch label step pair provider, OneLine line := by
  unfold valueMismatch
  split
  next value hvalue =>
    exact oneLine_providedMismatch hstep hlabel (.fixed rfl) hpair.value hprovider
      (hstep.valueInput hvalue)
  next => exact List.forall_mem_nil _

theorem worded_timestampProblems (hstep : step.Plain) (hpair : pair.Plain)
    (hprovider : OneLine provider) :
    ∀ line ∈ timestampProblems scope step pair provider,
      Worded scope [⟨.assignTimestamp, step⟩] line := by
  simp only [timestampProblems, List.forall_mem_append, and_assoc]
  refine ⟨worded_stepProblems hstep, fun line hline ↦ .inl ?_,
    fun line hline ↦ .inl (oneLine_valueMismatch hstep (.fixed rfl) hpair hprovider line hline)⟩
  split at hline
  next key expected hkey hexpected =>
    exact oneLine_providedMismatch hstep (.fixed rfl) (.fixed rfl)
      (hpair.key expected hexpected) hprovider (hstep.keyInput hkey) line hline
  next => cases hline

theorem worded_assignKeyProblems (hstep : step.Plain) (hpair : pair.Plain)
    (hprovider : OneLine provider) :
    ∀ line ∈ assignKeyProblems scope step pair provider,
      Worded scope [⟨.assignKey, step⟩] line := by
  simp only [assignKeyProblems, List.forall_mem_append, and_assoc]
  refine ⟨worded_stepProblems hstep, fun line hline ↦ .inl ?_,
    fun line hline ↦ .inl (oneLine_valueMismatch hstep (.fixed rfl) hpair hprovider line hline)⟩
  split at hline
  next =>
    rw [List.mem_singleton.mp hline]
    exact .naming (.fixed rfl) hstep.uses rfl
  next key expected hkey hexpected =>
    exact oneLine_providedMismatch hstep (.fixed rfl) (.fixed rfl)
      (hpair.key expected hexpected) hprovider (hstep.keyInput hkey) line hline
  next => cases hline

section Partitions

variable {partition : Partition} (hsteps : ∀ operation ∈ partition.operations, operation.step.Plain)
  (hpair : pair.Plain)

include hsteps hpair

theorem plain_keyedPair : (keyedPair partition pair).Plain := by
  unfold keyedPair
  split
  next output houtput =>
    have hassign := hsteps ⟨.assignKey, partition.assignKey⟩ (by simp [Partition.operations])
    exact ⟨fun key hkey ↦ Option.some.inj hkey ▸ (hassign.output output houtput).value, hpair.value⟩
  next => exact hpair

theorem plain_of_partitionOutput {output : Pair}
    (h : partitionOutput partition pair = some output) : output.Plain :=
  plain_of_transformsOutput (fun operation hoperation ↦
      hsteps operation (by simp [Partition.operations, hoperation]))
    (plain_keyedPair hsteps hpair) h

theorem worded_partitionProblems (hprovider : OneLine provider) :
    ∀ line ∈ partitionProblems scope partition pair provider,
      Worded scope partition.operations line := by
  have hassign : ⟨.assignKey, partition.assignKey⟩ ∈ partition.operations := by
    simp [Partition.operations]
  have htransforms : partition.transforms ⊆ partition.operations := fun operation hoperation ↦ by
    simp [Partition.operations, hoperation]
  have hplain : ∀ operation ∈ partition.transforms, operation.step.Plain :=
    fun operation hoperation ↦
      hsteps operation (htransforms hoperation)
  have hkeyed := plain_keyedPair hsteps hpair
  simp only [partitionProblems, List.forall_mem_append, and_assoc]
  refine ⟨fun line hline ↦
      (worded_assignKeyProblems (hsteps _ hassign) hpair hprovider line hline).of_mem hassign,
    worded_inContext (.fixed rfl) fun line hline ↦
      (worded_transformProblems hplain hkeyed hprovider line hline).mono htransforms, ?_⟩
  cases hupdate : partition.updateState with
  | none => exact List.forall_mem_nil _
  | some step =>
    have hmem : ⟨.updateState, step⟩ ∈ partition.operations := by
      simp [Partition.operations, hupdate]
    have hstep : step.Plain := hsteps _ hmem
    refine List.forall_mem_append.mpr
      ⟨fun line hline ↦ (worded_stepProblems hstep line hline).of_mem hmem,
        fun line hline ↦ .inl ?_⟩
    split at hline
    next output value houtput hvalue =>
      refine forall_mem_unless ?_ line hline
      simp only [oneLine_append_iff, and_assoc]
      exact ⟨.fixed rfl, hstep.uses, .fixed rfl,
        (plain_of_transformsOutput hplain hkeyed houtput).value, .fixed rfl,
        oneLine_lastProvider hplain hprovider, .fixed rfl, hstep.valueInput hvalue, .fixed rfl⟩
    next => cases hline

end Partitions

section Windows

variable {window : Window} (hsteps : ∀ operation ∈ window.operations, operation.step.Plain)
  (hpair : pair.Plain)

include hsteps

theorem plain_of_mem_windowTransforms : ∀ operation ∈ window.transforms, operation.step.Plain :=
  fun operation hoperation ↦ hsteps operation (by simp [Window.operations, hoperation])

theorem plain_of_mem_windowPartition {partition : Partition}
    (hpartition : window.partition = some partition) :
    ∀ operation ∈ partition.operations, operation.step.Plain :=
  fun operation hoperation ↦ hsteps operation (by simp [Window.operations, hpartition, hoperation])

include hpair

theorem plain_of_windowOutput {output : Pair} (h : windowOutput window pair = some output) :
    output.Plain := by
  obtain ⟨middle, collected, hmiddle, hsome, hnone, hflush, hopen⟩ := exists_of_windowOutput h
  have hmiddle := plain_of_transformsOutput (plain_of_mem_windowTransforms hsteps) hpair hmiddle
  have hcollected : collected.Plain := by
    cases hpartition : window.partition with
    | none => exact hnone hpartition ▸ hmiddle
    | some partition =>
      exact plain_of_partitionOutput (plain_of_mem_windowPartition hsteps hpartition) hmiddle
        (hsome partition hpartition)
  cases hstep : window.flush with
  | none => exact hopen hstep ▸ hcollected
  | some step =>
    have hplain : step.Plain := hsteps ⟨.aggregate, step⟩ (by simp [Window.operations, hstep])
    obtain ⟨declared, hdeclared, rfl⟩ := Option.map_eq_some_iff.mp (hflush step hstep)
    exact hplain.output declared hdeclared

theorem worded_windowProblems (hprovider : OneLine provider) :
    ∀ line ∈ windowProblems scope window pair provider, Worded scope window.operations line := by
  have hassign : ⟨.assignTimestamp, window.assignTimestamp⟩ ∈ window.operations := by
    simp [Window.operations]
  have htransforms : window.transforms ⊆ window.operations := fun operation hoperation ↦ by
    simp [Window.operations, hoperation]
  have hplain := plain_of_mem_windowTransforms hsteps
  simp only [windowProblems, List.forall_mem_append, and_assoc]
  refine ⟨fun line hline ↦
      (worded_timestampProblems (hsteps _ hassign) hpair hprovider line hline).of_mem hassign,
    worded_inContext (.fixed rfl) fun line hline ↦
      (worded_transformProblems hplain hpair hprovider line hline).mono htransforms, ?_⟩
  split
  next => exact List.forall_mem_nil _
  next output houtput =>
    refine List.forall_mem_append.mpr ⟨?_, ?_⟩
    · cases hpartition : window.partition with
      | none => exact List.forall_mem_nil _
      | some partition =>
        have hsubset : partition.operations ⊆ window.operations := fun operation hoperation ↦ by
          simp [Window.operations, hpartition, hoperation]
        exact worded_inContext (.fixed rfl) fun line hline ↦
          (worded_partitionProblems (plain_of_mem_windowPartition hsteps hpartition)
            (plain_of_transformsOutput hplain hpair houtput) (.fixed rfl) line hline).mono hsubset
    · cases hflush : window.flush with
      | none => exact List.forall_mem_nil _
      | some step =>
        have hmem : ⟨.aggregate, step⟩ ∈ window.operations := by simp [Window.operations, hflush]
        exact worded_inContext (.fixed rfl) fun line hline ↦
          (worded_stepProblems (hsteps _ hmem) line hline).of_mem hmem

end Windows

end Validation

end FlowSpec
