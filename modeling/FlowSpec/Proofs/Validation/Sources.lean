import FlowSpec.Proofs.Validation.Agreement
import FlowSpec.Proofs.Validation.Chains

/-!
Two readings of what a source brings. Validation reads it off the declaration of the last transform,
inference threads the pair of the target through all of them. If the transforms have no problems,
both give a pair, and what validation reads is true of the pair that is inferred, but it may lack
the key. The two are equal exactly if the last transform tells all of what leaves it
(`sourcePair_eq_chain_iff`). A key that is carried over a transform is lost to validation, so that
it refuses steps behind the source that take this key.
-/

set_option autoImplicit false

namespace FlowSpec

open Validation

/-- What leaves a transform can be read off its declaration. A filter declares the very pair that
reaches it, and any other transform makes a key or gets none. -/
def Operation.TellsAll (operation : Operation) (reaching : Pair) : Prop :=
  if operation.operator = .filter then operation.step.inputPair = some reaching
  else operation.step.hasKeyInOutput ∨ reaching.key = none

theorem Output.pair_eq_apply_iff {output : Output} {pair : Pair} :
    output.pair = pair.apply output ↔ output.key.isSome ∨ pair.key = none := by
  unfold Output.pair Pair.apply
  cases output.key <;> simp [eq_comm]

namespace Validation

/-! ### The last transform -/

/-- The declared output of the last transform is what leaves it exactly if it tells all of this. -/
theorem chainOutput_eq_passOn_iff {last : Operation} {sketch : Pair}
    (h : chainOutput last = .ok sketch) (reaching : Pair) : sketch = last.passOn reaching ↔
      last.TellsAll reaching := by
  unfold chainOutput at h
  unfold Operation.TellsAll
  split_ifs at h ⊢ with hfilter
  · rw [Operation.passOn_of_filter hfilter]
    cases hinput : last.step.inputPair with
    | none =>
      rw [hinput] at h
      cases h
    | some declared =>
      rw [hinput] at h
      rw [← Except.ok.inj h, Option.some.injEq]
  · cases houtput : last.step.output with
    | none =>
      rw [houtput] at h
      cases h
    | some output =>
      rw [houtput] at h
      rw [← Except.ok.inj h, Operation.passOn_of_output hfilter houtput, Output.pair_eq_apply_iff,
        Step.hasKeyInOutput, houtput]

/-- A transform without problems declares what leaves it. -/
theorem exists_chainOutput_of_stepProblems {scope : Scope} {last : Operation}
    (htransform : last.operator.isTransform) (h : stepProblems scope last.operator last.step = []) :
    ∃ sketch, chainOutput last = .ok sketch := by
  unfold chainOutput
  split_ifs with hfilter
  · obtain ⟨parameter, hparameter⟩ := exists_valueInput_of_stepProblems (by simp [hfilter]) h
    rw [Step.inputPair_eq, hparameter]
    exact ⟨_, rfl⟩
  · have hsignature := (List.append_eq_nil_iff.mp h).1
    have hpresent : outputPresent last.operator.name last.step = [] := by
      cases hoperator : last.operator with
      | filter => exact absurd hoperator hfilter
      | map | flatMap | filterMap =>
        simp only [hoperator, signature, List.append_assoc, List.append_eq_nil_iff] at hsignature
        exact hsignature.2.1
      | aggregate | assignKey | assignTimestamp | updateState =>
        simp [hoperator, Operator.isTransform] at htransform
    obtain ⟨output, houtput⟩ := Option.isSome_iff_exists.mp (output_of_outputPresent hpresent)
    rw [houtput]
    exact ⟨_, rfl⟩

theorem stepProblems_of_transformProblems {scope : Scope} {operations : List Operation}
    {pair : Pair} {provider : String} (hflows : Flows operations pair)
    (h : transformProblems scope operations pair provider = []) (operation : Operation)
    (hoperation : operation ∈ operations) :
    stepProblems scope operation.operator operation.step = [] := by
  rw [transformProblems_of_flows hflows, List.flatMap_eq_nil_iff] at h
  exact h operation hoperation

/-! ### Sources -/

section Sources

variable {around : Surroundings} {source : Endpoint} {target : Pair} {provider : String}

theorem exists_sourcePair
    (hoperators : ∀ operation ∈ source.transforms, operation.operator.isTransform)
    (htarget : source.targetPair around.topics = .ok (some target))
    (hproblems : transformProblems around.scope source.transforms target provider = []) :
    ∃ sketch, sourcePair around source = .ok sketch := by
  unfold sourcePair
  cases hlast : source.transforms.getLast? with
  | none => exact ⟨target, by rw [htarget]⟩
  | some last =>
    have hmem := List.mem_of_getLast? hlast
    have hflows := flows_of_transformProblems hoperators hproblems
    obtain ⟨sketch, hsketch⟩ := exists_chainOutput_of_stepProblems (hoperators last hmem)
      (stepProblems_of_transformProblems hflows hproblems last hmem)
    exact ⟨sketch, Outcome.mapError_eq_ok_iff.mpr hsketch⟩

theorem sourcePair_eq_passThrough_iff {sketch : Pair}
    (htarget : source.targetPair around.topics = .ok (some target))
    (h : sourcePair around source = .ok sketch) :
    sketch = passThrough source.transforms target ↔
      ∀ before last, source.transforms = before ++ [last] →
      last.TellsAll (passThrough before target) := by
  unfold sourcePair at h
  cases hlast : source.transforms.getLast? with
  | none =>
    rw [hlast, htarget] at h
    rw [List.getLast?_eq_none_iff.mp hlast, ← Except.ok.inj h]
    simp [passThrough]
  | some last =>
    rw [hlast] at h
    obtain ⟨before, htransforms⟩ := List.getLast?_eq_some_iff.mp hlast
    have hread :=
      chainOutput_eq_passOn_iff (Outcome.mapError_eq_ok_iff.mp h) (passThrough before target)
    rw [htransforms, passThrough_append]
    refine hread.trans ⟨?_, fun htells ↦ htells before last rfl⟩
    intro htells other second heq
    obtain ⟨rfl, rfl⟩ : before = other ∧ last = second := by simpa using heq
    exact htells

/-- A source whose transforms have no problems has a type in validation and is inferred. The type is
a sketch of the pair that is inferred, and it is this pair exactly if the last transform tells all
of what leaves it. -/
theorem sourcePair_eq_chain_iff (service position : String) (index : Nat)
    (hoperators : ∀ operation ∈ source.transforms, operation.operator.isTransform)
    (htarget : source.targetPair around.topics = .ok (some target))
    (hproblems : transformProblems around.scope source.transforms target provider = []) :
    ∃ sketch trace, sourcePair around source = .ok sketch ∧
      Inference.chain service position index source.transforms target = .ok trace ∧
      sketch.Sketches trace.pair ∧ (sketch = trace.pair ↔
        ∀ before last, source.transforms = before ++ [last] →
        last.TellsAll (passThrough before target)) := by
  have hflows := flows_of_transformProblems hoperators hproblems
  obtain ⟨sketch, hsketch⟩ := exists_sourcePair hoperators htarget hproblems
  obtain ⟨trace, htrace, hpair⟩ :=
    (Inference.yields_chain_iff service position index).mpr ⟨hflows, rfl⟩
  refine ⟨sketch, trace, hsketch, htrace, ?_, ?_⟩
  · rw [hpair]
    exact sketches_of_sourcePair htarget hflows hsketch
  · rw [hpair]
    exact sourcePair_eq_passThrough_iff htarget hsketch

end Sources

namespace Orders

/-- The amounts of orders, by shop. -/
def orders : Topic :=
  { id := "orders", name := "orders", key := some { type := "string", converter := "json" }
    value := { type := "u32", converter := "json" } }

def shop : Parameter := { name := "shop", type := "string", isKey := true }

/-- Carries over the key. -/
def inCents : Operation :=
  ⟨.map, { uses := "in-cents", inputs := [{ name := "amount", type := "u32" }],
           output := some { value := "u64" } }⟩

def large : Operation :=
  ⟨.filter, { uses := "large", inputs := [shop, { name := "amount", type := "u64" }]
              output := some { value := "bool" } }⟩

def source (transforms : List Operation) : Endpoint :=
  { kind := .topic, id := "orders", transforms }

/-- Takes the key that comes with the orders. -/
def discount : Operation :=
  ⟨.map, { uses := "discount", inputs := [shop, { name := "amount", type := "u64" }]
           output := some { value := "u32" } }⟩

def dataflow : Dataflow :=
  { apiVersion := "0.6.0"
    header := { owner := "example", name := "flow", version := "0.1.0" }
    topics := [orders]
    services := [{ name := "collect", sources := [source [inCents]], transforms := [discount]
                   sinks := [{ kind := .topic, id := "orders" }] }] }

def around : Surroundings := { scope := { types := [] }, topics := [orders], schedules := [] }

end Orders

open Orders in
/-- A filter at the end tells all of the pair if it takes the key. -/
theorem sourcePair_eq_chain_iff_large :
    (∀ operation ∈ (source [inCents, large]).transforms, operation.operator.isTransform) ∧
      (source [inCents, large]).targetPair around.topics = .ok (some orders.pair) ∧
      transformProblems around.scope [inCents, large] orders.pair "Topic `orders`" = [] ∧
      ∃ trace, Inference.chain "collect" "sources[0].transforms" 0 [inCents, large] orders.pair =
        .ok trace ∧ sourcePair around (source [inCents, large]) = .ok trace.pair := by
  have hoperators : ∀ operation ∈ (source [inCents, large]).transforms,
      operation.operator.isTransform := by decide
  have htarget : (source [inCents, large]).targetPair around.topics = .ok (some orders.pair) := rfl
  have hproblems : transformProblems around.scope [inCents, large] orders.pair "Topic `orders`" =
      [] := by decide
  obtain ⟨sketch, trace, hsketch, htrace, -, heq⟩ :=
    sourcePair_eq_chain_iff "collect" "sources[0].transforms" 0 hoperators htarget hproblems
  refine ⟨hoperators, htarget, hproblems, trace, htrace, ?_⟩
  rw [hsketch, heq.mpr]
  intro before last hlast
  have hbefore : [inCents] = before := by simpa [source] using congrArg List.dropLast hlast
  have hlarge : large = last := by simpa [source] using congrArg List.getLast? hlast
  rw [← hbefore, ← hlarge]
  rfl

open Orders in
/-- The key of the orders is carried over the transform of the source and inferred, but validation
does not see it, and it refuses a step behind the source that takes this key. -/
theorem carried_key_not_validated :
    (∀ operation ∈ (source [inCents]).transforms, operation.operator.isTransform) ∧
      (source [inCents]).targetPair [orders] = .ok (some orders.pair) ∧
      transformProblems around.scope [inCents] orders.pair "Topic `orders`" = [] ∧
      sourcePair around (source [inCents]) = .ok { value := "u64" } ∧
      (∃ trace, Inference.chain "collect" "sources[0].transforms" 0 [inCents] orders.pair =
        .ok trace ∧ trace.pair = { key := some "string", value := "u64" }) ∧
      (∃ problems, validateDataflow around.scope dataflow = .error problems) ∧
      ∃ typings, Inference.inferAll dataflow = .ok typings :=
  ⟨by decide, rfl, by decide, rfl, ⟨_, rfl, rfl⟩, ⟨_, rfl⟩, ⟨_, rfl⟩⟩

end Validation

end FlowSpec
