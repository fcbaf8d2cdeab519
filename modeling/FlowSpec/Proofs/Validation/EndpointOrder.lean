import FlowSpec.Proofs.Inference.Sources
import FlowSpec.Proofs.Validation.Agreement
import Mathlib.Data.List.Dedup

/-!
Sources and sinks in any order. Their types are compared one after another with a sample, which
takes its key from the first type that has one, so that those in front are compared with less than
those behind. What is decided in the end is whether any two of the types fit (`pairsAgree_iff`),
that is, whether all values are equal and all keys that are present (`allFit_iff_allEqual`). This
depends on which types there are, and neither on their order nor on how often each occurs
(`pairsAgree_congr`). The checks of single sources and sinks do not depend on it either, so the
sources of a service are valid in every order if they are in one, and so are its sinks.
-/

set_option autoImplicit false

namespace FlowSpec

/-- Any two of the texts are equal. -/
def AllEqual (texts : List String) : Prop := ∀ first ∈ texts, ∀ second ∈ texts, first = second

instance (texts : List String) : Decidable (AllEqual texts) :=
  inferInstanceAs (Decidable (∀ first ∈ texts, ∀ second ∈ texts, first = second))

variable {pairs others : List Pair}

theorem allFit_iff_allEqual :
    AllFit pairs ↔ AllEqual (pairs.map Pair.value) ∧ AllEqual (pairs.filterMap Pair.key) := by
  constructor
  · intro h
    constructor
    · intro value hvalue other hother
      obtain ⟨first, hfirst, rfl⟩ := List.mem_map.mp hvalue
      obtain ⟨second, hsecond, rfl⟩ := List.mem_map.mp hother
      exact (h first hfirst second hsecond).value
    · intro key hkey other hother
      obtain ⟨first, hfirst, hkey⟩ := List.mem_filterMap.mp hkey
      obtain ⟨second, hsecond, hother⟩ := List.mem_filterMap.mp hother
      exact (h first hfirst second hsecond).key key other hkey hother
  · rintro ⟨hvalues, hkeys⟩ first hfirst second hsecond
    constructor
    · exact hvalues _ (List.mem_map_of_mem hfirst) _ (List.mem_map_of_mem hsecond)
    · intro key other hkey hother
      exact hkeys key (List.mem_filterMap.mpr ⟨first, hfirst, hkey⟩) other
        (List.mem_filterMap.mpr ⟨second, hsecond, hother⟩)

theorem AllFit.subset (h : AllFit pairs) (hsubset : others ⊆ pairs) : AllFit others :=
  h.of_within fun pair hpair ↦ ⟨pair, hsubset hpair, .refl pair⟩

/-- Whether pairs agree depends on which pairs there are only. -/
theorem pairsAgree_congr (h : ∀ pair, pair ∈ others ↔ pair ∈ pairs) :
    pairsAgree others = pairsAgree pairs := by
  rw [Bool.eq_iff_iff, pairsAgree_iff, pairsAgree_iff]
  constructor
  · exact fun hall ↦ hall.subset fun pair hpair ↦ (h pair).mpr hpair
  · exact fun hall ↦ hall.subset fun pair hpair ↦ (h pair).mp hpair

/-- The types of sources or sinks agree if and only if all their values are equal, and all their
keys that are present. Neither the order of the list matters, nor how often a type occurs in it. -/
theorem pairsAgree_order_free (typed : List (String × Pair)) :
    (pairsAgree (typed.map Prod.snd) ↔ AllEqual (typed.map fun endpoint ↦ endpoint.2.value) ∧
      AllEqual (typed.filterMap fun endpoint ↦ endpoint.2.key)) ∧
      (∀ others : List (String × Pair), others.Perm typed →
        pairsAgree (others.map Prod.snd) = pairsAgree (typed.map Prod.snd)) ∧
      (∀ others : List (String × Pair),
        (∀ pair, pair ∈ others.map Prod.snd ↔ pair ∈ typed.map Prod.snd) →
        pairsAgree (others.map Prod.snd) = pairsAgree (typed.map Prod.snd)) ∧
      pairsAgree (typed.dedup.map Prod.snd) = pairsAgree (typed.map Prod.snd) ∧
      pairsAgree (typed.map Prod.snd).dedup = pairsAgree (typed.map Prod.snd) := by
  refine ⟨?_, ?_, ?_, ?_, ?_⟩
  · rw [pairsAgree_iff, allFit_iff_allEqual, List.map_map, List.filterMap_map]
    rfl
  · exact fun others hperm ↦ pairsAgree_congr fun pair ↦ (hperm.map Prod.snd).mem_iff
  · exact fun others hsame ↦ pairsAgree_congr hsame
  · refine pairsAgree_congr fun pair ↦ ?_
    rw [List.mem_map, List.mem_map]
    simp only [List.mem_dedup]
  · exact pairsAgree_congr fun pair ↦ List.mem_dedup

/-- Orders from four sources, the first and the last of which are the same. -/
def typedOrders : List (String × Pair) :=
  [("web", { value := "order" }), ("shop", { key := some "u32", value := "order" }),
    ("phone", { key := some "string", value := "order" }), ("web", { value := "order" })]

/-- The keys of two sources differ behind one that has none. That is found backwards as well, and
without the source that is repeated. -/
theorem pairsAgree_order_free_typedOrders :
    AllEqual (typedOrders.map fun endpoint ↦ endpoint.2.value) ∧
      ¬ AllEqual (typedOrders.filterMap fun endpoint ↦ endpoint.2.key) ∧
      typedOrders.reverse.Perm typedOrders ∧ pairsAgree (typedOrders.map Prod.snd) = false ∧
      pairsAgree (typedOrders.reverse.map Prod.snd) = false ∧
      pairsAgree (typedOrders.dedup.map Prod.snd) = false := by
  obtain ⟨hiff, hperm, -, hdedup, -⟩ := pairsAgree_order_free typedOrders
  have hkeys : ¬ AllEqual (typedOrders.filterMap fun endpoint ↦ endpoint.2.key) := by decide
  have hdiffer : pairsAgree (typedOrders.map Prod.snd) = false :=
    Bool.eq_false_iff.mpr fun hagree ↦ hkeys (hiff.mp hagree).2
  have hreverse : typedOrders.reverse.Perm typedOrders := List.reverse_perm typedOrders
  exact ⟨by decide, hkeys, hreverse, hdiffer, (hperm _ hreverse).trans hdiffer,
    hdedup.trans hdiffer⟩

namespace Validation

/-! ### Sources and sinks of a service -/

theorem disagreement_eq_nil_iff {what lower : String} {typed : List (String × Pair)} :
    disagreement what lower typed = [] ↔ pairsAgree (typed.map Prod.snd) := by
  unfold disagreement
  split_ifs with h
  · simp [h]
  · simp [h]

/-- Reports on single endpoints, and on their types, are missing for endpoints in any order if they
are in one. -/
theorem endpointReports_eq_nil_congr {endpoints others : List Endpoint}
    (h : ∀ endpoint, endpoint ∈ others ↔ endpoint ∈ endpoints) {heading : Endpoint → String}
    {problems : Endpoint → List Report} {type? : Endpoint → Option (String × Pair)}
    {what lower : String} :
    others.filterMap (fun endpoint ↦ Report.groupUnlessEmpty (heading endpoint) (problems endpoint))
        ++ disagreement what lower (others.filterMap type?) = [] ↔
      endpoints.filterMap (fun endpoint ↦
        Report.groupUnlessEmpty (heading endpoint) (problems endpoint))
        ++ disagreement what lower (endpoints.filterMap type?) = [] := by
  have hpairs : ∀ pair, pair ∈ (others.filterMap type?).map Prod.snd ↔
      pair ∈ (endpoints.filterMap type?).map Prod.snd := by
    intro pair
    simp only [List.mem_map, List.mem_filterMap, h]
  rw [List.append_eq_nil_iff, List.append_eq_nil_iff, filterMap_groupUnlessEmpty_eq_nil_iff,
    filterMap_groupUnlessEmpty_eq_nil_iff, disagreement_eq_nil_iff, disagreement_eq_nil_iff,
    pairsAgree_congr hpairs]
  simp only [h]

/-- Sources are valid in any order if they are in one, however often each is listed. -/
theorem sourcesProblems_eq_nil_congr {sources others : List Endpoint}
    (h : ∀ source, source ∈ others ↔ source ∈ sources) (around : Surroundings) :
    sourcesProblems around others = [] ↔ sourcesProblems around sources = [] :=
  endpointReports_eq_nil_congr h

/-- Sinks are valid in any order if they are in one, however often each is listed. -/
theorem sinksProblems_eq_nil_congr {sinks others : List Endpoint}
    (h : ∀ sink, sink ∈ others ↔ sink ∈ sinks) (around : Surroundings) (output : Pair) :
    sinksProblems around others output = [] ↔ sinksProblems around sinks output = [] :=
  endpointReports_eq_nil_congr h

end Validation

end FlowSpec
