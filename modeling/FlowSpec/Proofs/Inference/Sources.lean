import FlowSpec.Proofs.Inference.Typing

/-!
Whether the sources of a service agree. Two pairs fit if their values are equal, and their keys
where both have one, and pairs agree if any two of them fit (`pairsAgree_iff`). To fit is not
transitive: a pair without a key fits pairs whose keys differ. Inference compares every source with
the first only. So all values that reach an inferred service are equal, and its sources agree if the
first of them has a key; if it has none, they agree exactly if the keys of the others are equal,
which inference does not ask (`infer_sources_agree_iff`).
-/

set_option autoImplicit false

namespace FlowSpec

/-! ### Pairs that fit -/

namespace Pair

/-- The values are equal, and so are the keys if both pairs have one. -/
@[mk_iff]
structure Fits (first second : Pair) : Prop where
  value : first.value = second.value
  key : ∀ key other, first.key = some key → second.key = some other → key = other

/-- The second pair has all that the first has. -/
structure Within (part whole : Pair) : Prop where
  value : part.value = whole.value
  key : ∀ key, part.key = some key → whole.key = some key

/-- The pair with the key of another where it has none of its own. -/
def join (pair other : Pair) : Pair := { pair with key := pair.key.orElse fun _ ↦ other.key }

variable {pair other part whole first second : Pair}

theorem Fits.refl (pair : Pair) : pair.Fits pair where
  value := rfl
  key _ _ hkey hother := Option.some.inj (hkey.symm.trans hother)

theorem Within.refl (pair : Pair) : pair.Within pair where
  value := rfl
  key _ hkey := hkey

theorem Fits.mono (h : part.Within first) (h' : whole.Within second) (hfits : first.Fits second) :
    part.Fits whole where
  value := (h.value.trans hfits.value).trans h'.value.symm
  key key other hkey hother := hfits.key key other (h.key key hkey) (h'.key other hother)

theorem join_of_key {key : String} (h : pair.key = some key) : pair.join other = pair := by
  rw [join, h]
  exact congrArg (Pair.mk · pair.value) h.symm

theorem join_of_key_eq_none (h : pair.key = none) :
    pair.join other = { pair with key := other.key } := by
  rw [join, h]
  rfl

theorem join_of_none (h : other.key = none) : pair.join other = pair := by
  cases hown : pair.key with
  | none => rw [join_of_key_eq_none hown, h, ← hown]
  | some own => exact join_of_key hown

theorem within_join (pair other : Pair) : pair.Within (pair.join other) where
  value := rfl
  key key hkey := by rwa [join_of_key hkey]

theorem Fits.within_join (h : pair.Fits other) : other.Within (pair.join other) where
  value := h.value.symm
  key key hkey := by
    cases hown : pair.key with
    | none => rwa [join_of_key_eq_none hown]
    | some own => rw [join_of_key hown, hown, h.key own key hown hkey]

/-- Pairs that fit are joined to one of the two. -/
theorem Fits.join_eq (h : pair.Fits other) : pair.join other = pair ∨ pair.join other = other := by
  cases hown : pair.key with
  | none => exact Or.inr (by rw [join_of_key_eq_none hown, h.value])
  | some own => exact Or.inl (join_of_key hown)

end Pair

/-! ### Pairs that agree -/

/-- Any two of the pairs fit. -/
def AllFit (pairs : List Pair) : Prop := ∀ first ∈ pairs, ∀ second ∈ pairs, first.Fits second

theorem AllFit.of_within {pairs wholes : List Pair} (h : AllFit wholes)
    (hwithin : ∀ pair ∈ pairs, ∃ whole ∈ wholes, pair.Within whole) : AllFit pairs := by
  intro first hfirst second hsecond
  obtain ⟨whole, hwhole, hpart⟩ := hwithin first hfirst
  obtain ⟨other, hother, hpart'⟩ := hwithin second hsecond
  exact (h whole hwhole other hother).mono hpart hpart'

variable {sample pair : Pair} {rest pairs : List Pair}

/-- Two pairs that fit may be replaced by what they are joined to. -/
theorem allFit_cons_cons_iff (h : sample.Fits pair) :
    AllFit (sample :: pair :: rest) ↔ AllFit (sample.join pair :: rest) := by
  constructor
  · refine fun hfit ↦ hfit.of_within (List.forall_mem_cons.mpr ⟨?_, fun other hother ↦ ?_⟩)
    · refine ⟨sample.join pair, ?_, .refl _⟩
      rcases h.join_eq with heq | heq <;> simp [heq]
    · exact ⟨other, by simp [hother], .refl other⟩
  · refine fun hfit ↦
      hfit.of_within (List.forall_mem_cons.mpr ⟨?_, List.forall_mem_cons.mpr ⟨?_, ?_⟩⟩)
    · exact ⟨_, List.mem_cons_self, Pair.within_join sample pair⟩
    · exact ⟨_, List.mem_cons_self, h.within_join⟩
    · exact fun other hother ↦ ⟨other, List.mem_cons_of_mem _ hother, .refl other⟩

/-- The sample takes its key from the first pair that has one. -/
theorem agreeWith_cons_iff :
    agreeWith sample (pair :: rest) ↔ sample.Fits pair ∧ agreeWith (sample.join pair) rest := by
  rw [agreeWith, Bool.and_eq_true, beq_iff_eq, Pair.fits_iff, and_assoc, eq_comm]
  refine and_congr_right fun _ ↦ ?_
  cases hkey : pair.key with
  | none => simp [Pair.join_of_none hkey]
  | some key =>
    cases hown : sample.key with
    | none => simp [Pair.join_of_key_eq_none hown, Pair.withKey, hkey]
    | some own => simp [Pair.join_of_key hown, @eq_comm _ key]

theorem agreeWith_iff : agreeWith sample pairs ↔ AllFit (sample :: pairs) := by
  induction pairs generalizing sample with
  | nil => simp [agreeWith, AllFit, Pair.Fits.refl]
  | cons pair rest ih =>
    rw [agreeWith_cons_iff, ih]
    constructor
    · exact fun h ↦ (allFit_cons_cons_iff h.1).mpr h.2
    · intro h
      have hfits : sample.Fits pair := h sample (by simp) pair (by simp)
      exact ⟨hfits, (allFit_cons_cons_iff hfits).mp h⟩

/-- Pairs agree exactly if any two of them fit, whatever their number and order. -/
theorem pairsAgree_iff : pairsAgree pairs ↔ AllFit pairs := by
  cases pairs with
  | nil => simp [pairsAgree, AllFit]
  | cons sample rest => exact agreeWith_iff

theorem pairsAgree_pair_iff {first second : Pair} :
    pairsAgree [first, second] ↔ first.Fits second := by
  rw [pairsAgree, agreeWith_cons_iff]
  exact and_iff_left rfl

/-- Where the first of them has a key, pairs that fit the first agree. -/
theorem allFit_of_key (hkey : sample.key.isSome) (h : ∀ pair ∈ pairs, sample.Fits pair) :
    AllFit pairs := by
  obtain ⟨key, hkey⟩ := Option.isSome_iff_exists.mp hkey
  intro first hfirst second hsecond
  refine ⟨(h first hfirst).value.symm.trans (h second hsecond).value,
    fun own other hown hother ↦ ?_⟩
  exact ((h first hfirst).key key own hkey hown).symm.trans
    ((h second hsecond).key key other hkey hother)

/-- A source brings one pair. -/
theorem Endpoint.Brings.unique {topics : List Topic} {source : Endpoint} {first second : Pair}
    (h : source.Brings topics first) (h' : source.Brings topics second) : first = second := by
  obtain ⟨target, htarget, -, rfl⟩ := h
  obtain ⟨other, hother, -, rfl⟩ := h'
  rw [htarget] at hother
  cases hother
  rfl

namespace Inference

open Outcome

/-! ### Sources of a service -/

/-- Every source of an inferred service brings a pair that fits the one that enters the service, and
the first brings that pair itself. -/
theorem exists_brought_of_infer {topics : List Topic} {service : Service} {typing : ServiceTyping}
    (h : infer topics service = .ok typing) :
    ∃ pairs, List.Forall₂ (Endpoint.Brings topics) service.sources pairs ∧
      pairs.head? = some typing.input ∧ ∀ pair ∈ pairs, typing.input.Fits pair := by
  obtain ⟨trace, htrace, h⟩ := bind_eq_ok_iff.mp h
  obtain ⟨transforms, -, h⟩ := bind_eq_ok_iff.mp h
  obtain ⟨stage, -, h⟩ := bind_eq_ok_iff.mp h
  obtain ⟨sinks, -, h⟩ := bind_eq_ok_iff.mp h
  cases h
  obtain ⟨⟨first, hfirst, hbrings⟩, hsources⟩ :=
    (yields_inferSources_iff service.name).mp ⟨trace, htrace, rfl⟩
  choose! pair hpair using hsources
  refine ⟨service.sources.map pair, ?_, ?_, List.forall_mem_map.mpr fun source hsource ↦ ?_⟩
  · exact List.forall₂_map_right_iff.mpr (List.forall₂_same.mpr fun source hsource ↦
        (hpair source hsource).1)
  · have hmem : first ∈ service.sources := List.mem_of_mem_head? hfirst
    rw [List.head?_map, hfirst, Option.map_some, (hpair first hmem).1.unique hbrings]
  · exact pairsAgree_pair_iff.mp (hpair source hsource).2

/-- The values that the sources of an inferred service bring are equal. The sources agree if the
first of them has a key, and in any case exactly if no two of them have different keys. -/
theorem infer_sources_agree_iff {topics : List Topic} {service : Service} {typing : ServiceTyping}
    (h : infer topics service = .ok typing) :
    ∃ pairs, List.Forall₂ (fun source pair ↦ ∀ index,
        Yields (inferSource service.name topics index source) pair) service.sources pairs ∧
      pairs.head? = some typing.input ∧
      (∀ pair ∈ pairs, pair.value = typing.input.value) ∧
      (typing.input.key.isSome → pairsAgree pairs) ∧
      (pairsAgree pairs ↔ ∀ first ∈ pairs, ∀ second ∈ pairs, ∀ key other,
        first.key = some key → second.key = some other → key = other) := by
  obtain ⟨pairs, hbrought, hhead, hfits⟩ := exists_brought_of_infer h
  refine ⟨pairs, ?_, hhead, fun pair hpair ↦ (hfits pair hpair).value.symm, fun hkey ↦ ?_, ?_⟩
  · exact hbrought.imp fun source pair hbrings index ↦
      (yields_inferSource_iff service.name index).mpr hbrings
  · exact pairsAgree_iff.mpr (allFit_of_key hkey hfits)
  · rw [pairsAgree_iff]
    constructor
    · exact fun hall first hfirst second hsecond ↦ (hall first hfirst second hsecond).key
    · intro hkeys first hfirst second hsecond
      exact ⟨(hfits first hfirst).value.symm.trans (hfits second hsecond).value,
        hkeys first hfirst second hsecond⟩

namespace Reviews

/-- Reviews, which come without a key, by product, and by the number of their author. -/
def topics : List Topic :=
  [{ id := "reviews", name := "reviews", value := { type := "string", converter := "json" } },
   { id := "by-product", name := "by-product",
     key := some { type := "string", converter := "json" },
     value := { type := "string", converter := "json" } },
   { id := "by-author", name := "by-author", key := some { type := "u32", converter := "json" },
     value := { type := "string", converter := "json" } }]

/-- Makes the product the key, whatever it was before. -/
def rekey : Operation :=
  ⟨.map, { uses := "rekey"
           inputs :=
             [{ name := "author", type := "u32", isKey := true },
               { name := "text", type := "string" }]
           output := some { key := some "string", value := "string" } }⟩

/-- A service that takes from sources in this order. -/
def service (sources : List Endpoint) : Service :=
  { name := "merge", sources, sinks := [{ kind := .topic, id := "reviews" }] }

def reviews : Endpoint := { kind := .topic, id := "reviews" }

def byProduct : Endpoint := { kind := .topic, id := "by-product" }

def byAuthor : Endpoint := { kind := .topic, id := "by-author" }

/-- What enters the service from a source with a key. -/
def keyed : Pair := { key := some "string", value := "string" }

end Reviews

open Reviews in
/-- Behind the reviews by product come reviews without a key, and reviews by author whose key is
made the product. -/
theorem infer_sources_agree_iff_byProduct :
    ∃ typing, infer topics (service [byProduct, reviews, { byAuthor with transforms := [rekey] }]) =
      .ok typing ∧ typing.input = keyed ∧ ∃ pairs, List.Forall₂ (fun source pair ↦ ∀ index,
        Yields (inferSource "merge" topics index source) pair)
          [byProduct, reviews, { byAuthor with transforms := [rekey] }] pairs ∧
        pairs.head? = some keyed ∧ pairsAgree pairs := by
  obtain ⟨typing, htyping, hinput⟩ : ∃ typing, infer topics
      (service [byProduct, reviews, { byAuthor with transforms := [rekey] }]) = .ok typing ∧
      typing.input = keyed :=
    ⟨_, rfl, rfl⟩
  obtain ⟨pairs, hbrought, hhead, -, hagree, -⟩ := infer_sources_agree_iff htyping
  rw [hinput] at hhead hagree
  exact ⟨typing, htyping, hinput, pairs, hbrought, hhead, hagree rfl⟩

open Reviews in
/-- Behind reviews without a key, those by product and those by author are both accepted, though
their keys differ. In another order of the same sources they are not. -/
theorem reviews_inferred_not_agreeing :
    (∃ typing, infer topics (service [reviews, byProduct, byAuthor]) = .ok typing) ∧
      List.Forall₂ (fun source pair ↦ ∀ index,
        Yields (inferSource "merge" topics index source) pair) [reviews, byProduct, byAuthor]
        [{ value := "string" }, keyed, { key := some "u32", value := "string" }] ∧
      pairsAgree [{ value := "string" }, keyed, { key := some "u32", value := "string" }] = false ∧
      infer topics (service [byProduct, reviews, byAuthor]) =
        .error { service := "merge", position := "sources[2]",
                 mismatch :=
                   .sources "by-author" { key := some "u32", value := "string" } keyed } := by
  have hbrings {source : Endpoint} {pair : Pair} (h : source.Brings topics pair) (index : Nat) :
      Yields (inferSource "merge" topics index source) pair :=
    (yields_inferSource_iff "merge" index).mpr h
  refine ⟨⟨_, rfl⟩, .cons (hbrings ?_) (.cons (hbrings ?_) (.cons (hbrings ?_) .nil)), rfl, rfl⟩
  all_goals exact ⟨_, rfl, trivial, rfl⟩

end Inference

end FlowSpec
