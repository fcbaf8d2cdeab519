import FlowSpec.Proofs.Document.Duplicates
import Mathlib.Data.List.Basic
import Mathlib.Data.Nat.Find

/-!
The scan for repeated keys is exact. A key stands at an address: the positions of the pairs and
items that lead to its mapping, and its own position there. Addresses in the order of a dictionary
are in the order of the document, since a key comes before what stands under it. The scan finds
nothing if no key is repeated at any address, and otherwise the repetition at the least one
(`IsFirst`). A loop over pairs or items is taken apart by the position that it is at: what stands
there comes before what stands behind it.
-/

set_option autoImplicit false

namespace FlowSpec.Document

open Yaml (Node)

/-! ### Places in a tree -/

/-- A step into a tree: to the value under a key, or to an item of a sequence. -/
inductive PathStep where
  | key (name : String)
  | index (position : Nat)

/-- The text of a path with one more step. -/
def PathStep.extend (path : String) : PathStep → String
  | key name => joinPath path name
  | index position => path ++ "[" ++ toString position ++ "]"

/-- A node stands inside another, at an address and at the end of some steps. No step leads to what
stands under a key that is written `<<`, or to what an alias stands for. -/
inductive Inside : Node → List Nat → List PathStep → Node → Prop
  | here (node : Node) : Inside node [] [] node
  | value {tag : String} {line position : Nat} {pairs : List (Node × Node)} {key value inner : Node}
      {address : List Nat} {steps : List PathStep} (hpair : pairs[position]? = some (key, value))
      (hkey : key.text ≠ "<<") (h : Inside value address steps inner) :
      Inside (.mapping tag line pairs) (position :: address) (.key key.text :: steps) inner
  | item {tag : String} {line position : Nat} {items : List Node} {item inner : Node}
      {address : List Nat} {steps : List PathStep} (hitem : items[position]? = some item)
      (h : Inside item address steps inner) :
      Inside (.sequence tag line items) (position :: address) (.index position :: steps) inner

/-- Two pairs have the same key, and it is not written `<<`. -/
def HasRepeatedKey (pairs : List (Node × Node)) : Prop :=
  ∃ (earlier later : Nat) (first second : Node × Node), earlier < later ∧
    pairs[earlier]? = some first ∧
    pairs[later]? = some second ∧ first.1.text = second.1.text ∧ second.1.text ≠ "<<"

/-- The key at a position is that of an earlier pair; `first` is the key of the first such pair. -/
structure Repeats (pairs : List (Node × Node)) (position : Nat) (key first : Node) : Prop where
  ordinary : key.text ≠ "<<"
  here : ∃ value, pairs[position]? = some (key, value)
  earlier : ∃ earliest < position, (∃ value, pairs[earliest]? = some (first, value)) ∧
    first.text = key.text ∧
    ∀ before < earliest, ∀ pair, pairs[before]? = some pair → pair.1.text ≠ key.text

/-- At this address in the tree a key is repeated, and the report tells of it. -/
inductive RepeatedAt (path : String) (root : Node) : List Nat → DuplicateKey → Prop
  | intro {tag : String} {line position : Nat} {pairs : List (Node × Node)} {key first : Node}
      {address : List Nat} {steps : List PathStep}
      (hinside : Inside root address steps (.mapping tag line pairs))
      (h : Repeats pairs position key first) :
      RepeatedAt path root (address ++ [position])
        { path := steps.foldl PathStep.extend path, key := key.text, line := key.line,
          firstLine := first.line }

/-- The first address comes before the second in the document, or is the same. -/
def Precedes (first second : List Nat) : Prop := first = second ∨ List.Lex (· < ·) first second

variable {path tag : String} {line position : Nat} {seen : List (String × Nat)}
  {pairs before rest : List (Node × Node)} {key value : Node}
  {items : List Node} {root item : Node} {address : List Nat} {duplicate : DuplicateKey}

/-! ### Repetitions -/

theorem exists_repeats_iff :
    (∃ position key first, Repeats pairs position key first) ↔ HasRepeatedKey pairs := by
  constructor
  · rintro ⟨position, key, first, hordinary, ⟨value, hhere⟩, earliest, hlt,
      ⟨other, hfirst⟩, hsame, -⟩
    exact ⟨earliest, position, _, _, hlt, hfirst, hhere, hsame, hordinary⟩
  · rintro ⟨earlier, later, first, second, hlt, hfirst, hsecond, hsame, hordinary⟩
    -- of the pairs with this key, the first one counts
    have hexists : ∃ (index : Nat) (pair : Node × Node), pairs[index]? = some pair ∧
        pair.1.text = second.1.text :=
      ⟨earlier, first, hfirst, hsame⟩
    classical
    obtain ⟨pair, hpair, htext⟩ := Nat.find_spec hexists
    have hle : Nat.find hexists ≤ earlier := Nat.find_min' hexists ⟨first, hfirst, hsame⟩
    refine ⟨later, second.1, pair.1, hordinary, ⟨second.2, hsecond⟩,
      Nat.find hexists, by omega, ⟨pair.2, hpair⟩, htext, ?_⟩
    exact fun before hbefore other hother hsame ↦
      Nat.find_min hexists hbefore ⟨other, hother, hsame⟩

/-- What repeats which key is told by the position. -/
theorem Repeats.unique {first otherKey otherFirst : Node} (h : Repeats pairs position key first)
    (hother : Repeats pairs position otherKey otherFirst) :
    key = otherKey ∧ first = otherFirst := by
  obtain ⟨value, hhere⟩ := h.here
  obtain ⟨otherValue, hotherHere⟩ := hother.here
  obtain ⟨rfl, -⟩ := Prod.mk.inj (Option.some.inj (hhere.symm.trans hotherHere))
  obtain ⟨earliest, -, ⟨_, hfirst⟩, hsame, hleast⟩ := h.earlier
  obtain ⟨otherEarliest, -, ⟨_, hotherFirst⟩, hotherSame, hotherLeast⟩ := hother.earlier
  have hequal : earliest = otherEarliest := by
    rcases Nat.lt_trichotomy earliest otherEarliest with hlt | heq | hlt
    · exact absurd hsame (hotherLeast earliest hlt _ hfirst)
    · exact heq
    · exact absurd hotherSame (hleast otherEarliest hlt _ hotherFirst)
  subst hequal
  exact ⟨rfl, (Prod.mk.inj (Option.some.inj (hfirst.symm.trans hotherFirst))).1⟩

/-- An address tells the node and the steps. -/
theorem Inside.unique {inner other : Node} {steps otherSteps : List PathStep}
    (h : Inside root address steps inner) (hother : Inside root address otherSteps other) :
    steps = otherSteps ∧ inner = other := by
  induction h generalizing otherSteps with
  | here node =>
    cases hother
    exact ⟨rfl, rfl⟩
  | value hpair _ _ ih =>
    cases hother with
    | value hotherPair _ h =>
      obtain ⟨rfl, rfl⟩ := Prod.mk.inj (Option.some.inj (hpair.symm.trans hotherPair))
      obtain ⟨rfl, rfl⟩ := ih h
      exact ⟨rfl, rfl⟩
  | item hitem _ ih =>
    cases hother with
    | item hotherItem h =>
      obtain rfl := Option.some.inj (hitem.symm.trans hotherItem)
      obtain ⟨rfl, rfl⟩ := ih h
      exact ⟨rfl, rfl⟩

/-- An address tells the report. -/
theorem RepeatedAt.unique {other : DuplicateKey} (h : RepeatedAt path root address duplicate)
    (hother : RepeatedAt path root address other) : duplicate = other := by
  generalize haddress : address = same at hother
  cases h with
  | intro hinside hrepeats =>
    cases hother with
    | intro hotherInside hotherRepeats =>
      obtain ⟨rfl, rfl⟩ := List.append_singleton_inj.mp haddress
      obtain ⟨rfl, hmapping⟩ := hinside.unique hotherInside
      cases hmapping
      obtain ⟨rfl, rfl⟩ := hrepeats.unique hotherRepeats
      rfl

theorem exists_repeatedAt_iff : (∃ address duplicate, RepeatedAt path root address duplicate) ↔
    ∃ address steps inner, Inside root address steps inner ∧ HasRepeatedKey inner.pairs := by
  constructor
  · rintro ⟨_, _, hinside, hrepeats⟩
    exact ⟨_, _, _, hinside, exists_repeats_iff.mp ⟨_, _, _, hrepeats⟩⟩
  · rintro ⟨address, steps, inner, hinside, hrepeated⟩
    cases inner with
    | mapping tag line pairs =>
      obtain ⟨position, key, first, hrepeats⟩ := exists_repeats_iff.mpr hrepeated
      exact ⟨_, _, .intro hinside hrepeats⟩
    | _ =>
      obtain ⟨_, _, _, _, -, hnone, -⟩ := hrepeated
      cases hnone

/-- In a sequence a key is repeated inside one of the items. -/
theorem repeatedAt_sequence_iff : RepeatedAt path (.sequence tag line items) address duplicate ↔
    ∃ position item inner, items[position]? = some item ∧ address = position :: inner ∧
      RepeatedAt (PathStep.extend path (.index position)) item inner duplicate := by
  constructor
  · rintro ⟨hinside, hrepeats⟩
    cases hinside with
    | item hitem h => exact ⟨_, _, _, hitem, rfl, .intro h hrepeats⟩
  · rintro ⟨position, item, inner, hitem, rfl, ⟨hinside, hrepeats⟩⟩
    exact .intro (.item hitem hinside) hrepeats

/-- In a mapping one of its own keys is repeated, or one inside the value under a key that is not
written `<<`. -/
theorem repeatedAt_mapping_iff : RepeatedAt path (.mapping tag line pairs) address duplicate ↔
    (∃ position key first, Repeats pairs position key first ∧ address = [position] ∧
      duplicate = { path, key := key.text, line := key.line, firstLine := first.line }) ∨
    ∃ position key value inner, pairs[position]? = some (key, value) ∧ key.text ≠ "<<" ∧
      address = position :: inner ∧ RepeatedAt (joinPath path key.text) value inner duplicate := by
  constructor
  · rintro ⟨hinside, hrepeats⟩
    cases hinside with
    | here => exact .inl ⟨_, _, _, hrepeats, rfl, rfl⟩
    | value hpair hkey h => exact .inr ⟨_, _, _, _, hpair, hkey, rfl, .intro h hrepeats⟩
  · rintro (⟨position, key, first, hrepeats, rfl, rfl⟩ |
        ⟨position, key, value, inner, hpair, hkey, rfl, hinner⟩)
    · exact .intro (.here _) hrepeats
    · obtain ⟨hinside, hrepeats⟩ := hinner
      exact .intro (.value hpair hkey hinside) hrepeats

/-- The same at the position of a pair. -/
theorem repeatedAt_cons_iff {inner : List Nat} (hpair : pairs[position]? = some (key, value)) :
    RepeatedAt path (.mapping tag line pairs) (position :: inner) duplicate ↔
      (∃ first, Repeats pairs position key first ∧ inner = [] ∧
        duplicate = { path, key := key.text, line := key.line, firstLine := first.line }) ∨
      key.text ≠ "<<" ∧ RepeatedAt (joinPath path key.text) value inner duplicate := by
  rw [repeatedAt_mapping_iff]
  constructor
  · rintro (⟨_, _, first, hrepeats, haddress, hduplicate⟩ |
        ⟨_, _, _, _, hother, hkey, haddress, hinner⟩)
    · obtain ⟨rfl, rfl⟩ := List.cons.inj haddress
      obtain ⟨_, hhere⟩ := hrepeats.here
      obtain ⟨rfl, -⟩ := Prod.mk.inj (Option.some.inj (hpair.symm.trans hhere))
      exact .inl ⟨first, hrepeats, rfl, hduplicate⟩
    · obtain ⟨rfl, rfl⟩ := List.cons.inj haddress
      obtain ⟨rfl, rfl⟩ := Prod.mk.inj (Option.some.inj (hpair.symm.trans hother))
      exact .inr ⟨hkey, hinner⟩
  · rintro (⟨first, hrepeats, rfl, hduplicate⟩ | ⟨hkey, hinner⟩)
    · exact .inl ⟨position, key, first, hrepeats, rfl, hduplicate⟩
    · exact .inr ⟨position, key, value, inner, hpair, hkey, rfl, hinner⟩

/-! ### The order of the document -/

namespace Precedes

variable {first second : List Nat} {other : Nat}

theorem cons (position : Nat) (h : Precedes first second) :
    Precedes (position :: first) (position :: second) :=
  h.imp (congrArg (position :: ·)) List.Lex.cons

theorem of_lt (h : position < other) : Precedes (position :: first) (other :: second) :=
  .inr (.rel h)

/-- A key comes before what stands under it. -/
theorem singleton (position : Nat) (inner : List Nat) :
    Precedes [position] (position :: inner) := by
  cases inner with
  | nil => exact .inl rfl
  | cons head tail => exact .inr (.cons .nil)

theorem antisymm (h : Precedes first second) (hback : Precedes second first) : first = second := by
  rcases h with rfl | h
  · rfl
  rcases hback with hsame | hback
  · exact hsame.symm
  exact absurd hback (List.lt_asymm h)

end Precedes

/-- What was found is the first of what occurs, in the order of the document. -/
structure IsFirst (found : Option DuplicateKey) (occurs : List Nat → DuplicateKey → Prop) :
    Prop where
  absent : found = none → ∀ address duplicate, ¬ occurs address duplicate
  least : ∀ duplicate, found = some duplicate → ∃ address, occurs address duplicate ∧
    ∀ other another, occurs other another → Precedes address other

/-- What occurs at a position. -/
def AtPosition (position : Nat) (occurs : List Nat → DuplicateKey → Prop) (address : List Nat)
    (duplicate : DuplicateKey) : Prop :=
  occurs address duplicate ∧ ∃ inner, address = position :: inner

/-- What occurs at a position or behind it. -/
def FromPosition (position : Nat) (occurs : List Nat → DuplicateKey → Prop) (address : List Nat)
    (duplicate : DuplicateKey) : Prop :=
  occurs address duplicate ∧ ∃ other inner, address = other :: inner ∧ position ≤ other

namespace IsFirst

variable {found here later : Option DuplicateKey} {occurs others : List Nat → DuplicateKey → Prop}

theorem congr (h : IsFirst found occurs)
    (hsame : ∀ address duplicate, others address duplicate ↔ occurs address duplicate) :
    IsFirst found others where
  absent hnone address duplicate hoccurs :=
    h.absent hnone address duplicate ((hsame _ _).mp hoccurs)
  least duplicate hsome := by
    obtain ⟨address, hoccurs, hleast⟩ := h.least duplicate hsome
    exact ⟨address, (hsame _ _).mpr hoccurs,
      fun other another hother ↦ hleast other another ((hsame _ _).mp hother)⟩

theorem none (h : ∀ address duplicate, ¬ occurs address duplicate) : IsFirst none occurs :=
  ⟨fun _ ↦ h, nofun⟩

/-- What occurs under a position is found there. -/
theorem under (h : IsFirst found occurs)
    (hunder : ∀ inner duplicate, others (position :: inner) duplicate ↔ occurs inner duplicate) :
    IsFirst found (AtPosition position others) where
  absent hnone := by
    rintro _ duplicate ⟨hoccurs, inner, rfl⟩
    exact h.absent hnone inner duplicate ((hunder _ _).mp hoccurs)
  least duplicate hsome := by
    obtain ⟨inner, hoccurs, hleast⟩ := h.least duplicate hsome
    refine ⟨position :: inner, ⟨(hunder _ _).mpr hoccurs, inner, rfl⟩, ?_⟩
    rintro _ another ⟨hother, deeper, rfl⟩
    exact (hleast deeper another ((hunder _ _).mp hother)).cons position

/-- A loop goes on behind a position if nothing is found there. -/
theorem step (hhere : IsFirst here (AtPosition position occurs))
    (hlater : IsFirst later (FromPosition (position + 1) occurs)) :
    IsFirst (here.orElse fun _ ↦ later) (FromPosition position occurs) where
  absent hnone := by
    rw [Option.orElse_eq_or, Option.or_eq_none_iff] at hnone
    rintro address duplicate ⟨hoccurs, other, inner, rfl, hle⟩
    rcases Nat.eq_or_lt_of_le hle with rfl | hlt
    · exact hhere.absent hnone.1 _ duplicate ⟨hoccurs, inner, rfl⟩
    · exact hlater.absent hnone.2 _ duplicate ⟨hoccurs, other, inner, rfl, hlt⟩
  least duplicate hsome := by
    rw [Option.orElse_eq_or, Option.or_eq_some_iff] at hsome
    rcases hsome with hfound | ⟨hnone, hfound⟩
    · obtain ⟨_, ⟨hoccurs, inner, rfl⟩, hleast⟩ := hhere.least duplicate hfound
      refine ⟨position :: inner, ⟨hoccurs, position, inner, rfl, Nat.le_refl _⟩, ?_⟩
      rintro _ another ⟨hother, place, deeper, rfl, hle⟩
      rcases Nat.eq_or_lt_of_le hle with rfl | hlt
      · exact hleast _ another ⟨hother, deeper, rfl⟩
      · exact .of_lt hlt
    · obtain ⟨_, ⟨hoccurs, place, inner, rfl, hlt⟩, hleast⟩ := hlater.least duplicate hfound
      refine ⟨place :: inner, ⟨hoccurs, place, inner, rfl, by omega⟩, ?_⟩
      rintro _ another ⟨hother, otherPlace, deeper, rfl, hle⟩
      rcases Nat.eq_or_lt_of_le hle with rfl | hlt
      · exact absurd ⟨hother, deeper, rfl⟩ (hhere.absent hnone _ another)
      · exact hleast _ another ⟨hother, otherPlace, deeper, rfl, hlt⟩

/-- What occurs at a position itself comes before all that is left. -/
theorem stop (h : occurs [position] duplicate) :
    IsFirst (some duplicate) (FromPosition position occurs) where
  absent hnone := by cases hnone
  least other hother := by
    cases hother
    refine ⟨[position], ⟨h, position, [], rfl, Nat.le_refl _⟩, ?_⟩
    rintro _ another ⟨-, place, inner, rfl, hle⟩
    rcases Nat.eq_or_lt_of_le hle with rfl | hlt
    · exact .singleton position inner
    · exact .of_lt hlt

theorem isSome_iff (h : IsFirst found occurs) :
    found.isSome ↔ ∃ address duplicate, occurs address duplicate := by
  cases hfound : found with
  | none =>
    refine iff_of_false (by simp) ?_
    rintro ⟨address, duplicate, hoccurs⟩
    exact h.absent hfound address duplicate hoccurs
  | some duplicate =>
    obtain ⟨address, hoccurs, -⟩ := h.least duplicate hfound
    exact iff_of_true rfl ⟨address, duplicate, hoccurs⟩

theorem eq_some_iff (h : IsFirst found occurs)
    (hunique : ∀ address duplicate other, occurs address duplicate → occurs address other →
      duplicate = other) :
    found = some duplicate ↔
      ∃ address, occurs address duplicate ∧ ∀ other another,
        occurs other another → Precedes address other := by
  refine ⟨h.least duplicate, ?_⟩
  rintro ⟨address, hoccurs, hleast⟩
  obtain ⟨other, hother⟩ :=
    Option.isSome_iff_exists.mp (h.isSome_iff.mpr ⟨address, duplicate, hoccurs⟩)
  obtain ⟨otherAddress, hotherOccurs, hotherLeast⟩ := h.least other hother
  obtain rfl := (hleast _ _ hotherOccurs).antisymm (hotherLeast _ _ hoccurs)
  rw [hother, hunique address duplicate other hoccurs hotherOccurs]

end IsFirst

/-! ### Items -/

theorem isFirst_duplicateInItems {index : Nat} {left : List Node} (hleft : items.drop index = left)
    (h : ∀ item ∈ left, ∀ path, IsFirst (duplicateKey? path item) (RepeatedAt path item)) :
    IsFirst (duplicateInItems path left index)
      (FromPosition index (RepeatedAt path (.sequence tag line items))) := by
  induction left generalizing index with
  | nil =>
    refine .none ?_
    rintro _ duplicate ⟨hrepeated, place, inner, rfl, hle⟩
    obtain ⟨position, item, deeper, hitem, haddress, -⟩ := repeatedAt_sequence_iff.mp hrepeated
    obtain ⟨rfl, -⟩ := List.cons.inj haddress
    have hlength := List.drop_eq_nil_iff.mp hleft
    have hlt := (List.getElem?_eq_some_iff.mp hitem).1
    omega
  | cons item rest ih =>
    obtain ⟨hitem, hrest⟩ := List.forall_mem_cons.mp h
    have hfound : items[index]? = some item := by
      rw [← List.head?_drop, hleft, List.head?_cons]
    have htail : items.drop (index + 1) = rest := by
      rw [← List.tail_drop, hleft, List.tail_cons]
    rw [duplicateInItems]
    refine .step ((hitem _).under fun inner duplicate ↦ ?_) (ih htail hrest)
    rw [repeatedAt_sequence_iff]
    constructor
    · rintro ⟨_, other, _, hother, haddress, hrepeated⟩
      obtain ⟨rfl, rfl⟩ := List.cons.inj haddress
      obtain rfl := Option.some.inj (hfound.symm.trans hother)
      exact hrepeated
    · exact fun hrepeated ↦ ⟨index, item, inner, hfound, rfl, hrepeated⟩

/-! ### Pairs -/

/-- The keys that were met in the pairs before, each with the line of the first. -/
structure Seen (before : List (Node × Node)) (seen : List (String × Nat)) : Prop where
  found : ∀ text line, seen.lookup text = some line → ∃ (earliest : Nat) (pair : Node × Node),
    before[earliest]? = some pair ∧ pair.1.text = text ∧ pair.1.line = line ∧
      ∀ earlier < earliest, ∀ other, before[earlier]? = some other → other.1.text ≠ text
  unseen : ∀ text, text ≠ "<<" → seen.lookup text = none → ∀ pair ∈ before, pair.1.text ≠ text

theorem Seen.nil : Seen [] [] := ⟨nofun, nofun⟩

theorem Seen.found_snoc {text : String} (h : Seen before seen)
    (hlookup : seen.lookup text = some line) (pair : Node × Node) :
    ∃ (earliest : Nat) (first : Node × Node), (before ++ [pair])[earliest]? = some first ∧
      first.1.text = text ∧ first.1.line = line ∧ ∀ earlier < earliest, ∀ other,
        (before ++ [pair])[earlier]? = some other → other.1.text ≠ text := by
  obtain ⟨earliest, first, hfirst, htext, hline, hleast⟩ := h.found text line hlookup
  have hlt := (List.getElem?_eq_some_iff.mp hfirst).1
  refine ⟨earliest, first, by rwa [List.getElem?_append_left hlt], htext, hline,
    fun earlier hearlier other hother ↦ ?_⟩
  rw [List.getElem?_append_left (by omega)] at hother
  exact hleast earlier hearlier other hother

/-- A key that is written `<<` is passed over. -/
theorem Seen.merge (h : Seen before seen) (hkey : key.text = "<<") :
    Seen (before ++ [(key, value)]) seen where
  found text line hlookup := h.found_snoc hlookup (key, value)
  unseen text htext hlookup pair hpair := by
    rcases List.mem_append.mp hpair with hpair | hpair
    · exact h.unseen text htext hlookup pair hpair
    · obtain rfl := List.mem_singleton.mp hpair
      exact fun hsame ↦ htext (hsame.symm.trans hkey)

/-- A key that is new is met for the first time. -/
theorem Seen.meet (h : Seen before seen) (hkey : key.text ≠ "<<")
    (hnew : seen.lookup key.text = none) :
    Seen (before ++ [(key, value)]) ((key.text, key.line) :: seen) where
  found text line hlookup := by
    rw [List.lookup_cons] at hlookup
    split at hlookup
    next hsame =>
      obtain rfl := eq_of_beq hsame
      cases hlookup
      refine ⟨before.length,
        (key, value), by simp, rfl, rfl, fun earlier hearlier other hother ↦ ?_⟩
      rw [List.getElem?_append_left hearlier] at hother
      exact h.unseen _ hkey hnew other (List.mem_of_getElem? hother)
    next => exact h.found_snoc hlookup (key, value)
  unseen text htext hlookup pair hpair := by
    rw [List.lookup_cons] at hlookup
    split at hlookup
    next => cases hlookup
    next hother =>
      rcases List.mem_append.mp hpair with hpair | hpair
      · exact h.unseen text htext hlookup pair hpair
      · obtain rfl := List.mem_singleton.mp hpair
        exact fun hsame ↦ ne_of_beq_false hother hsame.symm

/-- A key that was met is repeated here. -/
theorem Seen.repeats (h : Seen before seen) (hkey : key.text ≠ "<<")
    (hmet : seen.lookup key.text = some line) :
    ∃ first : Node, first.line = line ∧
      Repeats (before ++ (key, value) :: rest) before.length key first := by
  obtain ⟨earliest, first, hfirst, htext, hline, hleast⟩ := h.found _ _ hmet
  have hlt := (List.getElem?_eq_some_iff.mp hfirst).1
  refine ⟨first.1, hline, hkey, ⟨value, by simp⟩, earliest, hlt, ⟨first.2, ?_⟩, htext,
    fun earlier hearlier pair hpair ↦ ?_⟩
  · rwa [List.getElem?_append_left hlt]
  · rw [List.getElem?_append_left (by omega)] at hpair
    exact hleast earlier hearlier pair hpair

/-- A key that is new is not repeated here. -/
theorem Seen.not_repeats {other first : Node} (h : Seen before seen)
    (hkey : key.text ≠ "<<") (hnew : seen.lookup key.text = none) :
    ¬ Repeats (before ++ (key, value) :: rest) before.length other first := by
  rintro ⟨-, ⟨_, hhere⟩, earliest, hlt, ⟨_, hfirst⟩, hsame, -⟩
  obtain ⟨rfl, -⟩ : key = other ∧ _ :=
    Prod.mk.inj (Option.some.inj ((by simp : _ = some (key, value)).symm.trans hhere))
  rw [List.getElem?_append_left hlt] at hfirst
  exact h.unseen _ hkey hnew _ (List.mem_of_getElem? hfirst) hsame

/-- A loop over pairs, at the position behind those before. -/
theorem isFirst_duplicateAmong (hseen : Seen before seen) (hpairs : before ++ rest = pairs)
    (h : ∀ pair ∈ rest, ∀ path, IsFirst (duplicateKey? path pair.2) (RepeatedAt path pair.2)) :
    IsFirst (duplicateAmong path rest seen)
      (FromPosition before.length (RepeatedAt path (.mapping tag line pairs))) := by
  induction rest generalizing before seen with
  | nil =>
    refine .none ?_
    rintro _ duplicate ⟨hrepeated, place, inner, rfl, hle⟩
    rw [List.append_nil] at hpairs
    subst hpairs
    have hout : before[place]? = none := List.getElem?_eq_none hle
    rcases repeatedAt_mapping_iff.mp hrepeated with ⟨_, _, _, hrepeats, haddress, -⟩ |
      ⟨_, _, _, _, hpair, -, haddress, -⟩
    · obtain ⟨rfl, -⟩ := List.cons.inj haddress
      obtain ⟨_, hhere⟩ := hrepeats.here
      cases hout.symm.trans hhere
    · obtain ⟨rfl, -⟩ := List.cons.inj haddress
      cases hout.symm.trans hpair
  | cons pair rest ih =>
    obtain ⟨key, value⟩ := pair
    obtain ⟨hvalue, hrest⟩ := List.forall_mem_cons.mp h
    have hhere : pairs[before.length]? = some (key, value) := by simp [← hpairs]
    have hnext : (before ++ [(key, value)]) ++ rest = pairs := by
      rw [← hpairs, List.append_assoc, List.singleton_append]
    have hlater {seen : List (String × Nat)} (hseen : Seen (before ++ [(key, value)]) seen) :
        IsFirst (duplicateAmong path rest seen)
          (FromPosition (before.length + 1) (RepeatedAt path (.mapping tag line pairs))) := by
      simpa using ih hseen hnext hrest
    rw [duplicateAmong_cons]
    by_cases hkey : key.text = "<<"
    · -- nothing is repeated at this position or under it
      rw [if_pos (beq_iff_eq.mpr hkey)]
      refine IsFirst.step (.none ?_) (hlater (hseen.merge hkey))
      rintro _ duplicate ⟨hrepeated, inner, rfl⟩
      rcases (repeatedAt_cons_iff hhere).mp hrepeated with ⟨_, hrepeats, -⟩ | ⟨hordinary, -⟩
      · exact hrepeats.ordinary hkey
      · exact hordinary hkey
    · rw [if_neg (by simpa using hkey)]
      cases hlookup : seen.lookup key.text with
      | some firstLine =>
        obtain ⟨first, rfl, hrepeats⟩ := hseen.repeats hkey hlookup
        rw [hpairs] at hrepeats
        exact .stop ((repeatedAt_cons_iff hhere).mpr (.inl ⟨first, hrepeats, rfl, rfl⟩))
      | none =>
        refine .step ((hvalue _).under fun inner duplicate ↦ ?_) (hlater (hseen.meet hkey hlookup))
        have hsingle (first : Node) : ¬ Repeats pairs before.length key first := by
          rw [← hpairs]
          exact hseen.not_repeats hkey hlookup
        rw [repeatedAt_cons_iff hhere]
        constructor
        · rintro (⟨first, hrepeats, -⟩ | ⟨-, hinner⟩)
          · exact absurd hrepeats (hsingle first)
          · exact hinner
        · exact fun hinner ↦ .inr ⟨hkey, hinner⟩

/-! ### Trees -/

/-- The scan finds the first repetition of a tree. By induction on the size of the tree; the loops
are over the values of pairs and over items, which are smaller. -/
theorem isFirst_duplicateKey? (path : String) (root : Node) :
    IsFirst (duplicateKey? path root) (RepeatedAt path root) := by
  cases root with
  | scalar tag line value =>
    refine .none fun address duplicate hrepeated ↦ ?_
    obtain ⟨hinside, -⟩ := hrepeated
    cases hinside
  | reference line name target =>
    refine .none fun address duplicate hrepeated ↦ ?_
    obtain ⟨hinside, -⟩ := hrepeated
    cases hinside
  | sequence tag line items =>
    have hitems : ∀ item ∈ items, ∀ path,
        IsFirst (duplicateKey? path item) (RepeatedAt path item) :=
      fun item _hitem path ↦ isFirst_duplicateKey? path item
    rw [duplicateKey?]
    refine (isFirst_duplicateInItems List.drop_zero hitems).congr fun address duplicate ↦
      ⟨fun hrepeated ↦ ?_, And.left⟩
    obtain ⟨position, _, inner, -, haddress, -⟩ := repeatedAt_sequence_iff.mp hrepeated
    exact ⟨hrepeated, position, inner, haddress, Nat.zero_le _⟩
  | mapping tag line pairs =>
    have hvalues : ∀ pair ∈ pairs, ∀ path,
        IsFirst (duplicateKey? path pair.2) (RepeatedAt path pair.2) :=
      fun pair _hpair path ↦ isFirst_duplicateKey? path pair.2
    rw [duplicateKey?]
    refine (isFirst_duplicateAmong .nil rfl hvalues).congr fun address duplicate ↦
      ⟨fun hrepeated ↦ ?_, And.left⟩
    rcases repeatedAt_mapping_iff.mp hrepeated with ⟨position, _, _, -, haddress, -⟩ |
      ⟨position, _, _, inner, -, -, haddress, -⟩
    · exact ⟨hrepeated, position, [], haddress, Nat.zero_le _⟩
    · exact ⟨hrepeated, position, inner, haddress, Nat.zero_le _⟩
termination_by sizeOf root
decreasing_by
  · have hlt := List.sizeOf_lt_of_mem _hitem
    simp only [Node.sequence.sizeOf_spec]
    omega
  · exact Nat.lt_trans (sizeOf_value_lt _hpair) sizeOf_pairs_lt

theorem parseRoot_eq_duplicateKey_iff {text : String} :
    parseRoot text = .error (.duplicateKey duplicate) ↔
      ∃ root, Yaml.parse text = .ok (some root) ∧ duplicateKey? "" root = some duplicate := by
  unfold parseRoot
  cases Yaml.parse text with
  | error fault => simp
  | ok parsed =>
    cases parsed with
    | none => simp
    | some root =>
      cases hscan : duplicateKey? "" root with
      | some other => simp [hscan]
      | none =>
        simp only [Except.ok.injEq, Option.some.injEq, exists_eq_left', hscan,
          reduceCtorEq, iff_false]
        split_ifs <;> simp

/-- For every tree: the scan reports a key exactly if some mapping inside has one twice, where no
step leads under `<<`. It reports a repetition exactly if it is the first in the order of the
document, with the lines of the key and of the first key of that text and with the path to the
mapping. A text is refused for a repetition exactly if that is the first one of its tree. -/
theorem duplicateKey?_exact :
    (∀ (path : String) (root : Node),
      ((duplicateKey? path root).isSome ↔
        ∃ address steps inner, Inside root address steps inner ∧ HasRepeatedKey inner.pairs) ∧
      ∀ duplicate, duplicateKey? path root = some duplicate ↔
      ∃ address, RepeatedAt path root address duplicate ∧
        ∀ other another, RepeatedAt path root other another → Precedes address other) ∧
    ∀ (text : String) (duplicate : DuplicateKey),
      parseRoot text = .error (.duplicateKey duplicate) ↔
      ∃ root, Yaml.parse text = .ok (some root) ∧ ∃ address, RepeatedAt "" root address duplicate ∧
        ∀ other another, RepeatedAt "" root other another → Precedes address other := by
  have hreports (path : String) (root : Node) (duplicate : DuplicateKey) :
      duplicateKey? path root = some duplicate ↔ ∃ address, RepeatedAt path root address duplicate ∧
        ∀ other another, RepeatedAt path root other another → Precedes address other :=
    (isFirst_duplicateKey? path root).eq_some_iff fun _ _ _ ↦ RepeatedAt.unique
  refine ⟨fun path root ↦ ⟨?_, hreports path root⟩, fun text duplicate ↦ ?_⟩
  · rw [(isFirst_duplicateKey? path root).isSome_iff, exists_repeatedAt_iff]
  · simp only [← hreports]
    exact parseRoot_eq_duplicateKey_iff

/-- A key of the tree is repeated, but one inside the first value comes before it. -/
example : duplicateKey? "" (.mapping "!!map" 1
    [(.scalar "!!str" 1 "types", .sequence "!!seq" 2 [.scalar "!!int" 2 "1", .mapping "!!map" 3
        [(.scalar "!!str" 3 "name", .scalar "!!int" 3 "1"),
          (.scalar "!!str" 4 "name", .scalar "!!int" 4 "2")]]),
      (.scalar "!!str" 5 "types", .scalar "!!int" 5 "3")]) =
    some { path := "types[1]", key := "name", line := 4, firstLine := 3 } := by
  decide

end FlowSpec.Document
