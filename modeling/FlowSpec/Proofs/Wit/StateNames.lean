import FlowSpec.Proofs.Wit.Closure

/-!
The identifiers of keyed states. The definitions of a state are made from its normal name, which is
normalized again there, while a reference to the state is made from the name as it is written. In
ASCII the second pass changes nothing, since names become normal in the first
(`isNormal_normalName`). The words that are put behind the name of a state are read apart from it,
because a hyphen comes first, so what becomes of the whole depends on the normal name only
(`normalName_append_hyphen`). Hence a state is defined as if its name had not been touched, and
every reference finds the definition.
-/

set_option autoImplicit false

namespace FlowSpec.Wit

/-! ### Words behind a hyphen -/

/-- A hyphen ends a word like the end of the text. -/
theorem isBoundary_head?_append_hyphen (before : Char) (cs rest : List Char) :
    isBoundary before (cs ++ '-' :: rest).head? = isBoundary before cs.head? := by
  cases cs with
  | nil => rfl
  | cons c more => rfl

theorem splitWords_append_hyphen (cs rest word : List Char) :
    splitWords (cs ++ '-' :: rest) word = splitWords cs word ++ splitWords rest [] := by
  induction cs generalizing word with
  | nil => rfl
  | cons c more ih =>
    have hnext := isBoundary_head?_append_hyphen
    rw [List.cons_append, splitWords.eq_def, splitWords.eq_def (c :: more)]
    by_cases hseparator : isSeparator c
    · simp only [hseparator, if_true, ih, List.append_assoc]
    · cases word with
      | nil => simp only [hseparator, Bool.false_eq_true, if_false, ih]
      | cons before earlier =>
        by_cases hboundary : Text.isUpper c && isBoundary before more.head?
        · simp only [hseparator, Bool.false_eq_true, if_false, hnext, hboundary, if_true, ih,
            List.cons_append]
        · simp only [hseparator, Bool.false_eq_true, if_false, hnext, hboundary, ih]

theorem loweredWords_append_hyphen (name suffix : String) :
    loweredWords (name ++ ("-" ++ suffix)) = loweredWords name ++ loweredWords suffix := by
  have htext : (name ++ ("-" ++ suffix)).toList = name.toList ++ '-' :: suffix.toList := by
    rw [String.toList_append, String.toList_append]
    rfl
  rw [loweredWords, htext, splitWords_append_hyphen, List.map_append]
  rfl

/-- Words that follow others are joined to them as to an empty word. -/
theorem joinWords_append_words {words : List (List Char)} (h : words ≠ [])
    (others : List (List Char)) :
    joinWords (words ++ others) = joinWords words ++ joinWords ([] :: others) := by
  obtain ⟨word, rest, rfl⟩ := List.exists_cons_of_ne_nil h
  simp only [List.cons_append, joinWords, List.flatMap_append, List.append_assoc, List.nil_append]

theorem joinWords_eq_nil_iff {words : List (List Char)} (h : ∀ word ∈ words, word ≠ []) :
    joinWords words = [] ↔ words = [] := by
  cases words with
  | nil => simp [joinWords]
  | cons word rest => simp [joinWords, h word List.mem_cons_self]

/-- What a name becomes with more words behind a hyphen depends on its normal name only. -/
theorem normalName_append_hyphen {first second : String} (h : normalName first = normalName second)
    (suffix : String) :
    normalName (first ++ ("-" ++ suffix)) = normalName (second ++ ("-" ++ suffix)) := by
  have hjoin : joinWords (loweredWords first) = joinWords (loweredWords second) :=
    String.ofList_injective h
  have hempty : loweredWords first = [] ↔ loweredWords second = [] := by
    rw [← joinWords_eq_nil_iff fun _ ↦ ne_nil_of_mem_loweredWords, hjoin,
      joinWords_eq_nil_iff fun _ ↦ ne_nil_of_mem_loweredWords]
  rw [normalName_eq, normalName_eq, loweredWords_append_hyphen, loweredWords_append_hyphen]
  by_cases hnil : loweredWords first = []
  · rw [hnil, hempty.mp hnil]
  · rw [joinWords_append_words hnil, joinWords_append_words (mt hempty.mpr hnil), hjoin]

/-! ### Definitions of a state -/

/-- The definitions of a state depend on its normal name only. -/
theorem keyedStateDefs_congr {first second : String} (h : normalName first = normalName second)
    (state : KeyedState) : keyedStateDefs first state = keyedStateDefs second state := by
  have hitem : identifier (first ++ "-item") = identifier (second ++ "-item") :=
    identifier_congr (normalName_append_hyphen h "item")
  have hvalue : identifier (first ++ "-item-value") = identifier (second ++ "-item-value") :=
    identifier_congr (normalName_append_hyphen h "item-value")
  rw [keyedStateDefs, hitem, hvalue, identifier_congr h, keyedStateDefs]

theorem typeDefs_keyedState (name : String) (state : KeyedState) (origin : Origin) :
    typeDefs ⟨name, .keyedState state, origin⟩ = keyedStateDefs (normalName name) state := rfl

theorem exists_keyedStateDefs_eq (base : String) (state : KeyedState) :
    ∃ value body item, keyedStateDefs base state = [value, ⟨identifier base, body⟩, item] :=
  ⟨_, _, _, rfl⟩

/-! ### References to a state -/

/-- The identifiers that references make of a name: where it is mentioned as a type, unless that is
built in, and in use clauses. -/
inductive RefersBy (reference id : String) : Prop
  | mention (h : typeRef reference = .name id)
  | use (h : id ∈ (typesUse [reference]).flatMap Use.items)

theorem RefersBy.eq_identifier {reference id : String} (h : RefersBy reference id) :
    id = identifier reference := by
  cases h with
  | mention h =>
    unfold typeRef at h
    split_ifs at h
    split at h
    · exact (TypeExpr.name.inj h).symm
    · exact (TypeExpr.name.inj h).symm
    · cases h
  | use h =>
    obtain ⟨name, hname, -, -, rfl⟩ := mem_items_typesUse.mp h
    rw [List.mem_singleton.mp hname]

/-- In ASCII, names are normal after one pass and a second pass changes neither them nor their
identifiers; the names that a pass leaves alone are the normal ones. So the definitions of a keyed
state, which are made from its normal name, are those of its name as it is written, and the state is
defined under the identifier of every reference that finds it. -/
theorem renormalization_exact {name : String} (hascii : ∀ c ∈ name.toList, c.toNat < 128) :
    normalName (normalName name) = normalName name ∧
      identifier (normalName name) = identifier name ∧ (normalName name = name ↔ IsNormal name) ∧
      ∀ state : KeyedState, keyedStateDefs (normalName name) state = keyedStateDefs name state ∧
        ∀ (scope : Scope) (reference : String) (origin : Origin),
          scope.lookup? reference = some ⟨name, .keyedState state, origin⟩ → ∀ id,
            RefersBy reference id →
            ∃ value body item,
              typeDefs ⟨name, .keyedState state, origin⟩ = [value, ⟨id, body⟩, item] := by
  have hsettled : ∀ c ∈ name.toList, isSeparator c = false → IsSettled (Text.lowerChar c) :=
    fun c hc ↦ isSettled_of_ascii (hascii c hc)
  have hnormal : normalName (normalName name) = normalName name := normalName_normalName hsettled
  have hidentifier : identifier (normalName name) = identifier name := identifier_congr hnormal
  have hdefs (state : KeyedState) : keyedStateDefs (normalName name) state =
      keyedStateDefs name state :=
    keyedStateDefs_congr hnormal state
  refine ⟨hnormal, hidentifier, normalName_eq_self_iff hsettled, fun state ↦ ?_⟩
  refine ⟨hdefs state, fun scope reference origin hfound id hid ↦ ?_⟩
  have hspelled := identifier_of_lookup? hfound
  have hreference : id = identifier name := hid.eq_identifier.trans hspelled
  rw [typeDefs_keyedState, hdefs, hreference]
  exact exists_keyedStateDefs_eq name state

/-- A state whose name has a separator before a digit and an upper case letter behind it. -/
def lineTotals : NamedType :=
  { name := "Line_0Totals", shape := .keyedState { key := "string", value := .u32 } }

/-- The digit is glued to the word before it in the first pass, and the second leaves it there. The
state is found under the spelling with a hyphen, and is defined under the identifier of that. -/
theorem renormalization_exact_lineTotals :
    normalName "Line_0Totals" = "line0-totals" ∧ normalName "line0-totals" = "line0-totals" ∧
      identifier "line0-totals" = identifier "Line_0Totals" ∧
      Scope.lookup? ⟨[lineTotals]⟩ "Line-0Totals" = some lineTotals ∧
      RefersBy "Line-0Totals" "line0-totals" ∧
      ∃ value body item, typeDefs lineTotals = [value, ⟨"line0-totals", body⟩, item] := by
  have hascii : ∀ c ∈ "Line_0Totals".toList, c.toNat < 128 := by simp
  have hpass : normalName "Line_0Totals" = "line0-totals" := by decide
  have hfound : Scope.lookup? ⟨[lineTotals]⟩ "Line-0Totals" = some lineTotals := by decide
  have hrefers : RefersBy "Line-0Totals" "line0-totals" := .mention (by decide)
  obtain ⟨hnormal, hidentifier, -, hstates⟩ := renormalization_exact hascii
  rw [hpass] at hnormal hidentifier
  exact ⟨hpass, hnormal, hidentifier, hfound, hrefers, (hstates _).2 _ _ _ hfound _ hrefers⟩

end FlowSpec.Wit
