import FlowSpec.Header
import FlowSpec.Proofs.Text.Splitting

/-!
The two written forms of a header. A text is read as a header exactly if it is the header's written
form and no separator begins inside a part; so reading undoes writing for valid headers, and
whatever is read is written back as it was. In the form with double underscores the separators could
run into underscores beside them, which is why a valid part has none at its ends.
-/

set_option autoImplicit false

namespace FlowSpec.Header

open Text

variable {text part : String} {header : Header}

/-! ### Valid headers -/

/-- Holds no separator and has no underscore at its ends. -/
structure Separable (part : String) : Prop where
  slash : '/' ∉ part.toList
  atSign : '@' ∉ part.toList
  underscores : ¬ ['_', '_'] <:+: part.toList
  first : part.toList.head? ≠ some '_'
  last : part.toList.getLast? ≠ some '_'

theorem separatorClash_eq_none_iff : separatorClash part = none ↔ Separable part := by
  unfold separatorClash
  cases hfind : ["/", "@", "__"].find? fun sep ↦ contains sep.toList part.toList with
  | some sep =>
    have hsep := List.mem_of_find?_eq_some hfind
    have hinside : sep.toList <:+: part.toList :=
      contains_iff.mp (by simpa using List.find?_some hfind)
    refine iff_of_false (by simp) fun h ↦ ?_
    simp only [List.mem_cons, List.not_mem_nil, or_false] at hsep
    rcases hsep with rfl | rfl | rfl
    · exact h.slash ((List.singleton_infix_iff _ _).mp hinside)
    · exact h.atSign ((List.singleton_infix_iff _ _).mp hinside)
    · exact h.underscores hinside
  | none =>
    simp only [List.find?_eq_none, contains_iff, List.forall_mem_cons] at hfind
    obtain ⟨hslash, hat, hunder, -⟩ := hfind
    dsimp only
    rw [ite_eq_right_iff]
    constructor
    · intro h
      have hends : ¬ (part.toList.head? = some '_' ∨ part.toList.getLast? = some '_') := by
        simpa using h
      rw [not_or] at hends
      exact ⟨mt (List.singleton_infix_iff _ _).mpr hslash,
        mt (List.singleton_infix_iff _ _).mpr hat, hunder, hends.1, hends.2⟩
    · intro h hends
      simp [h.first, h.last] at hends

theorem clashProblems_eq_nil_iff {label : String} :
    clashProblems label part = [] ↔ Separable part := by
  rw [← separatorClash_eq_none_iff, clashProblems]
  cases separatorClash part <;> simp

theorem versionProblems_eq_nil_iff {version : String} :
    versionProblems version = [] ↔ version ≠ "" ∧ ∃ parsed, Version.parse version = .ok parsed := by
  unfold versionProblems
  split_ifs with hempty
  · simp_all
  · cases hparse : Version.parse version <;> simp_all

/-- What the validity of a header says of its parts. -/
theorem problems_eq_nil_iff : header.problems = [] ↔
    (header.name ≠ "" ∧ header.owner ≠ "") ∧ (Separable header.name ∧ Separable header.owner) ∧
      Separable header.version ∧ header.version ≠ "" ∧
        ∃ parsed, Version.parse header.version = .ok parsed := by
  simp only [problems, List.append_eq_nil_iff, clashProblems_eq_nil_iff, versionProblems_eq_nil_iff]
  simp [and_assoc]

/-! ### Reading -/

theorem parse_eq_ok_iff : parse text = .ok header ↔ text = header.text ∧
    ('/' ∉ header.owner.toList ∧ '/' ∉ header.name.toList ∧ '/' ∉ header.version.toList) ∧
      '@' ∉ header.name.toList ∧ '@' ∉ header.version.toList := by
  have hparse : parse text = .ok header ↔ ∃ rest, split "/" text = [header.owner, rest] ∧
      split "@" rest = [header.name, header.version] := by
    obtain ⟨owner, name, version⟩ := header
    unfold parse
    split
    next first rest houter =>
      split
      next second third hinner => simp [houter, hinner]
      next hother => simpa [houter] using fun _ h ↦ hother _ _ h
    next hother => simpa using fun rest h ↦ absurd h (hother _ _)
  have hslash : "/".toList = ['/'] := rfl
  have hat : "@".toList = ['@'] := rfl
  simp only [hparse, split_eq_pair_iff (show "/".toList ≠ [] by decide),
    split_eq_pair_iff (show "@".toList ≠ [] by decide), hslash, hat, endsPart_singleton_iff,
    List.singleton_infix_iff]
  constructor
  · rintro ⟨rest, ⟨rfl, howner, hrest⟩, rfl, hname, hversion⟩
    simp only [String.toList_append, List.mem_append, not_or] at hrest
    exact ⟨by simp only [Header.text, String.append_assoc], ⟨howner, hrest.1.1, hrest.2⟩, hname,
      hversion⟩
  · rintro ⟨rfl, ⟨howner, hname, hversion⟩, hname', hversion'⟩
    refine ⟨header.name ++ "@" ++ header.version, ⟨?_, howner, ?_⟩, rfl, hname', hversion'⟩
    · simp only [Header.text, String.append_assoc]
    · simp [hname, hversion]

theorem parseCanonical_eq_ok_iff : parseCanonical text = .ok header ↔ text = header.canonical ∧
    EndsPart ['_', '_'] header.owner.toList ∧ EndsPart ['_', '_'] header.name.toList ∧
      ¬ ['_', '_'] <:+: header.version.toList := by
  have hparse : parseCanonical text = .ok header ↔
      split "__" text = [header.owner, header.name, header.version] := by
    obtain ⟨owner, name, version⟩ := header
    unfold parseCanonical
    split
    next first second third hparts => simp [hparts]
    next hother => simpa using hother owner name version
  rw [hparse, split_eq_triple_iff (by decide)]
  rfl

/-- A header whose parts are separable reads back from both of its written forms. -/
theorem parse_of_separable (howner : Separable header.owner) (hname : Separable header.name)
    (hversion : Separable header.version) :
    parse header.text = .ok header ∧ parseCanonical header.canonical = .ok header := by
  constructor
  · exact parse_eq_ok_iff.mpr
      ⟨rfl, ⟨howner.slash, hname.slash, hversion.slash⟩, hname.atSign, hversion.atSign⟩
  · exact parseCanonical_eq_ok_iff.mpr ⟨rfl, endsPart_pair howner.underscores howner.last,
      endsPart_pair hname.underscores hname.last, hversion.underscores⟩

/-- Both written forms of a valid header read back, and a text that reads as a header is its written
form. -/
theorem written_forms_round_trip :
    (∀ header : Header, header.problems = [] →
      parse header.text = .ok header ∧ parseCanonical header.canonical = .ok header) ∧
    (∀ (text : String) (header : Header), parse text = .ok header → header.text = text) ∧
    ∀ (text : String) (header : Header), parseCanonical text = .ok header →
      header.canonical = text := by
  refine ⟨fun header h ↦ ?_, fun text header h ↦ ?_, fun text header h ↦ ?_⟩
  · obtain ⟨-, ⟨hname, howner⟩, hversion, -⟩ := problems_eq_nil_iff.mp h
    exact parse_of_separable howner hname hversion
  · exact (parse_eq_ok_iff.mp h).1.symm
  · exact (parseCanonical_eq_ok_iff.mp h).1.symm

/-- Parts with underscores inside, and a text that is not a valid header's: the second of three
underscores in a row belongs to the separator. -/
theorem written_forms_round_trip_underscores :
    parse "my_shop/order_book@1.0.0-rc.1" = .ok ⟨"my_shop", "order_book", "1.0.0-rc.1"⟩ ∧
      parseCanonical "my_shop__order_book__1.0.0-rc.1" =
        .ok ⟨"my_shop", "order_book", "1.0.0-rc.1"⟩ ∧
      Header.canonical ⟨"shop", "_book", "1"⟩ = "shop___book__1" ∧
      Header.text ⟨"a@b", "c", ""⟩ = "a@b/c@" := by
  have hvalid : (⟨"my_shop", "order_book", "1.0.0-rc.1"⟩ : Header).problems = [] := by decide
  obtain ⟨hforms, htext, hcanonical⟩ := written_forms_round_trip
  have hread : parse "a@b/c@" = .ok ⟨"a@b", "c", ""⟩ := by decide
  have hreadCanonical : parseCanonical "shop___book__1" = .ok ⟨"shop", "_book", "1"⟩ := by decide
  exact ⟨(hforms _ hvalid).1, (hforms _ hvalid).2, hcanonical _ _ hreadCanonical, htext _ _ hread⟩

end FlowSpec.Header
