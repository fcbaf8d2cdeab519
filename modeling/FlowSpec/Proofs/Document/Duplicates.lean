import FlowSpec.Document.Parse
import FlowSpec.Proofs.Outcome
import Mathlib.Data.List.Nodup

/-!
Keys that a section has twice. The scan of a tree passes over keys that are written `<<`; every
other key stands once in its mapping (`Scanned`). A section is read key by key, and `<<` is a key
like any other there: of several pairs under it the last one's entry is left (`Kept`). So no entry
is lost exactly if the section has at most one (`kept_of_parseRoot`).
-/

set_option autoImplicit false

namespace FlowSpec

open Yaml (Node Reader putEntry)
open Outcome

namespace Yaml

variable {α : Type} {entries : List (String × α)} {entry : String × α} {name : String} {value : α}

theorem putEntry_of_notMem (h : name ∉ entries.map Prod.fst) :
    putEntry entries name value = entries ++ [(name, value)] := by
  have hany : entries.any (·.1 == name) = false := by
    simpa [List.any_eq_false] using fun key value hentry hname ↦
      h (List.mem_map.mpr ⟨_, hentry, hname⟩)
  simp [putEntry, hany]

theorem keys_putEntry_of_mem (h : name ∈ entries.map Prod.fst) :
    (putEntry entries name value).map Prod.fst = entries.map Prod.fst := by
  have hany : entries.any (·.1 == name) = true := by simpa using h
  rw [putEntry, if_pos hany, List.map_map]
  refine List.map_congr_left fun entry _ ↦ ?_
  by_cases hname : entry.1 = name <;> simp [hname]

theorem mem_keys_putEntry {other : String} :
    other ∈ (putEntry entries name value).map Prod.fst ↔ other ∈ entries.map Prod.fst ∨
      other = name := by
  by_cases h : name ∈ entries.map Prod.fst
  · rw [keys_putEntry_of_mem h, or_iff_left_of_imp]
    rintro rfl
    exact h
  · simp [putEntry_of_notMem h]

theorem mem_putEntry_self : (name, value) ∈ putEntry entries name value := by
  by_cases h : name ∈ entries.map Prod.fst
  · have hany : entries.any (·.1 == name) = true := by simpa using h
    obtain ⟨entry, hentry, hname⟩ := List.mem_map.mp h
    rw [putEntry, if_pos hany]
    exact List.mem_map.mpr ⟨entry, hentry, by simp [hname]⟩
  · simp [putEntry_of_notMem h]

theorem mem_putEntry_of_ne (hentry : entry ∈ entries) (hname : entry.1 ≠ name) :
    entry ∈ putEntry entries name value := by
  rw [putEntry]
  split_ifs
  · exact List.mem_map.mpr ⟨entry, hentry, by simp [hname]⟩
  · exact List.mem_append_left _ hentry

end Yaml

namespace Document

/-! ### The scan -/

/-- The key is written `<<`, quoted or not. -/
def isMergePair (pair : Node × Node) : Bool := pair.1.text == "<<"

/-- How many keys are written `<<`. -/
def merges (pairs : List (Node × Node)) : Nat := pairs.countP isMergePair

/-- The keys that the scan compares. -/
def ordinaryKeys (pairs : List (Node × Node)) : List String :=
  (pairs.filter fun pair ↦ !isMergePair pair).map fun pair ↦ pair.1.text

variable {pairs : List (Node × Node)} {pair : Node × Node} {path : String}

theorem ordinaryKeys_append (first second : List (Node × Node)) :
    ordinaryKeys (first ++ second) = ordinaryKeys first ++ ordinaryKeys second := by
  simp [ordinaryKeys]

theorem ordinaryKeys_singleton_of_merge (h : pair.1.text = "<<") : ordinaryKeys [pair] = [] := by
  simp [ordinaryKeys, isMergePair, h]

theorem ordinaryKeys_singleton (h : pair.1.text ≠ "<<") : ordinaryKeys [pair] = [pair.1.text] := by
  simp [ordinaryKeys, isMergePair, h]

theorem mem_ordinaryKeys_of_mem (hpair : pair ∈ pairs) (hkey : pair.1.text ≠ "<<") :
    pair.1.text ∈ ordinaryKeys pairs :=
  List.mem_map.mpr ⟨pair, List.mem_filter.mpr ⟨hpair, by simpa [isMergePair] using hkey⟩, rfl⟩

/-- What the scan of a mapping establishes about its keys and about the values under them. -/
structure Scanned (path : String) (pairs : List (Node × Node)) : Prop where
  nodup : (ordinaryKeys pairs).Nodup
  values : ∀ pair ∈ pairs,
    pair.1.text ≠ "<<" → duplicateKey? (joinPath path pair.1.text) pair.2 = none

theorem duplicateAmong_cons (key value : Node) (rest : List (Node × Node))
    (seen : List (String × Nat)) :
    duplicateAmong path ((key, value) :: rest) seen =
      if key.text == "<<" then duplicateAmong path rest seen
      else match seen.lookup key.text with
        | some firstLine => some { path, key := key.text, line := key.line, firstLine }
        | none => (duplicateKey? (joinPath path key.text) value).orElse fun _ ↦
            duplicateAmong path rest ((key.text, key.line) :: seen) := rfl

theorem scanned_of_duplicateAmong {seen : List (String × Nat)}
    (h : duplicateAmong path pairs seen = none) :
    Scanned path pairs ∧ ∀ key ∈ ordinaryKeys pairs, seen.lookup key = none := by
  induction pairs generalizing seen with
  | nil => exact ⟨⟨List.nodup_nil, by simp⟩, by simp [ordinaryKeys]⟩
  | cons pair rest ih =>
    obtain ⟨key, value⟩ := pair
    have hkeys : ordinaryKeys ((key, value) :: rest) =
        ordinaryKeys [(key, value)] ++ ordinaryKeys rest :=
      ordinaryKeys_append [(key, value)] rest
    rw [duplicateAmong_cons] at h
    by_cases hmerge : key.text = "<<"
    · rw [ordinaryKeys_singleton_of_merge hmerge, List.nil_append] at hkeys
      simp only [hmerge, beq_self_eq_true, if_true] at h
      obtain ⟨hrest, hseen⟩ := ih h
      exact ⟨⟨hkeys ▸ hrest.nodup, List.forall_mem_cons.mpr ⟨absurd hmerge, hrest.values⟩⟩,
        hkeys ▸ hseen⟩
    · rw [ordinaryKeys_singleton hmerge, List.singleton_append] at hkeys
      simp only [beq_iff_eq, hmerge, if_false] at h
      cases hlookup : seen.lookup key.text with
      | some line => simp [hlookup] at h
      | none =>
        simp only [hlookup, Option.orElse_eq_or, Option.or_eq_none_iff] at h
        obtain ⟨hvalue, hnext⟩ := h
        obtain ⟨hrest, hseen⟩ := ih hnext
        -- the keys behind this one were compared with it too
        have hbehind : ∀ name ∈ ordinaryKeys rest, name ≠ key.text ∧ seen.lookup name = none := by
          intro name hname
          have hfresh := hseen name hname
          rw [List.lookup_cons] at hfresh
          split at hfresh
          · cases hfresh
          next hother => exact ⟨ne_of_beq_false hother, hfresh⟩
        have hnodup : (key.text :: ordinaryKeys rest).Nodup :=
          List.nodup_cons.mpr ⟨fun hmem ↦ (hbehind _ hmem).1 rfl, hrest.nodup⟩
        exact ⟨⟨hkeys ▸ hnodup, List.forall_mem_cons.mpr ⟨fun _ ↦ hvalue, hrest.values⟩⟩,
          hkeys ▸ List.forall_mem_cons.mpr ⟨hlookup, fun name hname ↦ (hbehind name hname).2⟩⟩

theorem scanned_of_duplicateKey? {node : Node} (h : duplicateKey? path node = none) :
    Scanned path node.pairs := by
  cases node with
  | mapping tag line pairs =>
    have hpairs : duplicateAmong path pairs [] = none := h
    exact (scanned_of_duplicateAmong hpairs).1
  | _ => exact ⟨List.nodup_nil, by simp [Node.pairs]⟩

theorem scanned_of_parseRoot {text : String} {root : Node} (h : parseRoot text = .ok root) :
    Scanned "" root.pairs := by
  refine scanned_of_duplicateKey? ?_
  unfold parseRoot at h
  split at h
  · cases h
  · cases h
  · split at h
    · cases h
    next hscan =>
      split_ifs at h
      rwa [← Except.ok.inj h]

/-! ### Reading a section -/

section Reading

variable {α : Type} {reader : Reader Malformed α} {entries : List (String × α)}

/-- What is left of the pairs of a section: an entry under each name, which is the last one's. -/
structure Kept (reader : Reader Malformed α) (path : String) (pairs : List (Node × Node))
    (entries : List (String × α)) : Prop where
  names : ∀ name, name ∈ entries.map Prod.fst ↔ ∃ pair ∈ pairs, pair.1.text = name
  length : pairs.length = entries.length + (merges pairs - 1)
  last : ∀ before pair after, pairs = before ++ pair :: after →
    (∀ other ∈ after, other.1.text ≠ pair.1.text) →
    ∃ value, readSection reader (joinPath path pair.1.text) pair.2 = .ok value ∧
    (pair.1.text, value) ∈ entries

theorem Kept.nil : Kept reader path [] [] := ⟨by simp, rfl, by simp⟩

theorem merges_append (first second : List (Node × Node)) :
    merges (first ++ second) = merges first + merges second :=
  List.countP_append

theorem merges_pos_iff : 0 < merges pairs ↔ ∃ pair ∈ pairs, pair.1.text = "<<" := by
  simp [merges, isMergePair, List.countP_pos_iff]

theorem ne_of_nodup_ordinaryKeys (hnodup : (ordinaryKeys (pairs ++ [pair])).Nodup)
    {other : Node × Node} (hother : other ∈ pairs) (hkey : pair.1.text ≠ "<<") :
    other.1.text ≠ pair.1.text := by
  intro hsame
  rw [ordinaryKeys_append, ordinaryKeys_singleton hkey] at hnodup
  refine (List.nodup_append.mp hnodup).2.2 _ (mem_ordinaryKeys_of_mem hother ?_) _
    (List.mem_singleton_self _) hsame
  rwa [hsame]

/-- One more pair is read. -/
theorem Kept.snoc (h : Kept reader path pairs entries)
    (hnodup : (ordinaryKeys (pairs ++ [pair])).Nodup) {value : α}
    (hvalue : readSection reader (joinPath path pair.1.text) pair.2 = .ok value) :
    Kept reader path (pairs ++ [pair]) (putEntry entries pair.1.text value) where
  names name := by
    rw [Yaml.mem_keys_putEntry, h.names]
    simp [or_and_right, exists_or, eq_comm]
  length := by
    rw [merges_append, List.length_append, List.length_singleton, h.length]
    by_cases hmem : pair.1.text ∈ entries.map Prod.fst
    · -- a name that is there already is written `<<`
      have hmerge : pair.1.text = "<<" := by
        by_contra hkey
        obtain ⟨other, hother, hsame⟩ := (h.names _).mp hmem
        exact ne_of_nodup_ordinaryKeys hnodup hother hkey hsame
      have hlength : (putEntry entries pair.1.text value).length = entries.length := by
        simpa using congrArg List.length (Yaml.keys_putEntry_of_mem hmem)
      have hpos : 0 < merges pairs := merges_pos_iff.mpr (hmerge ▸ (h.names _).mp hmem)
      have hone : merges [pair] = 1 := by simp [merges, isMergePair, hmerge]
      omega
    · rw [Yaml.putEntry_of_notMem hmem, List.length_append, List.length_singleton]
      by_cases hmerge : pair.1.text = "<<"
      · have hzero : ¬ 0 < merges pairs :=
          fun hpos ↦ hmem (hmerge ▸ (h.names _).mpr (merges_pos_iff.mp hpos))
        have hone : merges [pair] = 1 := by simp [merges, isMergePair, hmerge]
        omega
      · have hzero : merges [pair] = 0 := by simp [merges, isMergePair, hmerge]
        omega
  last before other after hpairs hafter := by
    obtain rfl | ⟨after, final, rfl⟩ := List.eq_nil_or_concat after
    · obtain ⟨-, rfl⟩ := List.append_singleton_inj.mp hpairs
      exact ⟨value, hvalue, Yaml.mem_putEntry_self⟩
    · rw [List.concat_eq_append] at hpairs hafter
      obtain ⟨hbefore, rfl⟩ : pairs = before ++ other :: after ∧ pair = final := by
        rwa [← List.cons_append, ← List.append_assoc, List.append_singleton_inj] at hpairs
      obtain ⟨old, hold, hmem⟩ :=
        h.last before other after hbefore fun _ hother ↦ hafter _ (by simp [hother])
      exact ⟨old, hold, Yaml.mem_putEntry_of_ne hmem (hafter pair (by simp)).symm⟩

/-- Reading a section leaves what `Kept` says. -/
theorem kept_of_readEntriesOf {node : Node} (hnodup : (ordinaryKeys node.pairs).Nodup)
    (h : readEntriesOf reader path node = .ok entries) : Kept reader path node.pairs entries := by
  unfold readEntriesOf at h
  split_ifs at h with hnull
  · -- a section without content
    obtain rfl : [] = entries := Except.ok.inj h
    have hpairs : node.pairs = [] := by
      cases node with
      | mapping tag line pairs => simp [Node.isMapping] at hnull
      | _ => rfl
    rw [hpairs]
    exact .nil
  · obtain ⟨-, -, hfold⟩ := bind_eq_ok_iff.mp h
    have hkept := foldlM_invariant
      (fun before entries ↦ (ordinaryKeys before).Nodup →
        Kept reader path before entries) (fun _ ↦ .nil) node.pairs
      (f := fun entries pair ↦ do
        let value ← readSection reader (joinPath path pair.1.text) pair.2
        return putEntry entries pair.1.text value)
      fun before pair _ entries next hbefore hnext hnodup ↦ by
        obtain ⟨value, hvalue, hput⟩ := bind_eq_ok_iff.mp hnext
        obtain rfl := Except.ok.inj hput
        rw [ordinaryKeys_append] at hnodup
        exact (hbefore (List.nodup_append.mp hnodup).1).snoc (by rwa [ordinaryKeys_append]) hvalue
    rw [hfold] at hkept
    exact hkept hnodup

theorem readEntriesOf_of_readStates {node : Node} {states : List (String × Declaration)}
    (h : readStates path node = .ok states) :
    readEntriesOf Declaration.reader path node = .ok states := by
  obtain ⟨read, hread, hrest⟩ := bind_eq_ok_iff.mp h
  obtain ⟨-, -, hsame⟩ := bind_eq_ok_iff.mp hrest
  obtain rfl := Except.ok.inj hsame
  exact hread

theorem Kept.length_eq_iff (h : Kept reader path pairs entries) :
    entries.length = pairs.length ↔ merges pairs ≤ 1 := by
  rw [h.length]
  omega

end Reading

/-! ### Sections of texts -/

/-- The value of a schedule. -/
def cronNode (line : Nat) (cron : String) : Node :=
  .mapping "!!map" line [(.scalar "!!str" line "cron", .scalar "!!str" line cron)]

theorem readSection_cronNode (path : String) (line : Nat) (cron : String) :
    readSection scheduleReader path (cronNode line cron) = .ok cron := by
  have hmerge :
      Yaml.lastMerge [(.scalar "!!str" line "cron", .scalar "!!str" line cron)] [] = [] := by
    simp [Yaml.lastMerge, Node.isMerge]
  simp only [readSection, Reader.decode, scheduleReader, Reader.record, cronNode, Yaml.readKinds,
    Yaml.readEntries]
  simp only [Node.target, pure_bind, Node.pairs, hmerge]
  rfl

/-- A document with nothing but a schedule. -/
def scheduleRoot (node : Node) : Node := .mapping "!!map" 1 [(.scalar "!!str" 1 "schedule", node)]

def mixedText : String :=
  "schedule:\n  nightly:\n    cron: 0 0 * * *\n  <<:\n    cron: 0 12 * * *\n"

def mixedNode : Node :=
  .mapping "!!map" 2
    [(.scalar "!!str" 2 "nightly", cronNode 3 "0 0 * * *"),
      (.scalar "!!merge" 4 "<<", cronNode 5 "0 12 * * *")]

/-- In a section of a text that is accepted, ordinary keys differ. It loses no entry, in whichever
way its values are read, exactly if at most one of its keys is written `<<`. -/
theorem kept_of_parseRoot {text : String} {root key node : Node} (hroot : parseRoot text = .ok root)
    (hsection : (key, node) ∈ root.pairs) (hkey : key.text ≠ "<<") :
    (ordinaryKeys node.pairs).Nodup ∧
      (∀ (α : Type) (reader : Reader Malformed α) (path : String) (entries : List (String × α)),
        readEntriesOf reader path node = .ok entries →
          Kept reader path node.pairs entries ∧
          (entries.length = node.pairs.length ↔ merges node.pairs ≤ 1)) ∧
      ∀ (path : String) (states : List (String × Declaration)), readStates path node = .ok states →
        Kept Declaration.reader path node.pairs states ∧
          (states.length = node.pairs.length ↔ merges node.pairs ≤ 1) := by
  have hnodup :=
    (scanned_of_duplicateKey? ((scanned_of_parseRoot hroot).values _ hsection hkey)).nodup
  have hkept {α : Type} {reader : Reader Malformed α} {path : String} {entries : List (String × α)}
      (h : readEntriesOf reader path node = .ok entries) :
      Kept reader path node.pairs entries ∧
      (entries.length = node.pairs.length ↔ merges node.pairs ≤ 1) :=
    ⟨kept_of_readEntriesOf hnodup h, (kept_of_readEntriesOf hnodup h).length_eq_iff⟩
  exact ⟨hnodup, fun _ _ _ _ ↦ hkept, fun _ _ h ↦ hkept (readEntriesOf_of_readStates h)⟩

theorem kept_of_parseRoot_mixed : parseRoot mixedText = .ok (scheduleRoot mixedNode) ∧
    readEntriesOf scheduleReader "schedule" mixedNode =
      .ok [("nightly", "0 0 * * *"), ("<<", "0 12 * * *")] ∧
    Kept scheduleReader "schedule" mixedNode.pairs [("nightly", "0 0 * * *"),
      ("<<", "0 12 * * *")] := by
  have hroot : parseRoot mixedText = .ok (scheduleRoot mixedNode) :=
    eq_ok_of_toOption (by decide +kernel)
  have hread : readEntriesOf scheduleReader "schedule" mixedNode =
      .ok [("nightly", "0 0 * * *"), ("<<", "0 12 * * *")] := by
    simp only [readEntriesOf, mixedNode, Node.pairs, List.foldlM_cons, readSection_cronNode]
    rfl
  have hkept := kept_of_parseRoot hroot (List.mem_singleton_self _) (by decide)
  exact ⟨hroot, hread, (hkept.2.1 _ _ _ _ hread).1⟩

def twiceText : String := "schedule:\n  <<:\n    cron: 0 0 * * *\n  <<:\n    cron: 0 12 * * *\n"

def twiceNode : Node :=
  .mapping "!!map" 2
    [(.scalar "!!merge" 2 "<<", cronNode 3 "0 0 * * *"),
      (.scalar "!!merge" 4 "<<", cronNode 5 "0 12 * * *")]

/-- The text is accepted, its schedule has two pairs, and one entry is read. -/
theorem merge_pair_replaced :
    parseRoot twiceText = .ok (scheduleRoot twiceNode) ∧ twiceNode.pairs.length = 2 ∧
      readEntriesOf scheduleReader "schedule" twiceNode = .ok [("<<", "0 12 * * *")] := by
  refine ⟨eq_ok_of_toOption (by decide +kernel), rfl, ?_⟩
  simp only [readEntriesOf, twiceNode, Node.pairs, List.foldlM_cons, readSection_cronNode]
  rfl

end Document

end FlowSpec
