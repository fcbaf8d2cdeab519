import FlowSpec.Proofs.Header.Forms
import FlowSpec.Proofs.Package.Graph

/-!
What the key of a header tells of it. The version of a valid header holds no colon and can be read
off the end of the key. Owner and name may hold colons, and where they do, the colon that joins them
is not marked: two valid headers have one key if they are the same, or if a piece between two colons
is the end of the one's owner and the beginning of the other's name (`Overlaps`). An index by keys
tells valid headers apart as far as they do not overlap.
-/

set_option autoImplicit false

namespace FlowSpec

open Text

/-! ### Versions -/

namespace Version

theorem mem_breakAt {c x : Char} {cs : List Char} (hx : x ∈ cs) (hne : x ≠ c) :
    x ∈ (breakAt c cs).1 ∨ ∃ rest, (breakAt c cs).2 = some rest ∧ x ∈ rest := by
  induction cs with
  | nil => cases hx
  | cons d cs ih =>
    by_cases hd : d = c
    · have hbreak : breakAt c (d :: cs) = ([], some cs) := by simp [breakAt, hd]
      rw [hd, List.mem_cons] at hx
      exact .inr ⟨cs, by rw [hbreak], hx.resolve_left hne⟩
    · have hbreak : breakAt c (d :: cs) = (d :: (breakAt c cs).1, (breakAt c cs).2) := by
        simp [breakAt, hd]
      rw [hbreak, List.mem_cons]
      rcases List.mem_cons.mp hx with rfl | hx
      · exact .inl (.inl rfl)
      · exact (ih hx).imp_left .inr

/-- A character between dots that are passed over, where every part consists of characters of one
kind. -/
theorem of_all_splitAux {p : Char → Bool} {c : Char} {cs : List Char}
    (h : (splitAux ['.'] cs 0 []).all fun part ↦ !part.isEmpty && part.all p) (hc : c ∈ cs)
    (hdot : c ≠ '.') :
    p c := by
  have hparts : Parts ['.'] cs (splitAux ['.'] cs 0 []) := (splitAux_eq_iff (by simp)).mp rfl
  rcases hparts.mem_or_mem hc with hmem | ⟨part, hpart, hmem⟩
  · exact absurd (List.mem_singleton.mp hmem) hdot
  · have hall := List.all_eq_true.mp h part hpart
    rw [Bool.and_eq_true] at hall
    exact List.all_eq_true.mp hall.2 c hmem

theorem colon_notMem_of_parse {text : String} {parsed : Version} (h : parse text = .ok parsed) :
    ':' ∉ text.toList := by
  intro hcolon
  unfold parse at h
  extract_lets body at h
  have hbody : ':' ∈ body := by
    unfold body
    split
    next rest htext =>
      rw [htext, List.mem_cons] at hcolon
      exact hcolon.resolve_left (by decide)
    next => exact hcolon
  dsimp only at h
  split_ifs at h with hwell
  rw [Bool.and_eq_true, Bool.and_eq_true] at hwell
  obtain ⟨⟨hnumbers, hlabels⟩, hbuild⟩ := hwell
  -- the colon would be a digit or stand in a label
  rcases mem_breakAt (c := '+') hbody (by decide) with hmem | ⟨build, heq, hmem⟩
  · rcases mem_breakAt (c := '-') hmem (by decide) with hmem | ⟨labels, heq, hmem⟩
    · exact absurd (of_all_splitAux hnumbers hmem (by decide)) (by decide)
    · rw [heq, Option.all_some] at hlabels
      exact absurd (of_all_splitAux hlabels hmem (by decide)) (by decide)
  · rw [heq, Option.all_some] at hbuild
    exact absurd (of_all_splitAux hbuild hmem (by decide)) (by decide)

end Version

/-! ### Keys -/

namespace Header

variable {first second header : Header}

/-- The owner of the first header goes on, behind a colon, with what stands before a colon in the
name of the second; but for this they are the same. -/
def Overlaps (first second : Header) : Prop :=
  first.version = second.version ∧ ∃ middle : String,
    first.owner = second.owner ++ ":" ++ middle ∧ second.name = middle ++ ":" ++ first.name

theorem colon_notMem_version (h : header.problems = []) : ':' ∉ header.version.toList := by
  obtain ⟨-, -, -, -, parsed, hparsed⟩ := problems_eq_nil_iff.mp h
  exact Version.colon_notMem_of_parse hparsed

theorem toList_key (header : Header) : header.key.toList =
    header.owner.toList ++ ':' :: header.name.toList ++ ':' :: header.version.toList := by
  simp [key]

theorem overlaps_iff :
    Overlaps first second ↔ (∃ middle, first.owner.toList = second.owner.toList ++ ':' :: middle ∧
      second.name.toList = middle ++ ':' :: first.name.toList) ∧
      first.version = second.version := by
  rw [Overlaps, and_comm]
  refine and_congr_left fun _ ↦
    ⟨fun ⟨middle, howner, hname⟩ ↦ ⟨middle.toList, ?_⟩, fun ⟨middle, howner, hname⟩ ↦
    ⟨String.ofList middle, ?_⟩⟩
  · simp [howner, hname]
  · simp [← String.toList_inj, howner, hname]

/-- Headers with versions without colons have one key if they are the same or overlap. -/
theorem key_eq_iff (hfirst : ':' ∉ first.version.toList) (hsecond : ':' ∉ second.version.toList) :
    first.key = second.key ↔ first = second ∨ Overlaps first second ∨ Overlaps second first := by
  have hversion : first.key = second.key ↔ first.owner.toList ++ ':' :: first.name.toList =
      second.owner.toList ++ ':' :: second.name.toList ∧ first.version = second.version := by
    rw [← String.toList_inj, toList_key, toList_key, append_cons_eq_iff, String.toList_inj]
    refine or_iff_left ?_
    -- a colon that is left behind would stand in one of the versions
    rintro (⟨middle, -, h⟩ | ⟨middle, -, h⟩)
    · exact hsecond (by simp [h])
    · exact hfirst (by simp [h])
  have hsame : first = second ↔ (first.owner.toList = second.owner.toList ∧
      first.name.toList = second.name.toList) ∧ first.version = second.version := by
    obtain ⟨owner, name, version⟩ := first
    obtain ⟨owner', name', version'⟩ := second
    simp [and_assoc, String.toList_inj]
  rw [hversion, append_cons_eq_iff, or_and_right, or_and_right, ← hsame, ← overlaps_iff,
    @overlaps_iff second first, eq_comm (a := second.version)]

/-- Two valid headers have one key exactly if they are the same or overlap, and what an index of
valid packages finds under the key of a valid header has that header or overlaps it. -/
theorem key_shared_iff_overlaps (first second : Header) (hfirst : first.problems = [])
    (hsecond : second.problems = []) :
    (first.key = second.key ↔ first = second ∨ Overlaps first second ∨ Overlaps second first) ∧
    ∀ (packages : List Package) (found : Package),
      (∀ package ∈ packages, package.header.problems = []) →
      Package.byKey? second.key (Package.indexPackages packages) = some found →
      found.header = second ∨ Overlaps found.header second ∨ Overlaps second found.header := by
  have hversion := colon_notMem_version hsecond
  refine ⟨key_eq_iff (colon_notMem_version hfirst) hversion,
    fun packages found hpackages hfound ↦ ?_⟩
  rw [Package.byKey?_indexPackages] at hfound
  have hvalid := hpackages found (Package.mem_of_byKey? hfound)
  exact (key_eq_iff (colon_notMem_version hvalid) hversion).mp (Package.key_of_byKey? hfound)

/-- A valid header whose owner holds a colon. -/
def colonOwner : Header := ⟨"shop:eu", "orders", "1.0.0"⟩

/-- A valid header whose name holds a colon. -/
def colonName : Header := ⟨"shop", "eu:orders", "1.0.0"⟩

/-- The package of a header, with nothing in it. -/
def bare (header : Header) : Package := { apiVersion := "0.6.0", header }

theorem key_shared_iff_overlaps_colons : colonOwner.problems = [] ∧ colonName.problems = [] ∧
    (colonOwner.key = colonName.key ↔
      colonOwner = colonName ∨ Overlaps colonOwner colonName ∨ Overlaps colonName colonOwner) ∧
    (colonOwner = colonName ∨ Overlaps colonOwner colonName ∨ Overlaps colonName colonOwner) := by
  have howner : colonOwner.problems = [] := by decide
  have hname : colonName.problems = [] := by decide
  obtain ⟨hkeys, hindex⟩ := key_shared_iff_overlaps colonOwner colonName howner hname
  refine ⟨howner, hname, hkeys, hindex [bare colonOwner, bare colonName] (bare colonOwner) ?_ ?_⟩
  · simp [bare, howner, hname]
  · decide

/-- Two valid headers with one key: the index of their packages holds the first only, and leads
imports of the second to it. -/
theorem colon_conflates_packages :
    colonOwner.problems = [] ∧ colonName.problems = [] ∧ colonOwner.key = colonName.key ∧
      colonOwner ≠ colonName ∧
      Package.indexPackages [bare colonOwner, bare colonName] = [bare colonOwner] ∧
      Package.byKey? colonName.key (Package.indexPackages [bare colonOwner, bare colonName]) =
        some (bare colonOwner) := by
  decide

end Header

end FlowSpec
