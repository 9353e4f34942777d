import Transceiver.Proofs.SearchPath.Equality
import Mathlib.Data.List.Induction

/-!
# First Spellings

A search path takes in directories one after the other and leaves out those that it covers. What it
holds are the paths that were given, each once and in the spelling that came first, in the order in
which they first came (`SearchPath.FirstSpellings`).

## Main statement

* `SearchPath.ofList_firstSpellings`: which directories a search path holds.
-/

namespace Transceiver

namespace SearchPath

variable {search : SearchPath} {paths directories : List String} {path directory : String}

/-! ## Adding a directory -/

/-- A path is covered exactly if one of the directories is the same. -/
theorem covers_iff :
    search.covers path = true ↔ ∃ directory ∈ search.directories, SamePath directory path := by
  simp [covers, SamePath]

/-- A path that is covered is left out. -/
theorem add_of_covers (h : search.covers path = true) : search.add path = search := by
  rw [add, if_pos h]

/-- A path that is not covered is put last. -/
theorem add_of_not_covers (h : ¬ search.covers path = true) :
    search.add path = ⟨search.directories ++ [path]⟩ := by
  rw [add, if_neg h]

/-- The last path is added to what the others gave. -/
theorem ofList_concat (paths : List String) (path : String) :
    ofList (paths ++ [path]) = (ofList paths).add path := by
  rw [ofList, ofList, List.foldl_append, List.foldl_cons, List.foldl_nil]

/-! ## First spellings -/

/-- The place at which a path is given first, in any spelling. -/
def firstIndex (paths : List String) (path : String) : Nat :=
  paths.findIdx fun given => SamePath given path

/-- A path that was given has a place among the paths. -/
theorem firstIndex_lt (h : path ∈ paths) : firstIndex paths path < paths.length :=
  List.findIdx_lt_length_of_exists ⟨path, h, by simp⟩

/-- A path that comes later does not change where another was given first. -/
theorem firstIndex_concat_of_mem (h : directory ∈ paths) (path : String) :
    firstIndex (paths ++ [path]) directory = firstIndex paths directory := by
  have hlt := firstIndex_lt h
  rw [firstIndex] at hlt
  rw [firstIndex, List.findIdx_append, if_pos hlt, firstIndex]

/-- A path that is new is given first at the end. -/
theorem firstIndex_concat_of_new (h : ∀ given ∈ paths, ¬ SamePath given path) :
    firstIndex (paths ++ [path]) path = paths.length := by
  have hnone : paths.findIdx (fun given => SamePath given path) = paths.length :=
    List.findIdx_eq_length.mpr fun given hmem => by simpa using h given hmem
  rw [firstIndex, List.findIdx_append, hnone, if_neg (Nat.lt_irrefl _)]
  simp [List.findIdx_cons]

/-- The directories are the paths, each once and in the spelling that came first, in the order in
which they first came. -/
structure FirstSpellings (paths directories : List String) : Prop where
  /-- No two directories are the same. -/
  distinct : directories.Pairwise fun directory other => ¬ SamePath directory other
  /-- Every path is the same as exactly one of them. -/
  covered : ∀ path ∈ paths, ∃! directory, directory ∈ directories ∧ SamePath directory path
  /-- A directory is spelled as the first of the paths that are the same. -/
  first : ∀ directory ∈ directories, paths[firstIndex paths directory]? = some directory
  /-- The one that came first stands first. -/
  ordered : directories.Pairwise fun directory other =>
    firstIndex paths directory < firstIndex paths other

namespace FirstSpellings

variable (h : FirstSpellings paths directories)

include h

/-- Every directory is one of the paths. -/
theorem mem (hmem : directory ∈ directories) : directory ∈ paths :=
  List.mem_of_getElem? (h.first directory hmem)

/-- A directory keeps its spelling when a path is added. -/
theorem first_concat (hmem : directory ∈ directories) (path : String) :
    (paths ++ [path])[firstIndex (paths ++ [path]) directory]? = some directory := by
  rw [firstIndex_concat_of_mem (h.mem hmem), List.getElem?_append_left (firstIndex_lt (h.mem hmem))]
  exact h.first directory hmem

/-- The directories keep their order when a path is added. -/
theorem ordered_concat (path : String) : directories.Pairwise fun directory other =>
    firstIndex (paths ++ [path]) directory < firstIndex (paths ++ [path]) other := by
  refine h.ordered.imp_of_mem fun hdirectory hother hlt => ?_
  rwa [firstIndex_concat_of_mem (h.mem hdirectory), firstIndex_concat_of_mem (h.mem hother)]

/-- A path that is covered makes no difference. -/
theorem concat_of_covered (hmem : directory ∈ directories) (hsame : SamePath directory path) :
    FirstSpellings (paths ++ [path]) directories where
  distinct := h.distinct
  covered := by
    intro given hgiven
    rcases List.mem_append.mp hgiven with hbefore | hlast
    · exact h.covered given hbefore
    · rw [List.mem_singleton.mp hlast]
      obtain ⟨kept, -, hunique⟩ := h.covered directory (h.mem hmem)
      refine ⟨directory, ⟨hmem, hsame⟩, fun other ⟨hother, hsame'⟩ => ?_⟩
      rw [hunique other ⟨hother, hsame'.trans hsame.symm⟩,
        hunique directory ⟨hmem, .refl directory⟩]
  first directory hdirectory := h.first_concat hdirectory path
  ordered := h.ordered_concat path

/-- A path that is not covered comes last. -/
theorem concat_of_new (hnew : ∀ directory ∈ directories, ¬ SamePath directory path) :
    FirstSpellings (paths ++ [path]) (directories ++ [path]) := by
  -- No path that was given before is the same, since it would be covered.
  have hfresh : ∀ given ∈ paths, ¬ SamePath given path := by
    intro given hgiven hsame
    obtain ⟨directory, ⟨hmem, hdirectory⟩, -⟩ := h.covered given hgiven
    exact hnew directory hmem (hdirectory.trans hsame)
  constructor
  case distinct => exact List.pairwise_append.mpr ⟨h.distinct, by simp, by simpa using hnew⟩
  case covered =>
    intro given hgiven
    rcases List.mem_append.mp hgiven with hbefore | hlast
    · obtain ⟨directory, ⟨hmem, hsame⟩, hunique⟩ := h.covered given hbefore
      refine ⟨directory, ⟨by simp [hmem], hsame⟩, fun other ⟨hother, hsame'⟩ => ?_⟩
      rcases List.mem_append.mp hother with hkept | hadded
      · exact hunique other ⟨hkept, hsame'⟩
      · rw [List.mem_singleton.mp hadded] at hsame'
        exact absurd hsame'.symm (hfresh given hbefore)
    · rw [List.mem_singleton.mp hlast]
      refine ⟨path, ⟨by simp, .refl path⟩, fun other ⟨hother, hsame⟩ => ?_⟩
      rcases List.mem_append.mp hother with hkept | hadded
      · exact absurd hsame (hnew other hkept)
      · exact List.mem_singleton.mp hadded
  case first =>
    intro directory hdirectory
    rcases List.mem_append.mp hdirectory with hkept | hadded
    · exact h.first_concat hkept path
    · rw [List.mem_singleton.mp hadded, firstIndex_concat_of_new hfresh,
        List.getElem?_concat_length]
  case ordered =>
    refine List.pairwise_append.mpr ⟨h.ordered_concat path, by simp, ?_⟩
    intro directory hmem other hadded
    rw [List.mem_singleton.mp hadded, firstIndex_concat_of_new hfresh,
      firstIndex_concat_of_mem (h.mem hmem)]
    exact firstIndex_lt (h.mem hmem)

end FirstSpellings

/-- A search path takes in the path that is added to it. -/
theorem FirstSpellings.add (h : FirstSpellings paths search.directories) (path : String) :
    FirstSpellings (paths ++ [path]) (search.add path).directories := by
  by_cases hcovers : search.covers path = true
  · obtain ⟨directory, hmem, hsame⟩ := covers_iff.mp hcovers
    rw [add_of_covers hcovers]
    exact h.concat_of_covered hmem hsame
  · rw [add_of_not_covers hcovers]
    refine h.concat_of_new fun directory hmem hsame => hcovers ?_
    exact covers_iff.mpr ⟨directory, hmem, hsame⟩

/-- A search path holds the first spellings of the paths it was made from. -/
theorem firstSpellings_ofList (paths : List String) :
    FirstSpellings paths (ofList paths).directories := by
  induction paths using List.reverseRecOn with
  | nil => exact ⟨.nil, by simp, by simp [ofList, empty], .nil⟩
  | append_singleton paths path ih =>
    rw [ofList_concat]
    exact ih.add path

/-- Whatever paths are added to a search path, it holds each of them once, in the spelling and in
the order in which they first came. A path that is covered already makes no difference in any
spelling. Paths count as the same if their spellings differ in repeated slashes, a slash at the end,
and dots after a slash only. -/
theorem ofList_firstSpellings (paths : List String) :
    (∀ path other, SamePath path other ↔ Relation.EqvGen Shortens path other) ∧
      FirstSpellings paths (ofList paths).directories ∧
      ∀ path, (∃ given ∈ paths, SamePath given path) → (ofList paths).add path = ofList paths := by
  have h := firstSpellings_ofList paths
  refine ⟨samePath_iff_eqvGen, h, ?_⟩
  rintro path ⟨given, hgiven, hsame⟩
  obtain ⟨directory, ⟨hmem, hdirectory⟩, -⟩ := h.covered given hgiven
  exact add_of_covers (covers_iff.mpr ⟨directory, hmem, hdirectory.trans hsame⟩)

example :
    (ofList ["/usr//lib", "./lib", "/usr/./lib/", "lib", "../lib", "lib/."]).directories =
      ["/usr//lib", "./lib", "lib", "../lib"] := by
  decide +kernel

end SearchPath

end Transceiver
