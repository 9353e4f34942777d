import Transceiver.SearchPath
import Mathlib.Logic.Relation

/-!
# Equal Paths

Two paths are the same if they have the same components. `Shortens` lists what does not count in the
spelling of a path: a repeated slash, a slash at the end, and a dot after a slash. Leaving such a
part out leads to the same components, and every path can be brought in this way, back and forth, to
the one spelling `PathComponents.spelling` that its components determine.

## Main statement

* `samePath_iff_eqvGen`: the same paths are those that differ in such parts only.
-/

namespace Transceiver

/-- Two paths have the same components. -/
def SamePath (path other : String) : Prop :=
  PathComponents.ofString path = PathComponents.ofString other

instance (path other : String) : Decidable (SamePath path other) :=
  inferInstanceAs (Decidable (PathComponents.ofString path = PathComponents.ofString other))

namespace SamePath

variable {path other another : String}

/-- A path is the same as itself. -/
@[simp]
theorem refl (path : String) : SamePath path path :=
  rfl

/-- If a path is the same as another, the other is the same as it. -/
theorem symm (h : SamePath path other) : SamePath other path :=
  Eq.symm h

/-- Paths that are the same as a third one are the same. -/
theorem trans (h : SamePath path other) (h' : SamePath other another) : SamePath path another :=
  Eq.trans h h'

end SamePath

/-- `Shortens path other`: a part of `path` that does not count is left out of `other`. -/
inductive Shortens : String → String → Prop
  /-- A slash after a slash. -/
  | slash (front back : String) : Shortens (front ++ "/" ++ "/" ++ back) (front ++ "/" ++ back)
  /-- A dot between slashes. -/
  | dot (front back : String) :
      Shortens (front ++ "/" ++ "." ++ "/" ++ back) (front ++ "/" ++ back)
  /-- A dot at the end, after a slash. -/
  | lastDot (front : String) : Shortens (front ++ "/" ++ ".") (front ++ "/")
  /-- A slash at the end, unless it is the root. -/
  | lastSlash {front : String} (h : front ≠ "") : Shortens (front ++ "/") front

namespace PathComponents

/-! ## The pieces of a path -/

/-- What stands between the slashes of a path. -/
def pieces (path : String) : List String :=
  (path.toList.splitOn '/').map String.ofList

/-- A piece that counts wherever it stands. -/
def isName (piece : String) : Bool :=
  piece != "" && piece != "."

/-- The pieces that count wherever they stand. -/
def named (path : String) : List String :=
  (pieces path).filter isName

/-- The dot with which a relative path may begin. -/
def lead (path : String) : List String :=
  if (pieces path).head? == some "." then ["."] else []

/-- The components are the dot at the beginning, if there is one, and the names. -/
theorem ofString_eq (path : String) :
    ofString path = ⟨path.startsWith "/", lead path ++ named path⟩ :=
  rfl

variable {front back piece : String}

/-- At a slash the pieces of a path fall apart into those before it and those after it. -/
theorem pieces_append (front back : String) :
    pieces (front ++ "/" ++ back) = pieces front ++ pieces back := by
  simp [pieces, List.splitOn_append_cons_self]

/-- The names of a path are those before a slash and those after it. -/
@[simp]
theorem named_append (front back : String) :
    named (front ++ "/" ++ back) = named front ++ named back := by
  rw [named, pieces_append, List.filter_append, named, named]

/-- What follows a slash has no part in the beginning of a path. -/
@[simp]
theorem lead_append (front back : String) : lead (front ++ "/" ++ back) = lead front := by
  have hne : pieces front ≠ [] := by simp [pieces, List.splitOn_ne_nil]
  rw [lead, pieces_append, List.head?_append, Option.or_of_isSome (by simpa using hne), ← lead]

/-- A path starts at the root if its first character is a slash. -/
theorem startsWith_slash_iff (path : String) :
    path.startsWith "/" = true ↔ path.toList.head? = some '/' := by
  rw [String.startsWith_string_iff]
  cases path.toList <;> simp [eq_comm]

/-- A path with a slash in it starts at the root if nothing stands before the slash, or if what does
starts there. -/
theorem startsWith_append (front back : String) :
    (front ++ "/" ++ back).startsWith "/" = (front == "" || front.startsWith "/") := by
  rw [Bool.eq_iff_iff, Bool.or_eq_true, startsWith_slash_iff, startsWith_slash_iff]
  by_cases hfront : front = ""
  · simp [hfront]
  · have hsome : front.toList.head?.isSome := by simpa using hfront
    rw [String.append_assoc, String.toList_append, List.head?_append, Option.or_of_isSome hsome]
    simp [hfront]

/-- The components of a path, by what stands before a slash and what stands after it. -/
theorem ofString_append (front back : String) :
    ofString (front ++ "/" ++ back) =
      ⟨front == "" || front.startsWith "/", lead front ++ (named front ++ named back)⟩ := by
  rw [ofString_eq, startsWith_append, lead_append, named_append]

/-! ## Pieces without a slash -/

/-- A path without a slash is a single piece. -/
theorem pieces_of_not_mem (h : '/' ∉ piece.toList) : pieces piece = [piece] := by
  rw [pieces, List.splitOn_eq_singleton h, List.map_singleton, String.ofList_toList]

/-- A path without a slash has one name or none. -/
theorem named_of_not_mem (h : '/' ∉ piece.toList) :
    named piece = if isName piece then [piece] else [] := by
  rw [named, pieces_of_not_mem h]
  cases hname : isName piece <;> simp [hname]

/-- A path without a slash begins with a dot only if it is the dot. -/
theorem lead_of_not_mem (h : '/' ∉ piece.toList) :
    lead piece = if piece = "." then ["."] else [] := by
  simp [lead, pieces_of_not_mem h]

/-- The pieces that are no names are the empty one and the dot. -/
theorem isName_eq_false_iff : isName piece = false ↔ piece = "" ∨ piece = "." := by
  simp [isName, Decidable.or_iff_not_imp_left]

/-- A piece that is not empty counts where a path begins, be it a dot or a name. -/
theorem lead_append_named_of_not_mem (h : '/' ∉ piece.toList) (hne : piece ≠ "") :
    lead piece ++ named piece = [piece] := by
  rw [lead_of_not_mem h, named_of_not_mem h]
  by_cases hdot : piece = "."
  · simp [hdot, isName]
  · simp [hdot, isName, hne]

/-- A path without a slash does not start at the root. -/
theorem startsWith_slash_of_not_mem (h : '/' ∉ piece.toList) : piece.startsWith "/" = false := by
  rw [Bool.eq_false_iff, Ne, startsWith_slash_iff]
  exact fun hhead => h (List.mem_of_head? hhead)

/-- The empty path has no names. -/
@[simp]
theorem named_empty : named "" = [] := by
  decide +kernel

/-- A dot is no name. -/
@[simp]
theorem named_dot : named "." = [] := by
  decide +kernel

/-- The empty path does not begin with a dot. -/
@[simp]
theorem lead_empty : lead "" = [] := by
  decide +kernel

/-- A slash at the beginning makes no difference to the names. -/
theorem named_slash (back : String) : named ("/" ++ back) = named back := by
  simpa using named_append "" back

/-- After a slash only the names of a path count. -/
theorem ofString_append_congr (front : String) {back other : String}
    (h : named back = named other) :
    ofString (front ++ "/" ++ back) = ofString (front ++ "/" ++ other) := by
  rw [ofString_append, ofString_append, h]

/-! ## The spelling of components -/

/-- Names with a slash after each. -/
def joinNames : List String → String
  | [] => ""
  | name :: names => name ++ "/" ++ joinNames names

/-- A path with certain components. -/
def spelling (components : PathComponents) : String :=
  (if components.absolute then "/" else "") ++ joinNames components.names

/-- An absolute path is spelled with a slash before its names. -/
theorem spelling_absolute (names : List String) :
    spelling ⟨true, names⟩ = "/" ++ joinNames names :=
  rfl

/-- A relative path is spelled with its names alone. -/
theorem spelling_relative (names : List String) : spelling ⟨false, names⟩ = joinNames names :=
  String.empty_append

end PathComponents

open PathComponents

/-- What is left out of a path does not count. -/
theorem SamePath.of_shortens {path other : String} (h : Shortens path other) :
    SamePath path other := by
  -- In all but the last case a slash stands before the part, and there only names count.
  cases h with
  | slash front back =>
    rw [SamePath, String.append_assoc]
    exact ofString_append_congr front (named_slash back)
  | dot front back =>
    have hpath : front ++ "/" ++ "." ++ "/" ++ back = front ++ "/" ++ ("." ++ "/" ++ back) := by
      simp only [String.append_assoc]
    have hdot : named ("." ++ "/" ++ back) = named back := by
      rw [named_append, named_dot, List.nil_append]
    rw [SamePath, hpath]
    exact ofString_append_congr front hdot
  | lastDot front =>
    have hsame := ofString_append_congr front (named_dot.trans named_empty.symm)
    rwa [String.append_empty] at hsame
  | lastSlash h =>
    have hpath : other ++ "/" = other ++ "/" ++ "" := String.append_empty.symm
    rw [SamePath, hpath, ofString_append, ofString_eq]
    simp [h]

/-! ## Leaving parts out -/

/-- Every path has no slash or goes on after its first one. -/
theorem slash_induction {motive : String → Prop}
    (single : ∀ piece, '/' ∉ piece.toList → motive piece)
    (more : ∀ piece rest, '/' ∉ piece.toList → motive rest → motive (piece ++ "/" ++ rest))
    (path : String) : motive path := by
  by_cases h : '/' ∈ path.toList
  · obtain ⟨piece, rest, hpath, hpiece⟩ := List.eq_append_cons_of_mem h
    have hsplit : path = String.ofList piece ++ "/" ++ String.ofList rest := by
      rw [← String.toList_inj, hpath]
      simp
    rw [hsplit]
    exact more _ _ (by simpa using hpiece) (slash_induction single more (String.ofList rest))
  · exact single path h
termination_by path.length
decreasing_by
  have hslash : "/".length = 1 := rfl
  rw [hsplit, String.length_append, String.length_append]
  omega

/-- After a slash every piece that does not count can be left out, and a slash put after each of the
others. -/
theorem eqvGen_joinNames (front back : String) :
    Relation.EqvGen Shortens (front ++ "/" ++ back) (front ++ "/" ++ joinNames (named back)) := by
  -- A name that has been passed goes over to the front.
  induction back using slash_induction generalizing front with
  | single piece h =>
    rw [named_of_not_mem h]
    split
    next =>
      have hne : front ++ "/" ++ piece ≠ "" := by simp
      rw [joinNames, joinNames, String.append_empty, ← String.append_assoc]
      exact .symm _ _ (.rel _ _ (.lastSlash hne))
    next hname =>
      rw [joinNames, String.append_empty]
      rcases isName_eq_false_iff.mp (by simpa using hname) with rfl | rfl
      · rw [String.append_empty]
        exact .refl _
      · exact .rel _ _ (.lastDot front)
  | more piece rest h ih =>
    rw [named_append, named_of_not_mem h]
    split
    next =>
      rw [List.singleton_append, joinNames]
      simpa only [String.append_assoc] using ih (front ++ "/" ++ piece)
    next hname =>
      rw [List.nil_append]
      refine .trans _ _ _ (.rel _ _ ?_) (ih front)
      rcases isName_eq_false_iff.mp (by simpa using hname) with rfl | rfl
      · simpa only [String.append_assoc, String.empty_append] using Shortens.slash front rest
      · simpa only [String.append_assoc] using Shortens.dot front rest

/-- Every path can be brought to the spelling of its components. -/
theorem eqvGen_spelling (path : String) :
    Relation.EqvGen Shortens path (ofString path).spelling := by
  induction path using slash_induction with
  | single piece h =>
    by_cases hempty : piece = ""
    · subst hempty
      exact .refl _
    · rw [ofString_eq, startsWith_slash_of_not_mem h, lead_append_named_of_not_mem h hempty,
        spelling_relative, joinNames, joinNames, String.append_empty]
      exact .symm _ _ (.rel _ _ (.lastSlash hempty))
  | more piece rest h _ =>
    refine .trans _ _ _ (eqvGen_joinNames piece rest) ?_
    rw [ofString_append, startsWith_slash_of_not_mem h, Bool.or_false]
    -- The first piece is empty if the path starts at the root. Otherwise it counts, also if a dot.
    by_cases hempty : piece = ""
    · subst hempty
      rw [lead_empty, named_empty, beq_self_eq_true, spelling_absolute, String.empty_append]
      exact .refl _
    · rw [← List.append_assoc, lead_append_named_of_not_mem h hempty, beq_false_of_ne hempty,
        spelling_relative]
      exact .refl _

/-- Two paths are the same exactly if one leads to the other by leaving out, or putting in, parts
that do not count. -/
theorem samePath_iff_eqvGen (path other : String) :
    SamePath path other ↔ Relation.EqvGen Shortens path other := by
  constructor
  · intro h
    have hpath := eqvGen_spelling path
    rw [h] at hpath
    exact hpath.trans _ _ _ (eqvGen_spelling other).symm
  · intro h
    induction h with
    | rel path other h => exact .of_shortens h
    | refl path => rfl
    | symm path other _ ih => exact ih.symm
    | trans path other another _ _ ih ih' => exact ih.trans ih'

end Transceiver
