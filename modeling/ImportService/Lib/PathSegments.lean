/-
This file develops paths of a POSIX file system as texts over any alphabet. A path leads from a
directory to a location, which is the list of the names on the way down from the root: empty
segments and single dots stay where they are and two dots go up by one, but never above the root
(`locate`).

The relative path from one location to another goes up as far as needed and then down
(`relative`). Its text starts with two dots exactly when it leaves the first location or enters
a name that starts so (`climbs_relative_iff`), so that test is a little too strict.
-/

import Mathlib.Data.List.Infix
import ImportService.Lib.Delimited

namespace ImportService.PathSegments

variable {Symbol : Type*} [DecidableEq Symbol] (slash dot : Symbol)

/-! ### From a path to a location -/

/-- The parts of a path between its slashes, but for those that stay where they are. -/
def segments (path : List Symbol) : List (List Symbol) :=
  (path.splitOn slash).filter fun segment => segment != [] && segment != [dot]

/-- The path begins at the root. -/
def isAbsolute (path : List Symbol) : Bool := path.head? == some slash

/-- One segment further. -/
def enter (location : List (List Symbol)) (segment : List Symbol) : List (List Symbol) :=
  if segment = [dot, dot] then location.dropLast else location ++ [segment]

/-- Where a path leads from a directory. -/
def locate (directory : List (List Symbol)) (path : List Symbol) : List (List Symbol) :=
  (segments slash dot path).foldl (enter dot) (if isAbsolute slash path then [] else directory)

/-- The absolute path of a location. -/
def render (location : List (List Symbol)) : List Symbol :=
  slash :: [slash].intercalate location

/-- A name of a file or directory. -/
structure IsName (segment : List Symbol) : Prop where
  notEmpty : segment ≠ []
  notHere : segment ≠ [dot]
  notUp : segment ≠ [dot, dot]
  noSlash : slash ∉ segment

variable {slash dot}

theorem segments_append (path rest : List Symbol) :
    segments slash dot (path ++ slash :: rest) =
      segments slash dot path ++ segments slash dot rest := by
  rw [segments, List.splitOn_append_cons_self, List.filter_append]
  rfl

theorem IsName.segments {name : List Symbol} (isName : IsName slash dot name) :
    segments slash dot name = [name] := by
  rw [PathSegments.segments, List.splitOn_eq_singleton isName.noSlash, List.filter_singleton,
    bne_iff_ne.mpr isName.notEmpty, bne_iff_ne.mpr isName.notHere]
  rfl

theorem IsName.enter {name : List Symbol} (isName : IsName slash dot name)
    (location : List (List Symbol)) : enter dot location name = location ++ [name] :=
  if_neg isName.notUp

/-- A name after a path leads one level below where the path leads. -/
theorem locate_append {path name : List Symbol} (notEmpty : path ≠ [])
    (isName : IsName slash dot name) (directory : List (List Symbol)) :
    locate slash dot directory (path ++ slash :: name) =
      locate slash dot directory path ++ [name] := by
  have starts : isAbsolute slash (path ++ slash :: name) = isAbsolute slash path := by
    rw [isAbsolute, isAbsolute, List.head?_append_of_ne_nil _ notEmpty]
  rw [locate, locate, starts, segments_append, isName.segments, List.foldl_append,
    List.foldl_cons, List.foldl_nil, isName.enter]

theorem not_mem_of_mem_splitOn {path segment : List Symbol}
    (member : segment ∈ path.splitOn slash) : slash ∉ segment := by
  induction path generalizing segment with
  | nil =>
    rw [List.mem_singleton.mp member]
    exact List.not_mem_nil
  | cons symbol rest inductionHypothesis =>
    rw [List.splitOn_cons_eq_if_modifyHead] at member
    split at member
    · rcases List.mem_cons.mp member with rfl | later
      · exact List.not_mem_nil
      · exact inductionHypothesis later
    · rename_i notSlash
      obtain ⟨first, others, pieces⟩ := List.exists_cons_of_ne_nil (List.splitOn_ne_nil slash rest)
      rw [pieces, List.modifyHead_cons] at member
      rcases List.mem_cons.mp member with rfl | later
      · have notInFirst : slash ∉ first := inductionHypothesis (pieces ▸ List.mem_cons_self)
        rw [List.mem_cons, not_or]
        exact ⟨fun same => notSlash (beq_iff_eq.mpr same.symm), notInFirst⟩
      · exact inductionHypothesis (pieces ▸ List.mem_cons_of_mem _ later)

theorem mem_segments {path segment : List Symbol} (member : segment ∈ segments slash dot path) :
    segment ≠ [] ∧ segment ≠ [dot] ∧ slash ∉ segment := by
  obtain ⟨piece, kept⟩ := List.mem_filter.mp member
  rw [Bool.and_eq_true, bne_iff_ne, bne_iff_ne] at kept
  exact ⟨kept.1, kept.2, not_mem_of_mem_splitOn piece⟩

/-- Every path leads to a location: its segments are names. -/
theorem isName_locate {directory : List (List Symbol)}
    (names : ∀ name ∈ directory, IsName slash dot name) (path : List Symbol) :
    ∀ name ∈ locate slash dot directory path, IsName slash dot name := by
  have goesOn : ∀ segments : List (List Symbol),
      (∀ segment ∈ segments, segment ≠ [] ∧ segment ≠ [dot] ∧ slash ∉ segment) →
        ∀ location : List (List Symbol), (∀ name ∈ location, IsName slash dot name) →
          ∀ name ∈ segments.foldl (enter dot) location, IsName slash dot name := by
    intro segments
    induction segments with
    | nil => exact fun _ _ names => names
    | cons segment rest inductionHypothesis =>
      intro kept location names
      refine inductionHypothesis (fun other member => kept other (List.mem_cons_of_mem _ member))
        _ fun name member => ?_
      unfold enter at member
      split at member
      · exact names name (List.mem_of_mem_dropLast member)
      · rename_i notUp
        obtain ⟨notEmpty, notHere, noSlash⟩ := kept segment List.mem_cons_self
        rcases List.mem_append.mp member with earlier | new
        · exact names name earlier
        · rw [List.mem_singleton.mp new]
          exact ⟨notEmpty, notHere, notUp, noSlash⟩
  refine goesOn _ (fun _ member => mem_segments member) _ ?_
  split
  · exact fun _ member => nomatch member
  · exact names

/-! ### From a location to its path -/

theorem foldl_enter {location : List (List Symbol)}
    (names : ∀ name ∈ location, IsName slash dot name) (above : List (List Symbol)) :
    location.foldl (enter dot) above = above ++ location := by
  induction location generalizing above with
  | nil => exact (List.append_nil above).symm
  | cons name rest inductionHypothesis =>
    rw [List.foldl_cons, (names name List.mem_cons_self).enter,
      inductionHypothesis fun other member => names other (List.mem_cons_of_mem _ member),
      List.append_assoc, List.singleton_append]

theorem segments_intercalate {location : List (List Symbol)}
    (names : ∀ name ∈ location, IsName slash dot name) :
    segments slash dot ([slash].intercalate location) = location := by
  have kept : location.filter (fun segment => segment != [] && segment != [dot]) = location := by
    refine List.filter_eq_self.mpr fun name member => ?_
    rw [bne_iff_ne.mpr (names name member).notEmpty, bne_iff_ne.mpr (names name member).notHere]
    rfl
  cases location with
  | nil => rfl
  | cons first rest =>
    have noSlash : ∀ name ∈ first :: rest, slash ∉ name := fun name member =>
      (names name member).noSlash
    rw [segments, List.splitOn_intercalate slash noSlash (List.cons_ne_nil first rest), kept]

/-- The path of a location leads there from everywhere. -/
theorem locate_render {location : List (List Symbol)}
    (names : ∀ name ∈ location, IsName slash dot name) (directory : List (List Symbol)) :
    locate slash dot directory (render slash location) = location := by
  have absolute : isAbsolute slash (render slash location) = true := beq_self_eq_true _
  have parts : segments slash dot (render slash location) = location := by
    have split : segments slash dot ([] ++ slash :: [slash].intercalate location) =
        segments slash dot [] ++ segments slash dot ([slash].intercalate location) :=
      segments_append [] _
    rw [segments_intercalate names] at split
    exact split
  rw [locate, parts, absolute, if_pos rfl, foldl_enter names, List.nil_append]

/-! ### From one location to another -/

/-- Up to what the locations have in common, and down from there. -/
def relative (dot : Symbol) : List (List Symbol) → List (List Symbol) → List (List Symbol)
  | name :: rest, other :: others =>
      if name = other then relative dot rest others
      else (name :: rest).map (fun _ => [dot, dot]) ++ other :: others
  | source, target => source.map (fun _ => [dot, dot]) ++ target

theorem relative_append (location below : List (List Symbol)) :
    relative dot location (location ++ below) = below := by
  induction location with
  | nil => cases below <;> rfl
  | cons name rest inductionHypothesis =>
    rw [List.cons_append, relative, if_pos rfl, inductionHypothesis]

/-- The way out of a location starts with going up. -/
theorem relative_of_not_prefix {source target : List (List Symbol)}
    (outside : ¬ source <+: target) :
    ∃ rest, relative dot source target = [dot, dot] :: rest := by
  induction source generalizing target with
  | nil => exact absurd (List.nil_prefix) outside
  | cons name rest inductionHypothesis =>
    cases target with
    | nil => exact ⟨_, rfl⟩
    | cons other others =>
      rw [relative]
      split
      · rename_i same
        refine inductionHypothesis fun inside => outside ?_
        rw [same]
        exact List.cons_prefix_cons.mpr ⟨rfl, inside⟩
      · exact ⟨_, rfl⟩

omit [DecidableEq Symbol] in
theorem exists_intercalate_cons (segment : List Symbol) (rest : List (List Symbol)) :
    ∃ tail, [slash].intercalate (segment :: rest) = segment ++ tail := by
  cases rest with
  | nil => exact ⟨[], by rw [List.intercalate_singleton, List.append_nil]⟩
  | cons next others => exact ⟨_, by rw [List.intercalate_cons_cons, List.append_assoc]⟩

theorem mem_relative {source target : List (List Symbol)} {segment : List Symbol}
    (member : segment ∈ relative dot source target) :
    segment = [dot, dot] ∨ segment ∈ target := by
  have goesUp {names : List (List Symbol)}
      (inUp : segment ∈ names.map fun _ => [dot, dot]) : segment = [dot, dot] := by
    obtain ⟨_, _, rfl⟩ := List.mem_map.mp inUp
    rfl
  induction source generalizing target with
  | nil =>
    cases target with
    | nil => cases member
    | cons => exact Or.inr member
  | cons name rest inductionHypothesis =>
    cases target with
    | nil =>
      rw [relative, List.append_nil] at member
      · exact Or.inl (goesUp member)
      · exact fun _ _ _ _ _ same => nomatch same
    | cons other others =>
      rw [relative] at member
      split at member
      · exact (inductionHypothesis member).imp id (List.mem_cons_of_mem _)
      · exact (List.mem_append.mp member).imp goesUp id

/-- The text of a way is not absolute. -/
theorem isAbsolute_intercalate {way : List (List Symbol)}
    (pieces : ∀ segment ∈ way, segment ≠ [] ∧ slash ∉ segment) :
    isAbsolute slash ([slash].intercalate way) = false := by
  cases way with
  | nil => rfl
  | cons segment rest =>
    obtain ⟨notEmpty, noSlash⟩ := pieces segment List.mem_cons_self
    obtain ⟨tail, isText⟩ : ∃ tail, [slash].intercalate (segment :: rest) = segment ++ tail :=
      exists_intercalate_cons segment rest
    rw [isText]
    cases segment with
    | nil => exact absurd rfl notEmpty
    | cons first more =>
      rw [List.mem_cons, not_or] at noSlash
      exact beq_eq_false_iff_ne.mpr fun same => noSlash.1 (Option.some.inj same).symm

/-- The text of a way starts with two dots. -/
def climbs (slash dot : Symbol) (way : List (List Symbol)) : Bool :=
  [dot, dot].isPrefixOf ([slash].intercalate way)

/-- The text of a way starts like its first segment. -/
theorem climbs_cons {segment : List Symbol} (notEmpty : segment ≠ []) (notHere : segment ≠ [dot])
    (rest : List (List Symbol)) :
    climbs slash dot (segment :: rest) = [dot, dot].isPrefixOf segment := by
  obtain ⟨tail, isText⟩ : ∃ tail, [slash].intercalate (segment :: rest) = segment ++ tail :=
    exists_intercalate_cons segment rest
  rw [climbs, isText]
  cases segment with
  | nil => exact absurd rfl notEmpty
  | cons first more =>
    cases more with
    | nil =>
      have notDot : (dot == first) = false := by
        rw [beq_eq_false_iff_ne]
        rintro rfl
        exact notHere rfl
      rw [List.cons_append, List.isPrefixOf_cons_cons, List.isPrefixOf_cons_cons, notDot,
        Bool.false_and, Bool.false_and]
    | cons second others =>
      simp only [List.cons_append, List.isPrefixOf_cons_cons, List.isPrefixOf_nil_left]

/-- The relative path starts with two dots exactly when it leaves the location, or enters a name
below it that starts with two dots. -/
theorem climbs_relative_iff {source target : List (List Symbol)}
    (names : ∀ name ∈ target, IsName slash dot name) :
    climbs slash dot (relative dot source target) = false ↔
      ∃ below, target = source ++ below ∧ ∀ name ∈ below.head?, ¬ [dot, dot] <+: name := by
  by_cases inside : source <+: target
  · obtain ⟨below, rfl⟩ := inside
    rw [relative_append]
    have onlyBelow (property : List (List Symbol) → Prop) :
        (∃ other, source ++ below = source ++ other ∧ property other) ↔ property below := by
      constructor
      · rintro ⟨other, same, holds⟩
        rwa [List.append_cancel_left same]
      · exact fun holds => ⟨below, rfl, holds⟩
    rw [onlyBelow]
    cases below with
    | nil => exact iff_of_true rfl (fun _ isHead => nomatch isHead)
    | cons name rest =>
      have isName := names name (List.mem_append_right _ List.mem_cons_self)
      rw [climbs_cons isName.notEmpty isName.notHere, List.head?_cons]
      simp only [Option.mem_some, forall_eq', ← List.isPrefixOf_iff_prefix, Bool.not_eq_true]
  · obtain ⟨rest, isWay⟩ := relative_of_not_prefix inside
    have climbsOut : climbs slash dot (relative dot source target) = true := by
      rw [isWay, climbs_cons (List.cons_ne_nil _ _) (by simp)]
      simp only [List.isPrefixOf_cons_cons, beq_self_eq_true, List.isPrefixOf_nil_left,
        Bool.and_self]
    rw [climbsOut]
    refine iff_of_false (fun same => nomatch same) ?_
    rintro ⟨below, rfl, _⟩
    exact inside (List.prefix_append source below)

end ImportService.PathSegments
