/-
This file develops directory trees without links. The system walks along a path piece by piece
and enters a piece only in a directory, so it may stop before the location that the text of the
path denotes (`PathSegments.locate`); where it gets through it is at that location (`reach_eq`).

Removing what a path leads to takes away the file at its location (`rm_entry`) and nothing else:
afterwards the path leads to nothing (`rm_gone`), and every other location holds what it held
(`rm_frame`).
-/

import Mathlib.Logic.Function.Basic
import ImportService.Lib.PathSegments

namespace ImportService.FileTree

open PathSegments

/-! ### Trees -/

/-- What a name stands for. -/
inductive Entry (Content : Type*)
  | file (content : Content)
  | directory
  deriving DecidableEq

/-- What is at each location. Everything is in a directory, up to the root. -/
structure Tree (Symbol Content : Type*) where
  entry : List (List Symbol) → Option (Entry Content)
  root : entry [] = some .directory
  inDirectory : ∀ location name, entry (location ++ [name]) ≠ none →
    entry location = some .directory

/-- Why the system does not get to the end of a path, or does not do there what it is asked. -/
inductive PathError
  | ENOENT
  | ENOTDIR
  | EISDIR
  deriving DecidableEq

variable {Symbol Content : Type*} [DecidableEq Symbol] (slash dot : Symbol)

/-- One piece of a path further. -/
def move (location : List (List Symbol)) (piece : List Symbol) : List (List Symbol) :=
  if piece != [] && piece != [dot] then enter dot location piece else location

namespace Tree

/-- The tree with nothing but its root. -/
def empty : Tree Symbol Content where
  entry := fun location => if location = [] then some .directory else none
  root := rfl
  inDirectory := fun location name isThere => by
    rw [if_neg (List.append_ne_nil_of_right_ne_nil _ (List.cons_ne_nil name []))] at isThere
    exact absurd rfl isThere

/-- A new entry of a directory. -/
def add (tree : Tree Symbol Content) (location : List (List Symbol)) (name : List Symbol)
    (entry : Entry Content) (inside : tree.entry location = some .directory)
    (isNew : tree.entry (location ++ [name]) = none) : Tree Symbol Content where
  entry := Function.update tree.entry (location ++ [name]) (some entry)
  root := by
    have notRoot := List.append_ne_nil_of_right_ne_nil location (List.cons_ne_nil name [])
    rw [Function.update_of_ne notRoot.symm]
    exact tree.root
  inDirectory := fun other otherName isThere => by
    have kept : other ≠ location ++ [name] → tree.entry other = some .directory →
        Function.update tree.entry (location ++ [name]) (some entry) other = some .directory := by
      intro different isDirectory
      rw [Function.update_of_ne different]
      exact isDirectory
    by_cases same : other ++ [otherName] = location ++ [name]
    · obtain ⟨rfl, _⟩ := List.append_inj' same rfl
      refine kept (fun equal => ?_) inside
      have lengths := congrArg List.length equal
      rw [List.length_append, List.length_singleton] at lengths
      omega
    · rw [Function.update_of_ne same] at isThere
      have isDirectory := tree.inDirectory other otherName isThere
      refine kept (fun equal => ?_) isDirectory
      rw [equal, isNew] at isDirectory
      cases isDirectory

/-- The tree without a file. -/
def unlink (tree : Tree Symbol Content) {location : List (List Symbol)} {content : Content}
    (isFile : tree.entry location = some (.file content)) : Tree Symbol Content where
  entry := Function.update tree.entry location none
  root := by
    have notRoot : [] ≠ location := by
      rintro rfl
      rw [tree.root] at isFile
      cases isFile
    rw [Function.update_of_ne notRoot]
    exact tree.root
  inDirectory := fun other name isThere => by
    have stays : other ++ [name] ≠ location := by
      intro same
      rw [same, Function.update_self] at isThere
      exact isThere rfl
    rw [Function.update_of_ne stays] at isThere
    have isDirectory := tree.inDirectory other name isThere
    have different : other ≠ location := by
      rintro rfl
      rw [isFile] at isDirectory
      cases isDirectory
    rw [Function.update_of_ne different]
    exact isDirectory

/-- The way of the system along the pieces of a path, of which each is read in a directory. -/
def walk (tree : Tree Symbol Content) :
    List (List Symbol) → List (List Symbol) → Except PathError (List (List Symbol))
  | location, [] => if tree.entry location = none then .error .ENOENT else .ok location
  | location, piece :: rest =>
      match tree.entry location with
      | none => .error .ENOENT
      | some (.file _) => .error .ENOTDIR
      | some .directory => walk tree (move dot location piece) rest

/-- Where a path leads from a directory. The empty path leads to nothing. -/
def reach (tree : Tree Symbol Content) (directory : List (List Symbol)) (path : List Symbol) :
    Except PathError (List (List Symbol)) :=
  if path = [] then .error .ENOENT
  else tree.walk dot (if isAbsolute slash path then [] else directory) (path.splitOn slash)

/-- The removal of the file that a path leads to, where there is one. A directory stays. -/
def rm (tree : Tree Symbol Content) (directory : List (List Symbol)) (path : List Symbol) :
    Except PathError (Tree Symbol Content) :=
  match tree.reach slash dot directory path with
  | .error .ENOENT => .ok tree
  | .error error => .error error
  | .ok location =>
      match isEntry : tree.entry location with
      | some (.file _) => .ok (tree.unlink isEntry)
      | _ => .error .EISDIR

end Tree

variable {slash dot} {tree after : Tree Symbol Content} {location directory : List (List Symbol)}
  {path : List Symbol}

/-! ### Where a path leads -/

theorem foldl_move (pieces location : List (List Symbol)) :
    pieces.foldl (move dot) location =
      (pieces.filter fun piece => piece != [] && piece != [dot]).foldl (enter dot) location := by
  rw [List.foldl_filter]
  rfl

theorem walk_directory (isDirectory : tree.entry location = some .directory) (piece : List Symbol)
    (rest : List (List Symbol)) :
    tree.walk dot location (piece :: rest) = tree.walk dot (move dot location piece) rest := by
  rw [Tree.walk, isDirectory]

/-- A walk that gets on has been in a directory. -/
theorem directory_of_walk {piece : List Symbol} {rest reached : List (List Symbol)}
    (walks : tree.walk dot location (piece :: rest) = .ok reached) :
    tree.entry location = some .directory := by
  rw [Tree.walk] at walks
  split at walks
  · cases walks
  · cases walks
  · assumption

theorem walk_eq {pieces reached : List (List Symbol)}
    (walks : tree.walk dot location pieces = .ok reached) :
    reached = pieces.foldl (move dot) location ∧ tree.entry reached ≠ none := by
  induction pieces generalizing location with
  | nil =>
    rw [Tree.walk] at walks
    split at walks
    · cases walks
    · rename_i isThere
      cases walks
      exact ⟨rfl, isThere⟩
  | cons piece rest inductionHypothesis =>
    rw [walk_directory (directory_of_walk walks)] at walks
    exact inductionHypothesis walks

/-- What a path leads to is at the location that the path denotes. -/
theorem reach_eq {reached : List (List Symbol)}
    (reaches : tree.reach slash dot directory path = .ok reached) :
    reached = locate slash dot directory path ∧ tree.entry reached ≠ none := by
  rw [Tree.reach] at reaches
  split at reaches
  · cases reaches
  · rw [locate, segments, ← foldl_move]
    exact walk_eq reaches

theorem walk_append {first reached : List (List Symbol)}
    (walks : tree.walk dot location first = .ok reached) (second : List (List Symbol)) :
    tree.walk dot location (first ++ second) = tree.walk dot reached second := by
  induction first generalizing location with
  | nil =>
    obtain ⟨rfl, _⟩ := walk_eq walks
    rfl
  | cons piece rest inductionHypothesis =>
    have isDirectory := directory_of_walk walks
    rw [walk_directory isDirectory] at walks
    rw [List.cons_append, walk_directory isDirectory, inductionHypothesis walks]

/-- A name after the path of a directory leads to the entry of that name, if there is one. -/
theorem reach_name {name : List Symbol} {reached : List (List Symbol)}
    (isName : IsName slash dot name)
    (reaches : tree.reach slash dot directory path = .ok reached)
    (isDirectory : tree.entry reached = some .directory) :
    tree.reach slash dot directory (path ++ slash :: name) =
      if tree.entry (reached ++ [name]) = none then .error .ENOENT
      else .ok (reached ++ [name]) := by
  have notEmpty : path ≠ [] := by
    rintro rfl
    cases reaches
  have starts : isAbsolute slash (path ++ slash :: name) = isAbsolute slash path := by
    rw [isAbsolute, isAbsolute, List.head?_append_of_ne_nil _ notEmpty]
  have moves : move dot reached name = reached ++ [name] := by
    rw [move, bne_iff_ne.mpr isName.notEmpty, bne_iff_ne.mpr isName.notHere]
    exact isName.enter reached
  rw [Tree.reach, if_neg notEmpty] at reaches
  rw [Tree.reach, if_neg (List.append_ne_nil_of_left_ne_nil notEmpty _), starts,
    List.splitOn_append_cons_self, List.splitOn_eq_singleton isName.noSlash,
    walk_append reaches, walk_directory isDirectory, moves, Tree.walk]

/-! ### What a removal changes -/

section

variable {content : Content} (isFile : tree.entry location = some (.file content))

theorem entry_unlink (other : List (List Symbol)) :
    (tree.unlink isFile).entry other = if other = location then none else tree.entry other :=
  Function.update_apply tree.entry location none other

theorem walk_unlink {start pieces reached : List (List Symbol)}
    (walks : tree.walk dot start pieces = .ok reached) :
    (tree.unlink isFile).walk dot start pieces =
      if reached = location then .error .ENOENT else .ok reached := by
  induction pieces generalizing start with
  | nil =>
    obtain ⟨rfl, isThere⟩ := walk_eq walks
    rw [Tree.walk, entry_unlink]
    by_cases same : reached = location
    · rw [if_pos same, if_pos same, if_pos rfl]
    · rw [if_neg same, if_neg same, if_neg isThere]
  | cons piece rest inductionHypothesis =>
    have isDirectory := directory_of_walk walks
    rw [walk_directory isDirectory] at walks
    have stays : (tree.unlink isFile).entry start = some .directory := by
      have different : start ≠ location := by
        rintro rfl
        rw [isFile] at isDirectory
        cases isDirectory
      rw [entry_unlink, if_neg different]
      exact isDirectory
    rw [walk_directory stays]
    exact inductionHypothesis walks

theorem reach_unlink {reached : List (List Symbol)}
    (reaches : tree.reach slash dot directory path = .ok reached) :
    (tree.unlink isFile).reach slash dot directory path =
      if reached = location then .error .ENOENT else .ok reached := by
  rw [Tree.reach] at reaches ⊢
  split at reaches
  · cases reaches
  · rename_i notEmpty
    rw [if_neg notEmpty]
    exact walk_unlink isFile reaches

end

/-- A removal finds a file or nothing. -/
theorem rm_ok_iff :
    tree.rm slash dot directory path = .ok after ↔
      tree.reach slash dot directory path = .error .ENOENT ∧ after = tree ∨
      ∃ location content, ∃ isFile : tree.entry location = some (.file content),
        tree.reach slash dot directory path = .ok location ∧ after = tree.unlink isFile := by
  rw [Tree.rm]
  cases reaches : tree.reach slash dot directory path with
  | error error =>
    cases error with
    | ENOENT => simp [eq_comm]
    | ENOTDIR => simp
    | EISDIR => simp
  | ok location =>
    simp only [reduceCtorEq, false_and, false_or, Except.ok.injEq]
    split
    · rename_i content isFile
      rw [Except.ok.injEq]
      constructor
      · rintro rfl
        exact ⟨location, content, isFile, rfl, rfl⟩
      · rintro ⟨_, _, _, rfl, rfl⟩
        rfl
    · rename_i notFile
      constructor
      · exact fun same => by cases same
      · rintro ⟨_, content, isFile, rfl, _⟩
        exact absurd isFile (notFile content)

/-- After a removal the path leads to nothing. -/
theorem rm_gone (removes : tree.rm slash dot directory path = .ok after) :
    after.reach slash dot directory path = .error .ENOENT := by
  rcases rm_ok_iff.mp removes with ⟨missing, rfl⟩ | ⟨location, content, isFile, reaches, rfl⟩
  · exact missing
  · rw [reach_unlink isFile reaches, if_pos rfl]

/-- A path to another location leads there as before. -/
theorem reach_rm {other : List Symbol} (removes : tree.rm slash dot directory path = .ok after)
    (reaches : tree.reach slash dot directory other = .ok location)
    (different : location ≠ locate slash dot directory path) :
    after.reach slash dot directory other = .ok location := by
  rcases rm_ok_iff.mp removes with ⟨_, rfl⟩ | ⟨reached, content, isFile, ends, rfl⟩
  · exact reaches
  · rw [← (reach_eq ends).1] at different
    rw [reach_unlink isFile reaches, if_neg different]

/-- A removal takes nothing but what is at the location of the path. -/
theorem rm_frame (removes : tree.rm slash dot directory path = .ok after)
    (different : location ≠ locate slash dot directory path) :
    after.entry location = tree.entry location := by
  rcases rm_ok_iff.mp removes with ⟨_, rfl⟩ | ⟨reached, content, isFile, reaches, rfl⟩
  · rfl
  · rw [← (reach_eq reaches).1] at different
    rw [entry_unlink, if_neg different]

end ImportService.FileTree
