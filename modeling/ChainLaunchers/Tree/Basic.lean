/-
Module: ChainLaunchers.Tree.Basic
Purpose: A tree of directories and files with a working directory, and the two elementary
  changes: putting an entry into a directory and taking entries away.
Trusted boundary: the tree, which restates a file system without links and permissions.
Main exports:
  Tree.Node, Place, Tree.Entry, Tree, Tree.node?, Tree.ext, Tree.root, Tree.workAt, Tree.put,
  Tree.node?_put, Tree.starting, Tree.removeBelow, Tree.clear
-/
import ChainLaunchers.Path

namespace ChainLaunchers

/-- What stands at a place of a tree. -/
inductive Tree.Node where
  | directory
  | file (content : Bytes)
deriving Repr, DecidableEq, Inhabited

/-- A place in a tree: the names on the way from the root. -/
abbrev Place := List Name

/-- A place and what stands there. -/
abbrev Tree.Entry := Place × Tree.Node

/-!
### Ordered entries

The entries of a tree are kept in the order of their places, so that two trees with the same
nodes are equal.
-/

namespace Entries

/-- The node at a place. -/
def lookup (place : Place) : List Tree.Entry → Option Tree.Node
  | [] => none
  | (key, node) :: rest => if key = place then some node else lookup place rest

/-- Sets the node at a place. -/
def insert (place : Place) (node : Tree.Node) : List Tree.Entry → List Tree.Entry
  | [] => [(place, node)]
  | (key, old) :: rest =>
    if place < key then (place, node) :: (key, old) :: rest
    else if place = key then (place, node) :: rest
    else (key, old) :: insert place node rest

/-- Each place comes strictly before the next. -/
def Ordered (entries : List Tree.Entry) : Prop :=
  entries.Pairwise fun first second => first.1 < second.1

theorem mem_of_lookup {place : Place} {node : Tree.Node} {entries : List Tree.Entry}
    (found : lookup place entries = some node) : (place, node) ∈ entries := by
  induction entries with
  | nil => simp [lookup] at found
  | cons entry rest ih =>
    obtain ⟨key, old⟩ := entry
    unfold lookup at found
    split at found
    · simp_all
    · exact List.mem_cons_of_mem _ (ih found)

theorem lookup_eq_none_of_before {place : Place} {entries : List Tree.Entry}
    (before : ∀ entry ∈ entries, place < entry.1) : lookup place entries = none := by
  induction entries with
  | nil => rfl
  | cons entry rest ih =>
    have ahead : place < entry.1 := before entry (by simp)
    have different : entry.1 ≠ place := fun eq => List.lt_irrefl place (eq ▸ ahead)
    simp [lookup, different, ih fun later mem => before later (by simp [mem])]

theorem lookup_insert_self (place : Place) (node : Tree.Node) (entries : List Tree.Entry) :
    lookup place (insert place node entries) = some node := by
  induction entries with
  | nil => simp [insert, lookup]
  | cons entry rest ih =>
    obtain ⟨key, old⟩ := entry
    unfold insert
    split
    · simp [lookup]
    · split
      · simp [lookup]
      · rename_i _ different
        simp [lookup, Ne.symm different, ih]

theorem lookup_insert_of_ne {place other : Place} (different : other ≠ place) (node : Tree.Node)
    (entries : List Tree.Entry) :
    lookup other (insert place node entries) = lookup other entries := by
  induction entries with
  | nil => simp [insert, lookup, Ne.symm different]
  | cons entry rest ih =>
    obtain ⟨key, old⟩ := entry
    unfold insert
    split
    · simp [lookup, Ne.symm different]
    · split
      · rename_i _ same
        subst same
        simp [lookup, Ne.symm different]
      · simp [lookup, ih]

theorem mem_insert {place : Place} {node : Tree.Node} {entries : List Tree.Entry}
    {entry : Tree.Entry} (mem : entry ∈ insert place node entries) :
    entry = (place, node) ∨ entry ∈ entries := by
  induction entries with
  | nil => simpa [insert] using mem
  | cons first rest ih =>
    obtain ⟨key, old⟩ := first
    unfold insert at mem
    split at mem
    · simpa using mem
    · split at mem
      · rcases List.mem_cons.1 mem with here | later
        · exact Or.inl here
        · exact Or.inr (List.mem_cons_of_mem _ later)
      · rcases List.mem_cons.1 mem with here | later
        · exact Or.inr (by simp [here])
        · exact (ih later).imp_right (List.mem_cons_of_mem _)

theorem ordered_insert {entries : List Tree.Entry} (ordered : Ordered entries)
    (place : Place) (node : Tree.Node) : Ordered (insert place node entries) := by
  induction entries with
  | nil => simp [insert, Ordered]
  | cons first rest ih =>
    obtain ⟨key, old⟩ := first
    obtain ⟨before, tail⟩ := List.pairwise_cons.1 ordered
    unfold insert
    split
    · rename_i ahead
      refine List.pairwise_cons.2 ⟨?_, ordered⟩
      intro later mem
      rcases List.mem_cons.1 mem with same | mem
      · exact same ▸ ahead
      · exact List.lt_trans ahead (before later mem)
    · split
      · rename_i _ same
        subst same
        exact List.pairwise_cons.2 ⟨before, tail⟩
      · rename_i notBefore different
        refine List.pairwise_cons.2 ⟨?_, ih tail⟩
        intro later mem
        rcases mem_insert mem with same | mem
        · subst same
          by_cases ahead : key < place
          · exact ahead
          · exact absurd (List.le_antisymm ahead notBefore) different
        · exact before later mem

theorem lookup_filter (keep : Place → Bool) (place : Place) (entries : List Tree.Entry) :
    lookup place (entries.filter fun entry => keep entry.1) =
      if keep place then lookup place entries else none := by
  induction entries with
  | nil => simp [lookup]
  | cons entry rest ih =>
    obtain ⟨key, node⟩ := entry
    by_cases same : key = place
    · subst same
      by_cases kept : keep key <;> simp [lookup, kept, ih]
    · by_cases kept : keep key <;> simp [lookup, kept, ih, same]

/-- Ordered entries are determined by what is found in them. -/
theorem ext {left right : List Tree.Entry} (leftOrdered : Ordered left)
    (rightOrdered : Ordered right)
    (same : ∀ place, lookup place left = lookup place right) : left = right := by
  induction left generalizing right with
  | nil =>
    cases right with
    | nil => rfl
    | cons entry rest => exact absurd (same entry.1) (by simp [lookup])
  | cons entry rest ih =>
    obtain ⟨key, node⟩ := entry
    cases right with
    | nil => exact absurd (same key) (by simp [lookup])
    | cons entry' rest' =>
      obtain ⟨key', node'⟩ := entry'
      obtain ⟨before, tail⟩ := List.pairwise_cons.1 leftOrdered
      obtain ⟨before', tail'⟩ := List.pairwise_cons.1 rightOrdered
      have sameKey : key = key' := by
        refine Classical.byContradiction fun different => ?_
        have here := same key
        have there := same key'
        simp only [lookup, ↓reduceIte, different, Ne.symm different] at here there
        have ahead' : key' < key := before' _ (mem_of_lookup here.symm)
        have ahead : key < key' := before _ (mem_of_lookup there)
        exact List.lt_irrefl key (List.lt_trans ahead ahead')
      subst sameKey
      have sameNode : node = node' := by simpa [lookup] using same key
      subst sameNode
      congr 1
      refine ih tail tail' fun place => ?_
      by_cases here : key = place
      · subst here
        rw [lookup_eq_none_of_before before, lookup_eq_none_of_before before']
      · simpa [lookup, here] using same place

end Entries

/-! ### Trees -/

/-- A tree of directories and files with a working directory.  Every entry but the root lies
in a directory of the tree, and the working directory is one of its directories.  There are no
links: a place is reached in one way only. -/
structure Tree where
  entries : List Tree.Entry
  workingPlace : Place
  ordered : Entries.Ordered entries
  rooted : ∀ place name, (Entries.lookup (place ++ [name]) entries).isSome →
    Entries.lookup place entries = some .directory
  grounded : Entries.lookup workingPlace entries = some .directory

namespace Tree

/-- The node at a place of the tree. -/
def node? (tree : Tree) (place : Place) : Option Node := Entries.lookup place tree.entries

/-- Whether a place holds a directory. -/
def isDirectory (tree : Tree) (place : Place) : Bool := tree.node? place = some .directory

/-- Two trees with the same nodes and the same working directory are equal. -/
theorem ext {left right : Tree} (nodes : ∀ place, left.node? place = right.node? place)
    (working : left.workingPlace = right.workingPlace) : left = right := by
  have entries := Entries.ext left.ordered right.ordered nodes
  cases left
  cases right
  simp_all

theorem parent_isDirectory (tree : Tree) {place : Place} {name : Name}
    (present : (tree.node? (place ++ [name])).isSome) : tree.node? place = some .directory :=
  tree.rooted place name present

theorem working_isDirectory (tree : Tree) : tree.node? tree.workingPlace = some .directory :=
  tree.grounded

/-- The tree that holds nothing but its root, which is the working directory. -/
def root : Tree where
  entries := [([], .directory)]
  workingPlace := []
  ordered := by simp [Entries.Ordered]
  rooted := by
    intro place name present
    simp [Entries.lookup] at present
  grounded := by simp [Entries.lookup]

/-- Makes a directory of the tree the working directory.  Where there is none, nothing
changes. -/
def workAt (tree : Tree) (place : Place) : Tree :=
  if h : tree.node? place = some .directory then
    { tree with workingPlace := place, grounded := h }
  else tree

@[simp] theorem node?_workAt (tree : Tree) (place other : Place) :
    (tree.workAt place).node? other = tree.node? other := by
  unfold workAt
  split <;> rfl

/-- Puts a node under a name into a directory.  Where there is no such directory, and where
the name is that of a directory, the tree stays as it is. -/
def put (tree : Tree) (directory : Place) (name : Name) (node : Node) : Tree :=
  if h : tree.node? directory = some .directory ∧
      tree.node? (directory ++ [name]) ≠ some .directory then
    { tree with
      entries := Entries.insert (directory ++ [name]) node tree.entries
      ordered := Entries.ordered_insert tree.ordered _ _
      rooted := by
        intro place last present
        by_cases same : place ++ [last] = directory ++ [name]
        · obtain ⟨rfl, _⟩ := List.append_inj' same rfl
          rw [Entries.lookup_insert_of_ne (by simp)]
          exact h.1
        · rw [Entries.lookup_insert_of_ne same] at present
          have parent := tree.rooted place last present
          rw [Entries.lookup_insert_of_ne, parent]
          rintro rfl
          exact h.2 parent
      grounded := by
        rw [Entries.lookup_insert_of_ne, tree.grounded]
        intro same
        exact h.2 (same ▸ tree.grounded) }
  else tree

/-- What is found after putting a node into a directory. -/
theorem node?_put {tree : Tree} {directory : Place} {name : Name}
    (isDirectory : tree.node? directory = some .directory)
    (free : tree.node? (directory ++ [name]) ≠ some .directory) (node : Node) (place : Place) :
    (tree.put directory name node).node? place =
      if place = directory ++ [name] then some node else tree.node? place := by
  unfold put
  rw [dif_pos ⟨isDirectory, free⟩]
  by_cases same : place = directory ++ [name]
  · subst same
    simpa [node?] using Entries.lookup_insert_self _ _ _
  · simpa [node?, same] using Entries.lookup_insert_of_ne same _ _

@[simp] theorem workingPlace_put (tree : Tree) (directory : Place) (name : Name) (node : Node) :
    (tree.put directory name node).workingPlace = tree.workingPlace := by
  unfold put
  split <;> rfl

/-- The tree of an empty working directory that lies, under the given name, in a root that
holds nothing else. -/
def starting (name : Name) : Tree := (root.put [] name .directory).workAt [name]

/-- Takes away a place with everything below it.  A place on the way to the working directory
stays. -/
def removeBelow (tree : Tree) (place : Place) : Tree :=
  if h : place.isPrefixOf tree.workingPlace = true then tree
  else
    { tree with
      entries := tree.entries.filter fun entry => !place.isPrefixOf entry.1
      ordered := tree.ordered.filter _
      rooted := by
        intro parent name present
        rw [Entries.lookup_filter (fun key => !place.isPrefixOf key)] at present ⊢
        split at present
        · rename_i kept
          rw [if_pos]
          · exact tree.rooted parent name present
          · simp only [Bool.not_eq_true', List.isPrefixOf_iff_prefix, Bool.eq_false_iff,
              ne_eq] at kept ⊢
            exact fun below => kept (below.trans (List.prefix_append _ _))
        · simp at present
      grounded := by
        rw [Entries.lookup_filter (fun key => !place.isPrefixOf key), if_pos (by simp [h])]
        exact tree.grounded }

/-- Whether a place lies below another one. -/
def isBelow (place other : Place) : Bool := other.isPrefixOf place && place != other

theorem isBelow_append {place other : Place} (below : isBelow place other = true)
    (name : Name) : isBelow (place ++ [name]) other = true := by
  simp only [isBelow, Bool.and_eq_true, List.isPrefixOf_iff_prefix, bne_iff_ne] at below ⊢
  refine ⟨below.1.trans (List.prefix_append _ _), ?_⟩
  rintro rfl
  have short := below.1.length_le
  rw [List.length_append, List.length_singleton] at short
  omega

/-- Takes away what lies below a place.  The places on the way to the working directory stay. -/
def clear (tree : Tree) (place : Place) : Tree :=
  { tree with
    entries := tree.entries.filter fun entry =>
      !isBelow entry.1 place || entry.1.isPrefixOf tree.workingPlace
    ordered := tree.ordered.filter _
    rooted := by
      intro parent name present
      rw [Entries.lookup_filter
        (fun key => !isBelow key place || key.isPrefixOf tree.workingPlace)] at present ⊢
      split at present
      · rename_i kept
        rw [if_pos]
        · exact tree.rooted parent name present
        · rcases Bool.or_eq_true _ _ ▸ kept with above | onTheWay
          · have parentAbove : isBelow parent place = false := by
              refine Bool.eq_false_iff.2 fun below => ?_
              simp [isBelow_append below name] at above
            simp [parentAbove]
          · rw [List.isPrefixOf_iff_prefix] at onTheWay
            simp [List.isPrefixOf_iff_prefix.2 ((List.prefix_append parent [name]).trans onTheWay)]
      · simp at present
    grounded := by
      rw [Entries.lookup_filter
        (fun key => !isBelow key place || key.isPrefixOf tree.workingPlace), if_pos (by simp)]
      exact tree.grounded }

/-- The entries below the working directory, with their places seen from there. -/
def belowWorking (tree : Tree) : List Entry :=
  tree.entries.filterMap fun entry =>
    if tree.workingPlace.isPrefixOf entry.1 ∧ entry.1 ≠ tree.workingPlace then
      some (entry.1.drop tree.workingPlace.length, entry.2)
    else none

end Tree

end ChainLaunchers
