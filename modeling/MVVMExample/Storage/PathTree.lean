import Mathlib.Data.List.Infix
import Mathlib.Data.List.Pairwise

/-!
# Trees addressed by paths

A tree with values at its leaves is given by the paths of its leaves. No leaf
lies above another one, so two paths of leaves are incomparable in the prefix
order. Writing a subtree at a path removes every leaf on the way to the path
and below it.
-/

namespace Storage

/-- Two paths of which one is a prefix of the other. -/
def Comparable (left right : List Key) : Prop :=
  left <+: right ∨ right <+: left

instance [DecidableEq Key] (left right : List Key) :
    Decidable (Comparable left right) :=
  inferInstanceAs (Decidable (_ ∨ _))

theorem Comparable.symm
    {left right : List Key}
    (comparable : Comparable left right) :
    Comparable right left :=
  Or.symm comparable

theorem comparable_append_iff
    {stem left right : List Key} :
    Comparable (stem ++ left) (stem ++ right) ↔ Comparable left right := by
  unfold Comparable
  rw [List.prefix_append_right_inj, List.prefix_append_right_inj]

/-- A path that is comparable with an extension of a path is comparable with
the path. -/
theorem Comparable.of_append
    {stem rest other : List Key}
    (comparable : Comparable (stem ++ rest) other) :
    Comparable stem other := by
  rcases comparable with below | above
  · exact Or.inl ((List.prefix_append stem rest).trans below)
  · exact List.prefix_or_prefix_of_prefix (List.prefix_append stem rest) above

/-- A tree, given by its leaves. -/
structure PathTree (Key Leaf : Type*) where
  leaves : List (List Key × Leaf)
  incomparable : leaves.Pairwise fun left right =>
    ¬Comparable left.1 right.1

/-- What is found at a path. -/
inductive Snapshot (Leaf : Type*)
  | null
  | leaf (value : Leaf)
  | dictionary
  deriving DecidableEq

namespace PathTree

variable {Key Leaf : Type*}

/-- The tree with one leaf. -/
def singleton (path : List Key) (value : Leaf) : PathTree Key Leaf where
  leaves := [(path, value)]
  incomparable := List.pairwise_singleton _ _

/-- Leaves at comparable paths are equal. -/
theorem leaf_eq_of_comparable
    (tree : PathTree Key Leaf)
    {left right : List Key × Leaf}
    (leftLeaf : left ∈ tree.leaves)
    (rightLeaf : right ∈ tree.leaves)
    (comparable : Comparable left.1 right.1) :
    left = right := by
  have symmetric : Std.Symm fun left right : List Key × Leaf =>
      ¬Comparable left.1 right.1 :=
    ⟨fun _ _ notComparable comparable => notComparable comparable.symm⟩
  by_contra different
  exact tree.incomparable.forall leftLeaf rightLeaf different comparable

variable [DecidableEq Key]

/-- What is found at a path: its leaf, or whether there are leaves below. -/
def snapshot (tree : PathTree Key Leaf) (path : List Key) : Snapshot Leaf :=
  match tree.leaves.find? fun leaf => leaf.1 = path with
  | some leaf => .leaf leaf.2
  | none =>
      if ∃ leaf ∈ tree.leaves, path <+: leaf.1 then .dictionary else .null

/-- Write a subtree at a path. -/
def write
    (tree : PathTree Key Leaf)
    (path : List Key)
    (subtree : PathTree Key Leaf) : PathTree Key Leaf where
  leaves :=
    (tree.leaves.filter fun leaf => ¬Comparable path leaf.1) ++
      subtree.leaves.map fun leaf => (path ++ leaf.1, leaf.2)
  incomparable := by
    rw [List.pairwise_append]
    refine ⟨tree.incomparable.filter _, ?_, ?_⟩
    · rw [List.pairwise_map]
      exact subtree.incomparable.imp fun notComparable comparable =>
        notComparable (comparable_append_iff.mp comparable)
    · intro old oldLeaf new newLeaf comparable
      obtain ⟨leaf, _, rfl⟩ := List.mem_map.mp newLeaf
      have notComparable := (List.mem_filter.mp oldLeaf).2
      exact absurd comparable.symm.of_append (by simpa using notComparable)

/-- Remove everything at a path and below it. -/
def remove (tree : PathTree Key Leaf) (path : List Key) :
    PathTree Key Leaf where
  leaves := tree.leaves.filter fun leaf => ¬path <+: leaf.1
  incomparable := tree.incomparable.filter _

/-- A leaf is found at a path exactly when it is there. -/
theorem snapshot_eq_leaf
    {tree : PathTree Key Leaf}
    {path : List Key}
    {value : Leaf} :
    tree.snapshot path = .leaf value ↔ (path, value) ∈ tree.leaves := by
  unfold snapshot
  constructor
  · intro found
    split at found
    · rename_i leaf isFirst
      injection found with sameValue
      obtain rfl : leaf.1 = path := by simpa using List.find?_some isFirst
      subst sameValue
      exact List.mem_of_find?_eq_some isFirst
    · split at found <;> contradiction
  · intro listed
    cases isFirst : tree.leaves.find? fun leaf => leaf.1 = path with
    | none =>
        have := List.find?_eq_none.mp isFirst _ listed
        simp at this
    | some leaf =>
        have samePath : leaf.1 = path := by simpa using List.find?_some isFirst
        obtain rfl := tree.leaf_eq_of_comparable
          (List.mem_of_find?_eq_some isFirst) listed
          (samePath ▸ Or.inl List.prefix_rfl)
        rfl

/-- A dictionary is found at a path exactly when there is a leaf strictly
below it. -/
theorem snapshot_eq_dictionary
    {tree : PathTree Key Leaf}
    {path : List Key} :
    tree.snapshot path = .dictionary ↔
      ∃ leaf ∈ tree.leaves, path <+: leaf.1 ∧ leaf.1 ≠ path := by
  unfold snapshot
  constructor
  · intro found
    split at found
    · contradiction
    · rename_i isNone
      split at found
      · rename_i hasLeaf
        obtain ⟨leaf, listed, below⟩ := hasLeaf
        have := List.find?_eq_none.mp isNone leaf listed
        exact ⟨leaf, listed, below, by simpa using this⟩
      · contradiction
  · rintro ⟨leaf, listed, below, strictly⟩
    split
    · rename_i other isFirst
      have samePath : other.1 = path := by simpa using List.find?_some isFirst
      have same := tree.leaf_eq_of_comparable
        (List.mem_of_find?_eq_some isFirst) listed (Or.inl (samePath ▸ below))
      exact absurd (same ▸ samePath) strictly
    · exact if_pos ⟨leaf, listed, below⟩

@[simp] theorem snapshot_singleton_self (path : List Key) (value : Leaf) :
    (singleton path value).snapshot path = .leaf value :=
  snapshot_eq_leaf.mpr (List.mem_singleton_self _)

theorem mem_leaves_write
    {tree subtree : PathTree Key Leaf}
    {path : List Key}
    {leaf : List Key × Leaf} :
    leaf ∈ (tree.write path subtree).leaves ↔
      (leaf ∈ tree.leaves ∧ ¬Comparable path leaf.1) ∨
        ∃ inner ∈ subtree.leaves, (path ++ inner.1, inner.2) = leaf := by
  simp [write]

theorem mem_leaves_remove
    {tree : PathTree Key Leaf}
    {path : List Key}
    {leaf : List Key × Leaf} :
    leaf ∈ (tree.remove path).leaves ↔
      leaf ∈ tree.leaves ∧ ¬path <+: leaf.1 := by
  simp [remove]

/-- What was written is found where it was written. -/
theorem snapshot_write_self
    (tree subtree : PathTree Key Leaf)
    (path : List Key)
    {rest : List Key}
    {value : Leaf}
    (inner : subtree.snapshot rest = .leaf value) :
    (tree.write path subtree).snapshot (path ++ rest) = .leaf value :=
  snapshot_eq_leaf.mpr (mem_leaves_write.mpr
    (Or.inr ⟨(rest, value), snapshot_eq_leaf.mp inner, rfl⟩))

/-- A write changes no leaf at an incomparable path. -/
theorem snapshot_write_eq_leaf_of_incomparable
    {tree subtree : PathTree Key Leaf}
    {path other : List Key}
    {value : Leaf}
    (incomparable : ¬Comparable path other) :
    (tree.write path subtree).snapshot other = .leaf value ↔
      tree.snapshot other = .leaf value := by
  rw [snapshot_eq_leaf, snapshot_eq_leaf, mem_leaves_write]
  constructor
  · rintro (old | ⟨inner, _, same⟩)
    · exact old.1
    · injection same with samePath _
      exact absurd (Or.inl (samePath ▸ List.prefix_append path inner.1))
        incomparable
  · exact fun old => Or.inl ⟨old, incomparable⟩

/-- A write of a leaf makes every path strictly above it a dictionary. -/
theorem snapshot_write_above
    {tree subtree : PathTree Key Leaf}
    {path rest other : List Key}
    {value : Leaf}
    (inner : subtree.snapshot rest = .leaf value)
    (above : other <+: path)
    (strictly : other ≠ path) :
    (tree.write path subtree).snapshot other = .dictionary := by
  refine snapshot_eq_dictionary.mpr ⟨(path ++ rest, value), ?_, ?_, ?_⟩
  · exact mem_leaves_write.mpr
      (Or.inr ⟨(rest, value), snapshot_eq_leaf.mp inner, rfl⟩)
  · exact above.trans (List.prefix_append path rest)
  · intro same
    have shorter : other.length ≤ path.length := above.length_le
    have lengths := congrArg List.length same
    rw [List.length_append] at lengths
    exact strictly (above.eq_of_length (by omega))

/-- A removal changes no leaf outside the removed path. -/
theorem snapshot_remove_eq_leaf
    {tree : PathTree Key Leaf}
    {path other : List Key}
    {value : Leaf}
    (outside : ¬path <+: other) :
    (tree.remove path).snapshot other = .leaf value ↔
      tree.snapshot other = .leaf value := by
  rw [snapshot_eq_leaf, snapshot_eq_leaf, mem_leaves_remove]
  exact and_iff_left outside

/-- Nothing is found at a removed path. -/
theorem snapshot_remove_self
    (tree : PathTree Key Leaf)
    (path : List Key) :
    (tree.remove path).snapshot path = .null := by
  have noLeaf : ∀ leaf ∈ (tree.remove path).leaves, ¬path <+: leaf.1 :=
    fun leaf listed => (mem_leaves_remove.mp listed).2
  unfold snapshot
  split
  · rename_i leaf isFirst
    have samePath : leaf.1 = path := by simpa using List.find?_some isFirst
    exact absurd (samePath ▸ List.prefix_rfl)
      (noLeaf leaf (List.mem_of_find?_eq_some isFirst))
  · refine if_neg ?_
    rintro ⟨leaf, listed, below⟩
    exact noLeaf leaf listed below

end PathTree
end Storage
