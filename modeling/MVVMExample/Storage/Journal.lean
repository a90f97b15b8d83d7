import Mathlib.Data.Finmap
import Mathlib.Data.List.Induction

/-!
# Finite maps and their journals

A journal is a list of entries, oldest first. Applying it to a map performs the
entries in order. What the resulting map holds at a key is decided by the
latest entry for that key alone, and by the original map when there is none.
-/

namespace Storage

/-- One change of a finite map. -/
inductive Entry (Key Value : Type*)
  | put (key : Key) (value : Value)
  | erase (key : Key)
  deriving DecidableEq

namespace Entry

variable {Key Value : Type*}

/-- The key that an entry changes. -/
def key : Entry Key Value → Key
  | .put key _ => key
  | .erase key => key

/-- What an entry leaves at its key. -/
def value : Entry Key Value → Option Value
  | .put _ value => some value
  | .erase _ => none

variable [DecidableEq Key]

/-- Perform an entry. -/
def perform (map : Finmap fun _ : Key => Value) :
    Entry Key Value → Finmap fun _ : Key => Value
  | .put key value => map.insert key value
  | .erase key => map.erase key

theorem lookup_perform_self
    (map : Finmap fun _ : Key => Value)
    (entry : Entry Key Value) :
    (entry.perform map).lookup entry.key = entry.value := by
  cases entry with
  | put key value => exact Finmap.lookup_insert map
  | erase key => exact Finmap.lookup_erase key map

theorem lookup_perform_ne
    (map : Finmap fun _ : Key => Value)
    {entry : Entry Key Value}
    {other : Key}
    (otherKey : other ≠ entry.key) :
    (entry.perform map).lookup other = map.lookup other := by
  cases entry with
  | put key value => exact Finmap.lookup_insert_of_ne map otherKey
  | erase key => exact Finmap.lookup_erase_ne otherKey

end Entry

namespace Journal

variable {Key Value : Type*} [DecidableEq Key]

/-- Perform the entries of a journal in order. -/
def apply
    (map : Finmap fun _ : Key => Value)
    (journal : List (Entry Key Value)) : Finmap fun _ : Key => Value :=
  journal.foldl Entry.perform map

@[simp] theorem apply_snoc
    (map : Finmap fun _ : Key => Value)
    (journal : List (Entry Key Value))
    (entry : Entry Key Value) :
    apply map (journal ++ [entry]) = entry.perform (apply map journal) := by
  rw [apply, List.foldl_append]
  rfl

/-- What the latest entry for a key says, or else the original map. -/
def recorded
    (map : Finmap fun _ : Key => Value)
    (journal : List (Entry Key Value))
    (key : Key) : Option Value :=
  match journal.reverse.find? fun entry => entry.key = key with
  | some entry => entry.value
  | none => map.lookup key

theorem recorded_snoc
    (map : Finmap fun _ : Key => Value)
    (journal : List (Entry Key Value))
    (entry : Entry Key Value)
    (key : Key) :
    recorded map (journal ++ [entry]) key =
      if entry.key = key then entry.value else recorded map journal key := by
  unfold recorded
  rw [List.reverse_concat]
  by_cases sameKey : entry.key = key
  · rw [List.find?_cons_of_pos (by simpa using sameKey), if_pos sameKey]
  · rw [List.find?_cons_of_neg (by simpa using sameKey), if_neg sameKey]

/-- The map holds exactly what was recorded last. -/
theorem lookup_apply
    (map : Finmap fun _ : Key => Value)
    (journal : List (Entry Key Value))
    (key : Key) :
    (apply map journal).lookup key = recorded map journal key := by
  induction journal using List.reverseRecOn with
  | nil => rfl
  | append_singleton journal entry inductionHypothesis =>
      rw [apply_snoc, recorded_snoc]
      by_cases sameKey : entry.key = key
      · rw [if_pos sameKey, ← sameKey, Entry.lookup_perform_self]
      · rw [if_neg sameKey, Entry.lookup_perform_ne _ (Ne.symm sameKey),
          inductionHypothesis]

end Journal
end Storage
