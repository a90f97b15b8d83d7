import Mathlib.Data.List.Basic

/-!
# Sequences stored in a ring

A ring is a list of slots read from a start position with one wrap at its end.
It holds a sequence when the slot at each offset from the start is the entry of
the sequence at that offset: past the end of the sequence all slots are vacant.
-/

namespace Storage

/-- The position at an offset after `start`, wrapping once. -/
def ringIndex (size start offset : Nat) : Nat :=
  if start + offset < size then start + offset else start + offset - size

theorem ringIndex_lt
    {size start offset : Nat}
    (startInside : start < size)
    (offsetInside : offset ≤ size) :
    ringIndex size start offset < size := by
  unfold ringIndex
  split <;> omega

@[simp] theorem ringIndex_zero
    {size start : Nat}
    (startInside : start < size) :
    ringIndex size start 0 = start := by
  simp [ringIndex, startInside]

/-- Different offsets within one turn are different positions. -/
theorem ringIndex_injective
    {size start left right : Nat}
    (leftInside : left < size)
    (rightInside : right < size)
    (same : ringIndex size start left = ringIndex size start right) :
    left = right := by
  unfold ringIndex at same
  split at same <;> split at same <;> omega

/-- An offset from the next position is the next offset. -/
theorem ringIndex_next
    {size start offset : Nat}
    (startInside : start < size)
    (offsetInside : offset < size) :
    ringIndex size (ringIndex size start 1) offset =
      ringIndex size start (offset + 1) := by
  unfold ringIndex
  split <;> split <;> split <;> omega

/-- A full turn leads back to the start. -/
theorem ringIndex_size (size start : Nat) :
    ringIndex size start size = start := by
  unfold ringIndex
  split <;> omega

/-- The slots hold exactly the listed elements, in order from `start` on. -/
structure RingHolds
    {Element : Type*}
    (slots : List (Option Element))
    (start : Nat)
    (elements : List Element) : Prop where
  fits : elements.length ≤ slots.length
  slot : ∀ offset, offset < slots.length →
    slots[ringIndex slots.length start offset]? = some elements[offset]?

namespace RingHolds

variable
    {Element : Type*}
    {slots : List (Option Element)}
    {start : Nat}
    {elements : List Element}

/-- Vacant slots hold nothing. -/
theorem replicate (size start : Nat) (startInside : start < size ∨ size = 0) :
    RingHolds (List.replicate size (none : Option Element)) start [] where
  fits := Nat.zero_le _
  slot := by
    intro offset inside
    rw [List.length_replicate] at inside ⊢
    have position : ringIndex size start offset < size :=
      ringIndex_lt (by omega) (by omega)
    simp [position]

/-- Writing the slot behind the last element appends an element. -/
theorem push
    (holds : RingHolds slots start elements)
    (startInside : start < slots.length)
    (room : elements.length < slots.length)
    (element : Element) :
    RingHolds
      (slots.set (ringIndex slots.length start elements.length) (some element))
      start (elements ++ [element]) where
  fits := by
    simp only [List.length_append, List.length_singleton, List.length_set]
    omega
  slot := by
    intro offset inside
    rw [List.length_set] at inside ⊢
    by_cases atEnd : elements.length = offset
    · subst atEnd
      rw [List.getElem?_set_self (ringIndex_lt startInside (by omega)),
        List.getElem?_concat_length]
    · have elsewhere :
          ringIndex slots.length start elements.length ≠
            ringIndex slots.length start offset :=
        fun same => atEnd (ringIndex_injective room inside same)
      rw [List.getElem?_set_ne elsewhere, holds.slot offset inside]
      rcases Nat.lt_or_ge offset elements.length with before | behind
      · rw [List.getElem?_append_left before]
      · rw [List.getElem?_eq_none behind, List.getElem?_eq_none (by
          simp only [List.length_append, List.length_singleton]
          omega)]

/-- The first element is in the slot at the start. -/
theorem first
    {element : Element}
    (holds : RingHolds slots start (element :: elements))
    (startInside : start < slots.length) :
    slots[start]? = some (some element) := by
  have atStart := holds.slot 0 (by omega)
  rwa [ringIndex_zero startInside] at atStart

/-- Vacating the slot at the start and moving to the next one drops the first
element. -/
theorem pop
    {element : Element}
    (holds : RingHolds slots start (element :: elements))
    (startInside : start < slots.length) :
    RingHolds (slots.set start none) (ringIndex slots.length start 1)
      elements where
  fits := by
    have fits := holds.fits
    rw [List.length_cons] at fits
    rw [List.length_set]
    omega
  slot := by
    intro offset inside
    rw [List.length_set] at inside ⊢
    rw [ringIndex_next startInside inside]
    rcases Nat.lt_or_ge (offset + 1) slots.length with before | last
    · have elsewhere : start ≠ ringIndex slots.length start (offset + 1) := by
        intro same
        have atZero := (ringIndex_zero startInside).trans same
        have := ringIndex_injective (by omega) before atZero
        omega
      rw [List.getElem?_set_ne elsewhere, holds.slot _ before,
        List.getElem?_cons_succ]
    · have full : offset + 1 = slots.length := by omega
      have fits := holds.fits
      rw [List.length_cons] at fits
      rw [full, ringIndex_size, List.getElem?_set_self startInside,
        List.getElem?_eq_none (by omega)]

/-- The elements before the wrap, then the elements behind it. -/
theorem unroll
    (holds : RingHolds slots start elements)
    (startInside : start ≤ slots.length)
    (first : Nat)
    (isFirst : first = min elements.length (slots.length - start)) :
    (slots.drop start).take first ++ slots.take (elements.length - first) =
      elements.map some := by
  have fits := holds.fits
  apply List.ext_getElem?
  intro offset
  rcases Nat.lt_or_ge offset elements.length with inside | outside
  · have atOffset := holds.slot offset (by omega)
    rw [List.getElem?_map, List.getElem?_eq_getElem inside, Option.map_some]
    rw [List.getElem?_eq_getElem inside] at atOffset
    rcases Nat.lt_or_ge offset first with before | behind
    · rw [List.getElem?_append_left (by
          rw [List.length_take, List.length_drop]
          omega),
        List.getElem?_take_of_lt before, List.getElem?_drop]
      rwa [ringIndex, if_pos (by omega)] at atOffset
    · have firstLength : ((slots.drop start).take first).length = first := by
        rw [List.length_take, List.length_drop]
        omega
      rw [List.getElem?_append_right (by omega), firstLength,
        List.getElem?_take_of_lt (by omega)]
      rw [ringIndex, if_neg (by omega)] at atOffset
      rw [← atOffset]
      congr 1
      omega
  · rw [List.getElem?_eq_none, List.getElem?_eq_none]
    · simpa using outside
    · simp only [List.length_append, List.length_take, List.length_drop]
      omega

/-- Elements laid out from the first slot on. -/
theorem ofList (elements : List Element) (spare : Nat) :
    RingHolds (elements.map some ++ List.replicate spare none) 0 elements where
  fits := by
    simp only [List.length_append, List.length_map, List.length_replicate]
    omega
  slot := by
    intro offset inside
    rw [ringIndex, if_pos (by omega), Nat.zero_add]
    simp only [List.length_append, List.length_map,
      List.length_replicate] at inside
    rcases Nat.lt_or_ge offset elements.length with before | behind
    · rw [List.getElem?_append_left (by simpa using before), List.getElem?_map,
        List.getElem?_eq_getElem before, Option.map_some]
    · rw [List.getElem?_append_right (by simpa using behind),
        List.getElem?_eq_none behind, List.getElem?_replicate, if_pos]
      rw [List.length_map]
      omega

end RingHolds
end Storage
