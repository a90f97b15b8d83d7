import MVVMExample.Platform
import MVVMExample.Storage.Ring
import MVVMExample.Transition.System
import Mathlib.Data.List.Induction

/-!
# The queue of RxSwift

`Queue` keeps its elements in a ring of optional slots. A full ring is replaced
by one of twice its size, and a ring that is less than a quarter full by one of
half its size, unless that quarter is below the initial capacity.

No use of a queue traps. It behaves as a list to which elements are appended
and from which the first element is taken, its storage stays within four times
the number of its elements or the initial capacity, and its resizing costs a
constant number of slot accesses per operation on average.
-/

namespace MVVMExample
namespace RxSwift

open Storage Transition

/-! ## Array accesses -/

/-- Read a slot. -/
def readSlot
    {T : Type*}
    (storage : List (Option T))
    (index : Nat) : Except Trap (Option T) :=
  match storage[index]? with
  | none => .error .indexOutOfRange
  | some slot => .ok slot

/-- Write a slot. -/
def writeSlot
    {T : Type*}
    (storage : List (Option T))
    (index : Nat)
    (slot : Option T) : Except Trap (List (Option T)) :=
  if index < storage.length then .ok (storage.set index slot)
  else .error .indexOutOfRange

/-- The slots of a half-open range. -/
def readSlots
    {T : Type*}
    (storage : List (Option T))
    (lower upper : Nat) : Except Trap (List (Option T)) :=
  if lower ≤ upper ∧ upper ≤ storage.length then
    .ok ((storage.drop lower).take (upper - lower))
  else .error .indexOutOfRange

/-- Replace as many slots from a position on as are given. -/
def writeSlots
    {T : Type*}
    (storage : List (Option T))
    (lower : Nat)
    (slots : List (Option T)) : Except Trap (List (Option T)) :=
  if lower + slots.length ≤ storage.length then
    .ok (storage.take lower ++ slots ++ storage.drop (lower + slots.length))
  else .error .indexOutOfRange

/-- Slots within the storage can be read. -/
theorem readSlots_of_le
    {T : Type*}
    (storage : List (Option T))
    (lower count : Nat)
    (inside : lower + count ≤ storage.length) :
    readSlots storage lower (lower + count) =
      .ok ((storage.drop lower).take count) := by
  rw [readSlots, if_pos ⟨by omega, inside⟩, Nat.add_sub_cancel_left]

/-- Writing the first of the vacant slots behind those already written. -/
theorem writeSlots_vacant
    {T : Type*}
    (written slots : List (Option T))
    (spare : Nat)
    (room : slots.length ≤ spare) :
    writeSlots (written ++ List.replicate spare none) written.length slots =
      .ok ((written ++ slots) ++
        List.replicate (spare - slots.length) none) := by
  rw [writeSlots, if_pos (by
      rw [List.length_append, List.length_replicate]
      omega),
    List.take_left, ← List.drop_drop, List.drop_left, List.drop_replicate]

/-! ## The queue -/

/-- A queue: its slots, the number of its elements, and the position that the
next element is written to. -/
structure Queue (T : Type*) where
  storage : List (Option T)
  count : Nat := 0
  pushNextIndex : Nat := 0
  initialCapacity : Nat
  deriving DecidableEq

namespace Queue

variable {T : Type*}

/-- The factor by which the storage grows and shrinks. -/
def resizeFactor : Nat := 2

/-- An empty queue. -/
def init (capacity : Nat) : Queue T where
  storage := List.replicate capacity none
  initialCapacity := capacity

/-- The position of the first element. -/
def dequeueIndex (queue : Queue T) : Nat :=
  if queue.pushNextIndex < queue.count then
    queue.pushNextIndex + queue.storage.length - queue.count
  else queue.pushNextIndex - queue.count

/-- The first element. -/
def peek (queue : Queue T) : Except Trap T :=
  if queue.count = 0 then .error .preconditionFailed
  else
    match readSlot queue.storage queue.dequeueIndex with
    | .error trap => .error trap
    | .ok none => .error .unexpectedlyNil
    | .ok (some element) => .ok element

/-- Move the elements to the front of a new storage. -/
def resizeTo (queue : Queue T) (size : Nat) : Except Trap (Queue T) := do
  let newStorage := List.replicate size none
  let spaceToEndOfQueue := queue.storage.length - queue.dequeueIndex
  let countElementsInFirstBatch := min queue.count spaceToEndOfQueue
  let numberOfElementsInSecondBatch := queue.count - countElementsInFirstBatch
  let firstBatch ← readSlots queue.storage queue.dequeueIndex
    (queue.dequeueIndex + countElementsInFirstBatch)
  let newStorage ← writeSlots newStorage 0 firstBatch
  let secondBatch ← readSlots queue.storage 0 numberOfElementsInSecondBatch
  let newStorage ← writeSlots newStorage countElementsInFirstBatch secondBatch
  return { queue with pushNextIndex := queue.count, storage := newStorage }

/-- Write an element to the next position, which exists. -/
def enqueueElementOnly (queue : Queue T) (element : T) :
    Except Trap (Queue T) := do
  let storage ← writeSlot queue.storage queue.pushNextIndex (some element)
  let pushNextIndex := queue.pushNextIndex + 1
  return { queue with
      storage := storage
      count := queue.count + 1
      pushNextIndex :=
        if pushNextIndex ≥ storage.length then pushNextIndex - storage.length
        else pushNextIndex }

/-- Append an element, growing a full storage first. -/
def enqueue (queue : Queue T) (element : T) : Except Trap (Queue T) :=
  if queue.count = queue.storage.length then do
    let resized ← queue.resizeTo (max queue.storage.length 1 * resizeFactor)
    resized.enqueueElementOnly element
  else queue.enqueueElementOnly element

/-- Take the first element. -/
def dequeueElementOnly (queue : Queue T) : Except Trap (Queue T × T) := do
  let element ← queue.peek
  let storage ← writeSlot queue.storage queue.dequeueIndex none
  return ({ queue with storage := storage, count := queue.count - 1 }, element)

/-- The size below which a storage shrinks. -/
def downsizeLimit (queue : Queue T) : Nat :=
  queue.storage.length / (resizeFactor * resizeFactor)

/-- Whether the storage shrinks. -/
def Downsizes (queue : Queue T) : Prop :=
  queue.count < queue.downsizeLimit ∧
    queue.downsizeLimit ≥ queue.initialCapacity

instance (queue : Queue T) : Decidable queue.Downsizes :=
  inferInstanceAs (Decidable (_ ∧ _))

/-- Take the first element, if there is one, and shrink the storage if it is
large. -/
def dequeue (queue : Queue T) : Except Trap (Queue T × Option T) :=
  if queue.count = 0 then .ok (queue, none)
  else do
    let (taken, element) ← queue.dequeueElementOnly
    if taken.Downsizes then
      let resized ← taken.resizeTo (taken.storage.length / resizeFactor)
      return (resized, some element)
    else return (taken, some element)

/-- The elements that an iterator yields from a position on. The iterator ends
early at an empty slot. -/
def iterate (storage : List (Option T)) :
    Nat → Nat → Except Trap (List T)
  | 0, _ => .ok []
  | count + 1, index => do
      let index :=
        if index ≥ storage.length then index - storage.length else index
      match ← readSlot storage index with
      | none => return []
      | some element =>
          let rest ← iterate storage count (index + 1)
          return element :: rest

/-- The elements in the order of iteration. -/
def makeIterator (queue : Queue T) : Except Trap (List T) :=
  iterate queue.storage queue.count queue.dequeueIndex

/-! ## The sequence that a queue holds -/

/-- The ring of the queue holds the elements and nothing else, and the next
position is in the storage unless that is empty. -/
structure Represents (queue : Queue T) (elements : List T) : Prop where
  count : queue.count = elements.length
  next : queue.pushNextIndex ≤ queue.storage.length - 1
  holds : RingHolds queue.storage queue.dequeueIndex elements

theorem init_represents (capacity : Nat) :
    (init capacity : Queue T).Represents [] where
  count := rfl
  next := Nat.zero_le _
  holds := by
    apply RingHolds.replicate
    have start : (init capacity : Queue T).dequeueIndex = 0 := rfl
    omega

namespace Represents

variable
    {queue : Queue T}
    {elements : List T}

theorem count_le (represents : queue.Represents elements) :
    queue.count ≤ queue.storage.length :=
  represents.count ▸ represents.holds.fits

theorem dequeueIndex_lt
    (represents : queue.Represents elements)
    (nonempty : 0 < queue.storage.length) :
    queue.dequeueIndex < queue.storage.length := by
  have next := represents.next
  have count := represents.count_le
  unfold dequeueIndex
  split <;> omega

theorem dequeueIndex_le (represents : queue.Represents elements) :
    queue.dequeueIndex ≤ queue.storage.length := by
  have next := represents.next
  have count := represents.count_le
  unfold dequeueIndex
  split <;> omega

/-- The next position is behind the last element. -/
theorem pushNextIndex_eq
    (represents : queue.Represents elements)
    (nonempty : 0 < queue.storage.length) :
    queue.pushNextIndex =
      ringIndex queue.storage.length queue.dequeueIndex elements.length := by
  have next := represents.next
  have count := represents.count_le
  rw [← represents.count]
  unfold dequeueIndex ringIndex
  split <;> split <;> omega

/-- Resizing moves the elements to the front of the new storage. -/
theorem resizeTo
    (represents : queue.Represents elements)
    {size : Nat}
    (room : elements.length < size) :
    queue.resizeTo size =
        .ok { queue with
                pushNextIndex := elements.length
                storage :=
                  elements.map some ++
                    List.replicate (size - elements.length) none } ∧
      Represents
        { queue with
            pushNextIndex := elements.length
            storage :=
              elements.map some ++
                List.replicate (size - elements.length) none }
        elements := by
  constructor
  · have inside := represents.dequeueIndex_le
    have fits := represents.holds.fits
    have unrolled := represents.holds.unroll inside _ rfl
    unfold Queue.resizeTo
    simp only [represents.count]
    generalize isFirst : min elements.length
      (queue.storage.length - queue.dequeueIndex) = first at unrolled
    have firstRead :=
      readSlots_of_le queue.storage queue.dequeueIndex first (by omega)
    have secondRead :=
      readSlots_of_le queue.storage 0 (elements.length - first) (by omega)
    rw [Nat.zero_add, List.drop_zero] at secondRead
    have firstLength :
        ((queue.storage.drop queue.dequeueIndex).take first).length =
          first := by
      rw [List.length_take, List.length_drop]
      omega
    have secondLength :
        (queue.storage.take (elements.length - first)).length =
          elements.length - first := by
      rw [List.length_take]
      omega
    generalize (queue.storage.drop queue.dequeueIndex).take first =
      firstBatch at *
    generalize queue.storage.take (elements.length - first) =
      secondBatch at *
    have firstWritten := writeSlots_vacant [] firstBatch size (by omega)
    have secondWritten := writeSlots_vacant firstBatch secondBatch
      (size - firstBatch.length) (by omega)
    rw [firstLength, secondLength, unrolled, Nat.sub_sub] at secondWritten
    simp only [List.nil_append, List.length_nil, firstLength] at firstWritten
    simp only [firstRead, firstWritten, secondRead, secondWritten, bind,
      Except.bind, pure, Except.pure]
    congr 4
    omega
  · constructor
    · exact represents.count
    · simp only [List.length_append, List.length_map, List.length_replicate]
      omega
    · have laidOut := RingHolds.ofList elements (size - elements.length)
      simpa [dequeueIndex, represents.count] using laidOut

/-- With room behind the last element, an element is appended. -/
theorem enqueueElementOnly
    (represents : queue.Represents elements)
    (room : elements.length < queue.storage.length)
    (element : T) :
    ∃ after, queue.enqueueElementOnly element = .ok after ∧
      after.Represents (elements ++ [element]) ∧
        after.storage.length = queue.storage.length ∧
          after.initialCapacity = queue.initialCapacity := by
  have next := represents.next
  have count := represents.count
  have written : writeSlot queue.storage queue.pushNextIndex (some element) =
      .ok (queue.storage.set queue.pushNextIndex (some element)) := by
    rw [writeSlot, if_pos (by omega)]
  simp only [Queue.enqueueElementOnly, written, bind, Except.bind, pure,
    Except.pure, List.length_set]
  refine ⟨_, rfl, ⟨?_, ?_, ?_⟩, List.length_set, rfl⟩
  · simp [count]
  · simp only [List.length_set]
    split <;> omega
  · have pushed := represents.holds.push
      (represents.dequeueIndex_lt (by omega)) room element
    rw [← represents.pushNextIndex_eq (by omega)] at pushed
    have sameStart : dequeueIndex
        { queue with
            storage := queue.storage.set queue.pushNextIndex (some element)
            count := queue.count + 1
            pushNextIndex :=
              if queue.pushNextIndex + 1 ≥ queue.storage.length then
                queue.pushNextIndex + 1 - queue.storage.length
              else queue.pushNextIndex + 1 } = queue.dequeueIndex := by
      simp only [dequeueIndex, List.length_set]
      split <;> split <;> split <;> omega
    rw [sameStart]
    exact pushed

/-- Enqueueing appends the element; only a full storage grows. -/
theorem enqueue
    (represents : queue.Represents elements)
    (element : T) :
    ∃ after, queue.enqueue element = .ok after ∧
      after.Represents (elements ++ [element]) ∧
        after.storage.length =
          (if queue.count = queue.storage.length then
            max queue.storage.length 1 * resizeFactor
          else queue.storage.length) ∧
        after.initialCapacity = queue.initialCapacity := by
  have count := represents.count
  have fits := represents.holds.fits
  unfold Queue.enqueue
  split
  · have room : elements.length <
        max queue.storage.length 1 * resizeFactor := by
      unfold resizeFactor
      omega
    obtain ⟨resized, resizedRepresents⟩ := represents.resizeTo room
    have size :
        (elements.map some ++
          List.replicate
            (max queue.storage.length 1 * resizeFactor - elements.length)
            (none : Option T)).length =
          max queue.storage.length 1 * resizeFactor := by
      rw [List.length_append, List.length_map, List.length_replicate]
      omega
    obtain ⟨after, enqueued, afterRepresents, sameSize, sameCapacity⟩ :=
      resizedRepresents.enqueueElementOnly (by rwa [size]) element
    refine ⟨after, ?_, afterRepresents, sameSize.trans size, sameCapacity⟩
    rw [resized]
    exact enqueued
  · exact represents.enqueueElementOnly (by omega) element

/-- The first element can be seen. -/
theorem peek
    {element : T}
    (represents : queue.Represents (element :: elements)) :
    queue.peek = .ok element := by
  have count := represents.count
  have fits := represents.holds.fits
  rw [List.length_cons] at count fits
  have first := represents.holds.first
    (represents.dequeueIndex_lt (by omega))
  rw [Queue.peek, if_neg (by omega), readSlot, first]

/-- The first element can be taken. -/
theorem dequeueElementOnly
    {element : T}
    (represents : queue.Represents (element :: elements)) :
    ∃ after, queue.dequeueElementOnly = .ok (after, element) ∧
      after.Represents elements ∧
        after.storage.length = queue.storage.length ∧
          after.initialCapacity = queue.initialCapacity := by
  have next := represents.next
  have count := represents.count
  have fits := represents.holds.fits
  rw [List.length_cons] at count fits
  have inside := represents.dequeueIndex_lt (by omega)
  have written : writeSlot queue.storage queue.dequeueIndex none =
      .ok (queue.storage.set queue.dequeueIndex none) := by
    rw [writeSlot, if_pos inside]
  simp only [Queue.dequeueElementOnly, represents.peek, written, bind,
    Except.bind, pure, Except.pure]
  refine ⟨_, rfl, ⟨?_, ?_, ?_⟩, List.length_set, rfl⟩
  · simp [count]
  · simpa using next
  · have nextStart : dequeueIndex
        { queue with
            storage := queue.storage.set queue.dequeueIndex none
            count := queue.count - 1 } =
          ringIndex queue.storage.length queue.dequeueIndex 1 := by
      simp only [dequeueIndex, ringIndex, List.length_set]
      split <;> split <;> split <;> omega
    rw [nextStart]
    exact represents.holds.pop inside

/-- Dequeueing takes the first element; the storage may shrink to half. -/
theorem dequeue
    {element : T}
    (represents : queue.Represents (element :: elements)) :
    ∃ after, queue.dequeue = .ok (after, some element) ∧
      after.Represents elements ∧
        after.storage.length =
          (if elements.length < queue.downsizeLimit ∧
              queue.downsizeLimit ≥ queue.initialCapacity then
            queue.storage.length / resizeFactor
          else queue.storage.length) ∧
        after.initialCapacity = queue.initialCapacity := by
  have count := represents.count
  rw [List.length_cons] at count
  obtain ⟨taken, dequeued, takenRepresents, sameSize, sameCapacity⟩ :=
    represents.dequeueElementOnly
  have sameCondition : taken.Downsizes ↔
      elements.length < queue.downsizeLimit ∧
        queue.downsizeLimit ≥ queue.initialCapacity := by
    unfold Downsizes downsizeLimit
    rw [takenRepresents.count, sameSize, sameCapacity]
  simp only [Queue.dequeue, dequeued, bind, Except.bind, pure, Except.pure]
  rw [if_neg (by omega)]
  by_cases downsizes : taken.Downsizes
  · have small := (sameCondition.mp downsizes).1
    have room : elements.length < taken.storage.length / resizeFactor := by
      unfold downsizeLimit resizeFactor at small
      unfold resizeFactor
      omega
    obtain ⟨resized, resizedRepresents⟩ := takenRepresents.resizeTo room
    rw [if_pos downsizes, if_pos (sameCondition.mp downsizes), resized]
    refine ⟨_, rfl, resizedRepresents, ?_, sameCapacity⟩
    rw [← sameSize]
    simp only [List.length_append, List.length_map, List.length_replicate]
    omega
  · rw [if_neg downsizes, if_neg (fun shrinks =>
      downsizes (sameCondition.mpr shrinks))]
    exact ⟨taken, rfl, takenRepresents, sameSize, sameCapacity⟩

/-- Nothing can be taken from an empty queue. -/
theorem dequeue_nil (represents : queue.Represents []) :
    queue.dequeue = .ok (queue, none) := by
  unfold Queue.dequeue
  exact if_pos represents.count

/-- An iterator yields the elements behind an offset. -/
theorem iterate
    (represents : queue.Represents elements)
    {offset index : Nat}
    (inside : offset ≤ elements.length)
    (position : index = queue.dequeueIndex + offset ∨
      index + queue.storage.length = queue.dequeueIndex + offset) :
    Queue.iterate queue.storage (elements.length - offset) index =
      .ok (elements.drop offset) := by
  generalize remaining : elements.length - offset = count
  induction count generalizing offset index with
  | zero =>
      rw [Queue.iterate, List.drop_eq_nil_of_le (by omega)]
  | succ count inductionHypothesis =>
      have fits := represents.holds.fits
      have start := represents.dequeueIndex_lt (by omega)
      have element : elements[offset]? = some (elements[offset]) :=
        List.getElem?_eq_getElem (by omega)
      have slot := represents.holds.slot offset (by omega)
      have wrapped :
          (if index ≥ queue.storage.length then index - queue.storage.length
            else index) =
            ringIndex queue.storage.length queue.dequeueIndex offset := by
        unfold ringIndex
        split <;> split <;> omega
      have rest :
          Queue.iterate queue.storage count
              (ringIndex queue.storage.length queue.dequeueIndex offset + 1) =
            .ok (elements.drop (offset + 1)) := by
        apply inductionHypothesis
        · omega
        · unfold ringIndex
          split <;> omega
        · omega
      rw [List.drop_eq_getElem_cons (by omega)]
      simp only [Queue.iterate, wrapped, readSlot, slot, element, rest, bind,
        Except.bind, pure, Except.pure]

/-- Iteration yields the elements in order. -/
theorem makeIterator (represents : queue.Represents elements) :
    queue.makeIterator = .ok elements := by
  have yielded := represents.iterate (Nat.zero_le _) (.inl rfl)
  rwa [Nat.sub_zero, Nat.add_zero, List.drop_zero, ← represents.count]
    at yielded

end Represents

/-! ## Uses of a queue -/

/-- Uses of a queue. -/
inductive Use (T : Type*)
  | enqueue (element : T)
  | dequeue
  | peek
  | iterate
  deriving DecidableEq

/-- A list that is used as a queue, with the answers to its uses. -/
structure Fifo (T : Type*) where
  elements : List T := []
  answers : List (List T) := []

namespace Fifo

/-- Append an element, take or see the first one, or see all. -/
def perform (fifo : Fifo T) : Use T → Fifo T
  | .enqueue element =>
      { elements := fifo.elements ++ [element], answers := fifo.answers ++ [[]] }
  | .dequeue =>
      { elements := fifo.elements.tail
        answers := fifo.answers ++ [fifo.elements.head?.toList] }
  | .peek =>
      { fifo with answers := fifo.answers ++ [fifo.elements.head?.toList] }
  | .iterate => { fifo with answers := fifo.answers ++ [fifo.elements] }

/-- The list after a number of uses. -/
def after (uses : List (Use T)) : Fifo T :=
  uses.foldl perform {}

theorem after_snoc (uses : List (Use T)) (use : Use T) :
    after (uses ++ [use]) = (after uses).perform use := by
  rw [after, List.foldl_append]
  rfl

end Fifo

/-- The slots that resizing initialises and copies. -/
def resizeAccesses (queue : Queue T) (size : Nat) : Nat :=
  size + queue.count

/-- The slots that `enqueue` writes. -/
def enqueueAccesses (queue : Queue T) : Nat :=
  if queue.count = queue.storage.length then
    queue.resizeAccesses (max queue.storage.length 1 * resizeFactor) + 1
  else 1

/-- The slots that `dequeue` writes. -/
def dequeueAccesses (queue : Queue T) : Nat :=
  if queue.count = 0 then 0
  else
    let taken := { queue with count := queue.count - 1 }
    if taken.Downsizes then
      taken.resizeAccesses (taken.storage.length / resizeFactor) + 1
    else 1

/-- A queue in use, with the answers it gave and the slots it wrote. -/
structure InUse (T : Type*) where
  queue : Queue T
  answers : List (List T) := []
  accesses : Nat := 0
  deriving DecidableEq

namespace InUse

/-- A queue that has not been used. -/
def new (capacity : Nat) : InUse T where
  queue := .init capacity

/-- Use the queue. -/
def perform (inUse : InUse T) : Use T → Except Trap (InUse T)
  | .enqueue element => do
      let queue ← inUse.queue.enqueue element
      return {
        queue := queue
        answers := inUse.answers ++ [[]]
        accesses := inUse.accesses + inUse.queue.enqueueAccesses }
  | .dequeue => do
      let (queue, element) ← inUse.queue.dequeue
      return {
        queue := queue
        answers := inUse.answers ++ [element.toList]
        accesses := inUse.accesses + inUse.queue.dequeueAccesses }
  | .peek => do
      let element ← inUse.queue.peek
      return { inUse with answers := inUse.answers ++ [[element]] }
  | .iterate => do
      let elements ← inUse.queue.makeIterator
      return { inUse with answers := inUse.answers ++ [elements] }

/-- Peeking is allowed while there is an element. -/
def CanPerform (inUse : InUse T) : Use T → Prop
  | .peek => inUse.queue.count ≠ 0
  | _ => True

instance (inUse : InUse T) (use : Use T) : Decidable (inUse.CanPerform use) :=
  match use with
  | .enqueue _ => inferInstanceAs (Decidable True)
  | .dequeue => inferInstanceAs (Decidable True)
  | .peek => inferInstanceAs (Decidable (_ ≠ _))
  | .iterate => inferInstanceAs (Decidable True)

/-- A queue under any sequence of uses. -/
def system : System (InUse T) (Use T) Trap where
  Enabled := CanPerform
  step := perform

instance (inUse : InUse T) (use : Use T) :
    Decidable (system.Enabled inUse use) :=
  inferInstanceAs (Decidable (inUse.CanPerform use))

/-- Three times the distance of the storage from being half full. -/
def potential (size count : Nat) : Nat :=
  3 * ((2 * count - size) + (size - 2 * count))

/-- The queue gave the answers of the list and holds its elements. Its storage
is at most a quarter empty of what it could shrink to, and seven slots for each
use pay for the slots written and the potential. -/
structure Follows
    (inUse : InUse T)
    (capacity : Nat)
    (fifo : Fifo T) : Prop where
  represents : inUse.queue.Represents fifo.elements
  answers : inUse.answers = fifo.answers
  sameCapacity : inUse.queue.initialCapacity = capacity
  compact : capacity ≤ inUse.queue.storage.length / 4 →
    inUse.queue.storage.length / 4 ≤ fifo.elements.length
  paid :
    inUse.accesses +
        potential inUse.queue.storage.length fifo.elements.length ≤
      7 * fifo.answers.length + 3 * capacity

theorem new_follows (capacity : Nat) :
    (new capacity : InUse T).Follows capacity {} where
  represents := init_represents capacity
  answers := rfl
  sameCapacity := rfl
  compact := by
    simp only [new, init, List.length_replicate]
    omega
  paid := by
    simp [new, init, potential]

variable
    {inUse : InUse T}
    {capacity : Nat}
    {fifo : Fifo T}

theorem Follows.enqueue
    (follows : inUse.Follows capacity fifo)
    (element : T) :
    ∃ after, inUse.perform (.enqueue element) = .ok after ∧
      after.Follows capacity (fifo.perform (.enqueue element)) := by
  obtain ⟨queue, enqueued, represents, size, sameCapacity⟩ :=
    follows.represents.enqueue element
  have count := follows.represents.count
  have compact := follows.compact
  have paid := follows.paid
  simp only [perform, enqueued, bind, Except.bind]
  refine ⟨_, rfl, ?_⟩
  constructor
  · exact represents
  · rw [follows.answers]
    rfl
  · exact sameCapacity.trans follows.sameCapacity
  · simp only [Fifo.perform, size, List.length_append, List.length_singleton,
      resizeFactor]
    split <;> omega
  · simp only [Fifo.perform, size, List.length_append, List.length_singleton,
      enqueueAccesses, resizeAccesses, resizeFactor]
    unfold potential at *
    split <;> omega

theorem Follows.dequeue (follows : inUse.Follows capacity fifo) :
    ∃ after, inUse.perform .dequeue = .ok after ∧
      after.Follows capacity (fifo.perform .dequeue) := by
  obtain ⟨elements, answers⟩ := fifo
  have count := follows.represents.count
  have paid := follows.paid
  have compact := follows.compact
  cases elements with
  | nil =>
      simp only [perform, follows.represents.dequeue_nil, bind, Except.bind]
      refine ⟨_, rfl, ?_⟩
      have free : inUse.queue.dequeueAccesses = 0 := if_pos count
      constructor
      · exact follows.represents
      · rw [follows.answers]
        rfl
      · exact follows.sameCapacity
      · exact compact
      · simp only [Fifo.perform, free, List.tail_nil, List.length_append,
          List.length_singleton]
        simp only at paid
        omega
  | cons element elements =>
      obtain ⟨queue, dequeued, represents, size, sameCapacity⟩ :=
        follows.represents.dequeue
      simp only [List.length_cons] at count paid compact
      have writes : inUse.queue.dequeueAccesses =
          if elements.length < inUse.queue.storage.length / 4 ∧
              inUse.queue.storage.length / 4 ≥ capacity then
            inUse.queue.storage.length / 2 + elements.length + 1
          else 1 := by
        have nonempty : inUse.queue.count ≠ 0 := by omega
        have afterwards : inUse.queue.count - 1 = elements.length := by omega
        rw [dequeueAccesses, if_neg nonempty, afterwards,
          ← follows.sameCapacity]
        rfl
      have shrinks : queue.storage.length =
          if elements.length < inUse.queue.storage.length / 4 ∧
              inUse.queue.storage.length / 4 ≥ capacity then
            inUse.queue.storage.length / 2
          else inUse.queue.storage.length := by
        rw [size, follows.sameCapacity]
        rfl
      unfold potential at paid
      have arithmetic :
          (capacity ≤ queue.storage.length / 4 →
              queue.storage.length / 4 ≤ elements.length) ∧
            inUse.accesses + inUse.queue.dequeueAccesses +
                potential queue.storage.length elements.length ≤
              7 * (answers.length + 1) + 3 * capacity := by
        unfold potential
        rw [writes, shrinks]
        split <;> omega
      simp only [perform, dequeued, bind, Except.bind]
      refine ⟨_, rfl, ?_⟩
      constructor
      · exact represents
      · rw [follows.answers]
        rfl
      · exact sameCapacity.trans follows.sameCapacity
      · exact arithmetic.1
      · simpa only [Fifo.perform, List.tail_cons, List.length_append,
          List.length_singleton] using arithmetic.2

/-- The step lemma: no use traps, and the queue keeps following the list. -/
theorem Follows.perform
    (follows : inUse.Follows capacity fifo)
    {use : Use T}
    (enabled : inUse.CanPerform use) :
    ∃ after, inUse.perform use = .ok after ∧
      after.Follows capacity (fifo.perform use) := by
  cases use with
  | enqueue element => exact follows.enqueue element
  | dequeue => exact follows.dequeue
  | peek =>
      obtain ⟨elements, answers⟩ := fifo
      cases elements with
      | nil => exact absurd follows.represents.count enabled
      | cons element elements =>
          simp only [InUse.perform, follows.represents.peek, bind, Except.bind]
          refine ⟨_, rfl, ?_⟩
          have paid := follows.paid
          constructor
          · exact follows.represents
          · rw [follows.answers]
            rfl
          · exact follows.sameCapacity
          · exact follows.compact
          · simp only [Fifo.perform, List.length_append, List.length_singleton]
            simp only at paid
            omega
  | iterate =>
      simp only [InUse.perform, follows.represents.makeIterator, bind,
        Except.bind]
      refine ⟨_, rfl, ?_⟩
      have paid := follows.paid
      constructor
      · exact follows.represents
      · rw [follows.answers]
        rfl
      · exact follows.sameCapacity
      · exact follows.compact
      · simp only [Fifo.perform, List.length_append, List.length_singleton]
        omega

/-- The run lemma. -/
theorem Follows.of_run
    {uses : List (Use T)}
    (run : system.Run (new capacity) uses inUse) :
    inUse.Follows capacity (.after uses) := by
  refine System.Run.invariant
    (fun uses inUse => inUse.Follows capacity (.after uses))
    (new_follows capacity) ?_ run
  intro uses use before after follows enabled performed
  obtain ⟨next, nextPerformed, nextFollows⟩ := follows.perform enabled
  obtain rfl : next = after :=
    Except.ok.inj (nextPerformed.symm.trans performed)
  rw [Fifo.after_snoc]
  exact nextFollows

/-- After every sequence of uses the queue has given the answers of a list that
is used as a queue, the next use does not trap, and the storage is at most four
times as large, up to rounding, as the elements or the initial capacity need. -/
theorem uses_follow_list
    {uses : List (Use T)}
    (run : system.Run (new capacity) uses inUse) :
    inUse.answers = (Fifo.after uses).answers ∧
      inUse.queue.makeIterator = .ok (Fifo.after uses).elements ∧
      (∀ use, system.Enabled inUse use →
        ∃ after, system.step inUse use = .ok after) ∧
      inUse.queue.storage.length ≤ 4 * max inUse.queue.count capacity + 3 := by
  have follows := Follows.of_run run
  refine ⟨follows.answers, follows.represents.makeIterator, ?_, ?_⟩
  · intro use enabled
    obtain ⟨after, performed, _⟩ := follows.perform enabled
    exact ⟨after, performed⟩
  · have compact := follows.compact
    have count := follows.represents.count
    omega

/-- Elements are taken in the order in which they were added, also when the
ring wraps and grows. -/
theorem uses_follow_list_wrapped :
    ∃ inUse : InUse Nat,
      system.Run (new 2)
          [.enqueue 1, .enqueue 2, .dequeue, .enqueue 3, .enqueue 4, .peek]
          inUse ∧
        inUse.answers = [[], [], [1], [], [], [2]] ∧
        inUse.queue.makeIterator = .ok [2, 3, 4] ∧
        inUse.queue.storage.length ≤ 4 * max inUse.queue.count 2 + 3 := by
  have run : system.Run (new 2)
      [.enqueue 1, .enqueue 2, .dequeue, .enqueue 3, .enqueue 4, .peek] _ :=
    System.run_of_replay rfl
  obtain ⟨answers, elements, _, size⟩ := uses_follow_list run
  exact ⟨_, run, answers, elements, size⟩

end InUse
end Queue
end RxSwift
end MVVMExample
