import MVVMExample.Platform
import MVVMExample.Transition.System
import Mathlib.Data.Finmap

/-!
# The bag of RxSwift

`Bag` keeps the observers of subjects and the members of composite disposables.
The first element is stored inline, the next thirty in an array and the rest in
a dictionary. An inline slot that was vacated is filled again, so that elements
are not enumerated in the order of their insertion.

A bag is a finite map from the keys it hands out. Keys count insertions modulo
`2 ^ 64`; as long as they are not used up, an insertion gets a new key, a
removal returns what was inserted under the key, and an enumeration visits every
element once.
-/

namespace MVVMExample
namespace RxSwift

open Transition

/-- Identifier of an inserted element. -/
structure BagKey where
  rawValue : BitVec 64
  deriving DecidableEq

/-- The key of the insertion with a number. -/
def BagKey.ofNat (number : Nat) : BagKey := ⟨BitVec.ofNat 64 number⟩

/-- Keys differ until they wrap around. -/
theorem BagKey.ofNat_ne_of_lt
    {number later : Nat}
    (earlier : number < later)
    (keysLeft : later < 2 ^ 64) :
    BagKey.ofNat number ≠ .ofNat later := by
  intro same
  have sameNumber := congrArg (fun key => key.rawValue.toNat) same
  simp only [BagKey.ofNat, BitVec.toNat_ofNat] at sameNumber
  rw [Nat.mod_eq_of_lt keysLeft, Nat.mod_eq_of_lt (by omega)] at sameNumber
  omega

/-- A key with its element. -/
abbrev BagEntry (T : Type*) := Σ _ : BagKey, T

/-- The size of the array of entries. -/
def arrayDictionaryMaxSize : Nat := 30

/-- A bag. -/
structure Bag (T : Type*) where
  nextKey : BagKey := ⟨0⟩
  key0 : Option BagKey := none
  value0 : Option T := none
  pairs : List (BagEntry T) := []
  dictionary : Option (AList fun _ : BagKey => T) := none
  onlyFastPath : Bool := true
  deriving DecidableEq

namespace Bag

variable {T : Type*}

/-- Insert an element under the next key. -/
def insert (bag : Bag T) (element : T) : Bag T × BagKey :=
  let key := bag.nextKey
  let bag := { bag with nextKey := ⟨bag.nextKey.rawValue + 1⟩ }
  if bag.key0 = none then
    ({ bag with key0 := some key, value0 := some element }, key)
  else
    let bag := { bag with onlyFastPath := false }
    match bag.dictionary with
    | some dictionary =>
        ({ bag with dictionary := some (dictionary.insert key element) }, key)
    | none =>
        if bag.pairs.length < arrayDictionaryMaxSize then
          ({ bag with pairs := bag.pairs ++ [⟨key, element⟩] }, key)
        else
          ({ bag with dictionary := some (AList.singleton key element) }, key)

/-- The number of elements. -/
def count (bag : Bag T) : Nat :=
  let dictionaryCount := (bag.dictionary.map fun dictionary =>
    dictionary.entries.length).getD 0
  (if bag.value0.isSome then 1 else 0) + bag.pairs.length + dictionaryCount

/-- Remove all elements. -/
def removeAll (bag : Bag T) : Bag T :=
  { bag with
      key0 := none
      value0 := none
      pairs := []
      dictionary := bag.dictionary.map fun _ => ∅ }

/-- Remove the element with a key. -/
def removeKey (bag : Bag T) (key : BagKey) : Except Trap (Bag T × Option T) :=
  if bag.key0 = some key then
    match bag.value0 with
    | none => .error .unexpectedlyNil
    | some value => .ok ({ bag with key0 := none, value0 := none }, some value)
  else
    match bag.dictionary.bind fun dictionary => dictionary.lookup key with
    | some existingObject =>
        .ok ({ bag with
                dictionary := bag.dictionary.map fun dictionary =>
                  dictionary.erase key }, some existingObject)
    | none =>
        match bag.pairs.dlookup key with
        | some value =>
            .ok ({ bag with pairs := bag.pairs.kerase key }, some value)
        | none => .ok (bag, none)

/-- The elements in the order in which they are visited. -/
def forEach (bag : Bag T) : List T :=
  if bag.onlyFastPath then bag.value0.toList
  else
    bag.value0.toList ++ bag.pairs.map Sigma.snd ++
      (bag.dictionary.map fun dictionary =>
        dictionary.entries.map Sigma.snd).getD []

/-- The observers that an event is sent to, in order. -/
def dispatch (bag : Bag T) : List T := bag.forEach

/-- The members that are disposed of, in order. -/
def disposeAll (bag : Bag T) : List T := bag.forEach

/-! ## The entries of a bag -/

/-- The inline entry. -/
def slot (bag : Bag T) : List (BagEntry T) :=
  match bag.key0, bag.value0 with
  | some key, some value => [⟨key, value⟩]
  | _, _ => []

/-- The entries of the dictionary. -/
def spilled (bag : Bag T) : List (BagEntry T) :=
  (bag.dictionary.map AList.entries).getD []

/-- All entries. -/
def entries (bag : Bag T) : List (BagEntry T) :=
  bag.slot ++ (bag.pairs ++ bag.spilled)

/-- The inline key and element come together, and the fast path is taken only
when nothing else is stored. -/
structure WellFormed (bag : Bag T) : Prop where
  filled : bag.key0.isSome = bag.value0.isSome
  fast : bag.onlyFastPath = true → bag.pairs = [] ∧ bag.dictionary = none

theorem wellFormed_empty : ({} : Bag T).WellFormed :=
  ⟨rfl, fun _ => ⟨rfl, rfl⟩⟩

namespace WellFormed

variable {bag : Bag T}

theorem slot_values (wellFormed : bag.WellFormed) :
    bag.slot.map Sigma.snd = bag.value0.toList := by
  have filled := wellFormed.filled
  unfold slot
  cases hasKey : bag.key0 <;> cases hasValue : bag.value0 <;>
    simp_all

/-- An enumeration visits the elements of all entries. -/
theorem forEach_eq (wellFormed : bag.WellFormed) :
    bag.forEach = bag.entries.map Sigma.snd := by
  unfold forEach entries spilled
  rw [List.map_append, wellFormed.slot_values]
  split
  · rename_i isFast
    obtain ⟨noPairs, noDictionary⟩ := wellFormed.fast isFast
    simp [noPairs, noDictionary]
  · cases bag.dictionary <;> simp

theorem count_eq (wellFormed : bag.WellFormed) :
    bag.count = bag.entries.length := by
  have slotLength : bag.slot.length = if bag.value0.isSome then 1 else 0 := by
    rw [← List.length_map Sigma.snd, wellFormed.slot_values]
    cases bag.value0 <;> rfl
  unfold count entries spilled
  rw [List.length_append, List.length_append, slotLength]
  cases bag.dictionary <;> simp [Nat.add_assoc]

theorem insert (wellFormed : bag.WellFormed) (element : T) :
    (bag.insert element).1.WellFormed := by
  unfold Bag.insert
  dsimp only
  split
  · exact ⟨rfl, wellFormed.fast⟩
  · split
    · exact ⟨wellFormed.filled, fun isFast => absurd isFast (by simp)⟩
    · split
      · exact ⟨wellFormed.filled, fun isFast => absurd isFast (by simp)⟩
      · exact ⟨wellFormed.filled, fun isFast => absurd isFast (by simp)⟩

theorem removeAll (wellFormed : bag.WellFormed) : bag.removeAll.WellFormed := by
  refine ⟨rfl, fun isFast => ⟨rfl, ?_⟩⟩
  rw [Bag.removeAll, (wellFormed.fast isFast).2]
  rfl

/-- An insertion under a key that is not in use adds its entry. -/
theorem entries_insert
    (wellFormed : bag.WellFormed)
    (unused : bag.nextKey ∉ bag.entries.keys)
    (element : T) :
    (bag.insert element).1.entries.Perm
      (⟨bag.nextKey, element⟩ :: bag.entries) := by
  have filled := wellFormed.filled
  have unusedInSpilled : bag.nextKey ∉ bag.spilled.keys := by
    intro used
    apply unused
    simp only [entries, List.keys, List.map_append, List.mem_append]
    exact .inr (.inr used)
  unfold Bag.insert
  dsimp only
  split
  · rename_i noKey
    have noValue : bag.value0 = none := by
      rw [noKey] at filled
      cases hasValue : bag.value0 with
      | none => rfl
      | some value => simp [hasValue] at filled
    have noSlot : bag.slot = [] := by simp [slot, noKey]
    rw [entries, entries, noSlot]
    exact .refl _
  · split
    · rename_i dictionary hasDictionary
      have inserted : (dictionary.insert bag.nextKey element).entries =
          ⟨bag.nextKey, element⟩ :: dictionary.entries := by
        rw [AList.entries_insert]
        congr 1
        apply List.kerase_of_notMem_keys
        simpa [spilled, hasDictionary] using unusedInSpilled
      simp only [entries, slot, spilled, hasDictionary, Option.map_some,
        Option.getD_some, inserted]
      rw [← List.append_assoc, ← List.append_assoc]
      exact List.perm_middle
    · rename_i noDictionary
      split
      · simp only [entries, slot, spilled, noDictionary, Option.map_none,
          Option.getD_none, List.append_nil]
        rw [← List.append_assoc]
        exact List.perm_append_singleton _ _
      · simp only [entries, slot, spilled, noDictionary, Option.map_none,
          Option.map_some, Option.getD_none, Option.getD_some, List.append_nil]
        rw [← List.append_assoc]
        exact List.perm_append_singleton _ _

theorem entries_removeAll (bag : Bag T) : bag.removeAll.entries = [] := by
  cases hasDictionary : bag.dictionary <;>
    simp [Bag.removeAll, entries, slot, spilled, hasDictionary]

/-- A key that is not inline is looked up in the array and the dictionary. -/
theorem dlookup_entries
    {key : BagKey}
    (notInSlot : key ∉ bag.slot.keys) :
    bag.entries.dlookup key =
      (bag.pairs.dlookup key).or (bag.spilled.dlookup key) := by
  rw [entries, List.dlookup_append, List.dlookup_eq_none.mpr notInSlot,
    List.dlookup_append]
  rfl

/-- Removing the inline entry. -/
theorem removeKey_slot
    (wellFormed : bag.WellFormed)
    {key : BagKey}
    (inSlot : bag.key0 = some key) :
    bag.removeKey key =
        .ok ({ bag with key0 := none, value0 := none },
          bag.entries.dlookup key) ∧
      WellFormed { bag with key0 := none, value0 := none } ∧
        entries { bag with key0 := none, value0 := none } =
          bag.entries.kerase key := by
  have filled := wellFormed.filled
  cases hasValue : bag.value0 with
  | none => simp [inSlot, hasValue] at filled
  | some value =>
      have hasSlot : bag.slot = [⟨key, value⟩] := by
        simp [slot, inSlot, hasValue]
      refine ⟨?_, ⟨rfl, wellFormed.fast⟩, ?_⟩
      · simp [Bag.removeKey, inSlot, hasValue, entries, hasSlot]
      · have first : key = (⟨key, value⟩ : BagEntry T).1 := rfl
        rw [entries, entries, hasSlot, List.singleton_append,
          List.kerase_cons_eq first]
        rfl

/-- Removing an entry of the dictionary. -/
theorem removeKey_spilled
    (wellFormed : bag.WellFormed)
    (nodup : bag.entries.NodupKeys)
    {key : BagKey}
    {value : T}
    (notInSlot : key ∉ bag.slot.keys)
    (inSpilled : bag.spilled.dlookup key = some value) :
    some value = bag.entries.dlookup key ∧
      WellFormed
        { bag with
            dictionary :=
              bag.dictionary.map fun dictionary => dictionary.erase key } ∧
        entries
            { bag with
                dictionary :=
                  bag.dictionary.map fun dictionary => dictionary.erase key } =
          bag.entries.kerase key := by
  have notInPairs : key ∉ bag.pairs.keys := by
    intro used
    have spilledKey : key ∈ bag.spilled.keys := by
      rw [← List.dlookup_isSome, inSpilled]
      rfl
    have pairsSpilled : (bag.pairs ++ bag.spilled).NodupKeys :=
      nodup.sublist (List.sublist_append_right _ _)
    rw [List.NodupKeys, List.keys, List.map_append] at pairsSpilled
    exact List.disjoint_of_nodup_append pairsSpilled used spilledKey
  refine ⟨?_, ⟨wellFormed.filled, fun isFast => ?_⟩, ?_⟩
  · rw [dlookup_entries notInSlot, inSpilled,
      List.dlookup_eq_none.mpr notInPairs]
    rfl
  · obtain ⟨noPairs, noDictionary⟩ := wellFormed.fast isFast
    exact ⟨noPairs, by rw [noDictionary]; rfl⟩
  · have erased :
        spilled
            { bag with
                dictionary :=
                  bag.dictionary.map fun dictionary => dictionary.erase key } =
          bag.spilled.kerase key := by
      unfold spilled
      cases bag.dictionary <;> rfl
    rw [entries, entries, erased, List.kerase_append_right notInSlot,
      List.kerase_append_right notInPairs]
    rfl

/-- Removing an entry of the array. -/
theorem removeKey_pairs
    (wellFormed : bag.WellFormed)
    {key : BagKey}
    {value : T}
    (notInSlot : key ∉ bag.slot.keys)
    (inPairs : bag.pairs.dlookup key = some value) :
    some value = bag.entries.dlookup key ∧
      WellFormed { bag with pairs := bag.pairs.kerase key } ∧
        entries { bag with pairs := bag.pairs.kerase key } =
          bag.entries.kerase key := by
  have usedInPairs : key ∈ bag.pairs.keys := by
    rw [← List.dlookup_isSome, inPairs]
    rfl
  refine ⟨?_, ⟨wellFormed.filled, fun isFast => ?_⟩, ?_⟩
  · rw [dlookup_entries notInSlot, inPairs]
    rfl
  · obtain ⟨noPairs, noDictionary⟩ := wellFormed.fast isFast
    exact ⟨by simp [noPairs], noDictionary⟩
  · rw [entries, entries, List.kerase_append_right notInSlot,
      List.kerase_append_left usedInPairs]
    rfl

/-- A removal takes out the entry with the key, if there is one. -/
theorem removeKey
    (wellFormed : bag.WellFormed)
    (nodup : bag.entries.NodupKeys)
    (key : BagKey) :
    ∃ after, bag.removeKey key = .ok (after, bag.entries.dlookup key) ∧
      after.WellFormed ∧ after.entries = bag.entries.kerase key ∧
        after.nextKey = bag.nextKey := by
  by_cases inSlot : bag.key0 = some key
  · obtain ⟨removed, stillWellFormed, erased⟩ := wellFormed.removeKey_slot inSlot
    exact ⟨_, removed, stillWellFormed, erased, rfl⟩
  · have notInSlot : key ∉ bag.slot.keys := by
      unfold slot
      split
      · rename_i other value hasKey _
        intro used
        obtain rfl : key = other := by simpa [List.keys] using used
        exact inSlot hasKey
      · exact List.not_mem_nil
    have lookupSpilled :
        (bag.dictionary.bind fun dictionary => dictionary.lookup key) =
          bag.spilled.dlookup key := by
      unfold spilled
      cases bag.dictionary <;> rfl
    unfold Bag.removeKey
    rw [if_neg inSlot, lookupSpilled]
    cases inSpilled : bag.spilled.dlookup key with
    | some value =>
        obtain ⟨isValue, stillWellFormed, erased⟩ :=
          wellFormed.removeKey_spilled nodup notInSlot inSpilled
        exact ⟨_, by rw [← isValue], stillWellFormed, erased, rfl⟩
    | none =>
        cases inPairs : bag.pairs.dlookup key with
        | some value =>
            obtain ⟨isValue, stillWellFormed, erased⟩ :=
              wellFormed.removeKey_pairs notInSlot inPairs
            exact ⟨_, by rw [← isValue], stillWellFormed, erased, rfl⟩
        | none =>
            have absent : bag.entries.dlookup key = none := by
              rw [dlookup_entries notInSlot, inPairs, inSpilled]
              rfl
            refine ⟨bag, by rw [absent], wellFormed, ?_, rfl⟩
            rw [List.kerase_of_notMem_keys (List.dlookup_eq_none.mp absent)]

end WellFormed

/-! ## The finite map that a bag represents -/

/-- Elements under the keys of their insertions, with the number of insertions
so far. -/
structure Registry (T : Type*) where
  members : Finmap fun _ : BagKey => T := ∅
  issued : Nat := 0

/-- Uses of a bag. -/
inductive Use (T : Type*)
  | insert (element : T)
  | removeKey (key : BagKey)
  | removeAll
  deriving DecidableEq

namespace Registry

/-- Use a registry. -/
def perform (registry : Registry T) : Use T → Registry T
  | .insert element =>
      { members := registry.members.insert (.ofNat registry.issued) element
        issued := registry.issued + 1 }
  | .removeKey key => { registry with members := registry.members.erase key }
  | .removeAll => { registry with members := ∅ }

/-- The registry after a number of uses. -/
def after (uses : List (Use T)) : Registry T :=
  uses.foldl perform {}

theorem after_snoc (uses : List (Use T)) (use : Use T) :
    after (uses ++ [use]) = (after uses).perform use := by
  rw [after, List.foldl_append]
  rfl

/-- The elements. -/
def values (registry : Registry T) : Multiset T :=
  registry.members.entries.map Sigma.snd

/-- Every key in use was issued. -/
def Issued (registry : Registry T) : Prop :=
  ∀ key ∈ registry.members, ∃ number < registry.issued, key = .ofNat number

/-- While keys are left, the next one is not in use. -/
theorem Issued.next_unused
    {registry : Registry T}
    (issued : registry.Issued)
    (keysLeft : registry.issued < 2 ^ 64) :
    BagKey.ofNat registry.issued ∉ registry.members := by
  intro used
  obtain ⟨number, earlier, same⟩ := issued _ used
  exact BagKey.ofNat_ne_of_lt earlier keysLeft same.symm

theorem Issued.perform
    {registry : Registry T}
    (issued : registry.Issued)
    (use : Use T) :
    (registry.perform use).Issued := by
  intro key used
  cases use with
  | insert element =>
      rcases Finmap.mem_insert.mp used with rfl | before
      · exact ⟨registry.issued, Nat.lt_succ_self _, rfl⟩
      · obtain ⟨number, earlier, isKey⟩ := issued key before
        exact ⟨number, Nat.lt_succ_of_lt earlier, isKey⟩
  | removeKey other => exact issued key (Finmap.mem_erase.mp used).2
  | removeAll => exact absurd used Finmap.notMem_empty

theorem issued_perform_le (registry : Registry T) (use : Use T) :
    (registry.perform use).issued ≤ registry.issued + 1 := by
  cases use <;> simp [perform]

/-- An insertion under an unused key adds one element. -/
theorem values_insert
    {registry : Registry T}
    (unused : BagKey.ofNat registry.issued ∉ registry.members)
    (element : T) :
    (registry.perform (.insert element)).values = element ::ₘ registry.values := by
  rw [values, perform, Finmap.entries_insert_of_notMem unused,
    Multiset.map_cons, values]

/-- A removal takes out the element with the key, if there is one. -/
theorem values_removeKey
    (registry : Registry T)
    (key : BagKey) :
    (registry.perform (.removeKey key)).values +
        ((registry.members.lookup key).toList : Multiset T) =
      registry.values := by
  cases isMember : registry.members.lookup key with
  | none =>
      have unchanged : registry.members.erase key = registry.members := by
        apply Finmap.ext_lookup
        intro other
        by_cases same : other = key
        · rw [same, isMember, Finmap.lookup_erase]
        · exact Finmap.lookup_erase_ne same
      rw [values, perform, unchanged]
      exact add_zero _
  | some element =>
      have restored : (registry.members.erase key).insert key element =
          registry.members := by
        apply Finmap.ext_lookup
        intro other
        by_cases same : other = key
        · rw [same, isMember, Finmap.lookup_insert]
        · rw [Finmap.lookup_insert_of_ne _ same, Finmap.lookup_erase_ne same]
      rw [values, perform, values]
      conv_rhs => rw [← restored,
        Finmap.entries_insert_of_notMem Finmap.notMem_erase_self,
        Multiset.map_cons]
      rw [← Multiset.singleton_add, add_comm]
      rfl

/-- The elements are those that are looked up. -/
theorem mem_values {registry : Registry T} {element : T} :
    element ∈ registry.values ↔
      ∃ key, registry.members.lookup key = some element := by
  rw [values, Multiset.mem_map]
  constructor
  · rintro ⟨⟨key, other⟩, present, rfl⟩
    exact ⟨key, Finmap.lookup_eq_some_iff.mpr present⟩
  · rintro ⟨key, isElement⟩
    exact ⟨⟨key, element⟩, Finmap.lookup_eq_some_iff.mp isElement, rfl⟩

/-- An insertion adds one element at most. -/
theorem eq_or_mem_of_mem_values_insert
    {registry : Registry T}
    {element inserted : T}
    (present : element ∈ (registry.perform (.insert inserted)).values) :
    element = inserted ∨ element ∈ registry.values := by
  obtain ⟨key, found⟩ := mem_values.mp present
  by_cases same : key = .ofNat registry.issued
  · rw [same, perform, Finmap.lookup_insert] at found
    exact .inl (Option.some.inj found).symm
  · rw [perform, Finmap.lookup_insert_of_ne _ same] at found
    exact .inr (mem_values.mpr ⟨key, found⟩)

/-- A removal adds no element. -/
theorem mem_of_mem_values_removeKey
    {registry : Registry T}
    {element : T}
    {key : BagKey}
    (present : element ∈ (registry.perform (.removeKey key)).values) :
    element ∈ registry.values := by
  rw [← registry.values_removeKey key]
  exact Multiset.mem_add.mpr (.inl present)

end Registry

/-- A list of the entries of a finite map is looked up like the map, and what
remains without a key are the entries of the map without the key. -/
theorem dlookup_kerase_of_entries
    {entries : List (BagEntry T)}
    {members : Finmap fun _ : BagKey => T}
    (same : (entries : Multiset (BagEntry T)) = members.entries)
    (key : BagKey) :
    entries.dlookup key = members.lookup key ∧
      (entries.kerase key : Multiset (BagEntry T)) =
        (members.erase key).entries := by
  have nodup : entries.NodupKeys := by
    rw [← Multiset.coe_nodupKeys, same]
    exact members.nodupKeys
  obtain rfl : members = AList.toFinmap ⟨entries, nodup⟩ :=
    Finmap.ext same.symm
  exact ⟨rfl, rfl⟩

/-- The bag stores the entries of the registry and would issue the same key. -/
structure Represents (bag : Bag T) (registry : Registry T) : Prop where
  wellFormed : bag.WellFormed
  entries : (bag.entries : Multiset (BagEntry T)) = registry.members.entries
  nextKey : bag.nextKey = .ofNat registry.issued
  issued : registry.Issued

theorem empty_represents : ({} : Bag T).Represents {} where
  wellFormed := wellFormed_empty
  entries := rfl
  nextKey := rfl
  issued := fun _ used => absurd used Finmap.notMem_empty

namespace Represents

variable
    {bag : Bag T}
    {registry : Registry T}

theorem nodupKeys (represents : bag.Represents registry) :
    bag.entries.NodupKeys := by
  rw [← Multiset.coe_nodupKeys, represents.entries]
  exact registry.members.nodupKeys

theorem insert
    (represents : bag.Represents registry)
    (keysLeft : registry.issued < 2 ^ 64)
    (element : T) :
    (bag.insert element).2 = .ofNat registry.issued ∧
      (bag.insert element).1.Represents (registry.perform (.insert element)) := by
  have unused := represents.issued.next_unused keysLeft
  have sameKey : (bag.insert element).2 = bag.nextKey := by
    unfold Bag.insert
    dsimp only
    split
    · rfl
    · split
      · rfl
      · split <;> rfl
  have laterKey : (bag.insert element).1.nextKey =
      ⟨bag.nextKey.rawValue + 1⟩ := by
    unfold Bag.insert
    dsimp only
    split
    · rfl
    · split
      · rfl
      · split <;> rfl
  refine ⟨sameKey.trans represents.nextKey, ?_⟩
  constructor
  · exact represents.wellFormed.insert element
  · have unusedKey : bag.nextKey ∉ bag.entries.keys := by
      rw [represents.nextKey, ← List.dlookup_eq_none,
        (dlookup_kerase_of_entries represents.entries _).1]
      exact Finmap.lookup_eq_none.mpr unused
    rw [Multiset.coe_eq_coe.mpr
        (represents.wellFormed.entries_insert unusedKey element),
      Registry.perform, Finmap.entries_insert_of_notMem unused,
      ← represents.entries, represents.nextKey]
    rfl
  · rw [laterKey, represents.nextKey]
    simp [BagKey.ofNat, Registry.perform, BitVec.ofNat_add]
  · exact represents.issued.perform _

theorem removeKey
    (represents : bag.Represents registry)
    (key : BagKey) :
    ∃ after, bag.removeKey key = .ok (after, registry.members.lookup key) ∧
      after.Represents (registry.perform (.removeKey key)) := by
  obtain ⟨after, removed, wellFormed, erased, sameKey⟩ :=
    represents.wellFormed.removeKey represents.nodupKeys key
  obtain ⟨sameLookup, sameErase⟩ :=
    dlookup_kerase_of_entries represents.entries key
  rw [sameLookup] at removed
  refine ⟨after, removed, wellFormed, ?_, sameKey.trans represents.nextKey,
    represents.issued.perform _⟩
  rw [erased, sameErase]
  rfl

theorem removeAll (represents : bag.Represents registry) :
    bag.removeAll.Represents (registry.perform .removeAll) where
  wellFormed := represents.wellFormed.removeAll
  entries := by
    rw [WellFormed.entries_removeAll]
    rfl
  nextKey := represents.nextKey
  issued := represents.issued.perform _

/-- An enumeration visits every element once. -/
theorem forEach (represents : bag.Represents registry) :
    (bag.forEach : Multiset T) = registry.values := by
  rw [represents.wellFormed.forEach_eq, ← Multiset.map_coe, represents.entries]
  rfl

theorem count (represents : bag.Represents registry) :
    bag.count = registry.members.keys.card := by
  rw [represents.wellFormed.count_eq, ← Multiset.coe_card, represents.entries]
  exact (Multiset.card_map _ _).symm

end Represents

/-! ## Bags in use -/

/-- Use a bag. -/
def perform (bag : Bag T) : Use T → Except Trap (Bag T)
  | .insert element => .ok (bag.insert element).1
  | .removeKey key =>
      match bag.removeKey key with
      | .error trap => .error trap
      | .ok (bag, _) => .ok bag
  | .removeAll => .ok bag.removeAll

/-- A bag under any sequence of uses. -/
def system : System (Bag T) (Use T) Trap where
  Enabled := fun _ _ => True
  step := perform

instance (bag : Bag T) (use : Use T) : Decidable (system.Enabled bag use) :=
  inferInstanceAs (Decidable True)

/-- The step lemma. -/
theorem Represents.perform
    {bag : Bag T}
    {registry : Registry T}
    (represents : bag.Represents registry)
    (keysLeft : registry.issued < 2 ^ 64)
    (use : Use T) :
    ∃ after, bag.perform use = .ok after ∧
      after.Represents (registry.perform use) := by
  cases use with
  | insert element => exact ⟨_, rfl, (represents.insert keysLeft element).2⟩
  | removeKey key =>
      obtain ⟨after, removed, afterRepresents⟩ := represents.removeKey key
      exact ⟨after, by simp only [Bag.perform, removed], afterRepresents⟩
  | removeAll => exact ⟨_, rfl, represents.removeAll⟩

/-- The run lemma. -/
theorem Represents.of_run
    {bag : Bag T}
    {uses : List (Use T)}
    (run : system.Run {} uses bag)
    (few : uses.length ≤ 2 ^ 64) :
    bag.Represents (.after uses) ∧
      (Registry.after uses).issued ≤ uses.length := by
  have invariant : uses.length ≤ 2 ^ 64 →
      bag.Represents (.after uses) ∧
        (Registry.after uses).issued ≤ uses.length := by
    refine System.Run.invariant
      (fun uses bag => uses.length ≤ 2 ^ 64 →
        bag.Represents (.after uses) ∧
          (Registry.after uses).issued ≤ uses.length)
      (fun _ => ⟨empty_represents, Nat.le_refl 0⟩) ?_ run
    intro uses use before after inductionHypothesis _ performed few
    rw [List.length_append, List.length_singleton] at few ⊢
    obtain ⟨represents, issued⟩ := inductionHypothesis (by omega)
    obtain ⟨next, nextPerformed, nextRepresents⟩ :=
      represents.perform (by omega) use
    obtain rfl : next = after :=
      Except.ok.inj (nextPerformed.symm.trans performed)
    have oneMore := (Registry.after uses).issued_perform_le use
    rw [Registry.after_snoc]
    exact ⟨nextRepresents, by omega⟩
  exact invariant few

end Bag
end RxSwift
end MVVMExample
