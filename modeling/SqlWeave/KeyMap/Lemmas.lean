import SqlWeave.KeyMap

/-!
# Laws of keyed maps

A map is known by its view `get?`: the view says what every write does, and
two maps with the same view are equal.
-/

namespace SqlWeave.KeyMap

variable {Value Image : Type}

theorem lookup_cons_of_ne {key other : String} (value : Value)
    (entries : List (String × Value)) (hne : other ≠ key) :
    ((key, value) :: entries).lookup other = entries.lookup other := by
  rw [List.lookup_cons, beq_eq_false_iff_ne.2 hne]

theorem lookup_insertEntry_self (key : String) (value : Value)
    (entries : List (String × Value)) :
    (insertEntry key value entries).lookup key = some value := by
  induction entries with
  | nil => exact List.lookup_cons_self
  | cons head rest ih =>
    obtain ⟨k, v⟩ := head
    rw [insertEntry]
    split
    · exact List.lookup_cons_self
    · split
      next hgt =>
        have hne : key ≠ k := fun heq => String.lt_irrefl k (heq ▸ hgt)
        rw [lookup_cons_of_ne v _ hne, ih]
      · exact List.lookup_cons_self

theorem lookup_insertEntry_of_ne {key other : String} (value : Value)
    (entries : List (String × Value)) (hne : other ≠ key) :
    (insertEntry key value entries).lookup other = entries.lookup other := by
  induction entries with
  | nil => exact lookup_cons_of_ne value [] hne
  | cons head rest ih =>
    obtain ⟨k, v⟩ := head
    rw [insertEntry]
    split
    · exact lookup_cons_of_ne value _ hne
    next hnlt =>
      split
      · rw [List.lookup_cons, List.lookup_cons, ih]
      next hngt =>
        have hkey : key = k :=
          String.le_antisymm (String.not_lt.1 hngt) (String.not_lt.1 hnlt)
        subst hkey
        rw [lookup_cons_of_ne value _ hne, lookup_cons_of_ne v _ hne]

@[simp]
theorem get?_empty (key : String) : (empty : KeyMap Value).get? key = none := rfl

@[simp]
theorem get?_insert_self (map : KeyMap Value) (key : String) (value : Value) :
    (map.insert key value).get? key = some value :=
  lookup_insertEntry_self key value map.entries

theorem get?_insert_of_ne (map : KeyMap Value) {key other : String} (value : Value)
    (hne : other ≠ key) : (map.insert key value).get? other = map.get? other :=
  lookup_insertEntry_of_ne value map.entries hne

/-- A key below all keys of a list has no value there. -/
theorem lookup_eq_none_of_forall_lt {key : String} {entries : List (String × Value)}
    (h : ∀ entry ∈ entries, key < entry.1) : entries.lookup key = none := by
  induction entries with
  | nil => rfl
  | cons head rest ih =>
    obtain ⟨k, v⟩ := head
    have hne : key ≠ k := fun heq => String.lt_irrefl k (heq ▸ h (k, v) (by simp))
    rw [lookup_cons_of_ne v rest hne]
    exact ih fun entry hentry => h entry (List.mem_cons_of_mem _ hentry)

/-- The first key of an ascending list is not below the first key of another
one with the same values. -/
theorem not_lt_of_lookup_eq {key other : String} {value : Value}
    {left right : List (String × Value)}
    (hright : ∀ entry ∈ right, other < entry.1) {value' : Value}
    (h : ((key, value) :: left).lookup key = ((other, value') :: right).lookup key) :
    ¬ key < other := by
  intro hlt
  have hne : key ≠ other := fun heq => String.lt_irrefl other (heq ▸ hlt)
  rw [List.lookup_cons_self, lookup_cons_of_ne value' right hne,
    lookup_eq_none_of_forall_lt fun entry hentry => String.lt_trans hlt (hright entry hentry)] at h
  exact nomatch h

/-- Ascending lists with the same values under all keys are equal. -/
theorem entries_eq_of_lookup_eq {left right : List (String × Value)}
    (hleft : left.Pairwise fun before after => before.1 < after.1)
    (hright : right.Pairwise fun before after => before.1 < after.1)
    (h : ∀ key, left.lookup key = right.lookup key) : left = right := by
  induction left generalizing right with
  | nil =>
    cases right with
    | nil => rfl
    | cons head rest =>
      obtain ⟨k, v⟩ := head
      exact absurd (h k) (by simp)
  | cons head rest ih =>
    obtain ⟨k, v⟩ := head
    cases right with
    | nil => exact absurd (h k) (by simp)
    | cons head' rest' =>
      obtain ⟨k', v'⟩ := head'
      obtain ⟨hk, hrest⟩ := List.pairwise_cons.1 hleft
      obtain ⟨hk', hrest'⟩ := List.pairwise_cons.1 hright
      have hkeys : k = k' := String.le_antisymm
        (String.not_lt.1 (not_lt_of_lookup_eq hk (h k').symm))
        (String.not_lt.1 (not_lt_of_lookup_eq hk' (h k)))
      subst hkeys
      have hvalues : v = v' := by simpa using h k
      subst hvalues
      rw [ih hrest hrest' fun key => ?_]
      by_cases hkey : key = k
      · subst hkey
        rw [lookup_eq_none_of_forall_lt hk, lookup_eq_none_of_forall_lt hk']
      · simpa only [lookup_cons_of_ne v _ hkey] using h key

theorem mem_of_lookup_eq_some {key : String} {value : Value} {entries : List (String × Value)}
    (hlookup : entries.lookup key = some value) : (key, value) ∈ entries := by
  obtain ⟨front, back, rfl, -⟩ := List.lookup_eq_some_iff.1 hlookup
  exact List.mem_append_right front List.mem_cons_self

theorem lookup_map (entries : List (String × Value)) (change : String → Value → Image)
    (key : String) :
    (entries.map fun entry => (entry.1, change entry.1 entry.2)).lookup key =
      (entries.lookup key).map (change key) := by
  induction entries with
  | nil => rfl
  | cons entry rest ih =>
    obtain ⟨k, v⟩ := entry
    by_cases hkey : key = k
    · subst hkey
      rw [List.map_cons, List.lookup_cons_self, List.lookup_cons_self, Option.map_some]
    · rw [List.map_cons, lookup_cons_of_ne _ _ hkey, lookup_cons_of_ne _ _ hkey, ih]

/-- An entry of an ascending list is the one that is found under its key. -/
theorem lookup_eq_some_of_mem {key : String} {value : Value} {entries : List (String × Value)}
    (hascending : entries.Pairwise fun before after => before.1 < after.1)
    (hmem : (key, value) ∈ entries) : entries.lookup key = some value := by
  induction entries with
  | nil => cases hmem
  | cons head rest ih =>
    obtain ⟨k, v⟩ := head
    obtain ⟨hhead, hrest⟩ := List.pairwise_cons.1 hascending
    rcases List.mem_cons.1 hmem with heq | hmem
    · cases heq
      exact List.lookup_cons_self
    · have hne : key ≠ k := fun heq => String.lt_irrefl k (heq ▸ hhead (key, value) hmem)
      rw [lookup_cons_of_ne v rest hne, ih hrest hmem]

theorem get?_eq_some_of_mem {map : KeyMap Value} {key : String} {value : Value}
    (hmem : (key, value) ∈ map.toList) : map.get? key = some value :=
  lookup_eq_some_of_mem map.ascending hmem

/-- The entry at an index has the key there and the value that is found under it. -/
theorem getElem?_toList_eq_some_iff (map : KeyMap Value) (index : Nat) (key : String)
    (value : Value) :
    map.toList[index]? = some (key, value) ↔
      map.keys[index]? = some key ∧ map.get? key = some value := by
  rw [keys, List.getElem?_map]
  constructor
  · intro hentry
    rw [toList] at hentry
    rw [hentry]
    exact ⟨rfl, get?_eq_some_of_mem (List.mem_of_getElem? hentry)⟩
  · rintro ⟨hkey, hvalue⟩
    obtain ⟨⟨found, other⟩, hentry, rfl⟩ := Option.map_eq_some_iff.1 hkey
    rw [get?_eq_some_of_mem (List.mem_of_getElem? hentry)] at hvalue
    cases hvalue
    exact hentry

/-- The keys ascend, so none stands twice. -/
theorem pairwise_keys (map : KeyMap Value) : map.keys.Pairwise (· < ·) :=
  List.pairwise_map.2 map.ascending

/-- No name stands twice among ascending ones. -/
theorem nodup_of_pairwise_lt {names : List String} (hascend : names.Pairwise (· < ·)) :
    names.Nodup := by
  refine hascend.imp ?_
  rintro name _ hless rfl
  exact String.lt_irrefl name hless

theorem nodup_keys (map : KeyMap Value) : map.keys.Nodup :=
  nodup_of_pairwise_lt map.pairwise_keys

/-- A walk over the entries is a walk over the keys that looks every value up. -/
theorem flatMap_toList {Item : Type} (map : KeyMap Value) (items : String → Value → List Item) :
    (map.toList.flatMap fun entry => items entry.1 entry.2) =
      map.keys.flatMap fun key => (map.get? key).elim [] (items key) := by
  rw [keys, List.flatMap_map, List.flatMap_def, List.flatMap_def]
  refine congrArg List.flatten (List.map_congr_left fun entry hentry => ?_)
  rw [get?_eq_some_of_mem hentry]
  rfl

/-- Maps with the same values under all keys are equal. -/
theorem ext_get? {left right : KeyMap Value} (h : ∀ key, left.get? key = right.get? key) :
    left = right := by
  obtain ⟨left, hleft⟩ := left
  obtain ⟨right, hright⟩ := right
  obtain rfl : left = right := entries_eq_of_lookup_eq hleft hright h
  rfl

/-- Values under different keys can be written in either order. -/
theorem insert_comm (map : KeyMap Value) {key other : String} (hne : key ≠ other)
    (value otherValue : Value) :
    (map.insert key value).insert other otherValue =
      (map.insert other otherValue).insert key value := by
  refine ext_get? fun found => ?_
  by_cases hkey : found = key
  · subst hkey
    rw [get?_insert_of_ne _ _ hne, get?_insert_self, get?_insert_self]
  · by_cases hother : found = other
    · subst hother
      rw [get?_insert_self, get?_insert_of_ne _ _ hkey, get?_insert_self]
    · rw [get?_insert_of_ne _ _ hother, get?_insert_of_ne _ _ hkey, get?_insert_of_ne _ _ hkey,
        get?_insert_of_ne _ _ hother]

/-- The keys are those that a value is found under. -/
theorem mem_keys_iff (map : KeyMap Value) (key : String) :
    key ∈ map.keys ↔ (map.get? key).isSome := by
  rw [keys, get?, List.lookup_isSome_iff, List.mem_map]
  exact exists_congr fun entry => and_congr_right fun _ => by rw [beq_iff_eq, eq_comm]

/-- A key is one under which a value is found. -/
theorem mem_keys_iff_exists (map : KeyMap Value) (key : String) :
    key ∈ map.keys ↔ ∃ value, map.get? key = some value := by
  rw [mem_keys_iff, Option.isSome_iff_exists]

theorem get?_eq_none_iff (map : KeyMap Value) (key : String) :
    map.get? key = none ↔ key ∉ map.keys := by
  rw [mem_keys_iff, Option.not_isSome_iff_eq_none]

theorem contains_iff_mem_keys (map : KeyMap Value) (key : String) :
    map.contains key ↔ key ∈ map.keys := by
  rw [mem_keys_iff, contains]

theorem isEmpty_iff_keys_eq_nil (map : KeyMap Value) : map.isEmpty ↔ map.keys = [] := by
  rw [isEmpty, List.isEmpty_iff, keys, List.map_eq_nil_iff]

/-- The entries are the keys with the values that are found under them. -/
theorem mem_toList_iff (map : KeyMap Value) (key : String) (value : Value) :
    (key, value) ∈ map.toList ↔ map.get? key = some value :=
  ⟨get?_eq_some_of_mem, mem_of_lookup_eq_some⟩

/-- The value of the last pair with a key. -/
def lastValue? (pairs : List (String × Value)) (key : String) : Option Value :=
  pairs.reverse.lookup key

theorem lastValue?_map (pairs : List (String × Value)) (change : String → Value → Image)
    (key : String) :
    lastValue? (pairs.map fun pair => (pair.1, change pair.1 pair.2)) key =
      (lastValue? pairs key).map (change key) := by
  rw [lastValue?, lastValue?, ← List.map_reverse, lookup_map]

theorem mem_of_lastValue?_eq_some {pairs : List (String × Value)} {key : String} {value : Value}
    (hlast : lastValue? pairs key = some value) : (key, value) ∈ pairs :=
  List.mem_reverse.1 (mem_of_lookup_eq_some hlast)

/-- No later pair has the key of the last one. -/
theorem lastValue?_eq_some_iff {pairs : List (String × Value)} {key : String} {value : Value} :
    lastValue? pairs key = some value ↔
      ∃ front back, pairs = front ++ (key, value) :: back ∧ ∀ pair ∈ back, pair.1 ≠ key := by
  rw [lastValue?, List.lookup_eq_some_iff]
  constructor
  · rintro ⟨later, earlier, hreverse, hlater⟩
    refine ⟨earlier.reverse, later.reverse, ?_, fun pair hpair => ?_⟩
    · rw [← List.reverse_reverse pairs, hreverse]
      simp
    · exact (bne_iff_ne.1 (hlater pair (List.mem_reverse.1 hpair))).symm
  · rintro ⟨front, back, rfl, hback⟩
    refine ⟨back.reverse, front.reverse, by simp, fun pair hpair => ?_⟩
    exact bne_iff_ne.2 (hback pair (List.mem_reverse.1 hpair)).symm

theorem lastValue?_eq_none_iff {pairs : List (String × Value)} {key : String} :
    lastValue? pairs key = none ↔ ∀ pair ∈ pairs, pair.1 ≠ key := by
  rw [lastValue?, List.lookup_eq_none_iff]
  simp only [List.mem_reverse, bne_iff_ne, ne_comm]

/-- Pairs that are written into a map hide what was there under their keys. -/
theorem get?_insertAll (map : KeyMap Value) (pairs : List (String × Value)) (key : String) :
    (map.insertAll pairs).get? key = (lastValue? pairs key).or (map.get? key) := by
  induction pairs generalizing map with
  | nil => rfl
  | cons pair rest ih =>
    obtain ⟨written, value⟩ := pair
    have hfirst : (map.insert written value).get? key =
        ([(written, value)].lookup key).or (map.get? key) := by
      by_cases hkey : key = written
      · subst hkey
        rw [get?_insert_self, List.lookup_cons_self, Option.some_or]
      · rw [get?_insert_of_ne map value hkey, lookup_cons_of_ne value [] hkey]
        rfl
    have hlast : lastValue? ((written, value) :: rest) key =
        (lastValue? rest key).or ([(written, value)].lookup key) := by
      rw [lastValue?, lastValue?, List.reverse_cons, List.lookup_append]
    rw [hlast, Option.or_assoc, ← hfirst]
    exact ih (map.insert written value)

/-- A list of pairs gives every key its last value. -/
theorem get?_ofList (pairs : List (String × Value)) (key : String) :
    (ofList pairs).get? key = lastValue? pairs key := by
  rw [ofList, get?_insertAll, get?_empty, Option.or_none]

/-- Values that are replaced stay under their keys. -/
theorem get?_mapEntries (map : KeyMap Value) (change : String → Value → Image) (key : String) :
    (map.mapEntries change).get? key = (map.get? key).map (change key) :=
  lookup_map map.entries change key

@[simp]
theorem toList_mapEntries (map : KeyMap Value) (change : String → Value → Image) :
    (map.mapEntries change).toList =
      map.toList.map fun entry => (entry.1, change entry.1 entry.2) := rfl

@[simp]
theorem keys_mapEntries (map : KeyMap Value) (change : String → Value → Image) :
    (map.mapEntries change).keys = map.keys := by
  simp [keys, mapEntries]

@[simp]
theorem isEmpty_mapEntries (map : KeyMap Value) (change : String → Value → Image) :
    (map.mapEntries change).isEmpty = map.isEmpty := by
  simp [isEmpty, mapEntries]

theorem mapEntries_mapEntries {Last : Type} (map : KeyMap Value)
    (first : String → Value → Image) (second : String → Image → Last) :
    (map.mapEntries first).mapEntries second =
      map.mapEntries fun key value => second key (first key value) := by
  refine ext_get? fun key => ?_
  rw [get?_mapEntries, get?_mapEntries, get?_mapEntries, Option.map_map]
  rfl

theorem mapEntries_insert (map : KeyMap Value) (key : String) (value : Value)
    (change : String → Value → Image) :
    (map.insert key value).mapEntries change =
      (map.mapEntries change).insert key (change key value) := by
  refine ext_get? fun other => ?_
  rw [get?_mapEntries]
  by_cases hkey : other = key
  · subst hkey
    rw [get?_insert_self, get?_insert_self, Option.map_some]
  · rw [get?_insert_of_ne _ _ hkey, get?_insert_of_ne _ _ hkey, get?_mapEntries]

/-- Values can be replaced before they are written as well as afterwards. -/
theorem mapEntries_insertAll (map : KeyMap Value) (pairs : List (String × Value))
    (change : String → Value → Image) :
    (map.insertAll pairs).mapEntries change =
      (map.mapEntries change).insertAll
        (pairs.map fun pair => (pair.1, change pair.1 pair.2)) := by
  induction pairs generalizing map with
  | nil => rfl
  | cons pair rest ih =>
    change ((map.insert pair.1 pair.2).insertAll rest).mapEntries change = _
    rw [ih, mapEntries_insert]
    rfl

end SqlWeave.KeyMap

namespace SqlWeave.NameSet

open KeyMap

theorem mem_keys_ofNames (names : List String) (name : String) :
    name ∈ (ofNames names).keys ↔ name ∈ names := by
  rw [mem_keys_iff, ofNames, get?_ofList, lastValue?, List.lookup_isSome_iff]
  simp

theorem mem_keys_addNames (set : NameSet) (names : List String) (name : String) :
    name ∈ (set.addNames names).keys ↔ name ∈ set.keys ∨ name ∈ names := by
  rw [mem_keys_iff, addNames, get?_insertAll, Option.isSome_or, Bool.or_eq_true, or_comm,
    ← mem_keys_iff, lastValue?, List.lookup_isSome_iff]
  simp

/-- A set of names is known by its members. -/
theorem ext_mem_keys {left right : NameSet} (hmem : ∀ name, name ∈ left.keys ↔ name ∈ right.keys) :
    left = right := by
  refine ext_get? fun name => ?_
  have hunit : ∀ found other : Option Unit, found.isSome = other.isSome → found = other := by
    rintro (_ | _) (_ | _) hsome
    · rfl
    · cases hsome
    · cases hsome
    · rfl
  refine hunit _ _ (Bool.eq_iff_iff.2 ?_)
  rw [← mem_keys_iff, ← mem_keys_iff, hmem]

theorem ofNames_eq_of_mem_iff {left right : List String}
    (hmem : ∀ name, name ∈ left ↔ name ∈ right) : ofNames left = ofNames right :=
  ext_mem_keys fun name => by rw [mem_keys_ofNames, mem_keys_ofNames, hmem]

end SqlWeave.NameSet
