/-!
# Keyed maps

A finite map from text keys whose entries stand in strictly ascending key
order.  Records, extra projections, lateral sub-selects and JSON objects are
all kept this way, so a map has one representation whatever the order in
which its entries were written, and everything printed from a map comes out
in one canonical order.  Keys are compared code point by code point, which is
also the order of their UTF-8 bytes.
-/

namespace SqlWeave

/-- Values under distinct text keys, in ascending order of the keys. -/
structure KeyMap (Value : Type) where
  entries : List (String × Value)
  ascending : entries.Pairwise fun before after => before.1 < after.1

namespace KeyMap

variable {Value Image : Type}

def empty : KeyMap Value := ⟨[], List.Pairwise.nil⟩

instance : EmptyCollection (KeyMap Value) := ⟨empty⟩

instance : Inhabited (KeyMap Value) := ⟨empty⟩

/-- Put an entry into an ascending list, in place of one with the same key. -/
def insertEntry (key : String) (value : Value) :
    List (String × Value) → List (String × Value)
  | [] => [(key, value)]
  | (k, v) :: rest =>
    if key < k then (key, value) :: (k, v) :: rest
    else if k < key then (k, v) :: insertEntry key value rest
    else (key, value) :: rest

/-- Every entry after an insertion is the new one or an old one. -/
theorem mem_of_mem_insertEntry {key : String} {value : Value}
    {entry : String × Value} {entries : List (String × Value)}
    (h : entry ∈ insertEntry key value entries) :
    entry = (key, value) ∨ entry ∈ entries := by
  induction entries with
  | nil => simpa [insertEntry] using h
  | cons head rest ih =>
    obtain ⟨k, v⟩ := head
    simp only [insertEntry] at h
    split at h
    · simpa using h
    · split at h
      · rcases List.mem_cons.1 h with rfl | h
        · simp
        · rcases ih h with rfl | h <;> simp [*]
      · rcases List.mem_cons.1 h with rfl | h <;> simp [*]

/-- Insertion keeps a list strictly ascending. -/
theorem pairwise_insertEntry (key : String) (value : Value)
    {entries : List (String × Value)}
    (h : entries.Pairwise fun before after => before.1 < after.1) :
    (insertEntry key value entries).Pairwise
      fun before after => before.1 < after.1 := by
  induction entries with
  | nil => simp [insertEntry]
  | cons head rest ih =>
    obtain ⟨k, v⟩ := head
    obtain ⟨hhead, hrest⟩ := List.pairwise_cons.1 h
    simp only [insertEntry]
    split
    next hlt =>
      refine List.pairwise_cons.2 ⟨fun entry hentry => ?_, h⟩
      rcases List.mem_cons.1 hentry with rfl | hentry
      · exact hlt
      · exact String.lt_trans hlt (hhead entry hentry)
    next hnlt =>
      split
      next hgt =>
        refine List.pairwise_cons.2 ⟨fun entry hentry => ?_, ih hrest⟩
        rcases mem_of_mem_insertEntry hentry with rfl | hentry
        · exact hgt
        · exact hhead entry hentry
      next hngt =>
        have hkey : key = k :=
          String.le_antisymm (String.not_lt.1 hngt) (String.not_lt.1 hnlt)
        subst hkey
        exact List.pairwise_cons.2 ⟨hhead, hrest⟩

/-- Write a value under a key, replacing the value that was there. -/
def insert (map : KeyMap Value) (key : String) (value : Value) : KeyMap Value :=
  ⟨insertEntry key value map.entries, pairwise_insertEntry key value map.ascending⟩

def get? (map : KeyMap Value) (key : String) : Option Value :=
  map.entries.lookup key

def contains (map : KeyMap Value) (key : String) : Bool :=
  (map.get? key).isSome

/-- The entries, in ascending order of their keys. -/
def toList (map : KeyMap Value) : List (String × Value) := map.entries

def keys (map : KeyMap Value) : List String := map.entries.map Prod.fst

def values (map : KeyMap Value) : List Value := map.entries.map Prod.snd

def size (map : KeyMap Value) : Nat := map.entries.length

def isEmpty (map : KeyMap Value) : Bool := map.entries.isEmpty

/-- Write the pairs one after the other: the last value of a key stays. -/
def insertAll (map : KeyMap Value) (pairs : List (String × Value)) : KeyMap Value :=
  pairs.foldl (fun written pair => written.insert pair.1 pair.2) map

/-- The map that holds the last value of every key of the pairs. -/
def ofList (pairs : List (String × Value)) : KeyMap Value := empty.insertAll pairs

/-- Replace every value by a function of its key and itself. -/
def mapEntries (change : String → Value → Image) (map : KeyMap Value) : KeyMap Image where
  entries := map.entries.map fun entry => (entry.1, change entry.1 entry.2)
  ascending := by
    simpa [List.pairwise_map] using map.ascending

end KeyMap

/-- A set of names: the keys of a map that holds nothing else. -/
abbrev NameSet := KeyMap Unit

namespace NameSet

/-- The distinct names of a list. -/
def ofNames (names : List String) : NameSet :=
  KeyMap.ofList (names.map fun name => (name, ()))

def addNames (set : NameSet) (names : List String) : NameSet :=
  set.insertAll (names.map fun name => (name, ()))

end NameSet

end SqlWeave
