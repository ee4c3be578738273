/-! # Keyed lists

A keyed list holds at most one value for each key and remembers the order in which its keys
first came. Setting a key that is there replaces its value in place.
-/

namespace TableQuery

/-- Pairs with pairwise distinct keys. -/
structure Keyed (β : Type u) where
  entries : List (String × β)
  distinct : (entries.map Prod.fst).Nodup

namespace Keyed

variable {β : Type u}

instance [DecidableEq β] : DecidableEq (Keyed β) := fun a b =>
  decidable_of_iff (a.entries = b.entries) (by cases a; cases b; simp)

instance [Repr β] : Repr (Keyed β) := ⟨fun a precedence => reprPrec a.entries precedence⟩

def empty : Keyed β := ⟨[], .nil⟩

instance : Inhabited (Keyed β) := ⟨empty⟩

def keys (a : Keyed β) : List String := a.entries.map Prod.fst

def values (a : Keyed β) : List β := a.entries.map Prod.snd

def size (a : Keyed β) : Nat := a.entries.length

def isEmpty (a : Keyed β) : Bool := a.entries.isEmpty

/-- Replaces the value of a key, or puts the key at the end. -/
def setEntry (key : String) (value : β) : List (String × β) → List (String × β)
  | [] => [(key, value)]
  | entry :: rest =>
      if entry.1 = key then (key, value) :: rest else entry :: setEntry key value rest

theorem keys_setEntry (key : String) (value : β) (entries : List (String × β)) :
    (setEntry key value entries).map Prod.fst =
      if key ∈ entries.map Prod.fst then entries.map Prod.fst
      else entries.map Prod.fst ++ [key] := by
  induction entries with
  | nil => simp [setEntry]
  | cons entry rest ih =>
      by_cases same : entry.1 = key
      · simp [setEntry, same]
      · have other : key ≠ entry.1 := fun h => same h.symm
        simp only [setEntry, same, if_false, List.map_cons, ih, List.mem_cons, other, false_or]
        split <;> simp

theorem nodup_keys_setEntry (key : String) (value : β) {entries : List (String × β)}
    (distinct : (entries.map Prod.fst).Nodup) :
    ((setEntry key value entries).map Prod.fst).Nodup := by
  rw [keys_setEntry]
  split
  · exact distinct
  next new =>
    rw [List.nodup_append]
    refine ⟨distinct, by simp, ?_⟩
    rintro a ha b hb rfl
    exact new (List.mem_singleton.mp hb ▸ ha)

def set (a : Keyed β) (key : String) (value : β) : Keyed β :=
  ⟨setEntry key value a.entries, nodup_keys_setEntry key value a.distinct⟩

/-- Sets each pair in turn, starting from nothing. -/
def ofPairs (pairs : List (String × β)) : Keyed β :=
  pairs.foldl (fun a pair => a.set pair.1 pair.2) empty

def get? (a : Keyed β) (key : String) : Option β := a.entries.lookup key

/-- Index of a key in the order of first coming. -/
def position? (a : Keyed β) (key : String) : Option Nat := a.keys.idxOf? key

def contains (a : Keyed β) (key : String) : Bool := (a.get? key).isSome

def erase (a : Keyed β) (key : String) : Keyed β :=
  ⟨a.entries.filter (·.1 ≠ key), a.distinct.sublist (List.filter_sublist.map Prod.fst)⟩

@[simp] theorem get?_empty (key : String) : (empty : Keyed β).get? key = none := rfl

@[simp] theorem keys_empty : (empty : Keyed β).keys = [] := rfl

/-- The keys stay as they are when the key is there; otherwise it comes last. -/
theorem keys_set (a : Keyed β) (key : String) (value : β) :
    (a.set key value).keys = if key ∈ a.keys then a.keys else a.keys ++ [key] :=
  keys_setEntry key value a.entries

theorem lookup_cons_eq_if (key : String) (entry : String × β) (rest : List (String × β)) :
    (entry :: rest).lookup key = if key = entry.1 then some entry.2 else rest.lookup key := by
  obtain ⟨first, value⟩ := entry
  rw [List.lookup_cons]
  by_cases h : key = first
  · simp [h]
  · rw [beq_eq_false_iff_ne.mpr h, if_neg h]

theorem lookup_setEntry (key other : String) (value : β) (entries : List (String × β)) :
    (setEntry key value entries).lookup other =
      if other = key then some value else entries.lookup other := by
  induction entries with
  | nil => simp [setEntry, lookup_cons_eq_if]
  | cons entry rest ih =>
      by_cases same : entry.1 = key
      · by_cases h : other = key <;> simp [setEntry, lookup_cons_eq_if, same, h]
      · simp only [setEntry, same, if_false, lookup_cons_eq_if, ih]
        by_cases h : other = entry.1
        · simp [h, same]
        · simp [h]

/-- Setting a key gives it the value and leaves every other key's value alone. -/
@[simp] theorem get?_set (a : Keyed β) (key other : String) (value : β) :
    (a.set key value).get? other = if other = key then some value else a.get? other :=
  lookup_setEntry key other value a.entries

/-- Two keyed lists with the same pairs in the same order are equal. -/
@[ext] theorem ext {a b : Keyed β} (h : a.entries = b.entries) : a = b := by
  cases a
  cases b
  cases h
  rfl

end Keyed

end TableQuery
