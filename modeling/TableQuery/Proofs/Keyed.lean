import TableQuery.Keyed

/-! # Keyed lists by their keys and values

A keyed list is known by its keys, in order, and by the value of each key. Setting pairs one
after another gives the keys in the order in which they first come, each with its last value.
-/

namespace TableQuery

theorem eraseDups_eq_self {α : Type} [BEq α] [LawfulBEq α] {xs : List α} (h : xs.Nodup) :
    xs.eraseDups = xs := by
  induction xs with
  | nil => rfl
  | cons x xs ih =>
      obtain ⟨fresh, rest⟩ := List.nodup_cons.mp h
      have kept : xs.filter (fun y => !y == x) = xs := by
        rw [List.filter_eq_self]
        intro y hy
        have other : y ≠ x := fun same => fresh (same ▸ hy)
        simpa using other
      rw [List.eraseDups_cons, kept, ih rest]

theorem nodup_eraseDups {α : Type} [BEq α] [LawfulBEq α] (xs : List α) : xs.eraseDups.Nodup := by
  cases xs with
  | nil => exact List.nodup_nil
  | cons x xs =>
      have shorter := List.length_filter_le (fun y => !y == x) xs
      rw [List.eraseDups_cons]
      refine List.nodup_cons.mpr ⟨?_, nodup_eraseDups _⟩
      intro member
      simpa using (List.mem_filter.mp (List.mem_eraseDups.mp member)).2
termination_by xs.length
decreasing_by simp_wf; omega

theorem eraseDups_append_cons_of_mem {α : Type} [BEq α] [LawfulBEq α] {x : α} {xs : List α}
    (h : x ∈ xs) (ys : List α) : (xs ++ x :: ys).eraseDups = (xs ++ ys).eraseDups := by
  rw [List.eraseDups_append, List.eraseDups_append]
  simp [List.removeAll, h]

namespace Keyed

variable {β : Type u} {a b : Keyed β}

theorem lookup_eq_none_of_not_mem {key : String} {entries : List (String × β)}
    (h : key ∉ entries.map Prod.fst) : entries.lookup key = none := by
  induction entries with
  | nil => rfl
  | cons entry rest ih =>
      simp only [List.map_cons, List.mem_cons, not_or] at h
      rw [lookup_cons_eq_if, if_neg h.1, ih h.2]

theorem entries_eq_of_lookup {xs ys : List (String × β)} (distinct : (xs.map Prod.fst).Nodup)
    (keys : xs.map Prod.fst = ys.map Prod.fst) (values : ∀ key, xs.lookup key = ys.lookup key) :
    xs = ys := by
  induction xs generalizing ys with
  | nil => exact (List.map_eq_nil_iff.mp keys.symm).symm
  | cons x xs ih =>
      cases ys with
      | nil => cases keys
      | cons y ys =>
          obtain ⟨first, rest⟩ := List.cons.inj keys
          obtain ⟨fresh, distinct⟩ := List.nodup_cons.mp distinct
          have same := values x.1
          rw [lookup_cons_eq_if, lookup_cons_eq_if, if_pos rfl, if_pos first] at same
          have equal : x = y := Prod.ext first (Option.some.inj same)
          have later : ∀ key, xs.lookup key = ys.lookup key := by
            intro key
            by_cases h : key = x.1
            · rw [h, lookup_eq_none_of_not_mem fresh, lookup_eq_none_of_not_mem (rest ▸ fresh)]
            · have value := values key
              rwa [lookup_cons_eq_if, lookup_cons_eq_if, if_neg h, if_neg (first ▸ h)] at value
          rw [equal, ih distinct rest later]

theorem ext_of_keys_of_get? (keys : a.keys = b.keys) (values : ∀ key, a.get? key = b.get? key) :
    a = b :=
  Keyed.ext (entries_eq_of_lookup a.distinct keys values)

theorem keys_foldl_set (pairs : List (String × β)) (a : Keyed β) :
    (pairs.foldl (fun a pair => a.set pair.1 pair.2) a).keys =
      (a.keys ++ pairs.map Prod.fst).eraseDups := by
  induction pairs generalizing a with
  | nil =>
      rw [List.foldl_nil, List.map_nil, List.append_nil]
      exact (eraseDups_eq_self a.distinct).symm
  | cons pair pairs ih =>
      rw [List.foldl_cons, ih, keys_set, List.map_cons]
      split
      next old => rw [eraseDups_append_cons_of_mem old]
      next => rw [List.append_assoc, List.singleton_append]

theorem setEntry_of_not_mem {key : String} {entries : List (String × β)} (value : β)
    (fresh : key ∉ entries.map Prod.fst) :
    setEntry key value entries = entries ++ [(key, value)] := by
  induction entries with
  | nil => rfl
  | cons entry rest ih =>
      rw [List.map_cons, List.mem_cons, not_or] at fresh
      obtain ⟨other, fresh⟩ := fresh
      rw [setEntry, if_neg (Ne.symm other), ih fresh, List.cons_append]

theorem entries_foldl_set {pairs : List (String × β)} {a : Keyed β}
    (distinct : ((a.entries ++ pairs).map Prod.fst).Nodup) :
    (pairs.foldl (fun a pair => a.set pair.1 pair.2) a).entries = a.entries ++ pairs := by
  induction pairs generalizing a with
  | nil => simp
  | cons pair pairs ih =>
      have fresh : pair.1 ∉ a.entries.map Prod.fst := by
        intro old
        rw [List.map_append, List.nodup_append] at distinct
        exact distinct.2.2 _ old _ List.mem_cons_self rfl
      have here : (a.set pair.1 pair.2).entries = a.entries ++ [pair] :=
        setEntry_of_not_mem pair.2 fresh
      have same : a.entries ++ [pair] ++ pairs = a.entries ++ pair :: pairs := by simp
      have rest := ih (a := a.set pair.1 pair.2) (by rw [here, same]; exact distinct)
      rw [List.foldl_cons, rest, here, same]

theorem entries_ofPairs {pairs : List (String × β)} (distinct : (pairs.map Prod.fst).Nodup) :
    (ofPairs pairs).entries = pairs :=
  entries_foldl_set (a := empty) distinct

theorem keys_ofPairs (pairs : List (String × β)) :
    (ofPairs pairs).keys = (pairs.map Prod.fst).eraseDups := by
  have keys := keys_foldl_set pairs empty
  rwa [keys_empty, List.nil_append] at keys

theorem get?_foldl_set (pairs : List (String × β)) (a : Keyed β) (key : String) :
    (pairs.foldl (fun a pair => a.set pair.1 pair.2) a).get? key =
      (pairs.reverse.lookup key).or (a.get? key) := by
  induction pairs generalizing a with
  | nil => rfl
  | cons pair pairs ih =>
      rw [List.foldl_cons, ih, get?_set, List.reverse_cons, List.lookup_append,
        lookup_cons_eq_if, Option.or_assoc]
      split <;> rfl

/-- Each key has the value of the last pair that sets it. -/
theorem get?_ofPairs (pairs : List (String × β)) (key : String) :
    (ofPairs pairs).get? key = pairs.reverse.lookup key := by
  rw [ofPairs, get?_foldl_set, get?_empty, Option.or_none]

theorem get?_ofPairs_append_cons {left right : List (String × β)} {key : String} {value : β}
    (last : key ∉ right.map Prod.fst) :
    (ofPairs (left ++ (key, value) :: right)).get? key = some value := by
  have absent : right.reverse.lookup key = none := by
    apply lookup_eq_none_of_not_mem
    simpa using last
  rw [get?_ofPairs, List.reverse_append, List.reverse_cons, List.append_assoc,
    List.lookup_append, absent, Option.none_or, List.singleton_append, lookup_cons_eq_if,
    if_pos rfl]

theorem get?_eq_none_iff {key : String} : a.get? key = none ↔ key ∉ a.keys := by
  constructor
  · intro none member
    obtain ⟨entry, inside, rfl⟩ := List.mem_map.mp member
    simpa using List.lookup_eq_none_iff.mp none entry inside
  · exact lookup_eq_none_of_not_mem

theorem lookup_map_pair (value : String → β) (names : List String) (key : String) :
    (names.map fun name => (name, value name)).lookup key =
      if key ∈ names then some (value key) else none := by
  induction names with
  | nil => rfl
  | cons name names ih =>
      rw [List.map_cons, lookup_cons_eq_if, ih]
      by_cases here : key = name
      · simp [here]
      · simp [here]

theorem get?_ofPairs_map (value : String → β) (names : List String) (key : String) :
    (ofPairs (names.map fun name => (name, value name))).get? key =
      if key ∈ names then some (value key) else none := by
  rw [get?_ofPairs, ← List.map_reverse, lookup_map_pair]
  simp only [List.mem_reverse]

theorem idxOf?_concat_of_mem {keys : List String} {other : String} (here : other ∈ keys)
    (key : String) : (keys ++ [key]).idxOf? other = keys.idxOf? other := by
  obtain ⟨i, found⟩ := Option.isSome_iff_exists.mp (List.isSome_idxOf?.mpr here)
  unfold List.idxOf? at found ⊢
  rw [List.findIdx?_append, found]
  rfl

section Positions

variable {key other : String}

theorem mem_keys_of_position? {i : Nat} (found : a.position? key = some i) : key ∈ a.keys := by
  apply List.isSome_idxOf?.mp
  exact Option.isSome_iff_exists.mpr ⟨i, found⟩

theorem position?_set_of_mem (here : other ∈ a.keys) (key : String) (value : β) :
    (a.set key value).position? other = a.position? other := by
  rw [position?, keys_set]
  split
  · rfl
  · exact idxOf?_concat_of_mem here key

theorem position?_set_of_ne (different : other ≠ key) (a : Keyed β) (value : β) :
    (a.set key value).position? other = a.position? other := by
  by_cases here : other ∈ a.keys
  · exact position?_set_of_mem here key value
  · have new : other ∉ (a.set key value).keys := by
      rw [keys_set]
      split <;> simp [here, different]
    rw [position?, position?, List.idxOf?_eq_none_iff.mpr here, List.idxOf?_eq_none_iff.mpr new]

theorem position?_foldl_set (here : other ∈ a.keys) (pairs : List (String × β)) :
    (pairs.foldl (fun a pair => a.set pair.1 pair.2) a).position? other = a.position? other := by
  induction pairs generalizing a with
  | nil => rfl
  | cons pair pairs ih =>
      have kept : other ∈ (a.set pair.1 pair.2).keys := by
        rw [keys_set]
        split <;> simp [here]
      rw [List.foldl_cons, ih kept, position?_set_of_mem here]

end Positions

theorem get?_eq_getElem? (a : Keyed β) (key : String) :
    a.get? key = (a.position? key).bind fun i => a.values[i]? := by
  rw [get?, position?, keys, values]
  induction a.entries with
  | nil => rfl
  | cons entry rest ih =>
      rw [lookup_cons_eq_if, List.map_cons, List.map_cons, List.idxOf?_cons, ih]
      by_cases here : key = entry.1
      · simp [here]
      · have skip : (entry.1 == key) = false := by simpa using Ne.symm here
        rw [if_neg here, skip]
        cases (rest.map Prod.fst).idxOf? key <;> rfl

theorem map_snd_setEntry (key : String) (value : β) (entries : List (String × β)) :
    (setEntry key value entries).map Prod.snd =
      match (entries.map Prod.fst).idxOf? key with
      | some i => (entries.map Prod.snd).set i value
      | none => entries.map Prod.snd ++ [value] := by
  induction entries with
  | nil => rfl
  | cons entry rest ih =>
      rw [List.map_cons, List.idxOf?_cons]
      by_cases here : entry.1 = key
      · simp [setEntry, here]
      · simp only [setEntry, here, if_false, List.map_cons, ih, beq_iff_eq]
        cases (rest.map Prod.fst).idxOf? key <;> simp

theorem values_set (a : Keyed β) (key : String) (value : β) :
    (a.set key value).values =
      match a.position? key with
      | some i => a.values.set i value
      | none => a.values ++ [value] :=
  map_snd_setEntry key value a.entries

end Keyed

end TableQuery
