/-!
# Values by keys

Lists of values by their keys, in the order in which the keys first came. A value that is put at a
key takes the turn of the one that was there. Main statements: a lookup meets the value that was put
at its key last, and no key comes twice because of it.
-/

namespace Stepboard.Keyed

variable {κ ν : Type} [BEq κ]

/-- Puts a value at a key. -/
def set (entries : List (κ × ν)) (key : κ) (value : ν) : List (κ × ν) :=
  if entries.any (·.1 == key) then
    entries.map fun e => if e.1 == key then (key, value) else e
  else
    entries ++ [(key, value)]

/-- Puts values at their keys, one after the other. -/
def setAll (entries values : List (κ × ν)) : List (κ × ν) :=
  values.foldl (fun entries e => set entries e.1 e.2) entries

/-- The keys after a value was put at one. -/
def addKey (keys : List κ) (key : κ) : List κ :=
  if keys.contains key then keys else keys ++ [key]

variable [LawfulBEq κ] {entries : List (κ × ν)} {key : κ}

theorem any_key_iff : entries.any (·.1 == key) = true ↔ key ∈ entries.map Prod.fst := by
  simp

theorem lookup_eq_none_iff : entries.lookup key = none ↔ key ∉ entries.map Prod.fst := by
  simp only [List.lookup_eq_none_iff, bne_iff_ne, List.mem_map, not_exists, not_and]
  exact ⟨fun h e he hkey => h e he hkey.symm, fun h e he hkey => h e he hkey.symm⟩

/-- What is looked up among entries of different keys is the one of that key. -/
theorem lookup_eq_some_iff_mem {value : ν} (h : (entries.map Prod.fst).Nodup) :
    entries.lookup key = some value ↔ (key, value) ∈ entries := by
  induction entries with
  | nil => simp
  | cons e entries ih =>
    obtain ⟨k, v⟩ := e
    obtain ⟨hk, hrest⟩ := List.nodup_cons.mp h
    by_cases hkey : key = k
    · subst hkey
      have hnot : (key, value) ∉ entries := fun hmem =>
        hk (List.mem_map.mpr ⟨(key, value), hmem, rfl⟩)
      simp [hnot, eq_comm]
    · rw [List.lookup_cons, beq_false_of_ne hkey]
      simp [ih hrest, hkey]

/-- The order of entries of different keys does not matter. -/
theorem lookup_of_perm {others : List (κ × ν)} (hperm : others.Perm entries)
    (h : (entries.map Prod.fst).Nodup) (key : κ) : others.lookup key = entries.lookup key := by
  have h' : (others.map Prod.fst).Nodup := (hperm.map Prod.fst).nodup_iff.mpr h
  refine Option.ext fun value => ?_
  rw [lookup_eq_some_iff_mem h, lookup_eq_some_iff_mem h', hperm.mem_iff]

theorem lookup_filter (p : κ → Bool) (entries : List (κ × ν)) (key : κ) :
    (entries.filter fun e => p e.1).lookup key = if p key then entries.lookup key else none := by
  induction entries with
  | nil => simp
  | cons e entries ih =>
    obtain ⟨k, v⟩ := e
    by_cases hkey : key = k
    · subst hkey
      cases hp : p key <;> simp [hp, ih]
    · have hne := beq_false_of_ne hkey
      cases hp : p k <;> simp [hp, hne, ih, List.lookup_cons]

theorem set_of_mem (h : key ∈ entries.map Prod.fst) (value : ν) :
    set entries key value = entries.map fun e => if e.1 == key then (key, value) else e :=
  if_pos (any_key_iff.mpr h)

theorem set_of_not_mem (h : key ∉ entries.map Prod.fst) (value : ν) :
    set entries key value = entries ++ [(key, value)] :=
  if_neg fun hany => h (any_key_iff.mp hany)

section Keys

variable {keys : List κ}

theorem addKey_of_mem (h : key ∈ keys) : addKey keys key = keys :=
  if_pos (List.contains_iff_mem.mpr h)

theorem addKey_of_not_mem (h : key ∉ keys) : addKey keys key = keys ++ [key] :=
  if_neg fun hmem => h (List.contains_iff_mem.mp hmem)

theorem foldl_addKey_of_mem {more : List κ} (h : ∀ key ∈ more, key ∈ keys) :
    more.foldl addKey keys = keys := by
  induction more with
  | nil => rfl
  | cons key more ih =>
    rw [List.foldl_cons, addKey_of_mem (h key List.mem_cons_self)]
    exact ih fun k hk => h k (List.mem_cons_of_mem _ hk)

theorem nodup_addKey (h : keys.Nodup) (key : κ) : (addKey keys key).Nodup := by
  by_cases hmem : key ∈ keys
  · rwa [addKey_of_mem hmem]
  · rw [addKey_of_not_mem hmem, List.nodup_append]
    refine ⟨h, by simp, fun a ha b hb hab => ?_⟩
    rw [hab, List.mem_singleton.mp hb] at ha
    exact hmem ha

theorem keys_set (entries : List (κ × ν)) (key : κ) (value : ν) :
    (set entries key value).map Prod.fst = addKey (entries.map Prod.fst) key := by
  by_cases hmem : key ∈ entries.map Prod.fst
  · rw [set_of_mem hmem, addKey_of_mem hmem, List.map_map]
    refine List.map_congr_left fun e _ => ?_
    by_cases he : e.1 = key <;> simp [he]
  · rw [set_of_not_mem hmem, addKey_of_not_mem hmem, List.map_append]
    rfl

theorem keys_setAll (entries values : List (κ × ν)) : (setAll entries values).map Prod.fst
    = (values.map Prod.fst).foldl addKey (entries.map Prod.fst) := by
  induction values generalizing entries with
  | nil => rfl
  | cons e values ih => exact (ih _).trans (by rw [keys_set]; rfl)

end Keys

theorem lookup_replace (entries : List (κ × ν)) (key : κ) (value : ν) (other : κ) :
    (entries.map fun e => if e.1 == key then (key, value) else e).lookup other
      = if other == key then (entries.lookup other).map fun _ => value
        else entries.lookup other := by
  induction entries with
  | nil => simp
  | cons e entries ih =>
    obtain ⟨k, old⟩ := e
    rw [List.map_cons, List.lookup_cons]
    by_cases hk : k = key <;> by_cases hother : other = k
    · simp [← hk, hother]
    · have hne : (other == k) = false := by simpa using hother
      simpa [← hk, hother, hne, List.lookup_cons] using ih
    · simp [hk, hother]
    · have hne : (other == k) = false := by simpa using hother
      simpa [hk, hne, List.lookup_cons] using ih

/-- What is looked up after a value was put at a key. -/
theorem lookup_set (entries : List (κ × ν)) (key : κ) (value : ν) (other : κ) :
    (set entries key value).lookup other
      = if other == key then some value else entries.lookup other := by
  by_cases hmem : key ∈ entries.map Prod.fst
  · rw [set_of_mem hmem, lookup_replace]
    cases hother : other == key
    · rfl
    · rw [eq_of_beq hother]
      cases hold : entries.lookup key with
      | none => exact absurd hmem (lookup_eq_none_iff.mp hold)
      | some old => rfl
  · rw [set_of_not_mem hmem, List.lookup_append]
    cases hother : other == key
    · simp [hother, List.lookup_cons]
    · rw [eq_of_beq hother, lookup_eq_none_iff.mpr hmem]
      simp

theorem lookup_setAll {values : List (κ × ν)} (h : (values.map Prod.fst).Nodup) (key : κ) :
    (setAll entries values).lookup key = (values.lookup key).or (entries.lookup key) := by
  induction values generalizing entries with
  | nil => rfl
  | cons e values ih =>
    obtain ⟨hkey, hrest⟩ := List.nodup_cons.mp h
    change (setAll (set entries e.1 e.2) values).lookup key = _
    rw [ih hrest, lookup_set, List.lookup_cons]
    cases heq : key == e.1
    · rfl
    · rw [eq_of_beq heq, lookup_eq_none_iff.mpr hkey]
      rfl

end Stepboard.Keyed
