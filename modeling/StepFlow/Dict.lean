/-
  StepFlow.Dict
  ─────────────
  Dictionaries that remember the order in which their keys arrived.

  A state, an object value, a slot table and a registry are all such
  dictionaries.  Writing a key that is already there replaces its value and
  keeps its place; a new key goes to the end.  Every operation is described
  through two views: `get?` (what a key holds) and `keys` (which keys there
  are, in order).
-/

universe u v

namespace StepFlow

/-- Keys and values in order of arrival. -/
abbrev Dict (α : Type u) := List (String × α)

namespace Dict

variable {α : Type u} {β : Type v}

/-! ## §1. Reading -/

/-- The value of the first entry under `key`. -/
def get? : Dict α → String → Option α
  | [], _ => none
  | (k, v) :: rest, key => if k = key then some v else get? rest key

/-- Whether `key` has an entry. -/
def contains (d : Dict α) (key : String) : Bool :=
  (get? d key).isSome

/-- The keys, in order. -/
def keys (d : Dict α) : List String :=
  d.map Prod.fst

/-! ## §2. Writing -/

/-- Write `value` under `key`: in place if the key is there, at the end otherwise. -/
def insert : Dict α → String → α → Dict α
  | [], key, value => [(key, value)]
  | (k, v) :: rest, key, value =>
      if k = key then (k, value) :: rest else (k, v) :: insert rest key value

/-- Take out the first entry under `key`. -/
def erase : Dict α → String → Dict α
  | [], _ => []
  | (k, v) :: rest, key => if k = key then rest else (k, v) :: erase rest key

/-- Write every entry of `new` into `d`, in order. -/
def insertAll (d new : Dict α) : Dict α :=
  new.foldl (fun acc entry => insert acc entry.1 entry.2) d

/-- The dictionary that results from writing `entries` one after the other. -/
def ofEntries (entries : List (String × α)) : Dict α :=
  insertAll [] entries

/-- Apply `f` to every value. -/
def mapValues (f : α → β) (d : Dict α) : Dict β :=
  d.map fun entry => (entry.1, f entry.2)

/-- The same entries, by increasing key. -/
def sortByKey (d : Dict α) : Dict α :=
  d.mergeSort fun a b => decide (a.1 ≤ b.1)

/-! ## §3. What each operation does to the two views -/

@[simp] theorem get?_nil (key : String) : get? ([] : Dict α) key = none := rfl

@[simp] theorem get?_insert_self (d : Dict α) (key : String) (value : α) :
    get? (insert d key value) key = some value := by
  induction d with
  | nil => simp [insert, get?]
  | cons entry rest ih =>
    obtain ⟨k, v⟩ := entry
    by_cases h : k = key <;> simp [insert, get?, h, ih]

theorem get?_insert_of_ne (d : Dict α) {key other : String} (value : α) (h : key ≠ other) :
    get? (insert d key value) other = get? d other := by
  induction d with
  | nil => simp [insert, get?, h]
  | cons entry rest ih =>
    obtain ⟨k, v⟩ := entry
    by_cases hk : k = key
    · subst hk; simp [insert, get?, h]
    · have hi : insert ((k, v) :: rest) key value = (k, v) :: insert rest key value := by
        simp [insert, hk]
      rw [hi]
      simp only [get?, ih]

/-- Writing a key that is there keeps the key list; a new key goes to its end. -/
theorem keys_insert (d : Dict α) (key : String) (value : α) :
    keys (insert d key value) = if key ∈ keys d then keys d else keys d ++ [key] := by
  induction d with
  | nil => simp [insert, keys]
  | cons entry rest ih =>
    obtain ⟨k, v⟩ := entry
    by_cases hk : k = key
    · subst hk; simp [insert, keys]
    · have hk' : ¬ key = k := fun h => hk h.symm
      by_cases hm : key ∈ keys rest
      · simp [keys] at ih hm
        simp [insert, hk, keys, ih, hm]
      · simp [keys] at ih hm
        simp [insert, hk, hk', keys, ih, hm]

theorem nodup_keys_insert {d : Dict α} (h : (keys d).Nodup) (key : String) (value : α) :
    (keys (insert d key value)).Nodup := by
  rw [keys_insert]
  split
  · exact h
  · next hnew =>
      refine List.nodup_append.mpr ⟨h, by simp, ?_⟩
      rintro other hother last hlast rfl
      exact hnew (List.mem_singleton.mp hlast ▸ hother)

theorem get?_eq_none_iff (d : Dict α) (key : String) : get? d key = none ↔ key ∉ keys d := by
  induction d with
  | nil => simp [get?, keys]
  | cons entry rest ih =>
    obtain ⟨k, v⟩ := entry
    by_cases hk : k = key
    · subst hk; simp [get?, keys]
    · have hk' : ¬ key = k := fun h => hk h.symm
      simpa [get?, hk, keys, hk'] using ih

theorem mem_of_get? {d : Dict α} {key : String} {value : α} (h : get? d key = some value) :
    (key, value) ∈ d := by
  induction d with
  | nil => cases h
  | cons entry rest ih =>
    obtain ⟨k, v⟩ := entry
    by_cases hk : k = key
    · rw [get?, if_pos hk] at h
      cases h
      rw [hk]
      exact List.mem_cons_self
    · rw [get?, if_neg hk] at h
      exact List.mem_cons_of_mem _ (ih h)

/-- Without a key twice, every entry is the one that its key finds. -/
theorem get?_of_mem {d : Dict α} (hnodup : (keys d).Nodup) {key : String} {value : α}
    (h : (key, value) ∈ d) : get? d key = some value := by
  induction d with
  | nil => cases h
  | cons entry rest ih =>
    obtain ⟨k, v⟩ := entry
    obtain ⟨hk, hrest⟩ := List.nodup_cons.mp hnodup
    rcases List.mem_cons.mp h with heq | hmem
    · cases heq
      rw [get?, if_pos rfl]
    · have hlater : key ∈ keys rest := List.mem_map_of_mem hmem
      have hne : k ≠ key := by
        rintro rfl
        exact hk hlater
      rw [get?, if_neg hne, ih hrest hmem]

theorem contains_iff (d : Dict α) (key : String) : contains d key = true ↔ key ∈ keys d := by
  unfold contains
  cases h : get? d key with
  | none => simpa using (get?_eq_none_iff d key).mp h
  | some v =>
    have hmem : key ∈ keys d := List.mem_map_of_mem (mem_of_get? h)
    simpa using hmem

/-- What a key holds after other entries were written: theirs if they have the key. -/
theorem get?_insertAll {new : Dict α} (hnodup : (keys new).Nodup) (key : String) :
    ∀ (d : Dict α), get? (insertAll d new) key = (get? new key).or (get? d key) := by
  induction new with
  | nil => intro d; rfl
  | cons entry rest ih =>
    obtain ⟨k, v⟩ := entry
    intro d
    obtain ⟨hk, hrest⟩ := List.nodup_cons.mp hnodup
    show get? (insertAll (insert d k v) rest) key = _
    rw [ih hrest]
    by_cases h : k = key
    · -- no later entry has this key again
      subst h
      rw [(get?_eq_none_iff rest k).mpr hk, get?_insert_self, get?, if_pos rfl]
      rfl
    · rw [get?_insert_of_ne d v h, get?, if_neg h]

/-- Writing a key comes before what was there. -/
theorem get?_insert (d : Dict α) (k : String) (v : α) (key : String) :
    get? (insert d k v) key = (get? [(k, v)] key).or (get? d key) := by
  by_cases h : k = key
  · subst h
    simp [get?]
  · rw [get?_insert_of_ne d v h]
    simp [get?, h]

/-- The same with any entries: of those with one key the last one counts. -/
theorem get?_insertAll_ofEntries (new : Dict α) (key : String) :
    ∀ (d : Dict α), get? (insertAll d new) key = (get? (ofEntries new) key).or (get? d key) := by
  induction new with
  | nil => intro d; rfl
  | cons entry rest ih =>
    obtain ⟨k, v⟩ := entry
    intro d
    show get? (insertAll (insert d k v) rest) key =
      (get? (insertAll [(k, v)] rest) key).or (get? d key)
    rw [ih (insert d k v), ih [(k, v)], get?_insert, Option.or_assoc]

/-- The keys after other entries were written: those that are new come last, in their order. -/
theorem keys_insertAll {new : Dict α} (hnodup : (keys new).Nodup) :
    ∀ (d : Dict α), keys (insertAll d new) =
      keys d ++ (keys new).filter fun key => decide (key ∉ keys d) := by
  induction new with
  | nil => intro d; exact (List.append_nil (keys d)).symm
  | cons entry rest ih =>
    obtain ⟨k, v⟩ := entry
    intro d
    obtain ⟨hk, hrest⟩ := List.nodup_cons.mp hnodup
    show keys (insertAll (insert d k v) rest) =
      keys d ++ (k :: keys rest).filter fun key => decide (key ∉ keys d)
    rw [ih hrest, keys_insert, List.filter_cons]
    by_cases hmem : k ∈ keys d
    · simp [hmem]
    · -- the new key is none of the later ones
      have hlater : (keys rest).filter (fun key => decide (key ∉ keys d ++ [k])) =
          (keys rest).filter fun key => decide (key ∉ keys d) := by
        refine List.filter_congr fun key hkey => ?_
        have hne : key ≠ k := by
          rintro rfl
          exact hk hkey
        simp [hne]
      simp only [if_neg hmem, hlater]
      simp [hmem]

theorem get?_erase_of_ne (d : Dict α) {key other : String} (h : key ≠ other) :
    get? (erase d key) other = get? d other := by
  induction d with
  | nil => rfl
  | cons entry rest ih =>
    obtain ⟨k, v⟩ := entry
    by_cases hk : k = key
    · subst hk; simp [erase, get?, h]
    · have he : erase ((k, v) :: rest) key = (k, v) :: erase rest key := by simp [erase, hk]
      rw [he]
      simp only [get?, ih]

theorem keys_erase (d : Dict α) (key : String) : keys (erase d key) = (keys d).erase key := by
  induction d with
  | nil => rfl
  | cons entry rest ih =>
    obtain ⟨k, v⟩ := entry
    by_cases hk : k = key
    · simp [erase, keys, hk]
    · simp [keys] at ih
      simp [erase, keys, hk, ih]

/-- Without a key twice, a key that was taken out is gone. -/
theorem get?_erase_self {d : Dict α} (hnodup : (keys d).Nodup) (key : String) :
    get? (erase d key) key = none := by
  rw [get?_eq_none_iff, keys_erase]
  exact hnodup.not_mem_erase

/-- What is in a dictionary after a key was written. -/
theorem mem_insert {d : Dict α} {key : String} {value : α} {entry : String × α}
    (h : entry ∈ insert d key value) : entry = (key, value) ∨ entry ∈ d := by
  induction d with
  | nil => exact .inl (List.mem_singleton.mp h)
  | cons first rest ih =>
    obtain ⟨k, v⟩ := first
    by_cases hk : k = key
    · rw [insert, if_pos hk, List.mem_cons, hk] at h
      exact h.imp_right (List.mem_cons_of_mem _)
    · rw [insert, if_neg hk, List.mem_cons] at h
      rcases h with rfl | hmem
      · exact .inr List.mem_cons_self
      · exact (ih hmem).imp_right (List.mem_cons_of_mem _)

theorem mem_insertAll {new : Dict α} {entry : String × α} :
    ∀ {d : Dict α}, entry ∈ insertAll d new → entry ∈ d ∨ entry ∈ new := by
  induction new with
  | nil => exact fun h => .inl h
  | cons first rest ih =>
    intro d h
    rcases ih h with hmem | hmem
    · rcases mem_insert hmem with rfl | hd
      · exact .inr List.mem_cons_self
      · exact .inl hd
    · exact .inr (List.mem_cons_of_mem _ hmem)

end Dict

end StepFlow
