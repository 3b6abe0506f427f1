set_option autoImplicit false

/-!
# Dictionaries with keys in order

A dictionary holds its entries in strictly increasing order of their keys, so that two dictionaries
that answer every look-up alike are equal and reading out the entries gives each key once.

## Main definitions

* `Dict`: a list of entries with strictly increasing keys.
* `Dict.get?`, `Dict.insert`, `Dict.union`: look-up, writing one entry, writing many.

## Main statements

* `Dict.get?_insert`: a look-up after a write.
* `Dict.get?_union`, `Dict.get?_ofList`: look-ups after many writes.
* `Dict.ext_get?`: look-ups determine the dictionary.
-/

namespace FirmwareBench

/-- Entries in strictly increasing order of their keys. -/
structure Dict (β : Type) where
  /-- The entries, each key once. -/
  entries : List (String × β)
  /-- The keys increase strictly. -/
  sorted : entries.Pairwise (fun a b => a.1 < b.1)

namespace Dict

variable {β : Type}

/-! ## Entry lists -/

/-- The value at the first entry with the given key. -/
def lookup (key : String) : List (String × β) → Option β
  | [] => none
  | (k, v) :: rest => if key = k then some v else lookup key rest

/-- Writes an entry into a list whose keys increase. -/
def put (key : String) (value : β) : List (String × β) → List (String × β)
  | [] => [(key, value)]
  | (k, v) :: rest =>
    if key < k then (key, value) :: (k, v) :: rest
    else if key = k then (key, value) :: rest
    else (k, v) :: put key value rest

theorem eq_or_mem_of_mem_put {key : String} {value : β} {list : List (String × β)}
    {e : String × β} (h : e ∈ put key value list) : e = (key, value) ∨ e ∈ list := by
  induction list with
  | nil => simpa [put] using h
  | cons head rest ih =>
    obtain ⟨k, v⟩ := head
    rw [put] at h
    split at h
    · simpa using h
    · split at h
      · rcases List.mem_cons.mp h with h | h
        · exact Or.inl h
        · exact Or.inr (List.mem_cons_of_mem _ h)
      · rcases List.mem_cons.mp h with h | h
        · exact Or.inr (by simp [h])
        · rcases ih h with h | h
          · exact Or.inl h
          · exact Or.inr (List.mem_cons_of_mem _ h)

theorem put_sorted {key : String} {value : β} {list : List (String × β)}
    (h : list.Pairwise (fun a b => a.1 < b.1)) :
    (put key value list).Pairwise (fun a b => a.1 < b.1) := by
  induction list with
  | nil => simp [put]
  | cons head rest ih =>
    obtain ⟨k, v⟩ := head
    have hrest := (List.pairwise_cons.mp h).2
    have hhead := (List.pairwise_cons.mp h).1
    rw [put]
    split
    · next hlt =>
      refine List.pairwise_cons.mpr ⟨fun e he => ?_, h⟩
      rcases List.mem_cons.mp he with rfl | he
      · exact hlt
      · exact String.lt_trans hlt (hhead e he)
    · split
      · next heq =>
        subst heq
        exact List.pairwise_cons.mpr ⟨fun e he => hhead e he, hrest⟩
      · next hlt hne =>
        refine List.pairwise_cons.mpr ⟨fun e he => ?_, ih hrest⟩
        rcases eq_or_mem_of_mem_put he with rfl | he
        · rcases Std.lt_trichotomy key k with h' | h' | h'
          · exact absurd h' hlt
          · exact absurd h' hne
          · exact h'
        · exact hhead e he

theorem lookup_put (key : String) (value : β) (list : List (String × β)) (k : String) :
    lookup k (put key value list) = if k = key then some value else lookup k list := by
  induction list with
  | nil => simp [put, lookup]
  | cons head rest ih =>
    obtain ⟨k', v⟩ := head
    rw [put]
    split
    · simp [lookup]
    · split
      · next heq =>
        subst heq
        by_cases hk : k = key <;> simp [lookup, hk]
      · next hne =>
        by_cases hk : k = k'
        · subst hk
          simp [lookup, Ne.symm hne]
        · simp [lookup, hk, ih]

theorem lookup_eq_none_of_forall_lt {key : String} {list : List (String × β)}
    (h : ∀ e ∈ list, key < e.1) : lookup key list = none := by
  induction list with
  | nil => rfl
  | cons head rest ih =>
    obtain ⟨k, v⟩ := head
    have hlt : key < k := h (k, v) (by simp)
    have hne : key ≠ k := fun heq => String.lt_irrefl k (heq ▸ hlt)
    simp [lookup, hne, ih fun e he => h e (List.mem_cons_of_mem _ he)]

/-! ## Dictionaries -/

def empty : Dict β := ⟨[], List.Pairwise.nil⟩

instance : Inhabited (Dict β) := ⟨empty⟩

def get? (d : Dict β) (key : String) : Option β := lookup key d.entries

def contains (d : Dict β) (key : String) : Bool := (d.get? key).isSome

/-- Writes one entry, replacing the value the key had. -/
def insert (d : Dict β) (key : String) (value : β) : Dict β :=
  ⟨put key value d.entries, put_sorted d.sorted⟩

/-- Writes entries from first to last. -/
def insertAll (d : Dict β) (list : List (String × β)) : Dict β :=
  list.foldl (fun d e => d.insert e.1 e.2) d

/-- All entries of both; those of the second dictionary win. -/
def union (d other : Dict β) : Dict β := d.insertAll other.entries

/-- The dictionary of a list of entries, where a later entry replaces an earlier one. -/
def ofList (list : List (String × β)) : Dict β := empty.insertAll list

def filter (d : Dict β) (keep : String → β → Bool) : Dict β :=
  ⟨d.entries.filter fun e => keep e.1 e.2, d.sorted.filter _⟩

def erase (d : Dict β) (key : String) : Dict β := d.filter fun k _ => k != key

/-- The entries in increasing order of the keys. -/
def toList (d : Dict β) : List (String × β) := d.entries

/-- The keys in increasing order. -/
def keys (d : Dict β) : List String := d.entries.map Prod.fst

def size (d : Dict β) : Nat := d.entries.length

/-! ## Laws -/

@[simp] theorem get?_empty (key : String) : (empty : Dict β).get? key = none := rfl

theorem get?_insert (d : Dict β) (key : String) (value : β) (k : String) :
    (d.insert key value).get? k = if k = key then some value else d.get? k :=
  lookup_put key value d.entries k

theorem lookup_eq_none_iff {key : String} {list : List (String × β)} :
    lookup key list = none ↔ key ∉ list.map Prod.fst := by
  induction list with
  | nil => simp [lookup]
  | cons head rest ih =>
    obtain ⟨k, v⟩ := head
    by_cases hk : key = k <;> simp [lookup, hk, ih]

theorem lookup_append (key : String) (first second : List (String × β)) :
    lookup key (first ++ second) = (lookup key first).or (lookup key second) := by
  induction first with
  | nil => simp [lookup]
  | cons head rest ih =>
    obtain ⟨k, v⟩ := head
    by_cases hk : key = k <;> simp [lookup, hk, ih]

theorem mem_of_lookup_eq_some {key : String} {value : β} {list : List (String × β)}
    (h : lookup key list = some value) : (key, value) ∈ list := by
  induction list with
  | nil => simp [lookup] at h
  | cons head rest ih =>
    obtain ⟨k, v⟩ := head
    by_cases hk : key = k
    · simp_all [lookup]
    · exact List.mem_cons_of_mem _ (ih (by simpa [lookup, hk] using h))

/-- Where each key stands once, a look-up finds every entry. -/
theorem lookup_eq_some_iff {key : String} {value : β} {list : List (String × β)}
    (hkeys : (list.map Prod.fst).Nodup) : lookup key list = some value ↔ (key, value) ∈ list := by
  refine ⟨mem_of_lookup_eq_some, fun hmem => ?_⟩
  induction list with
  | nil => simp at hmem
  | cons head rest ih =>
    obtain ⟨k, v⟩ := head
    obtain ⟨hk, hrest⟩ := List.nodup_cons.mp hkeys
    rcases List.mem_cons.mp hmem with heq | hmem
    · cases heq
      simp [lookup]
    · have hkey : key ∈ rest.map Prod.fst := List.mem_map.mpr ⟨(key, value), hmem, rfl⟩
      have hne : key ≠ k := fun heq => hk (heq ▸ hkey)
      simpa [lookup, hne] using ih hrest hmem

theorem keys_nodup (d : Dict β) : d.keys.Nodup := by
  refine List.Pairwise.map _ (fun a b hlt heq => ?_) d.sorted
  rw [heq] at hlt
  exact String.lt_irrefl _ hlt

/-- Of entries written one after the other, each key once, the one of the key is found, else what
was there before. -/
theorem get?_insertAll (d : Dict β) {list : List (String × β)}
    (hkeys : (list.map Prod.fst).Nodup) (key : String) :
    (d.insertAll list).get? key = (lookup key list).or (d.get? key) := by
  induction list generalizing d with
  | nil => simp [insertAll, lookup]
  | cons head rest ih =>
    obtain ⟨k, v⟩ := head
    obtain ⟨hk, hrest⟩ := List.nodup_cons.mp hkeys
    have hinsert : (d.insertAll ((k, v) :: rest)).get? key =
        (lookup key rest).or ((d.insert k v).get? key) := ih (d.insert k v) hrest
    rw [hinsert, get?_insert]
    by_cases heq : key = k
    · subst heq
      simp [lookup, lookup_eq_none_iff.mpr hk]
    · simp [lookup, heq]

theorem get?_union (d other : Dict β) (key : String) :
    (d.union other).get? key = (other.get? key).or (d.get? key) :=
  get?_insertAll d other.keys_nodup key

theorem get?_ofList {list : List (String × β)} (hkeys : (list.map Prod.fst).Nodup)
    (key : String) : (ofList list).get? key = lookup key list := by
  simp [ofList, get?_insertAll empty hkeys]

private theorem entries_eq_of_lookup_eq :
    ∀ {l₁ l₂ : List (String × β)}, l₁.Pairwise (fun a b => a.1 < b.1) →
      l₂.Pairwise (fun a b => a.1 < b.1) → (∀ k, lookup k l₁ = lookup k l₂) → l₁ = l₂
  | [], [], _, _, _ => rfl
  | [], (k, v) :: rest, _, _, h => by simpa [lookup] using h k
  | (k, v) :: rest, [], _, _, h => by simpa [lookup] using h k
  | (k₁, v₁) :: r₁, (k₂, v₂) :: r₂, h₁, h₂, h => by
    have hlt₁ := (List.pairwise_cons.mp h₁).1
    have hlt₂ := (List.pairwise_cons.mp h₂).1
    have hk : k₁ = k₂ := by
      rcases Std.lt_trichotomy k₁ k₂ with hlt | heq | hlt
      · have hnone : lookup k₁ ((k₂, v₂) :: r₂) = none :=
          lookup_eq_none_of_forall_lt fun e he => by
            rcases List.mem_cons.mp he with rfl | he
            · exact hlt
            · exact String.lt_trans hlt (hlt₂ e he)
        have := h k₁
        rw [hnone] at this
        simp [lookup] at this
      · exact heq
      · have hnone : lookup k₂ ((k₁, v₁) :: r₁) = none :=
          lookup_eq_none_of_forall_lt fun e he => by
            rcases List.mem_cons.mp he with rfl | he
            · exact hlt
            · exact String.lt_trans hlt (hlt₁ e he)
        have := h k₂
        rw [hnone] at this
        simp [lookup] at this
    subst hk
    have hv : v₁ = v₂ := by simpa [lookup] using h k₁
    subst hv
    have hrest : r₁ = r₂ := by
      refine entries_eq_of_lookup_eq (List.pairwise_cons.mp h₁).2 (List.pairwise_cons.mp h₂).2
        fun k => ?_
      by_cases hk : k = k₁
      · subst hk
        rw [lookup_eq_none_of_forall_lt hlt₁, lookup_eq_none_of_forall_lt hlt₂]
      · simpa [lookup, hk] using h k
    rw [hrest]

/-- Dictionaries that answer every look-up alike are equal. -/
theorem ext_get? {d₁ d₂ : Dict β} (h : ∀ k, d₁.get? k = d₂.get? k) : d₁ = d₂ := by
  obtain ⟨e₁, s₁⟩ := d₁
  obtain ⟨e₂, s₂⟩ := d₂
  have : e₁ = e₂ := entries_eq_of_lookup_eq s₁ s₂ h
  subst this
  rfl

instance [DecidableEq β] : DecidableEq (Dict β) := fun d₁ d₂ =>
  if h : d₁.entries = d₂.entries then
    isTrue (by obtain ⟨e₁, s₁⟩ := d₁; obtain ⟨e₂, s₂⟩ := d₂; subst h; rfl)
  else isFalse fun heq => h (by rw [heq])

end Dict

end FirmwareBench
