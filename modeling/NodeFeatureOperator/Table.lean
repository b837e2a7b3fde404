/-!
# Tables

A table is a list of rows, each a key with its value. Rows are kept in the order of their keys, so
that two tables built from the same rows are the same list and a walk over a table visits the keys
in order. The lemmas say what a look-up finds after each operation; none of them needs the order.
-/

namespace NodeFeatureOperator

/-- Rows of keys and values. -/
abbrev Table (κ α : Type) := List (κ × α)

namespace Table

variable {κ α : Type} [DecidableEq κ]

/-- The value of the first row with this key. -/
def get? (t : Table κ α) (k : κ) : Option α :=
  match t with
  | [] => none
  | (k', v) :: t => if k' = k then some v else get? t k

/-- Whether some row has this key. -/
def contains (t : Table κ α) (k : κ) : Bool := (get? t k).isSome

/-- The table with a row for `k`: in place of the row that had the key, else before the first row
with a larger key. -/
def insert [Ord κ] (t : Table κ α) (k : κ) (v : α) : Table κ α :=
  match t with
  | [] => [(k, v)]
  | (k', v') :: t =>
    if k' = k then (k, v) :: t
    else if compare k k' = .lt then (k, v) :: (k', v') :: t
    else (k', v') :: insert t k v

/-- The table without the rows of this key. -/
def erase (t : Table κ α) (k : κ) : Table κ α := t.filter fun row => row.1 ≠ k

/-- The table with `f` applied to the value of every row with this key. -/
def modify (t : Table κ α) (k : κ) (f : α → α) : Table κ α :=
  t.map fun row => if row.1 = k then (row.1, f row.2) else row

/-- The table that holds these rows; of two rows with one key the later wins. -/
def ofRows [Ord κ] (rows : List (κ × α)) : Table κ α :=
  rows.foldl (fun t row => insert t row.1 row.2) []

/-- The keys, in order. -/
def keys (t : Table κ α) : List κ := t.map (·.1)

/-- The values, in the order of their keys. -/
def values (t : Table κ α) : List α := t.map (·.2)

@[simp] theorem get?_nil (k : κ) : get? ([] : Table κ α) k = none := rfl

theorem get?_cons (k' : κ) (v : α) (t : Table κ α) (k : κ) :
    get? ((k', v) :: t) k = if k' = k then some v else get? t k := rfl

theorem get?_insert [Ord κ] (t : Table κ α) (k : κ) (v : α) (k' : κ) :
    get? (insert t k v) k' = if k = k' then some v else get? t k' := by
  induction t with
  | nil => rfl
  | cons row t ih =>
    obtain ⟨k₀, v₀⟩ := row
    unfold insert
    split
    · rename_i h
      subst h
      by_cases hk : k₀ = k' <;> simp [get?_cons, hk]
    · rename_i h
      split
      · by_cases hk : k = k' <;> simp [get?_cons, hk]
      · rw [get?_cons, ih, get?_cons]
        by_cases hk : k₀ = k'
        · subst hk
          simp [Ne.symm h]
        · simp [hk]

@[simp] theorem get?_insert_self [Ord κ] (t : Table κ α) (k : κ) (v : α) :
    get? (insert t k v) k = some v := by simp [get?_insert]

theorem get?_erase (t : Table κ α) (k k' : κ) :
    get? (erase t k) k' = if k = k' then none else get? t k' := by
  induction t with
  | nil => simp [erase]
  | cons row t ih =>
    obtain ⟨k₀, v₀⟩ := row
    by_cases h₀ : k₀ = k
    · have : erase ((k₀, v₀) :: t) k = erase t k := by simp [erase, h₀]
      rw [this, ih, get?_cons]
      by_cases hk : k = k'
      · simp [hk]
      · have : k₀ ≠ k' := fun h => hk (h₀ ▸ h)
        simp [hk, this]
    · have : erase ((k₀, v₀) :: t) k = (k₀, v₀) :: erase t k := by simp [erase, h₀]
      rw [this, get?_cons, ih, get?_cons]
      by_cases hk : k = k'
      · subst hk
        simp [h₀]
      · simp [hk]

theorem get?_modify (t : Table κ α) (k : κ) (f : α → α) (k' : κ) :
    get? (modify t k f) k' = if k = k' then (get? t k').map f else get? t k' := by
  induction t with
  | nil => simp [modify]
  | cons row t ih =>
    obtain ⟨k₀, v₀⟩ := row
    have : modify ((k₀, v₀) :: t) k f
        = (if k₀ = k then (k₀, f v₀) else (k₀, v₀)) :: modify t k f := rfl
    rw [this, get?_cons]
    by_cases h₀ : k₀ = k
    · subst h₀
      simp only [if_true, get?_cons, ih]
      by_cases hk : k₀ = k' <;> simp [hk]
    · simp only [h₀, if_false, get?_cons, ih]
      by_cases hk : k₀ = k'
      · subst hk
        simp [Ne.symm h₀]
      · simp [hk]

end Table

end NodeFeatureOperator
