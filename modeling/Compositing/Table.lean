/-!
# Finite tables

A table maps keys to values and remembers the order in which keys were first inserted. No key occurs
twice. Main statements: `get?_insert`, `get?_erase` and `get?_modify` say what each operation does to
a lookup, and `mem_keys_iff` that the keys are exactly what a lookup finds.
-/

namespace Compositing

/-- A finite map whose entries are in order of insertion. -/
structure Table (κ : Type) (α : Type) where
  entries : List (κ × α)
  nodup : (entries.map Prod.fst).Nodup

namespace Table

variable {κ α : Type} [DecidableEq κ]

/-! ### Lookup and replacement in a list of entries -/

/-- The value beside the first entry of a key. -/
def find? (k : κ) : List (κ × α) → Option α
  | [] => none
  | (k', v) :: rest => if k' = k then some v else find? k rest

/-- Replaces the value of a key, or appends a new entry. -/
def put (k : κ) (v : α) : List (κ × α) → List (κ × α)
  | [] => [(k, v)]
  | (k', v') :: rest => if k' = k then (k, v) :: rest else (k', v') :: put k v rest

theorem mem_keys_put {k x : κ} {v : α} {es : List (κ × α)} :
    x ∈ (put k v es).map Prod.fst ↔ x = k ∨ x ∈ es.map Prod.fst := by
  induction es with
  | nil => simp [put]
  | cons e rest ih =>
    obtain ⟨k', v'⟩ := e
    unfold put
    split
    next same => subst same; simp
    next =>
      simp only [List.map_cons, List.mem_cons, ih]
      constructor
      · rintro (h | h | h) <;> simp [h]
      · rintro (h | h | h) <;> simp [h]

theorem nodup_put {k : κ} {v : α} {es : List (κ × α)} (nodup : (es.map Prod.fst).Nodup) :
    ((put k v es).map Prod.fst).Nodup := by
  induction es with
  | nil => simp [put]
  | cons e rest ih =>
    obtain ⟨k', v'⟩ := e
    simp only [List.map_cons, List.nodup_cons] at nodup
    unfold put
    split
    next same => subst same; simpa using nodup
    next differ =>
      simp only [List.map_cons, List.nodup_cons, mem_keys_put, not_or]
      exact ⟨⟨differ, nodup.1⟩, ih nodup.2⟩

theorem find?_put {k x : κ} {v : α} {es : List (κ × α)} :
    find? x (put k v es) = if x = k then some v else find? x es := by
  induction es with
  | nil => grind [put, find?]
  | cons e rest ih => grind [put, find?]

theorem find?_eq_none_iff {x : κ} {es : List (κ × α)} :
    find? x es = none ↔ x ∉ es.map Prod.fst := by
  induction es with
  | nil => simp [find?]
  | cons e rest ih => grind [find?]

theorem find?_filter_ne {k x : κ} {es : List (κ × α)} :
    find? x (es.filter fun e => e.1 ≠ k) = if x = k then none else find? x es := by
  induction es with
  | nil => simp [find?]
  | cons e rest ih => grind [find?]

omit [DecidableEq κ] in
theorem map_fst_map_snd {f : κ → α → α} {es : List (κ × α)} :
    (es.map fun e => (e.1, f e.1 e.2)).map Prod.fst = es.map Prod.fst := by
  simp [Function.comp_def]

theorem find?_map_snd {f : κ → α → α} {x : κ} {es : List (κ × α)} :
    find? x (es.map fun e => (e.1, f e.1 e.2)) = (find? x es).map (f x) := by
  induction es with
  | nil => rfl
  | cons e rest ih => grind [find?]

/-! ### Tables -/

def empty : Table κ α := ⟨[], by simp⟩

instance : Inhabited (Table κ α) := ⟨empty⟩

def get? (t : Table κ α) (k : κ) : Option α := find? k t.entries

def contains (t : Table κ α) (k : κ) : Bool := (t.get? k).isSome

def keys (t : Table κ α) : List κ := t.entries.map Prod.fst

def values (t : Table κ α) : List α := t.entries.map Prod.snd

def size (t : Table κ α) : Nat := t.entries.length

def isEmpty (t : Table κ α) : Bool := t.entries.isEmpty

/-- Sets the value of a key; a new key comes last. -/
def insert (t : Table κ α) (k : κ) (v : α) : Table κ α := ⟨put k v t.entries, nodup_put t.nodup⟩

def erase (t : Table κ α) (k : κ) : Table κ α :=
  ⟨t.entries.filter fun e => e.1 ≠ k,
    t.nodup.sublist (List.Sublist.map Prod.fst List.filter_sublist)⟩

/-- Changes every value, given its key. -/
def map (t : Table κ α) (f : κ → α → α) : Table κ α :=
  ⟨t.entries.map fun e => (e.1, f e.1 e.2), by rw [map_fst_map_snd]; exact t.nodup⟩

/-- Changes the value of one key, if the key is there. -/
def modify (t : Table κ α) (k : κ) (f : α → α) : Table κ α :=
  t.map fun k' v => if k' = k then f v else v

/-! ### What a lookup finds -/

@[simp] theorem get?_empty (x : κ) : (empty : Table κ α).get? x = none := rfl

theorem get?_insert (t : Table κ α) (k x : κ) (v : α) :
    (t.insert k v).get? x = if x = k then some v else t.get? x := find?_put

theorem get?_erase (t : Table κ α) (k x : κ) :
    (t.erase k).get? x = if x = k then none else t.get? x := find?_filter_ne

theorem get?_map (t : Table κ α) (f : κ → α → α) (x : κ) :
    (t.map f).get? x = (t.get? x).map (f x) := find?_map_snd

theorem get?_modify (t : Table κ α) (k x : κ) (f : α → α) :
    (t.modify k f).get? x = if x = k then (t.get? x).map f else t.get? x := by
  rw [modify, get?_map]
  by_cases h : x = k
  · simp [h]
  · cases t.get? x <;> simp [h]

theorem mem_keys_iff (t : Table κ α) (x : κ) : x ∈ t.keys ↔ (t.get? x).isSome := by
  have absent : find? x t.entries = none ↔ x ∉ t.entries.map Prod.fst := find?_eq_none_iff
  unfold keys get?
  cases h : find? x t.entries <;> simp_all

end Table

end Compositing
