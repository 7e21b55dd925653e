import Compositing.Table

/-!
# Comparing lookups

What two lookups have in common: a part of what they find, or a relation between what they find. Both
are how one state of a table is compared with a later one.
-/

namespace Compositing

section

variable {α β γ : Type}

variable {R : α → β → Prop} {x : Option α} {y : Option β}

theorem found_of_rel {b : β} (rel : Option.Rel R x y) (found : y = some b) :
    ∃ a, x = some a ∧ R a b := by
  subst found
  cases rel with
  | some related => exact ⟨_, rfl, related⟩

theorem found_of_rel_left {a : α} (rel : Option.Rel R x y) (found : x = some a) :
    ∃ b, y = some b ∧ R a b := by
  subst found
  cases rel with
  | some related => exact ⟨_, rfl, related⟩

theorem none_of_rel (rel : Option.Rel R none y) : y = none := by
  cases rel
  rfl

theorem rel_refl_found {R : α → α → Prop} {x : Option α} (refl : ∀ a, x = some a → R a a) :
    Option.Rel R x x := by
  cases x with
  | none => exact .none
  | some a => exact .some (refl a rfl)

theorem rel_refl {R : α → α → Prop} (refl : ∀ a, R a a) (x : Option α) : Option.Rel R x x :=
  rel_refl_found fun a _ => refl a

theorem rel_self (x : Option α) : Option.Rel (fun a b => b = a) x x := by
  apply rel_refl
  intro a
  rfl

theorem rel_part (f : α → γ) (x : Option α) : Option.Rel (fun a b => f b = f a) x x := by
  apply rel_refl
  intro a
  rfl

theorem rel_trans {S : β → γ → Prop} {T : α → γ → Prop} {z : Option γ} (first : Option.Rel R x y)
    (second : Option.Rel S y z) (trans : ∀ a b d, R a b → S b d → T a d) : Option.Rel T x z := by
  cases first with
  | none =>
    cases second with
    | none => exact .none
  | some related =>
    cases second with
    | some related' => exact .some (trans _ _ _ related related')

/-- Two values that both go back to the same one. -/
theorem rel_of_common {S : α → γ → Prop} {T : β → γ → Prop} {z : Option γ} (first : Option.Rel R x y)
    (second : Option.Rel S x z)
    (common : ∀ a b d, x = some a → y = some b → z = some d → R a b → S a d → T b d) :
    Option.Rel T y z := by
  cases first with
  | none =>
    cases second with
    | none => exact .none
  | some related =>
    cases second with
    | some related' => exact .some (common _ _ _ rfl rfl rfl related related')

theorem rel_mono {S : α → β → Prop} (rel : Option.Rel R x y)
    (mono : ∀ a b, x = some a → R a b → S a b) : Option.Rel S x y := by
  cases rel with
  | none => exact .none
  | some related => exact .some (mono _ _ rfl related)

/-- A value is replaced by a related one. -/
theorem rel_map {R : α → α → Prop} {f : α → α} {x : Option α}
    (related : ∀ a, x = some a → R a (f a)) : Option.Rel R x (x.map f) := by
  cases x with
  | none => exact .none
  | some a => exact .some (related a rfl)

theorem rel_map_right {S : α → γ → Prop} {f : β → γ} (rel : Option.Rel R x y)
    (mono : ∀ a b, R a b → S a (f b)) : Option.Rel S x (y.map f) := by
  cases rel with
  | none => exact .none
  | some related => exact .some (mono _ _ related)

/-- Both values are replaced by related ones. -/
theorem rel_map_both {S : α → β → Prop} {f : α → α} {g : β → β} (rel : Option.Rel R x y)
    (related : ∀ a b, x = some a → y = some b → R a b → S (f a) (g b)) :
    Option.Rel S (x.map f) (y.map g) := by
  cases rel with
  | none => exact .none
  | some before => exact .some (related _ _ rfl rfl before)

theorem map_of_rel {f : α → γ} {g : β → γ} (rel : Option.Rel R x y)
    (same : ∀ a b, R a b → g b = f a) : y.map g = x.map f := by
  cases rel with
  | none => rfl
  | some related => exact congrArg some (same _ _ related)

theorem bind_of_rel {f : α → Option γ} {g : β → Option γ} (rel : Option.Rel R x y)
    (same : ∀ a b, R a b → g b = f a) : y.bind g = x.bind f := by
  cases rel with
  | none => rfl
  | some related => exact same _ _ related

theorem elim_of_rel {f : α → γ} {g : β → γ} {d : γ} (rel : Option.Rel R x y)
    (same : ∀ a b, R a b → g b = f a) : y.elim d g = x.elim d f := by
  cases rel with
  | none => rfl
  | some related => exact same _ _ related

/-- What relates a state to the next relates it to the last. -/
theorem foldl_related {σ : Type} {R : σ → σ → Prop} (refl : ∀ s, R s s)
    (trans : ∀ s t u, R s t → R t u → R s u) {f : σ → α → σ} (step : ∀ s a, R s (f s a))
    (l : List α) (s : σ) : R s (l.foldl f s) := by
  induction l generalizing s with
  | nil => exact refl s
  | cons a l ih => exact trans s (f s a) _ (step s a) (ih (f s a))

/-- One part of what a fold carries along, where the other parts do not matter for it. -/
theorem foldl_snd {σ : Type} {f : γ × σ → α → γ × σ} {g : σ → α → σ}
    (step : ∀ s a, (f s a).2 = g s.2 a) (l : List α) (s : γ × σ) :
    (l.foldl f s).2 = l.foldl g s.2 := by
  induction l generalizing s with
  | nil => rfl
  | cons a l ih => rw [List.foldl_cons, List.foldl_cons, ih, step]

end

namespace Table

variable {κ α β : Type} [DecidableEq κ]

theorem contains_iff (t : Table κ α) (k : κ) : t.contains k = true ↔ ∃ v, t.get? k = some v := by
  rw [contains, Option.isSome_iff_exists]

/-- Changes the value of a key, if there is a key. -/
def modifyAt (t : Table κ α) (k : Option κ) (f : α → α) : Table κ α := k.elim t (t.modify · f)

theorem get?_modifyAt (t : Table κ α) (k : Option κ) (x : κ) (f : α → α) :
    (t.modifyAt k f).get? x = if k = some x then (t.get? x).map f else t.get? x := by
  cases k with
  | none => simp [modifyAt]
  | some k => simp [modifyAt, get?_modify, eq_comm]

/-- Only the value of one key is replaced by a related one. -/
theorem rel_modify (t : Table κ α) (k x : κ) {f : α → α} {R : α → α → Prop} (refl : ∀ v, R v v)
    (related : ∀ v, t.get? k = some v → R v (f v)) :
    Option.Rel R (t.get? x) ((t.modify k f).get? x) := by
  rw [get?_modify]
  split
  next same => exact rel_map fun v found => related v (same ▸ found)
  next => exact rel_refl refl _

/-- What a value was changed to does not matter once it is gone. -/
theorem erase_modify (t : Table κ α) (k : κ) (f : α → α) : (t.modify k f).erase k = t.erase k := by
  -- Entry by entry, as the keys are not known to differ here.
  have entries (es : List (κ × α)) :
      (es.map fun e => (e.1, if e.1 = k then f e.2 else e.2)).filter (fun e => e.1 ≠ k) =
        es.filter fun e => e.1 ≠ k := by
    induction es with
    | nil => rfl
    | cons e es ih => by_cases same : e.1 = k <;> simp_all
  simp only [erase, modify, map, Table.mk.injEq]
  exact entries t.entries

/-! ### Tables that hold the same -/

theorem entries_eq {es es' : List (κ × α)} (nodup : (es.map Prod.fst).Nodup)
    (keys : es'.map Prod.fst = es.map Prod.fst) (found : ∀ k, find? k es' = find? k es) :
    es' = es := by
  induction es generalizing es' with
  | nil => simpa using keys
  | cons e es ih =>
    cases es' with
    | nil => simp at keys
    | cons e' es' =>
      obtain ⟨k, v⟩ := e
      obtain ⟨k', v'⟩ := e'
      simp only [List.map_cons, List.cons.injEq, List.nodup_cons] at keys nodup
      obtain ⟨rfl, keys⟩ := keys
      obtain rfl : v' = v := by simpa [find?] using found k'
      refine congrArg _ (ih nodup.2 keys fun x => ?_)
      by_cases here : x = k'
      · rw [find?_eq_none_iff.2 (keys ▸ here ▸ nodup.1), find?_eq_none_iff.2 (here ▸ nodup.1)]
      · simpa [find?, Ne.symm here] using found x

/-- A table is known by the order of its keys and by what lookups find. -/
theorem eq_of_lookups {t t' : Table κ α} (keys : t'.keys = t.keys)
    (found : ∀ k, t'.get? k = t.get? k) : t' = t := by
  have entries := entries_eq t.nodup keys found
  cases t
  cases t'
  simpa using entries

omit [DecidableEq κ] in
theorem keys_map (t : Table κ α) (f : κ → α → α) : (t.map f).keys = t.keys := map_fst_map_snd

theorem keys_insert {t : Table κ α} {k : κ} {v : α} (found : t.get? k = some v) (w : α) :
    (t.insert k w).keys = t.keys := by
  have entries (es : List (κ × α)) (found : find? k es = some v) :
      (put k w es).map Prod.fst = es.map Prod.fst := by
    induction es with
    | nil => simp [find?] at found
    | cons e es ih => grind [put, find?]
  exact entries t.entries found

theorem insert_found {t : Table κ α} {k : κ} {v : α} (found : t.get? k = some v) : t.insert k v = t := by
  refine eq_of_lookups (keys_insert found v) fun x => ?_
  rw [get?_insert]
  split
  next here => exact here ▸ found.symm
  next => rfl

theorem entries_insert {t : Table κ α} {k : κ} (absent : t.get? k = none) (v : α) :
    (t.insert k v).entries = t.entries ++ [(k, v)] := by
  have appended (es : List (κ × α)) (absent : find? k es = none) : put k v es = es ++ [(k, v)] := by
    induction es with
    | nil => rfl
    | cons e es ih => grind [put, find?]
  exact appended t.entries absent

/-- A new entry that is taken out again leaves the table as it was. -/
theorem erase_insert {t : Table κ α} {k : κ} (absent : t.get? k = none) (v : α) :
    (t.insert k v).erase k = t := by
  have others : t.entries.filter (fun e => e.1 ≠ k) = t.entries :=
    List.filter_eq_self.2 fun e member => by
      have there : e.1 ∈ t.entries.map Prod.fst := List.mem_map_of_mem member
      simpa using fun same : e.1 = k => find?_eq_none_iff.1 absent (same ▸ there)
  have entries := entries_insert absent v
  obtain ⟨es, nodup⟩ := t
  simp only [erase, Table.mk.injEq]
  rw [entries, List.filter_append, others]
  simp

/-! ### How many entries there are -/

omit [DecidableEq κ] in
theorem length_keys (t : Table κ α) : t.keys.length = t.size := List.length_map ..

theorem size_insert {t : Table κ α} {k : κ} (absent : t.get? k = none) (v : α) :
    (t.insert k v).size = t.size + 1 := by
  rw [size, entries_insert absent, List.length_append]
  rfl

theorem size_erase {t : Table κ α} {k : κ} {v : α} (found : t.get? k = some v) :
    (t.erase k).size = t.size - 1 := by
  have keys : (t.erase k).keys = t.keys.erase k := by
    have nodup : t.keys.Nodup := t.nodup
    rw [nodup.erase_eq_filter, keys, keys, List.filter_map, erase]
    refine congrArg _ (List.filter_congr fun e _ => ?_)
    simp [bne, BEq.beq]
  rw [← length_keys, keys, List.length_erase_of_mem ((mem_keys_iff t k).2 (by rw [found]; rfl)),
    length_keys]

/-- Tables with the same keys have as many entries, in whatever order. -/
theorem size_congr {t : Table κ α} {t' : Table κ β}
    (same : ∀ k, (t'.get? k).isSome = (t.get? k).isSome) : t'.size = t.size := by
  rw [← length_keys, ← length_keys]
  refine ((List.perm_ext_iff_of_nodup t'.nodup t.nodup).2 fun k => ?_).length_eq
  exact (mem_keys_iff t' k).trans ((same k).symm ▸ (mem_keys_iff t k).symm)

theorem map_congr {t : Table κ α} {f g : κ → α → α}
    (same : ∀ k v, t.get? k = some v → f k v = g k v) : t.map f = t.map g := by
  apply eq_of_lookups (by rw [keys_map, keys_map])
  intro k
  rw [get?_map, get?_map]
  cases found : t.get? k with
  | none => rfl
  | some v => exact congrArg some (same k v found)

theorem map_self {t : Table κ α} {f : κ → α → α} (same : ∀ k v, t.get? k = some v → f k v = v) :
    t.map f = t :=
  eq_of_lookups (keys_map t f) fun k => by
    rw [get?_map]
    cases found : t.get? k with
    | none => rfl
    | some v => exact congrArg some (same k v found)

omit [DecidableEq κ] in
theorem map_map (t : Table κ α) (f g : κ → α → α) :
    (t.map f).map g = t.map fun k v => g k (f k v) := by
  simp [map, Function.comp_def]

end Table

end Compositing
