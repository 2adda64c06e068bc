import CacheSteward.Value

namespace CacheSteward.Value

/-! Looking up entries of mappings that were put together or changed. -/

variable {key other : String} {value : Value} {es : List (Value × Value)}

theorem same_text_iff {v : Value} {s : String} : v.same (.text s) = true ↔ v = .text s := by
  cases v <;> simp [same, sameNumber, amount?]

theorem same_whole (n : Int) : (Value.whole n).same (.whole n) = true := by
  simp [same, sameNumber, amount?, Amount.equal, Amount.compare?, Amount.whole?]

theorem lookup_text_cons {k : String} {v : Value} :
    lookup key ((.text k, v) :: es) = if k = key then some v else lookup key es := rfl

/-- Keys that are no text are passed over. -/
theorem lookup_cons_other {k v : Value} (different : k ≠ .text key) :
    lookup key ((k, v) :: es) = lookup key es := by
  cases k with
  | text s =>
      have apart : s ≠ key := fun equal => different (congrArg Value.text equal)
      rw [lookup_text_cons, if_neg apart]
  | _ => rfl

theorem lookup_append {first rest : List (Value × Value)} :
    lookup key (first ++ rest) = (lookup key first).or (lookup key rest) := by
  induction first with
  | nil => rfl
  | cons head tail ih =>
      obtain ⟨k, v⟩ := head
      by_cases found : k = .text key
      · subst found
        simp [lookup_text_cons]
      · simp only [List.cons_append, lookup_cons_other found, ih]

theorem lookup_fields {entries : List (String × Value)} :
    lookup key (entries.map fun (k, v) => (.text k, v)) = entries.lookup key := by
  induction entries with
  | nil => rfl
  | cons head tail ih =>
      obtain ⟨k, v⟩ := head
      by_cases found : k = key
      · subst found
        rw [List.map_cons, lookup_text_cons, if_pos rfl, List.lookup_cons_self]
      · have apart : (key == k) = false := beq_eq_false_iff_ne.mpr (Ne.symm found)
        rw [List.map_cons, lookup_text_cons, if_neg found, ih, List.lookup_cons, apart]

theorem all_text_fields {entries : List (String × Value)} :
    (entries.map fun (k, v) => (Value.text k, v)).all (fun (k, _) => k.text?.isSome) = true := by
  simp [text?]

theorem put_cons_self {v : Value} :
    put (.text key) value ((.text key, v) :: es) = (.text key, value) :: es := by
  have same : (Value.text key).same (.text key) = true := same_text_iff.mpr rfl
  unfold put
  rw [if_pos same]

theorem put_cons_other {k v : Value} (different : k ≠ .text key) :
    put (.text key) value ((k, v) :: es) = (k, v) :: put (.text key) value es := by
  have apart : ¬ k.same (.text key) = true := fun same => different (same_text_iff.mp same)
  rw [put, if_neg apart]

/-- An entry that has been set is the one that is found. -/
theorem lookup_put_self : lookup key (put (.text key) value es) = some value := by
  induction es with
  | nil => simp [put, lookup_text_cons]
  | cons head tail ih =>
      obtain ⟨k, v⟩ := head
      by_cases found : k = .text key
      · subst found
        rw [put_cons_self, lookup_text_cons, if_pos rfl]
      · rw [put_cons_other found, lookup_cons_other found, ih]

/-- Setting an entry leaves the others alone. -/
theorem lookup_put_other (apart : key ≠ other) :
    lookup other (put (.text key) value es) = lookup other es := by
  have unequal : Value.text key ≠ .text other := fun equal => apart (Value.text.inj equal)
  induction es with
  | nil => rw [put, lookup_cons_other unequal]
  | cons head tail ih =>
      obtain ⟨k, v⟩ := head
      by_cases found : k = .text key
      · subst found
        rw [put_cons_self, lookup_cons_other unequal, lookup_cons_other unequal]
      · rw [put_cons_other found]
        by_cases here : k = .text other
        · subst here
          rw [lookup_text_cons, lookup_text_cons, if_pos rfl, if_pos rfl]
        · rw [lookup_cons_other here, lookup_cons_other here, ih]

end CacheSteward.Value
