import Mathlib.Data.List.Perm.Basic

/-!
# Entries under distinct keys

What a list of entries gives for a key when no key occurs twice: the order of the entries then
makes no difference.
-/

namespace TestCursor

section Lookup

variable {α β γ : Type} [DecidableEq α] {key : α} {value : β} {entry : α × β}
  {entries others before after : List (α × β)}

omit [DecidableEq α] in
/-- The key of an entry is new behind the entries that stand before it. -/
theorem not_mem_of_nodup_append_cons
    (hnodup : ((before ++ entry :: after).map Prod.fst).Nodup) :
    entry.1 ∉ before.map Prod.fst := by
  rw [List.map_append, List.map_cons, List.nodup_append] at hnodup
  intro hmem
  exact hnodup.2.2 entry.1 hmem entry.1 List.mem_cons_self rfl

theorem lookup_eq_none_iff_not_mem : entries.lookup key = none ↔ key ∉ entries.map Prod.fst := by
  rw [List.lookup_eq_none_iff, List.mem_map]
  constructor
  · rintro h ⟨entry, hentry, rfl⟩
    simpa using h entry hentry
  · intro h entry hentry
    exact bne_iff_ne.mpr fun hkey => h ⟨entry, hentry, hkey.symm⟩

/-- An entry whose key occurs once is the one that is found. -/
theorem lookup_eq_some_iff_mem (hnodup : (entries.map Prod.fst).Nodup) :
    entries.lookup key = some value ↔ (key, value) ∈ entries := by
  rw [List.lookup_eq_some_iff]
  constructor
  · rintro ⟨before, after, rfl, -⟩
    exact List.mem_append_right _ List.mem_cons_self
  · intro hmem
    obtain ⟨before, after, rfl⟩ := List.append_of_mem hmem
    refine ⟨before, after, rfl, fun entry hentry => bne_iff_ne.mpr fun hkey => ?_⟩
    exact not_mem_of_nodup_append_cons hnodup (List.mem_map.mpr ⟨entry, hentry, hkey.symm⟩)

/-- Entries under distinct keys give the same in any order. -/
theorem lookup_perm (horder : entries.Perm others) (hnodup : (entries.map Prod.fst).Nodup) :
    entries.lookup key = others.lookup key := by
  have hothers : (others.map Prod.fst).Nodup := (horder.map Prod.fst).nodup_iff.mp hnodup
  refine Option.ext fun value => ?_
  rw [lookup_eq_some_iff_mem hnodup, lookup_eq_some_iff_mem hothers]
  exact horder.mem_iff

theorem lookup_cons_eq_ite (other : α) :
    ((key, value) :: entries).lookup other =
      if other = key then some value else entries.lookup other := by
  rw [List.lookup_cons]
  by_cases hother : other = key
  · rw [if_pos hother, hother, beq_self_eq_true]
  · rw [if_neg hother, beq_false_of_ne hother]

/-- An entry added under a new key is found under that key, and hides no other. -/
theorem lookup_append_of_not_mem (hnew : key ∉ entries.map Prod.fst) (other : α) :
    (entries ++ [(key, value)]).lookup other =
      if other = key then some value else entries.lookup other := by
  rw [List.lookup_append, lookup_cons_eq_ite, List.lookup_nil]
  by_cases hother : other = key
  · rw [if_pos hother, if_pos hother, hother, lookup_eq_none_iff_not_mem.mpr hnew]
    rfl
  · rw [if_neg hother, if_neg hother, Option.or_none]

theorem lookup_map_fst [DecidableEq γ] {f : α → γ} (hf : ∀ {x y}, f x = f y → x = y) :
    (entries.map fun entry => (f entry.1, entry.2)).lookup (f key) = entries.lookup key := by
  induction entries with
  | nil => rfl
  | cons entry entries ih =>
    rw [List.map_cons, lookup_cons_eq_ite, lookup_cons_eq_ite, ih]
    by_cases hkey : key = entry.1
    · rw [if_pos hkey, if_pos (congrArg f hkey)]
    · rw [if_neg hkey, if_neg fun h => hkey (hf h)]

theorem lookup_map_snd (f : β → γ) :
    (entries.map fun entry => (entry.1, f entry.2)).lookup key = (entries.lookup key).map f := by
  induction entries with
  | nil => rfl
  | cons entry entries ih =>
    rw [List.map_cons, List.lookup_cons, List.lookup_cons, ih]
    cases key == entry.1 <;> rfl

end Lookup

end TestCursor
