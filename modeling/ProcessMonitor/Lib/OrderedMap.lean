import Mathlib.Data.List.Nodup
import Mathlib.Data.List.Perm.Basic
import Mathlib.Tactic

/-!
# Insertion-ordered maps

An `OrderedMap κ ν` is a list of entries, the oldest first, whose keys are pairwise different
(the structure carries the proof). The operations are those a table of named records needs:
`lookup`, `insert` of a new key at the end, `modify` of the value of a key in place, `erase`.

`modifyKey` and `eraseKey` are the same operations on bare entry lists. The `_split` lemmas
evaluate them on a list cut at the entry of the key, which is what an array of slots gives; the
`Perm` lemmas are for a representation that keeps its entries in another order.
-/

/-- A finite map that remembers the order of insertion. -/
structure OrderedMap (κ ν : Type) where
  /-- The entries, the oldest first. -/
  entries : List (κ × ν)
  /-- No key has two entries. -/
  nodup : (entries.map Prod.fst).Nodup

namespace OrderedMap

variable {κ ν : Type}

/-! ## Entry lists -/

section lists

/-- Around the entry of a key, no other entry has it. -/
lemma notMem_of_nodup_split {k : κ} {v : ν} {l₁ l₂ : List (κ × ν)}
    (h : ((l₁ ++ (k, v) :: l₂).map Prod.fst).Nodup) :
    k ∉ l₁.map Prod.fst ∧ k ∉ l₂.map Prod.fst := by
  rw [List.map_append, List.map_cons, List.nodup_middle, List.nodup_cons, List.mem_append] at h
  exact ⟨fun h1 => h.1 (Or.inl h1), fun h2 => h.1 (Or.inr h2)⟩

variable [DecidableEq κ]

/-- Apply `f` to the value of the key `k`. -/
def modifyKey (k : κ) (f : ν → ν) (l : List (κ × ν)) : List (κ × ν) :=
  l.map fun p => if p.1 = k then (p.1, f p.2) else p

/-- Remove the key `k`. -/
def eraseKey (k : κ) (l : List (κ × ν)) : List (κ × ν) := l.filter fun p => p.1 ≠ k

/-- `modifyKey` keeps the keys. -/
@[simp] lemma map_fst_modifyKey (k : κ) (f : ν → ν) (l : List (κ × ν)) :
    (modifyKey k f l).map Prod.fst = l.map Prod.fst := by
  unfold modifyKey
  rw [List.map_map]
  refine List.map_congr_left fun p _ => ?_
  simp only [Function.comp_apply]
  split <;> rfl

/-- `modifyKey` keeps the number of entries. -/
@[simp] lemma length_modifyKey (k : κ) (f : ν → ν) (l : List (κ × ν)) :
    (modifyKey k f l).length = l.length := by
  simp [modifyKey]

/-- Without the key there is nothing to modify. -/
lemma modifyKey_of_notMem {k : κ} (f : ν → ν) {l : List (κ × ν)} (h : k ∉ l.map Prod.fst) :
    modifyKey k f l = l := by
  unfold modifyKey
  conv_rhs => rw [← List.map_id l]
  refine List.map_congr_left fun p hp => ?_
  have hk : p.1 ≠ k := fun e => h (e ▸ List.mem_map_of_mem hp)
  simp [hk]

/-- Without the key there is nothing to erase. -/
lemma eraseKey_of_notMem {k : κ} {l : List (κ × ν)} (h : k ∉ l.map Prod.fst) :
    eraseKey k l = l := by
  unfold eraseKey
  rw [List.filter_eq_self]
  intro p hp
  have hk : p.1 ≠ k := fun e => h (e ▸ List.mem_map_of_mem hp)
  simp [hk]

/-- `modifyKey` on a list cut at the entry of the key. -/
lemma modifyKey_split {k : κ} {v : ν} (f : ν → ν) {l₁ l₂ : List (κ × ν)}
    (h : ((l₁ ++ (k, v) :: l₂).map Prod.fst).Nodup) :
    modifyKey k f (l₁ ++ (k, v) :: l₂) = l₁ ++ (k, f v) :: l₂ := by
  obtain ⟨h1, h2⟩ := notMem_of_nodup_split h
  have hm1 := modifyKey_of_notMem f h1
  have hm2 := modifyKey_of_notMem f h2
  unfold modifyKey at hm1 hm2 ⊢
  rw [List.map_append, List.map_cons, hm1, hm2, if_pos rfl]

/-- `eraseKey` on a list cut at the entry of the key. -/
lemma eraseKey_split {k : κ} {v : ν} {l₁ l₂ : List (κ × ν)}
    (h : ((l₁ ++ (k, v) :: l₂).map Prod.fst).Nodup) :
    eraseKey k (l₁ ++ (k, v) :: l₂) = l₁ ++ l₂ := by
  obtain ⟨h1, h2⟩ := notMem_of_nodup_split h
  have he1 := eraseKey_of_notMem h1
  have he2 := eraseKey_of_notMem h2
  unfold eraseKey at he1 he2 ⊢
  rw [List.filter_append, List.filter_cons, he1, he2]
  simp

/-- `modifyKey` respects the order-free reading of a list. -/
lemma Perm.modifyKey {l l' : List (κ × ν)} (h : l.Perm l') (k : κ) (f : ν → ν) :
    (OrderedMap.modifyKey k f l).Perm (OrderedMap.modifyKey k f l') := h.map _

/-- `eraseKey` respects the order-free reading of a list. -/
lemma Perm.eraseKey {l l' : List (κ × ν)} (h : l.Perm l') (k : κ) :
    (OrderedMap.eraseKey k l).Perm (OrderedMap.eraseKey k l') := h.filter _

end lists

/-! ## The map operations -/

/-- The map without entries. -/
def empty : OrderedMap κ ν := ⟨[], by simp⟩

/-- The keys, the oldest first. -/
def keys (m : OrderedMap κ ν) : List κ := m.entries.map Prod.fst

/-- The number of entries. -/
def size (m : OrderedMap κ ν) : ℕ := m.entries.length

variable [DecidableEq κ]

/-- The value of a key. -/
def lookup (m : OrderedMap κ ν) (k : κ) : Option ν := m.entries.lookup k

/-- Add a new key at the end; an old key is left as it is. -/
def insert (m : OrderedMap κ ν) (k : κ) (v : ν) : OrderedMap κ ν :=
  if h : k ∈ m.entries.map Prod.fst then m
  else ⟨m.entries ++ [(k, v)], by
    rw [List.map_append, List.map_singleton, List.nodup_append_comm]
    exact List.nodup_cons.mpr ⟨h, m.nodup⟩⟩

/-- Change the value of a key where it stands. -/
def modify (m : OrderedMap κ ν) (k : κ) (f : ν → ν) : OrderedMap κ ν :=
  ⟨modifyKey k f m.entries, by rw [map_fst_modifyKey]; exact m.nodup⟩

/-- Remove a key. -/
def erase (m : OrderedMap κ ν) (k : κ) : OrderedMap κ ν :=
  ⟨eraseKey k m.entries, (List.filter_sublist.map _).nodup m.nodup⟩

/-- A key without a value is no key. -/
lemma lookup_eq_none_iff (m : OrderedMap κ ν) (k : κ) : m.lookup k = none ↔ k ∉ m.keys := by
  unfold lookup keys
  rw [List.lookup_eq_none_iff, List.mem_map]
  constructor
  · rintro h ⟨p, hp, rfl⟩
    simpa using h p hp
  · intro h p hp
    have hk : k ≠ p.1 := fun e => h ⟨p, hp, e.symm⟩
    simpa using hk

/-- The value of a key is that of its entry. -/
lemma lookup_eq_some_iff (m : OrderedMap κ ν) (k : κ) (v : ν) :
    m.lookup k = some v ↔ (k, v) ∈ m.entries := by
  obtain ⟨l, hl⟩ := m
  unfold lookup
  simp only
  induction l with
  | nil => simp
  | cons p l ih =>
      obtain ⟨k', v'⟩ := p
      rw [List.map_cons, List.nodup_cons] at hl
      by_cases hk : k = k'
      · subst hk
        simp only [List.lookup_cons_self, Option.some.injEq, List.mem_cons, Prod.mk.injEq,
          true_and]
        constructor
        · rintro rfl
          exact Or.inl rfl
        · rintro (rfl | hm)
          · rfl
          · exact absurd (List.mem_map_of_mem (f := Prod.fst) hm) hl.1
      · have hne : (k == k') = false := by simpa using hk
        simp only [List.lookup_cons, hne, List.mem_cons, Prod.mk.injEq, hk, false_and, false_or]
        exact ih hl.2

/-- A lookup in a map whose entries are made from the elements of a list is a search of the list. -/
lemma lookup_of_map {α : Type} {m : OrderedMap κ ν} {l : List α} {entry : α → κ × ν}
    (h : l.map entry = m.entries) (k : κ) :
    m.lookup k = (l.find? fun x => (entry x).1 = k).map fun x => (entry x).2 := by
  rw [lookup, ← h]
  clear h
  induction l with
  | nil => rfl
  | cons x l ih =>
      rw [List.map_cons, List.find?_cons, List.lookup_cons]
      by_cases hk : (entry x).1 = k
      · simp [hk]
      · simp only [hk, decide_false, beq_false_of_ne (Ne.symm hk)]
        exact ih

/-- The entries after the insertion of a new key. -/
lemma entries_insert {m : OrderedMap κ ν} {k : κ} (h : m.lookup k = none) (v : ν) :
    (m.insert k v).entries = m.entries ++ [(k, v)] := by
  have hk : k ∉ m.entries.map Prod.fst := (m.lookup_eq_none_iff k).mp h
  simp [insert, hk]

/-- The entries after a change of one value. -/
@[simp] lemma entries_modify (m : OrderedMap κ ν) (k : κ) (f : ν → ν) :
    (m.modify k f).entries = modifyKey k f m.entries := rfl

/-- The value of a key after the insertion of a new one. -/
lemma lookup_insert {m : OrderedMap κ ν} {k : κ} (h : m.lookup k = none) (v : ν) (k' : κ) :
    (m.insert k v).lookup k' = if k' = k then some v else m.lookup k' := by
  rw [lookup, entries_insert h, List.lookup_append]
  by_cases hk : k' = k
  · subst hk
    rw [if_pos rfl, show m.entries.lookup k' = none from h]
    simp
  · have hne : (k' == k) = false := by simpa using hk
    rw [if_neg hk, List.lookup_cons, hne]
    simp [lookup]

/-- The value of a key after a change of one value. -/
lemma lookup_modify (m : OrderedMap κ ν) (k : κ) (f : ν → ν) (k' : κ) :
    (m.modify k f).lookup k' = if k' = k then (m.lookup k').map f else m.lookup k' := by
  rw [lookup, lookup, entries_modify, modifyKey]
  induction m.entries with
  | nil => simp
  | cons p l ih =>
      obtain ⟨key, v⟩ := p
      rw [List.map_cons, List.lookup_cons, List.lookup_cons]
      by_cases hkey : k' = key
      · subst hkey
        by_cases hk : k' = k <;> simp [hk]
      · have hne : (k' == key) = false := by simpa using hkey
        by_cases hk : key = k
        · subst hk
          simpa [hne] using ih
        · simpa [hk, hne] using ih

/-- The entries after a removal. -/
@[simp] lemma entries_erase (m : OrderedMap κ ν) (k : κ) :
    (m.erase k).entries = eraseKey k m.entries := rfl

/-- The order of the entries does not matter for the value of a key. -/
lemma lookup_eq_some_iff_of_perm {m : OrderedMap κ ν} {l : List (κ × ν)} (h : l.Perm m.entries)
    (k : κ) (v : ν) : m.lookup k = some v ↔ (k, v) ∈ l := by
  rw [lookup_eq_some_iff, h.mem_iff]

/-- The order of the entries does not matter for the absence of a key. -/
lemma lookup_eq_none_iff_of_perm {m : OrderedMap κ ν} {l : List (κ × ν)} (h : l.Perm m.entries)
    (k : κ) : m.lookup k = none ↔ k ∉ l.map Prod.fst := by
  rw [lookup_eq_none_iff, keys, (h.map Prod.fst).mem_iff]

/-! ## Another order of the entries

A representation may keep the entries in an order of its own. The lemmas are about such a list,
cut at the entry of a key. -/

section perm

variable {m : OrderedMap κ ν} {k : κ} {v : ν} {l₁ l₂ : List (κ × ν)}
  (h : (l₁ ++ (k, v) :: l₂).Perm m.entries)
include h

/-- The value that stands in the list. -/
lemma lookup_of_perm_split : m.lookup k = some v :=
  (lookup_eq_some_iff_of_perm h k v).mpr (by simp)

/-- A change of the value in the list. -/
lemma perm_modify_split (f : ν → ν) : (l₁ ++ (k, f v) :: l₂).Perm (m.modify k f).entries := by
  have hnd := (h.map Prod.fst).nodup_iff.mpr m.nodup
  have hp := Perm.modifyKey h k f
  rwa [modifyKey_split f hnd] at hp

/-- A removal from the list. -/
lemma perm_erase_split : (l₁ ++ l₂).Perm (m.erase k).entries := by
  have hnd := (h.map Prod.fst).nodup_iff.mpr m.nodup
  have hp := Perm.eraseKey h k
  rwa [eraseKey_split hnd] at hp

end perm

/-- An insertion anywhere in the list. -/
lemma perm_insert {m : OrderedMap κ ν} {k : κ} (v : ν) {l₁ l₂ : List (κ × ν)}
    (h : (l₁ ++ l₂).Perm m.entries) (hk : m.lookup k = none) :
    (l₁ ++ (k, v) :: l₂).Perm (m.insert k v).entries := by
  rw [entries_insert hk]
  exact List.perm_middle.trans ((h.cons _).trans (List.perm_append_singleton _ _).symm)

end OrderedMap
