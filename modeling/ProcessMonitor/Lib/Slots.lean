import Mathlib.Data.List.Nodup
import Mathlib.Tactic

/-!
# Arrays of slots

A table kept in a fixed array: each slot is in use or not (`used`), and a slot in use holds an
entry (`entry`). `entries` reads the table off the array. The search loops of such tables are
`List.findIdx?`, an assignment to a slot is `List.modify`; both are evaluated here by cutting the
array at the slot, so that `entries` before and after can be compared part by part.
-/

namespace Slots

variable {α β : Type}

/-! ## Cutting an array at a slot -/

/-- The array around the slot that a search loop has found. -/
lemma exists_split_of_findIdx? {p : α → Bool} {l : List α} {i : ℕ} (h : l.findIdx? p = some i) :
    ∃ l₁ x l₂, l = l₁ ++ x :: l₂ ∧ l₁.length = i ∧ p x = true := by
  induction l generalizing i with
  | nil => simp at h
  | cons a l ih =>
      rw [List.findIdx?_cons] at h
      by_cases ha : p a = true
      · rw [if_pos ha, Option.some.injEq] at h
        exact ⟨[], a, l, rfl, h, ha⟩
      · rw [if_neg ha, Option.map_eq_some_iff] at h
        obtain ⟨j, hj, rfl⟩ := h
        obtain ⟨l₁, x, l₂, rfl, rfl, hx⟩ := ih hj
        exact ⟨a :: l₁, x, l₂, rfl, rfl, hx⟩

/-- A search loop depends on its test only as far as the slots go. -/
lemma findIdx?_congr {p q : α → Bool} {l : List α} (h : ∀ x ∈ l, p x = q x) :
    l.findIdx? p = l.findIdx? q := by
  induction l with
  | nil => rfl
  | cons a l ih =>
      rw [List.findIdx?_cons, List.findIdx?_cons, h a List.mem_cons_self,
        ih fun x hx => h x (List.mem_cons_of_mem _ hx)]

/-- The array around any of its slots. -/
lemma exists_split_of_getElem? {l : List α} {i : ℕ} {x : α} (h : l[i]? = some x) :
    ∃ l₁ l₂, l = l₁ ++ x :: l₂ ∧ l₁.length = i := by
  induction l generalizing i with
  | nil => simp at h
  | cons a l ih =>
      cases i with
      | zero =>
          rw [List.getElem?_cons_zero, Option.some.injEq] at h
          subst h
          exact ⟨[], l, rfl, rfl⟩
      | succ i =>
          rw [List.getElem?_cons_succ] at h
          obtain ⟨l₁, l₂, rfl, rfl⟩ := ih h
          exact ⟨a :: l₁, l₂, rfl, rfl⟩

/-- Reading the slot at which the array is cut. -/
@[simp] lemma getElem?_split (l₁ l₂ : List α) (x : α) :
    (l₁ ++ x :: l₂)[l₁.length]? = some x := by
  simp

/-- The other slots do not depend on the one at which the array is cut. -/
lemma getElem?_split_ne {l₁ : List α} {j : ℕ} (h : j ≠ l₁.length) (x y : α) (l₂ : List α) :
    (l₁ ++ x :: l₂)[j]? = (l₁ ++ y :: l₂)[j]? := by
  have hset : l₁ ++ x :: l₂ = (l₁ ++ y :: l₂).set l₁.length x := by
    rw [List.set_append_right _ _ le_rfl, Nat.sub_self, List.set_cons_zero]
  rw [hset, List.getElem?_set_ne (Ne.symm h)]

/-- Assigning to the slot at which the array is cut. -/
@[simp] lemma modify_split (f : α → α) (l₁ l₂ : List α) (x : α) :
    (l₁ ++ x :: l₂).modify l₁.length f = l₁ ++ f x :: l₂ := by
  induction l₁ with
  | nil => rfl
  | cons a l₁ ih =>
      rw [List.cons_append, List.length_cons, List.modify_succ_cons, ih]
      rfl

/-- The other slots of an array cut at a slot. -/
lemma exists_other_split (P : α → Prop) (l₁ l₂ : List α) (x : α) :
    (∃ j y, j ≠ l₁.length ∧ (l₁ ++ x :: l₂)[j]? = some y ∧ P y) ↔
      (∃ y ∈ l₁, P y) ∨ ∃ y ∈ l₂, P y := by
  constructor
  · rintro ⟨j, y, hj, hy, hP⟩
    rcases Nat.lt_or_gt_of_ne hj with h | h
    · rw [List.getElem?_append_left h] at hy
      exact Or.inl ⟨y, List.mem_of_getElem? hy, hP⟩
    · obtain ⟨k, rfl⟩ := Nat.exists_eq_add_of_lt h
      have hk : l₁.length + k + 1 - l₁.length = k + 1 := by omega
      rw [List.getElem?_append_right (by omega), hk, List.getElem?_cons_succ] at hy
      exact Or.inr ⟨y, List.mem_of_getElem? hy, hP⟩
  · rintro (⟨y, hy, hP⟩ | ⟨y, hy, hP⟩)
    · obtain ⟨j, hj, rfl⟩ := List.mem_iff_getElem.mp hy
      exact ⟨j, l₁[j], by omega, by rw [List.getElem?_append_left hj]; simp, hP⟩
    · obtain ⟨j, hj, rfl⟩ := List.mem_iff_getElem.mp hy
      refine ⟨l₁.length + (j + 1), l₂[j], by omega, ?_, hP⟩
      rw [List.getElem?_append_right (by omega), Nat.add_sub_cancel_left, List.getElem?_cons_succ]
      simp

/-! ## Search loops -/

/-- A loop that looks at `n` indices from `i` on, up to the first with `stop`: the indices it looks
at, and the one it stops at. -/
def look (stop : ℕ → Bool) : ℕ → ℕ → List ℕ × Option ℕ
  | 0, _ => ([], none)
  | n + 1, i =>
      if stop i then ([i], some i) else (i :: (look stop n (i + 1)).1, (look stop n (i + 1)).2)

/-- It looks at none but those. -/
lemma lt_of_mem_look {stop : ℕ → Bool} {n i j : ℕ} (h : j ∈ (look stop n i).1) : j < i + n := by
  induction n generalizing i with
  | zero => cases h
  | succ n ih =>
      rw [look] at h
      split_ifs at h
      · rw [List.mem_singleton.mp h]
        omega
      · rcases List.mem_cons.mp h with rfl | h
        · omega
        · have hlt := ih h
          omega

/-- The index it stops at is the last it looks at. -/
lemma mem_look_of_stop {stop : ℕ → Bool} {n i j : ℕ} (h : (look stop n i).2 = some j) :
    j ∈ (look stop n i).1 := by
  induction n generalizing i with
  | zero => cases h
  | succ n ih =>
      rw [look] at h ⊢
      split_ifs at h ⊢
      · rw [Option.some.inj h]
        exact List.mem_singleton_self j
      · exact List.mem_cons_of_mem _ (ih h)

/-- A loop that never stops looks at all of them. -/
lemma mem_look_never {n i j : ℕ} (hi : i ≤ j) (hj : j < i + n) :
    j ∈ (look (fun _ => false) n i).1 := by
  induction n generalizing i with
  | zero => omega
  | succ n ih =>
      rw [look, if_neg Bool.false_ne_true]
      rcases Nat.eq_or_lt_of_le hi with rfl | hlt
      · exact List.mem_cons_self
      · exact List.mem_cons_of_mem _ (ih hlt (by omega))

/-- Over the whole of an array it stops where `findIdx?` finds. -/
lemma look_eq_findIdx? (stop : ℕ → Bool) (p : α → Bool) {l : List α} {i : ℕ}
    (h : ∀ k x, l[k]? = some x → stop (i + k) = p x) :
    (look stop l.length i).2 = (l.findIdx? p).map (i + ·) := by
  induction l generalizing i with
  | nil => rfl
  | cons x l ih =>
      have hx : stop i = p x := h 0 x rfl
      have hl := ih (i := i + 1) fun k y hy => by
        rw [Nat.add_assoc, Nat.add_comm 1 k]
        exact h (k + 1) y hy
      rw [List.length_cons, look, List.findIdx?_cons, hx]
      split_ifs
      · rfl
      · rw [hl, Option.map_map]
        congr 1
        funext k
        exact Nat.add_right_comm i 1 k

/-! ## The entries of the slots in use -/

/-- The entries of a table, in slot order. -/
def entries (used : α → Bool) (entry : α → β) (l : List α) : List β := (l.filter used).map entry

variable (used : α → Bool) (entry : α → β)

@[simp] lemma entries_nil : entries used entry [] = [] := rfl

/-- The entries of two parts of an array. -/
@[simp] lemma entries_append (l₁ l₂ : List α) :
    entries used entry (l₁ ++ l₂) = entries used entry l₁ ++ entries used entry l₂ := by
  simp [entries]

/-- A slot in use gives its entry. -/
lemma entries_cons_of_used {x : α} (h : used x = true) (l : List α) :
    entries used entry (x :: l) = entry x :: entries used entry l := by
  simp [entries, h]

/-- A slot not in use gives none. -/
lemma entries_cons_of_unused {x : α} (h : used x = false) (l : List α) :
    entries used entry (x :: l) = entries used entry l := by
  simp [entries, h]

/-- The number of entries is the number of slots in use. -/
lemma length_entries (l : List α) : (entries used entry l).length = l.countP used := by
  rw [entries, List.length_map, List.countP_eq_length_filter]

/-- The entries are those of the slots in use. -/
lemma mem_entries {l : List α} {e : β} :
    e ∈ entries used entry l ↔ ∃ x ∈ l, used x = true ∧ entry x = e := by
  simp [entries, and_assoc]

/-- The table depends on what `used` and `entry` look at only. -/
lemma entries_comp {γ : Type} (f : γ → α) (l : List γ) :
    entries (used ∘ f) (entry ∘ f) l = entries used entry (l.map f) := by
  simp only [entries, List.filter_map, List.map_map]

/-- An assignment does not change what it keeps in every slot. -/
lemma map_modify_of_comp {f : α → β} {g : α → α} (h : ∀ x, f (g x) = f x) (l : List α) (i : ℕ) :
    (l.modify i g).map f = l.map f := by
  rcases hx : l[i]? with - | x
  · rw [List.modify_eq_self (List.getElem?_eq_none_iff.mp hx)]
  · obtain ⟨l₁, l₂, rfl, rfl⟩ := exists_split_of_getElem? hx
    rw [modify_split, List.map_append, List.map_append, List.map_cons, List.map_cons, h]

/-- An assignment that keeps a property of the slot keeps it of all slots. -/
lemma forall_mem_modify {P : α → Prop} {f : α → α} (hf : ∀ x, P x → P (f x)) {l : List α}
    (hl : ∀ x ∈ l, P x) (i : ℕ) : ∀ x ∈ l.modify i f, P x := by
  rcases hx : l[i]? with - | x
  · rwa [List.modify_eq_self (List.getElem?_eq_none_iff.mp hx)]
  · obtain ⟨l₁, l₂, rfl, rfl⟩ := exists_split_of_getElem? hx
    rw [List.forall_mem_append, List.forall_mem_cons] at hl
    rw [modify_split, List.forall_mem_append, List.forall_mem_cons]
    exact ⟨hl.1, hf x hl.2.1, hl.2.2⟩

/-! ## Removing a slot by shifting -/

section shift

variable (g : ℕ → α → α)

/-- One assignment of the loop that closes a gap: slot `i` gets the contents of the next one,
renumbered by `g`. -/
def shiftStep (l : List α) (i : ℕ) : List α :=
  match l[i + 1]? with
  | some x => l.set i (g i x)
  | none => l

/-- The loop `for (i = start; i < start + n; i++)` over these assignments. -/
def shiftDown (start n : ℕ) (l : List α) : List α := (List.range' start n).foldl (shiftStep g) l

/-- The loop leaves the size of the array alone. -/
lemma length_shiftDown (start n : ℕ) (l : List α) : (shiftDown g start n l).length = l.length := by
  induction n generalizing start l with
  | zero => rfl
  | succ n ih =>
      rw [shiftDown, List.range'_succ, List.foldl_cons]
      refine (ih (start + 1) (shiftStep g l start)).trans ?_
      unfold shiftStep
      split
      · exact List.length_set
      · rfl

/-- The slots after the loop: those it has passed hold what their successors held. -/
lemma getElem?_shiftDown {start n : ℕ} {l : List α} (h : start + n < l.length) (j : ℕ) :
    (shiftDown g start n l)[j]? =
      if start ≤ j ∧ j < start + n then (l[j + 1]?).map (g j) else l[j]? := by
  induction n generalizing start l with
  | zero =>
      have hj : ¬ (start ≤ j ∧ j < start + 0) := by omega
      rw [if_neg hj]
      rfl
  | succ n ih =>
      have hstep : shiftStep g l start = l.set start (g start l[start + 1]) := by
        rw [shiftStep, List.getElem?_eq_getElem (by omega)]
      rw [shiftDown, List.range'_succ, List.foldl_cons, hstep]
      refine (ih (by rw [List.length_set]; omega)).trans ?_
      rcases Nat.lt_trichotomy j start with hj | rfl | hj
      · -- not reached yet
        rw [if_neg (by omega), if_neg (by omega), List.getElem?_set_ne (by omega)]
      · -- assigned now, and passed from here on
        rw [if_neg (by omega), if_pos (by omega), List.getElem?_set_self (by omega),
          List.getElem?_eq_getElem (by omega)]
        rfl
      · -- what comes later sees the old successors
        rw [List.getElem?_set_ne (by omega), List.getElem?_set_ne (by omega)]
        by_cases hn : j < start + (n + 1)
        · rw [if_pos (by omega), if_pos (by omega)]
        · rw [if_neg (by omega), if_neg (by omega)]

/-- **Shifting removes the slot**: of an array of which the first `l.length` slots hold the
elements of `l`, numbered by `g`, the loop leaves the first ones but the one at `i`. -/
lemma take_shiftDown {β : Type} {mk : ℕ → β → α} (hg : ∀ i j x, g i (mk j x) = mk i x)
    {rooms : List α} {l : List β} (hrooms : rooms.take l.length = l.mapIdx mk) {i : ℕ}
    (hi : i < l.length) :
    (shiftDown g i (l.length - 1 - i) rooms).take (l.length - 1) = (l.eraseIdx i).mapIdx mk := by
  have hlen : l.length ≤ rooms.length := by
    have h := congrArg List.length hrooms
    rw [List.length_take, List.length_mapIdx] at h
    omega
  have hget (j : ℕ) (hj : j < l.length) : rooms[j]? = (l[j]?).map (mk j) := by
    rw [← List.getElem?_mapIdx, ← hrooms, List.getElem?_take_of_lt hj]
  refine List.ext_getElem? fun j => ?_
  rw [List.getElem?_mapIdx]
  by_cases hj : j < l.length - 1
  · rw [List.getElem?_take_of_lt hj, getElem?_shiftDown g (by omega)]
    by_cases hij : i ≤ j
    · rw [if_pos (by omega), hget (j + 1) (by omega), List.getElem?_eraseIdx_of_ge hij,
        Option.map_map]
      exact congrArg (fun f => (l[j + 1]?).map f) (funext fun x => hg j (j + 1) x)
    · rw [if_neg (by omega), hget j (by omega), List.getElem?_eraseIdx_of_lt (by omega)]
  · rw [List.getElem?_eq_none (by rw [List.length_take]; omega),
      List.getElem?_eq_none (by rw [List.length_eraseIdx_of_lt hi]; omega), Option.map_none]

end shift

end Slots
