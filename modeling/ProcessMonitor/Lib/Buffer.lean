import Mathlib.Tactic

/-!
# Buffers and what is stored in them

A buffer is a stretch of memory, here a list of bytes. A loop that fills it byte by byte is a list
of stores (`stores`), and a store outside of the memory has no effect on it. `consecutive` are the
stores of a text from an index on, and `stores_consecutive` is their effect, `put`.

`cells` are the bytes that `snprintf` stores for a text and a size: the text cut to `size - 1`
bytes, and a NUL. `put_cells_append` is the rule for a text that is put together by such calls, each
at the end of the text so far and with the size that is left.
-/

namespace Buffer

/-! ## Stores -/

/-- A byte stored at an index, which may lie outside. -/
structure Store where
  index : ℤ
  byte : UInt8
deriving DecidableEq, Repr

/-- The memory after a store. -/
def Store.apply (mem : List UInt8) (s : Store) : List UInt8 :=
  if 0 ≤ s.index then mem.set s.index.toNat s.byte else mem

/-- The memory after the stores, the first one first. -/
def stores (mem : List UInt8) (ss : List Store) : List UInt8 := ss.foldl Store.apply mem

lemma stores_append (mem : List UInt8) (ss ss' : List Store) :
    stores mem (ss ++ ss') = stores (stores mem ss) ss' := List.foldl_append

@[simp] lemma length_stores (mem : List UInt8) (ss : List Store) :
    (stores mem ss).length = mem.length := by
  induction ss generalizing mem with
  | nil => rfl
  | cons s ss ih =>
      show (stores (s.apply mem) ss).length = mem.length
      rw [ih, Store.apply]
      split_ifs
      · exact List.length_set
      · rfl

/-- The bytes of a text, one behind the other from `start` on. -/
def consecutive : ℤ → List UInt8 → List Store
  | _, [] => []
  | start, b :: text => ⟨start, b⟩ :: consecutive (start + 1) text

lemma consecutive_append (start : ℤ) (text text' : List UInt8) :
    consecutive start (text ++ text') =
      consecutive start text ++ consecutive (start + text.length) text' := by
  induction text generalizing start with
  | nil => simp [consecutive]
  | cons b text ih =>
      rw [List.cons_append, consecutive, consecutive, ih, List.length_cons, List.cons_append,
        Nat.cast_succ, add_assoc, add_comm (1 : ℤ)]

/-- Their indices are those of the text. -/
lemma exists_mem_consecutive_iff {start : ℤ} {text : List UInt8} {i : ℤ} :
    (∃ s ∈ consecutive start text, s.index = i) ↔ start ≤ i ∧ i < start + text.length := by
  induction text generalizing start with
  | nil => simp [consecutive]
  | cons b text ih =>
      simp only [consecutive, List.mem_cons, exists_eq_or_imp, ih, List.length_cons, Nat.cast_succ]
      constructor
      · rintro (h | h)
        · have hstart : start = i := h
          omega
        · omega
      · rintro ⟨hle, hlt⟩
        rcases eq_or_lt_of_le hle with h | h
        · exact Or.inl h
        · exact Or.inr (by omega)

lemma index_of_mem_consecutive {start : ℤ} {text : List UInt8} {s : Store}
    (h : s ∈ consecutive start text) : start ≤ s.index ∧ s.index < start + text.length :=
  exists_mem_consecutive_iff.mp ⟨s, h, rfl⟩

/-! ## Texts in memory -/

/-- The memory with a text at an index. -/
def put (mem : List UInt8) (start : ℕ) (text : List UInt8) : List UInt8 :=
  mem.take start ++ text ++ mem.drop (start + text.length)

lemma length_put {mem text : List UInt8} {start : ℕ} (h : start + text.length ≤ mem.length) :
    (put mem start text).length = mem.length := by
  simp only [put, List.length_append, List.length_take, List.length_drop]
  omega

/-- The memory behind the text stays. -/
lemma drop_put {mem text : List UInt8} {start n : ℕ} (hstart : start ≤ mem.length)
    (h : start + text.length ≤ n) : (put mem start text).drop n = mem.drop n := by
  have hlength : (mem.take start ++ text).length = start + text.length := by
    rw [List.length_append, List.length_take, Nat.min_eq_left hstart]
  rw [put, List.drop_append, List.drop_of_length_le (hlength.trans_le h), List.nil_append,
    List.drop_drop, hlength, Nat.add_sub_cancel' h]

/-- **Consecutive stores** inside the memory put the text there. -/
lemma stores_consecutive (mem : List UInt8) (start : ℕ) (text : List UInt8)
    (h : start + text.length ≤ mem.length) :
    stores mem (consecutive start text) = put mem start text := by
  induction text generalizing mem start with
  | nil => simp [consecutive, stores, put]
  | cons b text ih =>
      rw [List.length_cons] at h
      have hlt : start < mem.length := by omega
      have hfirst : Store.apply mem ⟨start, b⟩ = mem.set start b := by
        rw [Store.apply, if_pos (Int.natCast_nonneg start), Int.toNat_natCast]
      have hnext := ih (mem.set start b) (start + 1) (by rw [List.length_set]; omega)
      rw [Nat.cast_succ] at hnext
      rw [consecutive, stores, List.foldl_cons, hfirst, ← stores, hnext]
      have hfront : (mem.set start b).take (start + 1) = mem.take start ++ [b] := by
        rw [List.take_add_one, List.take_set_of_le le_rfl, List.getElem?_set_self hlt]
        rfl
      have hrest : (mem.set start b).drop (start + 1 + text.length) =
          mem.drop (start + (b :: text).length) := by
        rw [List.drop_set_of_lt (by omega), List.length_cons]
        congr 1
        omega
      rw [put, put, hfront, hrest, List.append_assoc (mem.take start), List.singleton_append]

/-! ## Texts put together by `snprintf` -/

/-- The bytes that `snprintf` stores: none if the size is zero, else what fits of the text, and a
NUL. -/
def cells (size : ℕ) (text : List UInt8) : List UInt8 :=
  if size = 0 then [] else text.take (size - 1) ++ [0]

lemma length_cells {size : ℕ} (h : size ≠ 0) (text : List UInt8) :
    (cells size text).length = min (size - 1) text.length + 1 := by
  rw [cells, if_neg h, List.length_append, List.length_take, List.length_singleton]

lemma length_cells_le (size : ℕ) (text : List UInt8) : (cells size text).length ≤ size := by
  unfold cells
  split_ifs with h
  · exact Nat.zero_le _
  · rw [List.length_append, List.length_take, List.length_singleton]
    omega

/-- **A call at the end of the text so far**, with the size that is left of `n`: the memory begins
with what fits of the longer text. -/
lemma put_cells_append {n : ℕ} {mem text : List UInt8} (hmem : mem.take text.length = text)
    (htext : text.length < n) (piece : List UInt8) :
    put mem text.length (cells (n - text.length) piece) =
      (text ++ piece).take (n - 1) ++
        0 :: mem.drop (text.length + (cells (n - text.length) piece).length) := by
  have hcells : cells (n - text.length) piece = piece.take (n - 1 - text.length) ++ [0] := by
    rw [cells, if_neg (by omega), show n - text.length - 1 = n - 1 - text.length from by omega]
  rw [put, hmem, hcells, List.take_append, List.take_of_length_le (l := text) (by omega)]
  simp only [List.append_assoc, List.singleton_append]

end Buffer
