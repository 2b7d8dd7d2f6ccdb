import ProcessMonitor.Lib.CString

/-!
# Reading a file with `fgets`

`fgetsAll size file` is what successive calls of `fgets(line, size, fp)` put into `line` until the
end of the file: each call stops after a newline or after `size - 1` bytes. A text that ends in a
newline is read independently of what follows it (`fgetsAll_append`), and the first call on a
line takes its first `size - 1` bytes (`fgetsAll_line`). Put together, the calls are the file again
(`flatten_fgetsAll`); if all lines fit, each of them is a line (`fgetsAll_lines`).
-/

namespace CString

/-- The calls from one that has taken `cur` already and has room for `room` more bytes. -/
def fgetsFrom (size : ℕ) : List UInt8 → ℕ → List UInt8 → List (List UInt8)
  | cur, _, [] => if cur = [] then [] else [cur]
  | cur, room, b :: r =>
      if b = 10 ∨ room ≤ 1 then (cur ++ [b]) :: fgetsFrom size [] (size - 1) r
      else fgetsFrom size (cur ++ [b]) (room - 1) r

/-- All calls on a file. -/
def fgetsAll (size : ℕ) (file : List UInt8) : List (List UInt8) :=
  fgetsFrom size [] (size - 1) file

variable (size : ℕ)

@[simp] lemma fgetsAll_nil : fgetsAll size [] = [] := rfl

/-- A newline ends a call, whatever follows it. -/
lemma fgetsFrom_append (cur : List UInt8) (room : ℕ) (l rest : List UInt8) :
    fgetsFrom size cur room (l ++ 10 :: rest) =
      fgetsFrom size cur room (l ++ [10]) ++ fgetsAll size rest := by
  induction l generalizing cur room with
  | nil => simp [fgetsFrom, fgetsAll]
  | cons b l ih =>
      simp only [List.cons_append, fgetsFrom]
      split
      · rw [ih]
        rfl
      · rw [ih]

/-- A text that ends in a newline is read by itself. -/
lemma fgetsAll_append (l rest : List UInt8) :
    fgetsAll size (l ++ 10 :: rest) = fgetsAll size (l ++ [10]) ++ fgetsAll size rest :=
  fgetsFrom_append size [] (size - 1) l rest

/-- Nothing is read that is not in the file. -/
lemma mem_of_mem_fgetsFrom {cur s o : List UInt8} {room : ℕ} {b : UInt8}
    (ho : o ∈ fgetsFrom size cur room s) (hb : b ∈ o) : b ∈ cur ∨ b ∈ s := by
  induction s generalizing cur room with
  | nil =>
      simp only [fgetsFrom] at ho
      split at ho
      · simp at ho
      · rw [List.mem_singleton] at ho
        exact Or.inl (ho ▸ hb)
  | cons c s ih =>
      simp only [fgetsFrom] at ho
      split at ho
      · rcases List.mem_cons.mp ho with rfl | ho
        · rw [List.mem_append, List.mem_singleton] at hb
          exact hb.imp_right fun (h : b = c) => List.mem_cons.mpr (Or.inl h)
        · rcases ih ho with h | h
          · simp at h
          · exact Or.inr (List.mem_cons_of_mem _ h)
      · rcases ih ho with h | h
        · rw [List.mem_append, List.mem_singleton] at h
          exact h.imp_right fun (h : b = c) => List.mem_cons.mpr (Or.inl h)
        · exact Or.inr (List.mem_cons_of_mem _ h)

/-- The calls on one line, from one that has taken `cur` already. -/
lemma fgetsFrom_line {l : List UInt8} (hl : (10 : UInt8) ∉ l) (cur : List UInt8) {room : ℕ}
    (hroom : 0 < room) :
    ∃ others, fgetsFrom size cur room (l ++ [10]) = (cur ++ (l ++ [10]).take room) :: others ∧
      ∀ o ∈ others, ∀ b ∈ o, b ∈ (l ++ [10]).drop room := by
  induction l generalizing cur room with
  | nil =>
      have htake : [(10 : UInt8)].take room = [10] := List.take_of_length_le hroom
      exact ⟨[], by simp [fgetsFrom, htake], by simp⟩
  | cons b l ih =>
      obtain ⟨hb, hl⟩ := not_or.mp fun h => hl (List.mem_cons.mpr h)
      by_cases hone : room = 1
      · subst hone
        refine ⟨fgetsFrom size [] (size - 1) (l ++ [10]), by simp [fgetsFrom], ?_⟩
        intro o ho c hc
        rcases mem_of_mem_fgetsFrom size ho hc with h | h
        · simp at h
        · simpa using h
      · obtain ⟨k, rfl⟩ : ∃ k, room = k + 1 := ⟨room - 1, by omega⟩
        obtain ⟨others, heq, hothers⟩ := ih hl (cur ++ [b]) (show 1 ≤ k by omega)
        refine ⟨others, ?_, by simpa using hothers⟩
        have hcond : ¬ (b = 10 ∨ k + 1 ≤ 1) := by
          rintro (h | h)
          · exact hb h.symm
          · omega
        simp only [List.cons_append, fgetsFrom, if_neg hcond, Nat.add_sub_cancel, heq,
          List.take_succ_cons, List.append_assoc, List.nil_append]

/-- **The calls on one line**: the first one takes its first `size - 1` bytes, the others, if
there are any, only bytes after those. -/
theorem fgetsAll_line {l : List UInt8} (hl : (10 : UInt8) ∉ l) (hsize : 1 < size) :
    ∃ others, fgetsAll size (l ++ [10]) = (l ++ [10]).take (size - 1) :: others ∧
      ∀ o ∈ others, ∀ b ∈ o, b ∈ (l ++ [10]).drop (size - 1) :=
  fgetsFrom_line size hl [] (by omega)

/-- The calls put together are what was taken and what was in the file. -/
lemma flatten_fgetsFrom (cur : List UInt8) (room : ℕ) (s : List UInt8) :
    (fgetsFrom size cur room s).flatten = cur ++ s := by
  induction s generalizing cur room with
  | nil =>
      simp only [fgetsFrom]
      split_ifs with hcur
      · rw [hcur]
        rfl
      · simp
  | cons b s ih =>
      simp only [fgetsFrom]
      split_ifs
      · rw [List.flatten_cons, ih]
        simp
      · rw [ih]
        simp

/-- **The calls put together** are the file. -/
lemma flatten_fgetsAll (file : List UInt8) : (fgetsAll size file).flatten = file :=
  flatten_fgetsFrom size [] (size - 1) file

/-- A line that fits is taken in one call, with its newline. -/
lemma fgetsFrom_short {l : List UInt8} (hl : (10 : UInt8) ∉ l) (cur : List UInt8) {room : ℕ}
    (hroom : l.length < room) (rest : List UInt8) :
    fgetsFrom size cur room (l ++ 10 :: rest) = (cur ++ l ++ [10]) :: fgetsAll size rest := by
  induction l generalizing cur room with
  | nil => simp [fgetsFrom, fgetsAll]
  | cons b l ih =>
      obtain ⟨hb, hl⟩ := not_or.mp fun h => hl (List.mem_cons.mpr h)
      rw [List.length_cons] at hroom
      have hcond : ¬ (b = 10 ∨ room ≤ 1) := by
        rintro (h | h)
        · exact hb h.symm
        · omega
      rw [List.cons_append, fgetsFrom, if_neg hcond, ih hl (cur ++ [b]) (by omega)]
      simp

/-- **Lines that fit** are taken one in each call. -/
lemma fgetsAll_lines {ls : List (List UInt8)}
    (h : ∀ l ∈ ls, (10 : UInt8) ∉ l ∧ l.length < size - 1) :
    fgetsAll size (ls.map (· ++ [10])).flatten = ls.map (· ++ [10]) := by
  induction ls with
  | nil => rfl
  | cons l ls ih =>
      rw [List.forall_mem_cons] at h
      rw [List.map_cons, List.flatten_cons, List.append_assoc, List.singleton_append, fgetsAll,
        fgetsFrom_short size h.1.1 [] h.1.2, ih h.2, List.nil_append]

end CString
