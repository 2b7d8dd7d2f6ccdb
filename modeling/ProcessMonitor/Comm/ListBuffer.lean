import ProcessMonitor.Comm.Rooms
import ProcessMonitor.Lib.Buffer

/-!
# The buffer of the listing

What the `snprintf` calls of `list_rooms` in `src/03-communication/daemon/command_handler.c` do to
the memory behind `response`. The offset of a call is the sum of the lengths the earlier ones would
have written, so that it can pass the end of the buffer, and `response_size - offset` is unsigned.

From `response_size` 11 on, the string left is the listing as far as it fits, and nothing behind
the buffer changes (`stored_listRooms`). For smaller sizes the header alone fills the buffer: the
loop is guarded against that, and the call for a table without rooms is not
(`listRooms_inBounds_iff`).
-/

namespace ProcessMonitor.Comm

open CString Decimal

/-! ## Memory -/

/-- The bytes that `snprintf` writes: nothing if the size is zero, else what fits of the text, and
a NUL. -/
def Write.cells (w : Write) : List UInt8 :=
  if w.size = 0 then [] else w.text.take (w.size - 1) ++ [0]

/-- The memory behind `response` after a write. -/
def Write.store (w : Write) (mem : List UInt8) : List UInt8 :=
  mem.take w.offset.toNat ++ w.cells ++ mem.drop (w.offset.toNat + w.cells.length)

/-- The memory behind `response` after a list of writes. -/
def stored (ws : List Write) (mem : List UInt8) : List UInt8 :=
  ws.foldl (fun mem w => w.store mem) mem

/-- The write stays inside a buffer of `n` bytes, and its size is what is left of them. -/
structure Write.InBounds (n : ℕ) (w : Write) : Prop where
  offset_le : w.offset ≤ n
  size_eq : (w.size : ℤ) = n - w.offset
  cells_le : ∀ i : ℕ, w.offset.toNat ≤ i → i < w.offset.toNat + w.cells.length → i < n

/-- The full listing: the header, then the line of each active room in the order of the slots, or
that there is none.
The model's statement of what `list_rooms` is for. -/
def Table.listing (t : Table) : List UInt8 :=
  bytes "OK Rooms:\n" ++
    if t.roomCount = 0 then bytes "No rooms created"
    else ((t.visited.filter Room.active).map listLine).flatten

/-- A call inside the buffer is told how many bytes are left. -/
lemma roomLeft_eq {n o : ℕ} (hmax : n ≤ 2147483647) (h : o ≤ n) : roomLeft n o = n - o := by
  unfold roomLeft
  omega

/-- A call with the size `n - o` writes at most that many bytes. -/
lemma Write.length_cells_le (w : Write) : w.cells.length ≤ w.size :=
  Buffer.length_cells_le w.size w.text

/-- A call at an offset in the buffer stays inside. -/
lemma Write.inBounds {n o : ℕ} (hmax : n ≤ 2147483647) (h : o ≤ n) (text : List UInt8) :
    (Write.mk o (roomLeft n o) text).InBounds n := by
  have hleft := roomLeft_eq hmax h
  refine ⟨?_, ?_, ?_⟩
  · show (o : ℤ) ≤ n
    omega
  · show ((roomLeft n o : ℕ) : ℤ) = n - o
    omega
  · intro i hi hlt
    have hcells := (Write.mk o (roomLeft n o) text).length_cells_le
    have hoffset : (Write.mk o (roomLeft n o) text).offset.toNat = o := Int.toNat_natCast o
    have hsize : (Write.mk o (roomLeft n o) text).size = n - o := hleft
    omega

/-! ## What is left in the buffer -/

/-- A buffer of `n` bytes that holds what fits of the text, in memory that is otherwise `mem₀`
behind the buffer. -/
structure HoldsText (n : ℕ) (mem₀ text mem : List UInt8) : Prop where
  length_eq : mem.length = mem₀.length
  drop_eq : mem.drop n = mem₀.drop n
  string : ∃ rest, mem = text.take (n - 1) ++ 0 :: rest

section holds

variable {n : ℕ} {mem₀ mem text : List UInt8}

/-- **A write** behind a text that has not filled the buffer. -/
lemma HoldsText.store (h : HoldsText n mem₀ text mem) (hmax : n ≤ 2147483647)
    (hlen : n ≤ mem₀.length) (htext : text.length < n) (piece : List UInt8) :
    HoldsText n mem₀ (text ++ piece)
      ((Write.mk text.length (roomLeft n text.length) piece).store mem) := by
  obtain ⟨rest, hmem⟩ := h.string
  have hlength := h.length_eq
  have hcells := Buffer.length_cells_le (n - text.length) piece
  have hstore : (Write.mk text.length (roomLeft n text.length) piece).store mem =
      Buffer.put mem text.length (Buffer.cells (n - text.length) piece) := by
    rw [roomLeft_eq hmax htext.le]
    rfl
  have hstart : mem.take text.length = text := by
    rw [hmem, List.take_of_length_le (l := text) (by omega), List.take_left]
  rw [hstore]
  refine ⟨?_, ?_, _, Buffer.put_cells_append hstart htext piece⟩
  · rw [Buffer.length_put (by omega), hlength]
  · rw [Buffer.drop_put (by omega) (by omega), h.drop_eq]

/-- The text behind a full buffer does not show. -/
lemma HoldsText.full (h : HoldsText n mem₀ text mem) (htext : n - 1 ≤ text.length)
    (piece : List UInt8) : HoldsText n mem₀ (text ++ piece) mem := by
  refine ⟨h.length_eq, h.drop_eq, ?_⟩
  rw [List.take_append_of_le_length htext]
  exact h.string

/-- **The loop** leaves the lines of the active rooms, as far as they fit. -/
lemma HoldsText.loop (hmax : n ≤ 2147483647) (hlen : n ≤ mem₀.length) (rooms : List Room)
    (h : HoldsText n mem₀ text mem) :
    HoldsText n mem₀ (text ++ ((rooms.filter Room.active).map listLine).flatten)
      (stored (listLoop n rooms text.length) mem) := by
  have hint : wrapInt n = (n : ℤ) := wrapInt_eq_self ⟨by omega, by omega⟩
  induction rooms generalizing text mem with
  | nil =>
      rw [listLoop, List.filter_nil, List.map_nil, List.flatten_nil, List.append_nil]
      exact h
  | cons r rooms ih =>
      rw [listLoop, hint]
      split_ifs with hroom hactive
      · have hrest := ih (h.store hmax hlen (by omega) (listLine r))
        rw [List.length_append, Nat.cast_add] at hrest
        rw [List.filter_cons_of_pos hactive, List.map_cons, List.flatten_cons, ← List.append_assoc]
        exact hrest
      · rw [List.filter_cons_of_neg hactive]
        exact ih h
      · exact h.full (by omega) _

/-- **All calls of `list_rooms`**, with a buffer that the header does not fill. -/
lemma holds_listRooms (t : Table) (h : 11 ≤ n) (hmax : n ≤ 2147483647) (hlen : n ≤ mem₀.length) :
    HoldsText n mem₀ t.listing (stored (listRooms n t) mem₀) := by
  have hheader : (bytes "OK Rooms:\n").length = 10 := by decide
  -- before the first call the string may be any, but the call starts at the first byte
  have hfirst : HoldsText n mem₀ (bytes "OK Rooms:\n")
      ((Write.mk 0 (roomLeft n 0) (bytes "OK Rooms:\n")).store mem₀) := by
    have hblank : HoldsText n mem₀ [] (mem₀.set 0 0) := by
      obtain ⟨b, rest, hmem⟩ := List.exists_cons_of_length_pos (show 0 < mem₀.length by omega)
      refine ⟨List.length_set, List.drop_set_of_lt (by omega), rest, ?_⟩
      rw [hmem, List.take_nil, List.nil_append, List.set_cons_zero]
    have hstore : (Write.mk 0 (roomLeft n 0) (bytes "OK Rooms:\n")).store (mem₀.set 0 0) =
        (Write.mk 0 (roomLeft n 0) (bytes "OK Rooms:\n")).store mem₀ := by
      rw [Write.store, Write.store, List.drop_set_of_lt]
      · rfl
      · rw [Write.cells, if_neg]
        · rw [List.length_append, List.length_singleton]
          omega
        · have hleft := roomLeft_eq (o := 0) hmax (Nat.zero_le n)
          simp only [Nat.cast_zero] at hleft ⊢
          omega
    have hcall := hblank.store hmax hlen (by rw [List.length_nil]; omega) (bytes "OK Rooms:\n")
    rw [List.nil_append] at hcall
    rw [← hstore]
    exact hcall
  rw [listRooms, Table.listing, stored, List.foldl_cons]
  split_ifs with hcount
  · exact hfirst.store hmax hlen (by omega) _
  · exact hfirst.loop hmax hlen _

end holds

/-! ## The string -/

/-- A line has no NUL. -/
lemma zero_notMem_listLine (r : Room) : (0 : UInt8) ∉ listLine r := by
  simp only [listLine, List.mem_append, not_or]
  exact ⟨⟨⟨⟨⟨⟨by decide, zero_notMem_cstr r.name⟩, by decide⟩, zero_notMem_intText r.size⟩,
    by decide⟩, RoomStatus.zero_notMem_text r.status⟩, by decide⟩

/-- The listing has no NUL. -/
lemma Table.zero_notMem_listing (t : Table) : (0 : UInt8) ∉ t.listing := by
  rw [Table.listing, List.mem_append, not_or]
  refine ⟨by decide, ?_⟩
  split_ifs
  · decide
  · simp only [List.mem_flatten, List.mem_map, not_exists, not_and]
    rintro _ ⟨r, -, rfl⟩
    exact zero_notMem_listLine r

/-- The string in the memory: what fits of the listing. -/
lemma cstr_stored_eq_take (t : Table) {n : ℕ} {mem : List UInt8} (h : 11 ≤ n)
    (hmax : n ≤ 2147483647) (hlen : n ≤ mem.length) :
    cstr (stored (listRooms n t) mem) = t.listing.take (n - 1) := by
  obtain ⟨rest, hstring⟩ := (holds_listRooms t h hmax hlen).string
  have hnul : (0 : UInt8) ∉ t.listing.take (n - 1) := by
    intro h0
    exact t.zero_notMem_listing (List.mem_of_mem_take h0)
  rw [hstring]
  exact cstr_append_zero hnul rest

/-- **`list_rooms` truncates cleanly.** With a buffer of at least 11 bytes, the string left in
`response` is the listing as far as it fits, and the memory behind the buffer is as it was. -/
theorem stored_listRooms (t : Table) (n : ℕ) (mem : List UInt8) (h : 11 ≤ n)
    (hmax : n ≤ 2147483647) (hlen : n ≤ mem.length) :
    let after := stored (listRooms n t) mem
    cstr after = t.listing.take (min t.listing.length (n - 1)) ∧
      after.length = mem.length ∧ after.drop n = mem.drop n := by
  intro after
  have hholds := holds_listRooms t h hmax hlen
  have hmin : t.listing.take (min t.listing.length (n - 1)) = t.listing.take (n - 1) :=
    List.take_eq_take_iff.mpr (by omega)
  refine ⟨?_, hholds.length_eq, hholds.drop_eq⟩
  rw [hmin]
  exact cstr_stored_eq_take t h hmax hlen

/-- A room in sixteen bytes: the line is cut after the fifteenth, and the seventeenth stays. -/
theorem stored_listRooms_sixteen :
    let t := (addRoom (bytes "cpu") 1000 Table.empty).1
    let after := stored (listRooms 16 t) (List.replicate 17 7)
    cstr after = bytes "OK Rooms:\n  cpu" ∧ after.drop 16 = [7] := by
  have h := stored_listRooms (addRoom (bytes "cpu") 1000 Table.empty).1 16 (List.replicate 17 7)
    (by decide) (by decide) (by decide)
  exact ⟨h.1.trans (by decide), h.2.2⟩

/-! ## The sizes -/

/-- The loop calls `snprintf` inside the buffer only. -/
lemma inBounds_of_mem_listLoop {n : ℕ} (hmax : n ≤ 2147483647) (rooms : List Room) (o : ℕ) :
    ∀ w ∈ listLoop n rooms o, w.InBounds n := by
  have hint : wrapInt n = (n : ℤ) := wrapInt_eq_self ⟨by omega, by omega⟩
  induction rooms generalizing o with
  | nil =>
      intro w hw
      cases hw
  | cons r rooms ih =>
      rw [listLoop, hint]
      split_ifs with hroom hactive
      · rw [List.forall_mem_cons]
        refine ⟨Write.inBounds hmax (by omega) _, ?_⟩
        have hrest := ih (o + (listLine r).length)
        rw [Nat.cast_add] at hrest
        exact hrest
      · exact ih o
      · intro w hw
        cases hw

/-- **The sizes of `list_rooms`.** For every `response_size` that `handle_command` lets through, up
to `INT_MAX`, the `snprintf` calls stay inside `response` if and only if the table has had a room,
or the header has room for all its bytes. -/
theorem listRooms_inBounds_iff (t : Table) (n : ℕ) (hpos : 0 < n) (hmax : n ≤ 2147483647) :
    (∀ w ∈ listRooms n t, w.InBounds n) ↔ t.roomCount ≠ 0 ∨ 10 ≤ n := by
  have hheader : (bytes "OK Rooms:\n").length = 10 := by decide
  have hfirst : (Write.mk 0 (roomLeft n 0) (bytes "OK Rooms:\n")).InBounds n :=
    Write.inBounds hmax (Nat.zero_le n) _
  rw [listRooms, List.forall_mem_cons]
  simp only [hheader]
  split_ifs with hcount
  · rw [List.forall_mem_singleton]
    constructor
    · rintro ⟨-, hsecond⟩
      have hle := hsecond.offset_le
      simp only [Nat.cast_ofNat] at hle
      omega
    · intro h
      exact ⟨hfirst, Write.inBounds hmax (by omega) _⟩
  · exact iff_of_true ⟨hfirst, inBounds_of_mem_listLoop hmax t.visited 10⟩ (Or.inl hcount)

/-- A buffer of 1024 bytes is never left. -/
theorem listRooms_inBounds_1024 :
    (listRooms 1024 Table.empty).length = 2 ∧
      ∀ w ∈ listRooms 1024 Table.empty, w.InBounds 1024 :=
  ⟨by decide, (listRooms_inBounds_iff Table.empty 1024 (by decide) (by decide)).mpr
    (Or.inr (by decide))⟩

/-- Five bytes: the text for a table without rooms is written from the eleventh byte on. -/
theorem listRooms_behind_the_end :
    ¬ (∀ w ∈ listRooms 5 Table.empty, w.InBounds 5) ∧
      (stored (listRooms 5 Table.empty) (List.replicate 30 7)).drop 5 =
        List.replicate 5 7 ++ bytes "No rooms created" ++ 0 :: List.replicate 3 7 := by
  refine ⟨?_, by decide⟩
  intro h
  have hsecond := h ⟨10, roomLeft 5 10, bytes "No rooms created"⟩ (List.mem_cons_of_mem _
    (List.mem_singleton_self _))
  exact absurd hsecond.offset_le (by decide)

end ProcessMonitor.Comm
