import ProcessMonitor.Comm.Connection
import ProcessMonitor.Comm.Invariant
import ProcessMonitor.Comm.ListBuffer

/-!
# The listing

`list_rooms` writes piece after piece into the 1024 bytes of the reply, and its loop stops when
they are full. `RoomMap.listing` is the text that it is meant to write: the header and a line for
each room, or that there is none. What is left of it in the reply are its first 1023 bytes
(`written_listRooms`), so that the listing is complete exactly if it has no more.

Eleven rooms with names of 63 bytes and sizes of five digits are too many; ten rooms always fit
(`length_listing_le`).
-/

namespace ProcessMonitor.Comm

open CString Decimal Scanf

/-! ## The text -/

/-- The line of an entry. -/
def entryLine (e : List UInt8 × RoomData) : List UInt8 :=
  bytes "  " ++ e.1 ++ bytes ": size=" ++ intText e.2.size ++ bytes ", status=" ++
    e.2.status.text ++ bytes "\n"

/-- The listing of a map: the header, then a line for each room in the order of creation, or that
there is none. -/
def RoomMap.listing (m : RoomMap) : List UInt8 :=
  bytes "OK Rooms:\n" ++
    if m.entries = [] then bytes "No rooms created" else (m.entries.map entryLine).flatten

/-- The listing of the table is that of the map. -/
lemma Represents.listing_eq {host : Host} {t : Table} {m : RoomMap} (h : Represents host t m) :
    t.listing = m.listing := by
  obtain ⟨l, free, hh, hm⟩ := h
  have hfilter : l.filter Room.active = l := List.filter_eq_self.mpr hh.active
  have hlines : l.map listLine = m.entries.map entryLine := by
    rw [← hm, List.map_map]
    rfl
  have hempty : t.roomCount = 0 ↔ m.entries = [] := by
    rw [hh.count_eq, ← hm, List.map_eq_nil_iff, Nat.cast_eq_zero, List.length_eq_zero_iff]
  rw [Table.listing, RoomMap.listing, hh.visited_eq, hfilter, hlines]
  simp only [hempty]

/-! ## The writes -/

section writes

variable {n : ℕ} (hn : 0 < n) (hmax : n ≤ 2147483647)
include hn hmax

/-- A write at the end of a text of which the buffer holds what fits. -/
lemma Write.apply_append (text piece : List UInt8) :
    (Write.mk text.length (roomLeft n text.length) piece).apply (text.take (n - 1)) =
      (text ++ piece).take (n - 1) := by
  rcases Nat.lt_or_ge text.length n with hlt | hge
  · have hleft := roomLeft_eq hmax hlt.le
    have htake : text.take (n - 1) = text := List.take_of_length_le (by omega)
    have hsize : n - text.length - 1 = n - 1 - text.length := by omega
    rw [Write.apply, htake, if_pos le_rfl, hleft, Int.toNat_natCast, List.take_length, snprintf,
      hsize, List.take_append, htake]
  · -- the text has filled the buffer, and the piece stands behind its end
    have hlen : (text.take (n - 1)).length = n - 1 := by
      rw [List.length_take]
      omega
    have hout : ¬ ((text.length : ℤ) ≤ ((text.take (n - 1)).length : ℤ)) := by
      rw [hlen]
      omega
    rw [Write.apply, if_neg hout, List.take_append_of_le_length (by omega)]

/-- The loop appends the lines of the active rooms, as far as they fit. -/
lemma foldl_listLoop (rooms : List Room) (text : List UInt8) :
    (listLoop n rooms text.length).foldl (fun response w => w.apply response)
        (text.take (n - 1)) =
      (text ++ ((rooms.filter Room.active).map listLine).flatten).take (n - 1) := by
  have hint : wrapInt n = (n : ℤ) := wrapInt_eq_self ⟨by omega, by omega⟩
  induction rooms generalizing text with
  | nil => simp [listLoop]
  | cons r rooms ih =>
      rw [listLoop, hint]
      split_ifs with hroom hactive
      · have h := ih (text ++ listLine r)
        rw [List.length_append, Nat.cast_add] at h
        rw [List.foldl_cons, Write.apply_append hn hmax, h,
          List.filter_cons_of_pos hactive, List.map_cons, List.flatten_cons, List.append_assoc]
      · rw [ih, List.filter_cons_of_neg hactive]
      · rw [List.foldl_nil, List.take_append_of_le_length (by omega)]

/-- The calls of `list_rooms` leave the first `n - 1` bytes of the listing of the table. -/
lemma written_eq_take (t : Table) : written (listRooms n t) = t.listing.take (n - 1) := by
  have hheader := Write.apply_append hn hmax [] (bytes "OK Rooms:\n")
  rw [List.take_nil, List.length_nil, Nat.cast_zero, List.nil_append] at hheader
  rw [written, listRooms, List.foldl_cons, hheader, Table.listing]
  split_ifs with hcount
  · rw [List.foldl_cons, List.foldl_nil, Write.apply_append hn hmax]
  · exact foldl_listLoop hn hmax t.visited _

/-- **What stays in the reply**: the first `n - 1` bytes of the listing. -/
lemma written_listRooms {host : Host} {t : Table} {m : RoomMap} (h : Represents host t m) :
    written (listRooms n t) = m.listing.take (n - 1) := by
  rw [written_eq_take hn hmax, h.listing_eq]

/-- What `handle_command` sends is the string that the calls leave in the memory of a buffer which
the header does not fill. -/
lemma cstr_stored_eq_written (t : Table) {mem : List UInt8} (hlong : 11 ≤ n)
    (hlen : n ≤ mem.length) : cstr (stored (listRooms n t) mem) = written (listRooms n t) := by
  rw [cstr_stored_eq_take t hlong hmax hlen, written_eq_take hn hmax]

end writes

/-! ## Its length -/

/-- A line has at most 94 bytes. -/
lemma length_entryLine_le {e : List UInt8 × RoomData}
    (h : NameOk e.1 ∧ 1 ≤ e.2.size ∧ e.2.size ≤ 10000) : (entryLine e).length ≤ 94 := by
  obtain ⟨hn, h1, h2⟩ := h
  have hname : e.1.length ≤ 63 := hn.token.length_le
  have hstatus (st : RoomStatus) : st.text.length = 7 := by cases st <;> rfl
  have hsize : (intText e.2.size).length ≤ 5 := by
    rw [intText, if_neg (by omega)]
    exact length_natText_le (by decide) (by omega)
  simp [entryLine, bytes, hstatus]
  omega

/-- **The listing is short** if there are few rooms. -/
lemma length_listing_le {m : RoomMap} (h : m.Ok) :
    m.listing.length ≤ 26 + 94 * m.size := by
  have hheader : (bytes "OK Rooms:\n").length = 10 ∧ (bytes "No rooms created").length = 16 := by
    decide
  have hlines (es : List (List UInt8 × RoomData))
      (hes : ∀ e ∈ es, NameOk e.1 ∧ 1 ≤ e.2.size ∧ e.2.size ≤ 10000) :
      (es.map entryLine).flatten.length ≤ 94 * es.length := by
    induction es with
    | nil => simp
    | cons e es ih =>
        rw [List.forall_mem_cons] at hes
        have hline := length_entryLine_le hes.1
        have hrest := ih hes.2
        rw [List.map_cons, List.flatten_cons, List.length_append, List.length_cons]
        omega
  have hall := hlines m.entries h
  rw [RoomMap.listing, List.length_append, hheader.1, OrderedMap.size]
  split_ifs
  · rw [hheader.2]
    omega
  · omega

/-! ## The reply to a bare SHOW -/

/-- A request for the listing is answered with what fits of it. -/
lemma replies_list {host : Host} {t : Table} {m : RoomMap} (hrep : Represents host t m)
    {scan : ScanInt} {command : List UInt8} (h : requestOf scan command = .list) :
    (handleClient host scan [command] t).replies = [m.listing.take 1023] := by
  rw [handleClient_eq_serve, served, if_neg (by rw [h]; decide), h]
  exact congrArg (fun reply => [reply]) (written_listRooms (by decide) (by decide) hrep)

/-- **The listing is complete exactly as far as it fits.** After every sequence of calls of
`handle_command` from the empty table, a connection that sends a line asking for the listing is
answered with the first 1023 bytes of the header and one line for each active room, with name,
size and status, in the order of creation (or the text that there is none). The answer is the
whole text exactly if this has at most 1023 bytes, as it has with at most ten rooms. -/
theorem list_reply (host : Host) (received : List Received) (scan : ScanInt)
    (command : List UInt8) (h : requestOf scan command = .list) :
    let t := ((daemon host).run Table.empty received).1
    let m := received.foldl (RoomMap.receive host) OrderedMap.empty
    let replies := (handleClient host scan [command] t).replies
    t.entries = m.entries ∧ replies = [m.listing.take 1023] ∧
      (replies = [m.listing] ↔ m.listing.length ≤ 1023) ∧
      (m.size ≤ 10 → replies = [m.listing]) := by
  intro t m replies
  obtain ⟨hrep, hok⟩ := represents_run host received
  have hreplies : replies = [m.listing.take 1023] := replies_list hrep h
  have hwhole : replies = [m.listing] ↔ m.listing.length ≤ 1023 := by
    rw [hreplies, List.singleton_inj, List.take_eq_self_iff]
  refine ⟨?_, hreplies, hwhole, fun hsize => hwhole.mpr ?_⟩
  · obtain ⟨l, free, hh, hm⟩ := hrep
    exact hh.entries_eq.trans hm
  · have hlen : m.listing.length ≤ 26 + 94 * m.size := length_listing_le hok
    omega

/-- Two rooms are listed whole. -/
theorem list_reply_two :
    (handleClient .example .strtol [bytes "SHOW"]
        ((daemon .example).run Table.empty [⟨bytes "CREATE cpu 1000", bufferSize, .strtol⟩,
          ⟨bytes "CREATE disk 1500", bufferSize, .strtol⟩]).1).replies =
      [bytes "OK Rooms:
  cpu: size=1000, status=CREATED
  disk: size=1500, status=CREATED
"] :=
  ((list_reply .example [⟨bytes "CREATE cpu 1000", bufferSize, .strtol⟩,
    ⟨bytes "CREATE disk 1500", bufferSize, .strtol⟩] .strtol (bytes "SHOW") (by decide)).2.2.2
      (by decide)).trans (by decide)

/-- The lines that create eleven rooms with names of 63 bytes. -/
def elevenRooms : List Received :=
  (List.range 11).map fun i =>
    ⟨bytes "CREATE " ++ List.replicate 62 97 ++ [UInt8.ofNat (97 + i)] ++ bytes " 10000",
      bufferSize, .strtol⟩

/-- Eleven rooms with long names do not fit: the last line is cut. -/
theorem elevenRooms_not_listed :
    ¬ ∀ (received : List Received) (command : List UInt8),
      requestOf .strtol command = .list →
        (handleClient .example .strtol [command]
            ((daemon .example).run Table.empty received).1).replies =
          [(received.foldl (RoomMap.receive .example) OrderedMap.empty).listing] := by
  intro h
  have hlist : requestOf .strtol (bytes "SHOW") = .list := by decide
  have hwhole := h elevenRooms (bytes "SHOW") hlist
  rw [replies_list (represents_run .example elevenRooms).1 hlist, List.singleton_inj,
    List.take_eq_self_iff] at hwhole
  have hlen : (elevenRooms.foldl (RoomMap.receive .example) OrderedMap.empty).listing.length =
      1044 := by
    decide +kernel
  omega

end ProcessMonitor.Comm
