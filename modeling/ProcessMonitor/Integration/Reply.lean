import ProcessMonitor.Integration.Commands
import ProcessMonitor.Lib.Buffer

/-!
# Sending a reply

`send_response_to_client` of `src/04-integration/main_daemon.c` puts its reply together in
`buffer[2048]` with two or three calls of `snprintf`. Each of them is told that
`sizeof(buffer) - len` bytes are left, where `len` is the sum of the lengths that the earlier ones
would have written, so that it can pass the end of the buffer.

`bounded_iff` says for which replies all is well: those that fit, with their newline and the
terminator. The proof looks at the call for the newline, which needs two bytes.
-/

namespace ProcessMonitor.Integration

open CString Decimal Buffer

/-! ## The calls -/

/-- `sizeof(buffer)`. -/
def replySize : ℕ := 2048

/-- A call `snprintf(buffer + offset, size, ...)`, and the text it formats. -/
structure Print where
  offset : ℤ
  size : ℕ
  text : List UInt8
deriving DecidableEq, Repr

namespace Print

/-- The call behind `len` bytes: `sizeof(buffer) - len`, in the type `size_t`. -/
def behind (len : ℤ) (text : List UInt8) : Print :=
  ⟨len, ((replySize - len) % 2 ^ 64).toNat, text⟩

/-- What it stores. -/
def stores (c : Print) : List Store := consecutive c.offset (cells c.size c.text)

/-- What it returns: the length of the text, or -1 (`EOVERFLOW`) where that is no `int`. -/
def returned (c : Print) : ℤ :=
  if (c.text.length : ℤ) ≤ 2147483647 then c.text.length else -1

/-- `len` after it. -/
def len (c : Print) : ℤ := wrapInt (c.offset + c.returned)

lemma isInt_len (c : Print) : IsInt c.len := isInt_wrapInt _

end Print

/-- The calls for these texts, from `len` on. -/
def printCalls : ℤ → List (List UInt8) → List Print
  | _, [] => []
  | len, text :: texts => .behind len text :: printCalls (Print.behind len text).len texts

/-- `"%s: %s"` -/
def headText (r : Response) : List UInt8 :=
  bytes (if r.type = .success then "SUCCESS" else "ERROR") ++ bytes ": " ++ cstr r.message

/-- `"\nData: %s"`, if there is data. -/
def dataText (r : Response) : List UInt8 :=
  if cstr r.data = [] then [] else bytes "\nData: " ++ cstr r.data

/-- The texts, in the order of the calls. -/
def replyTexts (r : Response) : List (List UInt8) :=
  if cstr r.data = [] then [headText r, bytes "\n"] else [headText r, dataText r, bytes "\n"]

/-- What comes of the calls. -/
structure Sending where
  prints : List Print
  len : ℤ
  sent : List UInt8
  result : ℤ

section sending

-- what the buffer holds at first, and how many of the bytes that it is given `send` sends
variable (buffer : Vector UInt8 replySize) (send : List UInt8 → ℤ)

/-- `send(client_socket, buffer, len, MSG_NOSIGNAL) == len` after the calls. -/
def sendAfter (calls : List Print) : Sending :=
  let len := ((calls.map Print.len).getLast?).getD 0
  let sent := (stores buffer.toList (calls.flatMap Print.stores)).take (len % 2 ^ 64).toNat
  { prints := calls, len := len, sent := sent, result := if send sent = len then 0 else -1 }

/-- Source: `main_daemon.c`, `send_response_to_client` -/
def sendResponseToClient (r : Response) : Sending :=
  sendAfter buffer send (printCalls 0 (replyTexts r))

end sending

/-- What is asked of the calls: `len` stays in the buffer, no size wraps, all stores are inside, no
more is sent than was stored, and what is sent is the text or a beginning of it, and a newline. -/
structure Bounded (text : List UInt8) (s : Sending) : Prop where
  len_le : ∀ c ∈ s.prints, c.len ≤ replySize
  size_eq : ∀ c ∈ s.prints, (c.size : ℤ) = replySize - c.offset
  inside : ∀ c ∈ s.prints, ∀ x ∈ c.stores, 0 ≤ x.index ∧ x.index < replySize
  stored : 0 ≤ s.len ∧ ∀ i : ℕ, (i : ℤ) < s.len → ∃ c ∈ s.prints, ∃ x ∈ c.stores, x.index = i
  ends : ∃ k, s.sent = text.take k ++ bytes "\n"
  whole : text.length + 1 < replySize → s.sent = text ++ bytes "\n"

/-! ## One call -/

section call

variable {n : ℕ} (text : List UInt8)

/-- The size that is left. -/
lemma behind_size (h : n ≤ replySize) : (Print.behind n text).size = replySize - n := by
  have hsize : replySize = 2048 := rfl
  show (((replySize : ℤ) - n) % 2 ^ 64).toNat = replySize - n
  omega

/-- The indices of a call inside the buffer. -/
lemma exists_mem_stores_iff (h : n < replySize) (i : ℤ) :
    (∃ x ∈ (Print.behind n text).stores, x.index = i) ↔
      n ≤ i ∧ i < n + (min (replySize - n - 1) text.length + 1 : ℕ) := by
  have hcells := length_cells (show replySize - n ≠ 0 by omega) text
  rw [Print.stores, exists_mem_consecutive_iff, behind_size text h.le, ← hcells]
  rfl

/-- A call inside the buffer stores inside the buffer. -/
lemma inside_of_mem_stores (h : n ≤ replySize) {x : Store}
    (hx : x ∈ (Print.behind n text).stores) : 0 ≤ x.index ∧ x.index < replySize := by
  have hcells := length_cells_le (replySize - n) text
  have hindex := index_of_mem_consecutive hx
  rw [behind_size text h] at hindex
  have hoffset : (Print.behind n text).offset = n := rfl
  have htext : (Print.behind n text).text = text := rfl
  rw [hoffset, htext] at hindex
  omega

/-- What a call stores in front of the end of the buffer. -/
lemma stores_behind {mem : List UInt8} (hmem : mem.length = replySize) (h : n ≤ replySize) :
    stores mem (Print.behind n text).stores = put mem n (cells (replySize - n) text) := by
  have hcells := length_cells_le (replySize - n) text
  have hput := stores_consecutive mem n (cells (replySize - n) text) (by omega)
  rw [Print.stores, behind_size text h]
  exact hput

/-- `len` after a call whose text can be counted. -/
lemma behind_len (len : ℤ) (text : List UInt8) (htext : (text.length : ℤ) ≤ 2147483647)
    (h : IsInt (len + text.length)) : (Print.behind len text).len = len + text.length := by
  have hreturned : (Print.behind len text).returned = text.length := if_pos htext
  rw [Print.len, hreturned]
  exact wrapInt_eq_self h

end call

/-! ## The call for the newline -/

section newline

variable {buffer : Vector UInt8 replySize} {send : List UInt8 → ℤ} {front : List Print}
  {text : List UInt8}

/-- The buffer in front of the last call. -/
def bufferAfter (buffer : Vector UInt8 replySize) (front : List Print) : List UInt8 :=
  stores buffer.toList (front.flatMap Print.stores)

lemma length_bufferAfter : (bufferAfter buffer front).length = replySize := by
  rw [bufferAfter, length_stores, Vector.length_toList]

/-- `len` at the end is that of the last call. -/
lemma sendAfter_len (c : Print) : (sendAfter buffer send (front ++ [c])).len = c.len := by
  show (((front ++ [c]).map Print.len).getLast?).getD 0 = _
  rw [List.map_append, List.map_singleton, List.getLast?_concat]
  rfl

/-- The call for the newline adds one. -/
lemma newline_len {len : ℤ} (hlow : -2147483648 ≤ len) (hhigh : len ≤ replySize) :
    (Print.behind len (bytes "\n")).len = len + 1 := by
  have hreply : replySize = 2048 := rfl
  have hone : (bytes "\n").length = 1 := rfl
  exact behind_len len (bytes "\n") (by decide) ⟨by omega, by omega⟩

/-- What is sent: the bytes in front of the newline, and the first byte that its call stores. -/
lemma newline_sent {n : ℕ} (h : n + 1 ≤ replySize) :
    (sendAfter buffer send (front ++ [.behind n (bytes "\n")])).sent =
      (bufferAfter buffer front).take n ++ (cells (replySize - n) (bytes "\n")).take 1 := by
  have hreply : replySize = 2048 := rfl
  have hlen := newline_len (show -2147483648 ≤ (n : ℤ) by omega) (by omega)
  have hcount : (((n : ℤ) + 1) % 2 ^ 64).toNat = n + 1 := by omega
  have hcells := length_cells (show replySize - n ≠ 0 by omega) (bytes "\n")
  have hfront : ((bufferAfter buffer front).take n).length = n := by
    rw [List.length_take, length_bufferAfter]
    omega
  show (stores buffer.toList
    ((front ++ [Print.behind n (bytes "\n")]).flatMap Print.stores)).take
      ((sendAfter buffer send (front ++ [Print.behind n (bytes "\n")])).len % 2 ^ 64).toNat = _
  rw [sendAfter_len, hlen, hcount, List.flatMap_append, stores_append, List.flatMap_singleton,
    ← bufferAfter, stores_behind (bytes "\n") length_bufferAfter (by omega), put,
    List.append_assoc, List.take_append, hfront, List.take_of_length_le (by omega),
    Nat.add_sub_cancel_left, List.take_append_of_le_length (by omega)]

/-- No call stands outside of the buffer. -/
lemma Bounded.offset {s : Sending} (h : Bounded text s) {len : ℤ} (hlen : IsInt len)
    {piece : List UInt8} (hc : Print.behind len piece ∈ s.prints) :
    0 ≤ len ∧ len ≤ replySize := by
  have hreply : replySize = 2048 := rfl
  have hlow := hlen.1
  have hsize : (((replySize - len) % 2 ^ 64).toNat : ℤ) = replySize - len := h.size_eq _ hc
  refine ⟨?_, by omega⟩
  by_contra hneg
  have hcells := length_cells (show ((replySize - len) % 2 ^ 64).toNat ≠ 0 by omega) piece
  -- in front of the buffer there is room for the first byte
  obtain ⟨x, hx, hindex⟩ : ∃ x ∈ (Print.behind len piece).stores, x.index = len := by
    refine exists_mem_consecutive_iff.mpr ⟨le_rfl, ?_⟩
    show len < len + (cells ((replySize - len) % 2 ^ 64).toNat piece).length
    omega
  have hinside := (h.inside _ hc x hx).1
  omega

/-- **The newline needs two bytes**: without them, something is wrong in the end. -/
lemma Bounded.newline {len : ℤ} (hlen : IsInt len)
    (h : Bounded text (sendAfter buffer send (front ++ [.behind len (bytes "\n")]))) :
    0 ≤ len ∧ len + 2 ≤ replySize := by
  have hreply : replySize = 2048 := rfl
  have hlast : Print.behind len (bytes "\n") ∈ front ++ [.behind len (bytes "\n")] := by simp
  obtain ⟨hpos, hin⟩ := h.offset hlen hlast
  obtain ⟨n, rfl⟩ := Int.eq_ofNat_of_zero_le hpos
  have hle := h.len_le _ hlast
  rw [newline_len (by omega) (by omega)] at hle
  refine ⟨hpos, ?_⟩
  by_contra hfull
  -- there is one byte left, which is the terminator's
  obtain rfl : n = 2047 := by omega
  obtain ⟨k, hk⟩ := h.ends
  rw [newline_sent (by omega)] at hk
  have hbyte := (List.append_inj' hk rfl).2
  exact absurd hbyte (by decide)

/-- The calls in front of the newline have put a beginning of the text in the buffer, and there are
two bytes left. -/
structure Ready (buffer : Vector UInt8 replySize) (text : List UInt8) (front : List Print)
    (n : ℕ) : Prop where
  room : n + 2 ≤ replySize
  len_le : ∀ c ∈ front, c.len ≤ replySize
  size_eq : ∀ c ∈ front, (c.size : ℤ) = replySize - c.offset
  inside : ∀ c ∈ front, ∀ x ∈ c.stores, 0 ≤ x.index ∧ x.index < replySize
  stored : ∀ i : ℕ, i < n → ∃ c ∈ front, ∃ x ∈ c.stores, x.index = i
  text_eq : (bufferAfter buffer front).take n = text.take n
  whole : text.length + 1 < replySize → text.length ≤ n

/-- **With two bytes left**, all is well in the end. -/
lemma Ready.bounded {n : ℕ} (h : Ready buffer text front n) :
    Bounded text (sendAfter buffer send (front ++ [.behind n (bytes "\n")])) := by
  have hreply : replySize = 2048 := rfl
  have hroom := h.room
  have hlast := newline_len (show -2147483648 ≤ (n : ℤ) by omega) (by omega)
  have hsent : (sendAfter buffer send (front ++ [.behind n (bytes "\n")])).sent =
      text.take n ++ bytes "\n" := by
    obtain ⟨k, hk⟩ : ∃ k, replySize - n = k + 2 := ⟨replySize - n - 2, by omega⟩
    rw [newline_sent (by omega), h.text_eq, hk]
    rfl
  constructor
  · refine List.forall_mem_append.mpr ⟨h.len_le, List.forall_mem_singleton.mpr ?_⟩
    rw [hlast]
    omega
  · refine List.forall_mem_append.mpr ⟨h.size_eq, List.forall_mem_singleton.mpr ?_⟩
    rw [behind_size _ (by omega)]
    show ((replySize - n : ℕ) : ℤ) = replySize - n
    omega
  · refine List.forall_mem_append.mpr ⟨h.inside, List.forall_mem_singleton.mpr ?_⟩
    exact fun x hx => inside_of_mem_stores _ (by omega) hx
  · rw [sendAfter_len, hlast]
    refine ⟨by omega, ?_⟩
    intro i hi
    rcases Nat.lt_or_ge i n with hlt | hge
    · obtain ⟨c, hc, hx⟩ := h.stored i hlt
      exact ⟨c, List.mem_append_left _ hc, hx⟩
    · refine ⟨_, List.mem_append_right _ (List.mem_singleton_self _), ?_⟩
      exact (exists_mem_stores_iff (bytes "\n") (by omega) i).mpr ⟨by omega, by omega⟩
  · exact ⟨n, hsent⟩
  · intro hfits
    rw [hsent, List.take_of_length_le (h.whole hfits)]

/-- **A call behind a text** that is in the buffer puts its own there too, as far as it fits. -/
lemma take_bufferAfter (front : List Print) (text piece : List UInt8) {m : ℕ}
    (hmem : (bufferAfter buffer front).take text.length = text) (htext : text.length < replySize)
    (hm : m < replySize) (hlen : m ≤ (text ++ piece).length) :
    (bufferAfter buffer (front ++ [.behind text.length piece])).take m =
      (text ++ piece).take m := by
  have hput := put_cells_append hmem htext piece
  rw [bufferAfter, List.flatMap_append, stores_append, List.flatMap_singleton, ← bufferAfter,
    stores_behind piece length_bufferAfter htext.le, hput, List.take_append_of_le_length,
    List.take_take, Nat.min_eq_left (by omega)]
  rw [List.length_take]
  omega

end newline

/-! ## The replies -/

section replies

variable (buffer : Vector UInt8 replySize) (r : Response)

/-- The reply, without its newline. -/
def replyText : List UInt8 := headText r ++ dataText r

/-- The first call. -/
def headCall : Print := .behind 0 (headText r)

/-- `len` after the first call. -/
lemma headCall_len :
    (headCall r).len =
      if ((headText r).length : ℤ) ≤ 2147483647 then ((headText r).length : ℤ) else -1 := by
  split_ifs with h
  · have hlen := behind_len 0 (headText r) h ⟨by omega, by omega⟩
    rw [zero_add] at hlen
    exact hlen
  · have hreturned : (headCall r).returned = -1 := if_neg h
    rw [Print.len, hreturned]
    rfl

/-- The first call leaves its text. -/
lemma take_headCall {m : ℕ} (hm : m < replySize) (hlen : m ≤ (headText r).length) :
    (bufferAfter buffer [headCall r]).take m = (headText r).take m :=
  take_bufferAfter [] [] (headText r) rfl (by decide) hm hlen

/-- The first call stores all up to the terminator. -/
lemma exists_mem_headCall (h : (headText r).length < replySize) {i : ℕ}
    (hi : i ≤ (headText r).length) : ∃ x ∈ (headCall r).stores, x.index = i := by
  have hiff := exists_mem_stores_iff (headText r) (n := 0) (by decide) i
  refine hiff.mpr ⟨by omega, ?_⟩
  have hreply : replySize = 2048 := rfl
  omega

/-- The first call is inside the buffer, and `len` with it as long as its text is. -/
lemma headCall_inside (h : (headText r).length ≤ replySize) :
    (headCall r).len = (headText r).length ∧
      ((headCall r).size : ℤ) = replySize - (headCall r).offset ∧
      ∀ x ∈ (headCall r).stores, 0 ≤ x.index ∧ x.index < replySize := by
  have hreply : replySize = 2048 := rfl
  refine ⟨?_, rfl, fun x hx => inside_of_mem_stores (n := 0) (headText r) (by decide) hx⟩
  rw [headCall_len, if_pos (by omega)]

/-- Without data, the second call is that for the newline. -/
lemma bounded_noData_iff (send : List UInt8 → ℤ) (hdata : dataText r = []) :
    Bounded (replyText r) (sendAfter buffer send (printCalls 0 [headText r, bytes "\n"])) ↔
      (headText r).length + 2 ≤ replySize := by
  have hreply : replySize = 2048 := rfl
  have htext : replyText r = headText r := by rw [replyText, hdata, List.append_nil]
  have hcalls : printCalls 0 [headText r, bytes "\n"] =
      [headCall r] ++ [.behind (headCall r).len (bytes "\n")] := rfl
  rw [hcalls, htext]
  constructor
  · intro h
    have hroom := h.newline (headCall r).isInt_len
    rw [headCall_len] at hroom
    split_ifs at hroom <;> omega
  · intro h
    obtain ⟨hlen, hsize, hinside⟩ := headCall_inside r (by omega)
    rw [hlen]
    refine Ready.bounded ⟨h, ?_, ?_, ?_, ?_, ?_, fun _ => le_rfl⟩
    · refine List.forall_mem_singleton.mpr ?_
      omega
    · exact List.forall_mem_singleton.mpr hsize
    · exact List.forall_mem_singleton.mpr hinside
    · exact fun i hi => ⟨_, List.mem_singleton_self _, exists_mem_headCall r (by omega) hi.le⟩
    · exact take_headCall buffer r (by omega) le_rfl

/-- The second call, where there is data. -/
def dataCall : Print := .behind (headCall r).len (dataText r)

/-- **Two bytes are left** behind the data of a reply that fits; and also where the data are so long
that their call fails, which takes the last byte of the head away. -/
lemma ready_data {n : ℕ} (hhead : (headText r).length < replySize) (hn : n + 2 ≤ replySize)
    (hlen : (dataCall r).len = n) (hfront : n ≤ (replyText r).length)
    (hstored : n ≤ (headText r).length + (dataText r).length)
    (hwhole : (replyText r).length + 1 < replySize → (replyText r).length ≤ n) :
    Ready buffer (replyText r) [headCall r, dataCall r] n := by
  have hreply : replySize = 2048 := rfl
  obtain ⟨hfirst, hsize, hinside⟩ := headCall_inside r hhead.le
  have hcall : dataCall r = .behind ((headText r).length : ℕ) (dataText r) := by
    rw [dataCall, hfirst]
  refine ⟨hn, ?_, ?_, ?_, ?_, ?_, hwhole⟩
  · refine List.forall_mem_cons.mpr ⟨by omega, List.forall_mem_singleton.mpr ?_⟩
    omega
  · refine List.forall_mem_cons.mpr ⟨hsize, List.forall_mem_singleton.mpr ?_⟩
    rw [hcall, behind_size _ hhead.le]
    show ((replySize - (headText r).length : ℕ) : ℤ) = replySize - (headText r).length
    omega
  · refine List.forall_mem_cons.mpr ⟨hinside, List.forall_mem_singleton.mpr ?_⟩
    rw [hcall]
    exact fun x hx => inside_of_mem_stores _ hhead.le hx
  · intro i hi
    rcases Nat.lt_or_ge i (headText r).length with hlt | hge
    · exact ⟨_, List.mem_cons_self .., exists_mem_headCall r hhead hlt.le⟩
    · refine ⟨_, List.mem_cons_of_mem _ (List.mem_singleton_self _), ?_⟩
      rw [hcall]
      exact (exists_mem_stores_iff (dataText r) hhead i).mpr ⟨by omega, by omega⟩
  · have htake := take_headCall buffer r hhead le_rfl
    rw [List.take_length] at htake
    have hboth := take_bufferAfter _ _ (dataText r) htake hhead (show n < replySize by omega) hfront
    rw [← hcall] at hboth
    exact hboth

/-- `len` after the second call. -/
lemma dataCall_len (hhead : (headText r).length ≤ replySize) :
    (dataCall r).len =
      if ((dataText r).length : ℤ) ≤ 2147483647
        then wrapInt ((headText r).length + (dataText r).length)
        else (headText r).length - 1 := by
  have hreply : replySize = 2048 := rfl
  have hoffset : (dataCall r).offset = (headText r).length := (headCall_inside r hhead).1
  split_ifs with h
  · have hreturned : (dataCall r).returned = (dataText r).length := if_pos h
    rw [Print.len, hreturned, hoffset]
  · have hreturned : (dataCall r).returned = -1 := if_neg h
    rw [Print.len, hreturned, hoffset]
    exact wrapInt_eq_self ⟨by omega, by omega⟩

/-- With data, the third call is that for the newline. -/
lemma bounded_data_iff (send : List UInt8 → ℤ) :
    Bounded (replyText r)
        (sendAfter buffer send (printCalls 0 [headText r, dataText r, bytes "\n"])) ↔
      (replyText r).length + 2 ≤ replySize ∨
        (headText r).length < replySize ∧ 2147483647 < (dataText r).length := by
  have hreply : replySize = 2048 := rfl
  have htext : (replyText r).length = (headText r).length + (dataText r).length :=
    List.length_append
  have hcalls : printCalls 0 [headText r, dataText r, bytes "\n"] =
      [headCall r, dataCall r] ++ [.behind (dataCall r).len (bytes "\n")] := rfl
  rw [hcalls]
  constructor
  · intro h
    have hsecond : Print.behind (headCall r).len (dataText r) ∈
        [headCall r, dataCall r] ++ [.behind (dataCall r).len (bytes "\n")] := by simp [dataCall]
    obtain ⟨hpos, hin⟩ := h.offset (headCall r).isInt_len hsecond
    obtain ⟨hpos', hroom⟩ := h.newline (dataCall r).isInt_len
    have hfirst := headCall_len r
    have hhead : (headText r).length ≤ replySize := by
      split_ifs at hfirst <;> omega
    rw [dataCall_len r hhead] at hpos' hroom
    split_ifs at hpos' hroom with hdata
    · left
      -- a sum that is no `int` becomes negative
      rcases lt_or_ge (2147483647 : ℤ) ((headText r).length + (dataText r).length) with
        hbig | hsmall
      · have hneg := wrapInt_neg hbig (by omega)
        omega
      · rw [wrapInt_eq_self ⟨by omega, hsmall⟩] at hroom
        omega
    · exact Or.inr ⟨by omega, by omega⟩
  · rintro (hfits | ⟨hhead, hdata⟩)
    · have hlen : (dataCall r).len = ((replyText r).length : ℕ) := by
        rw [dataCall_len r (by omega), if_pos (by omega),
          wrapInt_eq_self ⟨by omega, by omega⟩, htext, Nat.cast_add]
      rw [hlen]
      exact (ready_data buffer r (by omega) (by omega) hlen le_rfl htext.le fun _ => le_rfl).bounded
    · have hne : 0 < (headText r).length := by
        unfold headText
        rw [List.length_append, List.length_append]
        have hcolon : (bytes ": ").length = 2 := rfl
        omega
      have hlen : (dataCall r).len = ((headText r).length - 1 : ℕ) := by
        rw [dataCall_len r hhead.le, if_neg (by omega)]
        omega
      rw [hlen]
      exact (ready_data buffer r hhead (by omega) hlen (by omega) (by omega) (by omega)).bounded

end replies

/-- **All is well with a reply** if and only if it fits in the buffer, with its newline and the
terminator, or if its data are so long that `snprintf` fails, and the rest fits. -/
theorem bounded_iff (buffer : Vector UInt8 replySize) (send : List UInt8 → ℤ) (r : Response) :
    Bounded (replyText r) (sendResponseToClient buffer send r) ↔
      (replyText r).length + 2 ≤ replySize ∨
        (headText r).length < replySize ∧ 2147483647 < (dataText r).length := by
  have hreply : replySize = 2048 := rfl
  unfold sendResponseToClient replyTexts
  by_cases hdata : cstr r.data = []
  · have hnone : dataText r = [] := if_pos hdata
    have htext : replyText r = headText r := by rw [replyText, hnone, List.append_nil]
    rw [if_pos hdata, bounded_noData_iff buffer r send hnone, hnone, htext, List.length_nil]
    omega
  · rw [if_neg hdata]
    exact bounded_data_iff buffer r send

/-- Two thousand and forty bytes of data: the call for the newline is told that it may write
2 ^ 64 - 8 bytes, eight bytes behind the buffer. -/
theorem long_data :
    let r : Response := ⟨.success, [], List.replicate 2040 97, 0⟩
    let s := sendResponseToClient (Vector.replicate replySize 0) (fun sent => sent.length) r
    ⟨2056, 2 ^ 64 - 8, bytes "\n"⟩ ∈ s.prints ∧ s.len = 2057 ∧ ¬ Bounded (replyText r) s := by
  intro r s
  have hcall : (⟨2056, 2 ^ 64 - 8, bytes "\n"⟩ : Print) ∈ s.prints := by decide +kernel
  refine ⟨hcall, by decide +kernel, ?_⟩
  intro h
  have hinside := h.inside _ hcall ⟨2056, 10⟩ (by decide +kernel)
  exact absurd hinside.2 (by decide)

end ProcessMonitor.Integration
