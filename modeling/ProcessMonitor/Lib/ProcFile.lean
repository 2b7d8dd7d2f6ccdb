import Mathlib.Tactic
import ProcessMonitor.Lib.Machine

/-!
# Files whose reads and writes are calls of a handler

A program sees such a file through single calls, each of which may take or give fewer bytes than it
was asked for.

* `writeAll` is the loop that writes a buffer by calls of a write handler, going on behind the bytes
  that a call took; `writeAll_bytewise` says where it ends if the handler takes one byte in a call.
* `reader` is a program that reads a file from offset 0 to end of file, where the text is made anew
  in each call and depends on the time. A read is `Smooth` if the text has not changed in front of
  the offset, or not behind it. `snapshot_of_smooth`: smooth reads put together one text, of a time
  during the reading. `snapshot_of_oneByte`: so do any reads of texts that differ in one byte.
  `ended_of_reads`: texts of one length are read to their end in more reads than there are bytes.
-/

namespace ProcFile

/-! ## Writing -/

section writing

variable {σ : Type}

/-- Where a loop of writes ends: the bytes that are left, the result of the call that ended it
early, and the state. -/
structure Written (σ : Type) where
  left : List UInt8
  error : Option ℤ
  state : σ
deriving DecidableEq, Repr

/-- At most so many calls of `write`, each on what is left of the buffer. A call that takes nothing
ends the loop. -/
def writeLoop (write : List UInt8 → σ → ℤ × σ) : ℕ → List UInt8 → σ → Written σ
  | 0, buf, s => ⟨buf, none, s⟩
  | _ + 1, [], s => ⟨[], none, s⟩
  | calls + 1, b :: buf, s =>
      let r := write (b :: buf) s
      if r.1 ≤ 0 then ⟨b :: buf, some r.1, r.2⟩
      else writeLoop write calls ((b :: buf).drop r.1.toNat) r.2

/-- The write-all loop. A call that does not end it takes a byte or more, so that there are no more
calls than bytes. -/
def writeAll (write : List UInt8 → σ → ℤ × σ) (buf : List UInt8) (s : σ) : Written σ :=
  writeLoop write buf.length buf s

variable {write : List UInt8 → σ → ℤ × σ}

/-- **A handler of single bytes.** If `write` takes the first byte where it is `ok`, and fails
otherwise, then the loop takes the bytes in front of the first that is not. -/
theorem writeAll_bytewise {ok : UInt8 → Bool} {next : UInt8 → σ → σ} {error : ℤ}
    (herror : error ≤ 0)
    (hwrite : ∀ b buf s, write (b :: buf) s = if ok b then (1, next b s) else (error, s))
    (buf : List UInt8) (s : σ) :
    writeAll write buf s =
      { left := buf.dropWhile ok
        error := if buf.all ok then none else some error
        state := (buf.takeWhile ok).foldl (fun s b => next b s) s } := by
  unfold writeAll
  induction buf generalizing s with
  | nil => rfl
  | cons b buf ih =>
      rw [List.length_cons, writeLoop, hwrite]
      cases hb : ok b with
      | false => simp [hb, herror]
      | true => simp [hb, ih]

end writing

/-! ## Reading -/

section reading

/-- What a read of `count` bytes from `pos` on gives. -/
def chunk (text : List UInt8) (pos count : ℕ) : List UInt8 := (text.drop pos).take count

/-- A program in the middle of a reading: the file offset, the bytes it has been given, the time of
its first read and of its last one, and whether it has seen the end of file. -/
structure Reader where
  pos : ℕ
  returned : List UInt8
  since : Option ℕ
  now : ℕ
  ended : Bool
deriving DecidableEq, Repr

/-- A file just opened. -/
def Reader.opened (now : ℕ) : Reader := ⟨0, [], none, now, false⟩

/-- A read: how many bytes are asked for, and the time since the read before it. -/
structure Read where
  count : ℕ
  elapsed : ℕ
deriving DecidableEq, Repr

variable (text : ℕ → List UInt8)

/-- A read. One that asks for bytes and is given none is the last. -/
def Reader.read (s : Reader) (r : Read) : Reader × List UInt8 :=
  if s.ended then (s, [])
  else
    let now := s.now + r.elapsed
    let given := chunk (text now) s.pos r.count
    ({ pos := s.pos + given.length
       returned := s.returned ++ given
       since := some (s.since.getD now)
       now := now
       ended := decide (0 < r.count) && given.isEmpty }, given)

/-- The program that reads to the end of file. -/
def reader : Machine Reader Read (List UInt8) := ⟨Reader.read text⟩

/-- The bytes returned are the chunks put together. -/
lemma returned_run (s : Reader) (reads : List Read) :
    ((reader text).run s reads).1.returned =
      s.returned ++ ((reader text).run s reads).2.flatten := by
  induction reads generalizing s with
  | nil => simp
  | cons r reads ih =>
      have hstep : ((reader text).step s r).1.returned =
          s.returned ++ ((reader text).step s r).2 := by
        show (s.read text r).1.returned = s.returned ++ (s.read text r).2
        rw [Reader.read]
        split_ifs
        · rw [List.append_nil]
        · rfl
      rw [Machine.run_cons, ih, hstep, List.flatten_cons, List.append_assoc]

/-- At end of file, the reader has the text of a time during its reading. -/
def Snapshot (s : Reader) : Prop :=
  s.ended = true →
    ∃ since, s.since = some since ∧ ∃ t, since ≤ t ∧ t ≤ s.now ∧ s.returned = text t

/-- Since the last read, the text has not changed in front of the offset, or not behind it. -/
def Smooth (s : Reader) (r : Read) : Prop :=
  (text (s.now + r.elapsed)).take s.pos = s.returned ∨
    (text (s.now + r.elapsed)).drop s.pos = (text s.now).drop s.pos

instance (s : Reader) (r : Read) : Decidable (Smooth text s r) :=
  inferInstanceAs (Decidable (_ ∨ _))

/-- What has been read, and what is still to come, are the text of a time during the reading. -/
structure Consistent (s : Reader) : Prop where
  /-- Nothing is read before the first read. -/
  begins : s.since = none → s.pos = 0 ∧ s.returned = []
  /-- The two parts of the text. -/
  parts : ∀ since, s.since = some since →
    ∃ t, since ≤ t ∧ t ≤ s.now ∧ text t = s.returned ++ (text s.now).drop s.pos
  /-- Nothing is to come at the end of file. -/
  ends : s.ended = true → s.since.isSome = true ∧ (text s.now).drop s.pos = []

variable {text}

/-- Before the first read. -/
lemma consistent_opened (now : ℕ) : Consistent text (Reader.opened now) where
  begins _ := ⟨rfl, rfl⟩
  parts _ h := by cases h
  ends h := by cases h

/-- A consistent reader at end of file has a snapshot. -/
lemma Consistent.snapshot {s : Reader} (h : Consistent text s) : Snapshot text s := by
  intro hended
  obtain ⟨hsome, hrest⟩ := h.ends hended
  obtain ⟨since, hsince⟩ := Option.isSome_iff_exists.mp hsome
  obtain ⟨t, hle, hnow, htext⟩ := h.parts since hsince
  refine ⟨since, hsince, t, hle, hnow, ?_⟩
  rw [htext, hrest, List.append_nil]

/-- What a read takes from behind the offset it adds in front of it. -/
lemma returned_append_drop (all : List UInt8) (returned : List UInt8) (pos count : ℕ) :
    (returned ++ chunk all pos count) ++ all.drop (pos + (chunk all pos count).length) =
      returned ++ all.drop pos := by
  have hrest : all.drop (pos + (chunk all pos count).length) = (all.drop pos).drop count := by
    unfold chunk
    rw [List.length_take, ← List.drop_drop, ← List.drop_eq_drop_min]
  rw [hrest, List.append_assoc, chunk, List.take_append_drop]

/-- **A smooth read keeps the reader consistent.** Its text agrees with that of the time found so
far behind the offset, or else it is itself the one. -/
lemma Consistent.read {s : Reader} (h : Consistent text s) {r : Read} (hr : Smooth text s r) :
    Consistent text (s.read text r).1 := by
  rw [Reader.read]
  split_ifs with hended
  · exact h
  refine ⟨nofun, ?_, ?_⟩
  · intro since hsince
    obtain rfl : s.since.getD (s.now + r.elapsed) = since := Option.some.inj hsince
    rw [returned_append_drop]
    rcases hr with htake | hdrop
    · refine ⟨s.now + r.elapsed, ?_, le_rfl, ?_⟩
      · cases hfirst : s.since with
        | none => exact le_rfl
        | some first =>
            obtain ⟨t, hle, hnow, -⟩ := h.parts first hfirst
            exact le_trans (le_trans hle hnow) (Nat.le_add_right _ _)
      · rw [← htake, List.take_append_drop]
    · cases hfirst : s.since with
      | none =>
          obtain ⟨hpos, hreturned⟩ := h.begins hfirst
          exact ⟨s.now + r.elapsed, le_rfl, le_rfl, by rw [hpos, hreturned]; rfl⟩
      | some first =>
          obtain ⟨t, hle, hnow, htext⟩ := h.parts first hfirst
          exact ⟨t, hle, le_trans hnow (Nat.le_add_right _ _), by rw [hdrop, htext]⟩
  · intro hlast
    refine ⟨rfl, ?_⟩
    obtain ⟨hcount, hempty⟩ := Bool.and_eq_true_iff.mp hlast
    have hnil : chunk (text (s.now + r.elapsed)) s.pos r.count = [] := List.isEmpty_iff.mp hempty
    show (text (s.now + r.elapsed)).drop
      (s.pos + (chunk (text (s.now + r.elapsed)) s.pos r.count).length) = []
    rw [hnil, List.length_nil, Nat.add_zero]
    rcases List.take_eq_nil_iff.mp hnil with hzero | hrest
    · have hpos := of_decide_eq_true hcount
      omega
    · exact hrest

/-- **Smooth reads give a snapshot.** -/
theorem snapshot_of_smooth (now : ℕ) (reads : List Read)
    (h : ∀ x ∈ (reader text).trace (Reader.opened now) reads, Smooth text x.1 x.2) :
    ∀ s ∈ (reader text).states (Reader.opened now) reads, Snapshot text s := by
  have hall := (reader text).states_of_trace (I := Consistent text) (C := Smooth text)
    (fun s r hs hr => Consistent.read hs hr) (consistent_opened now) h
  exact fun s hs => (hall s hs).snapshot

/-- Two pieces of two texts make up one of the texts only if these agree in front of the cut, or
behind it. -/
lemma pieces_iff {old new : List UInt8} {pos : ℕ} :
    (old.take pos ++ new.drop pos = old ∨ old.take pos ++ new.drop pos = new) ↔
      new.take pos = old.take pos ∨ new.drop pos = old.drop pos := by
  have hold : old.take pos ++ new.drop pos = old ↔ new.drop pos = old.drop pos := by
    constructor
    · intro h
      exact List.append_cancel_left (h.trans (List.take_append_drop pos old).symm)
    · intro h
      rw [h, List.take_append_drop]
  have hnew : old.take pos ++ new.drop pos = new ↔ new.take pos = old.take pos := by
    constructor
    · intro h
      exact (List.append_cancel_right (h.trans (List.take_append_drop pos new).symm)).symm
    · intro h
      rw [← h, List.take_append_drop]
  rw [hold, hnew, or_comm]

/-- **Where the text changes once**, smoothness is also necessary: the reader has a part of the old
text, and the read takes all the rest of the new one. -/
theorem snapshot_iff_smooth {s : Reader} {r : Read} (hopen : s.ended = false)
    (hall : (text (s.now + r.elapsed)).length ≤ r.count)
    (hreturned : s.returned = (text s.now).take s.pos) {since : ℕ} (hbegun : since ≤ s.now)
    (honce : ∀ t, since ≤ t → t ≤ s.now + r.elapsed →
      text t = text s.now ∨ text t = text (s.now + r.elapsed)) :
    (∃ t, since ≤ t ∧ t ≤ s.now + r.elapsed ∧ (s.read text r).1.returned = text t) ↔
      Smooth text s r := by
  have hread : (s.read text r).1.returned =
      (text s.now).take s.pos ++ (text (s.now + r.elapsed)).drop s.pos := by
    have hrest : ((text (s.now + r.elapsed)).drop s.pos).length ≤ r.count := by
      rw [List.length_drop]
      omega
    rw [Reader.read, if_neg (by rw [hopen]; decide), ← hreturned]
    show s.returned ++ chunk (text (s.now + r.elapsed)) s.pos r.count = _
    rw [chunk, List.take_of_length_le hrest]
  unfold Smooth
  rw [hread, hreturned, ← pieces_iff]
  constructor
  · rintro ⟨t, hle, hnow, htext⟩
    rw [htext]
    exact honce t hle hnow
  · rintro (h | h)
    · exact ⟨s.now, hbegun, Nat.le_add_right _ _, h⟩
    · exact ⟨s.now + r.elapsed, le_trans hbegun (Nat.le_add_right _ _), le_rfl, h⟩

/-! ## Texts that differ in one byte -/

/-- All texts agree except in one byte, at the offset `p`. -/
def OneByte (text : ℕ → List UInt8) (p : ℕ) : Prop :=
  ∀ t t', (text t).take p = (text t').take p ∧ (text t).drop (p + 1) = (text t').drop (p + 1)

/-- In front of the byte, a reader has what all texts have there. -/
def InFront (text : ℕ → List UInt8) (p : ℕ) (s : Reader) : Prop :=
  s.pos ≤ p → ∀ t, s.returned = (text t).take s.pos

section oneByte

variable {p : ℕ} (h : OneByte text p)
include h

/-- As far as the byte, the texts agree. -/
lemma OneByte.take_eq {q : ℕ} (hq : q ≤ p) (t t' : ℕ) : (text t).take q = (text t').take q := by
  have htake (t : ℕ) : (text t).take q = ((text t).take p).take q := by
    rw [List.take_take, Nat.min_eq_left hq]
  rw [htake, htake t', (h t t').1]

/-- Behind it, they agree again. -/
lemma OneByte.drop_eq {q : ℕ} (hq : p < q) (t t' : ℕ) : (text t).drop q = (text t').drop q := by
  have hdrop (t : ℕ) : (text t).drop q = ((text t).drop (p + 1)).drop (q - (p + 1)) := by
    rw [List.drop_drop]
    congr 1
    omega
  rw [hdrop, hdrop t', (h t t').2]

/-- A read keeps the reader so. -/
lemma InFront.read {s : Reader} (hs : InFront text p s) (r : Read) :
    InFront text p (s.read text r).1 := by
  rw [Reader.read]
  split_ifs
  · exact hs
  · intro hpos t
    change s.pos + (chunk (text (s.now + r.elapsed)) s.pos r.count).length ≤ p at hpos
    change s.returned ++ chunk (text (s.now + r.elapsed)) s.pos r.count =
      (text t).take (s.pos + (chunk (text (s.now + r.elapsed)) s.pos r.count).length)
    rw [hs (by omega) (s.now + r.elapsed), h.take_eq hpos t (s.now + r.elapsed), List.take_add]
    congr 1
    rw [chunk, List.length_take, ← List.take_eq_take_min]

/-- **Every read of such texts is smooth.** -/
lemma InFront.smooth {s : Reader} (hs : InFront text p s) (r : Read) : Smooth text s r := by
  by_cases hpos : s.pos ≤ p
  · exact Or.inl (hs hpos _).symm
  · exact Or.inr (h.drop_eq (not_le.mp hpos) _ _)

/-- **Texts that differ in one byte** are never torn. -/
theorem snapshot_of_oneByte (now : ℕ) (reads : List Read) :
    ∀ s ∈ (reader text).states (Reader.opened now) reads, Snapshot text s := by
  refine snapshot_of_smooth now reads fun x hx => ?_
  have hopened : InFront text p (Reader.opened now) := fun _ _ => rfl
  have hall := (reader text).trace_invariant (I := InFront text p)
    (fun s r hs => InFront.read h hs r) hopened reads
  exact (hall x hx).smooth h x.2

end oneByte

/-! ## The end of file -/

section ends

variable {len : ℕ} (hlen : ∀ t, (text t).length = len)
include hlen

/-- The offset stays in the text. -/
lemma pos_read_le {s : Reader} (h : s.pos ≤ len) (r : Read) : (s.read text r).1.pos ≤ len := by
  rw [Reader.read]
  split_ifs
  · exact h
  · change s.pos + (chunk (text (s.now + r.elapsed)) s.pos r.count).length ≤ len
    rw [chunk, List.length_take, List.length_drop, hlen]
    omega

omit hlen in
/-- The offset does not go back. -/
lemma le_pos_read (s : Reader) (r : Read) : s.pos ≤ (s.read text r).1.pos := by
  rw [Reader.read]
  split_ifs
  · exact le_rfl
  · exact Nat.le_add_right _ _

omit hlen in
/-- A read that asks for bytes and is not the last gives some. -/
lemma pos_read_lt {s : Reader} {r : Read} (hcount : 0 < r.count)
    (h : (s.read text r).1.ended = false) : s.pos < (s.read text r).1.pos := by
  rw [Reader.read] at h ⊢
  split_ifs at h ⊢ with hended
  · rw [hended] at h
    cases h
  · simp only [hcount, decide_true, Bool.true_and, List.isEmpty_eq_false_iff] at h
    exact Nat.lt_add_of_pos_right (List.length_pos_iff.mpr h)

omit hlen in
/-- A reader at end of file stays there. -/
lemma ended_run {s : Reader} (h : s.ended = true) (reads : List Read) :
    ((reader text).run s reads).1.ended = true := by
  refine (reader text).run_invariant (I := fun s => s.ended = true) (fun s r hs => ?_) h reads
  change (s.read text r).1.ended = true
  rw [Reader.read, if_pos hs]
  exact hs

omit hlen in
/-- As long as it has not got there, each read that asks for bytes has moved it on. -/
lemma pos_run {s : Reader} {reads : List Read}
    (h : ((reader text).run s reads).1.ended = false) :
    s.pos + reads.countP (fun r => 0 < r.count) ≤ ((reader text).run s reads).1.pos := by
  induction reads generalizing s with
  | nil => simp
  | cons r reads ih =>
      simp only [Machine.run_cons] at h ⊢
      have hrest := ih h
      have hopen : ((reader text).step s r).1.ended = false := by
        by_contra hended
        rw [Bool.not_eq_false] at hended
        rw [ended_run hended] at h
        cases h
      rw [List.countP_cons]
      split_ifs with hcount
      · have hlt : s.pos < ((reader text).step s r).1.pos :=
          pos_read_lt (of_decide_eq_true hcount) hopen
        omega
      · have hle : s.pos ≤ ((reader text).step s r).1.pos := le_pos_read s r
        omega

/-- **A reading ends**: more reads that ask for bytes than there are bytes see the end of file. -/
theorem ended_of_reads {now : ℕ} {reads : List Read}
    (h : len < reads.countP fun r => 0 < r.count) :
    ((reader text).run (Reader.opened now) reads).1.ended = true := by
  by_contra hended
  rw [Bool.not_eq_true] at hended
  have hpos := pos_run hended
  have hopened : (Reader.opened now).pos ≤ len := Nat.zero_le len
  have hle := (reader text).run_invariant (I := fun s => s.pos ≤ len)
    (fun _ r hs => pos_read_le hlen hs r) hopened reads
  omega

end ends

end reading

end ProcFile
