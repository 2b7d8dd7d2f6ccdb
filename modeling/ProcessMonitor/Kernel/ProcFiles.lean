import ProcessMonitor.Kernel.ProcMonitor
import ProcessMonitor.Lib.ProcFile

/-!
# Writing and reading the kernel module's files

A write handler that takes one byte in a call is driven by the write-all loop of its caller
(`ProcFile.writeAll`), and the calls behind the first one see the rest of the string:
`switchedBy_iff` says for which strings the first digit is what counts. A read of `/proc/sysstats`
makes the text anew, while the file offset goes on: `stats_snapshot` is about the readings that
still give the text of one moment. The text of `/proc/sysmonitor` is made anew too, but differs in
one byte only: `sysmonitor_reading` says that every reading gives the text of one moment, whatever
is written meanwhile.
-/

namespace ProcessMonitor.Kernel

open CString Decimal ProcFile

/-! ## Writing `/proc/sysmonitor` -/

/-- The two bytes that `monitor_write` takes. -/
def isSwitch (b : UInt8) : Bool := b = 48 || b = 49

/-- What the byte of a digit sets. -/
def ProcMonitor.switched (b : UInt8) : ProcMonitor := ⟨if b = 49 then 1 else 0⟩

/-- One call. -/
lemma monitorWrite_cons (b : UInt8) (buf : List UInt8) (m : ProcMonitor) :
    monitorWrite false (b :: buf) m =
      if isSwitch b then (1, ProcMonitor.switched b) else (einval, m) := by
  unfold monitorWrite isSwitch ProcMonitor.switched
  by_cases hone : b = 49
  · simp [hone]
  · by_cases hzero : b = 48
    · simp [hzero]
    · simp [hone, hzero]

/-- **The loop takes the digits** in front of the first other byte, where it fails. -/
lemma writeAll_monitorWrite (buf : List UInt8) (m : ProcMonitor) :
    writeAll (monitorWrite false) buf m =
      { left := buf.dropWhile isSwitch
        error := if buf.all isSwitch then none else some einval
        state := (buf.takeWhile isSwitch).foldl (fun _ b => ProcMonitor.switched b) m } :=
  writeAll_bytewise (by decide) monitorWrite_cons buf m

/-- Of the bytes taken, the last one decides. -/
lemma foldl_switched (m : ProcMonitor) (buf : List UInt8) (b : UInt8) :
    (buf ++ [b]).foldl (fun _ b => ProcMonitor.switched b) m = ProcMonitor.switched b := by
  rw [List.foldl_append, List.foldl_cons, List.foldl_nil]

/-- The byte of a digit. -/
def digit (on : Bool) : UInt8 := if on then 49 else 48

/-- The loop takes the whole of a string that begins with a digit, without an error, and leaves the
switch as that digit says. -/
def SwitchedBy (on : Bool) (rest : List UInt8) (m : ProcMonitor) : Prop :=
  let w := writeAll (monitorWrite false) (digit on :: rest) m
  w.left = [] ∧ w.error = none ∧ w.state.monitorEnabled = if on then 1 else 0

/-- **The first digit counts** if and only if there is nothing but digits, the last of them the same
as the first. -/
theorem switchedBy_iff (on : Bool) (rest : List UInt8) (m : ProcMonitor) :
    SwitchedBy on rest m ↔
      (∀ b ∈ rest, b = 48 ∨ b = 49) ∧ (digit on :: rest).getLast? = some (digit on) := by
  have hfirst : isSwitch (digit on) = true := by cases on <;> rfl
  have hdigits : (digit on :: rest).all isSwitch = true ↔ ∀ b ∈ rest, b = 48 ∨ b = 49 := by
    rw [List.all_cons, hfirst, Bool.true_and, List.all_eq_true]
    simp [isSwitch]
  unfold SwitchedBy
  rw [writeAll_monitorWrite, ← hdigits]
  dsimp only
  by_cases hall : (digit on :: rest).all isSwitch = true
  · have hswitch := List.all_eq_true.mp hall
    rw [if_pos hall, List.dropWhile_eq_nil_iff.mpr hswitch, List.takeWhile_eq_self_iff.mpr hswitch]
    obtain ⟨front, last, hlast⟩ : ∃ front last, digit on :: rest = front ++ [last] :=
      ⟨_, _, (List.dropLast_append_getLast (List.cons_ne_nil (digit on) rest)).symm⟩
    have hmem : isSwitch last = true := hswitch last (by rw [hlast]; simp)
    rw [hlast, foldl_switched, List.getLast?_append]
    have hlast' : (ProcMonitor.switched last).monitorEnabled = (if on then 1 else 0) ↔
        last = digit on := by
      rcases Bool.or_eq_true_iff.mp hmem with h | h
      · obtain rfl := of_decide_eq_true h
        cases on <;> decide
      · obtain rfl := of_decide_eq_true h
        cases on <;> decide
    simp [hlast', hall, ← hlast]
  · rw [if_neg hall]
    simp [hall]

/-- The test script writes `1` and a newline: the second call fails, and so does `tee`. -/
theorem echo_one_fails :
    let w := writeAll (monitorWrite false) (bytes "1\n") ProcMonitor.loaded
    w.left = bytes "\n" ∧ w.error = some einval ∧
      ¬ SwitchedBy true (bytes "\n") ProcMonitor.loaded := by
  refine ⟨by decide, by decide, ?_⟩
  intro h
  have herror : (some einval : Option ℤ) = none := h.2.1
  cases herror

/-! ## Reading `/proc/sysstats` -/

/-- The text is whole in `stats_buf`, so that the length handed on is that of what is there. -/
lemma statsText_eq {hz : ℕ} (jiffies : ℕ) :
    statsText hz jiffies =
      bytes "Uptime: " ++ natText (uptime hz jiffies) ++ bytes " sec\nLoad: 0.1\n" := by
  have huptime : uptime hz jiffies < 10 ^ 20 := by
    have hmod : jiffies % 2 ^ 64 < 2 ^ 64 := Nat.mod_lt _ (by positivity)
    have hdiv : jiffies % 2 ^ 64 / hz ≤ jiffies % 2 ^ 64 := Nat.div_le_self _ _
    unfold uptime
    omega
  have hlen := length_natText_le (by decide) huptime
  have hhead : (bytes "Uptime: ").length = 8 := rfl
  have htail : (bytes " sec\nLoad: 0.1\n").length = 15 := rfl
  refine snprintf_eq_self ?_
  rw [List.length_append, List.length_append, hhead, htail, bufSize]
  omega

/-- The program that reads `/proc/sysstats` to the end of file. Its text is that of `statsText` at
the time of each call.
Source: `proc_monitor.c`, `stats_read`, `simple_read_from_buffer` -/
def statsReader (hz : ℕ) : Machine Reader Read (List UInt8) := reader (statsText hz)

/-- Within a second, all reads are smooth. -/
lemma smooth_of_uptime_eq {hz : ℕ} {s : Reader} {r : Read}
    (h : uptime hz (s.now + r.elapsed) = uptime hz s.now) : Smooth (statsText hz) s r := by
  right
  rw [statsText_eq, statsText_eq, h]

/-- Behind the digits of the uptime, all reads are smooth as long as their number stays. -/
lemma smooth_of_pos_ge {hz : ℕ} {s : Reader} {r : Read}
    (hlen : (natText (uptime hz (s.now + r.elapsed))).length =
      (natText (uptime hz s.now)).length)
    (hpos : 8 + (natText (uptime hz s.now)).length ≤ s.pos) : Smooth (statsText hz) s r := by
  have hbehind : ∀ t, 8 + (natText (uptime hz t)).length ≤ s.pos →
      (statsText hz t).drop s.pos =
        (bytes " sec\nLoad: 0.1\n").drop (s.pos - (8 + (natText (uptime hz t)).length)) := by
    intro t ht
    have hhead : (bytes "Uptime: ").length = 8 := rfl
    rw [statsText_eq, List.drop_append, List.drop_of_length_le, List.nil_append,
      List.length_append, hhead]
    rw [List.length_append, hhead]
    exact ht
  right
  rw [hbehind _ (by omega), hbehind _ hpos, hlen]

/-- The uptime does not go back before the counter wraps. -/
lemma uptime_mono (hz : ℕ) {t t' : ℕ} (h : t ≤ t') (hwrap : t' < 2 ^ 64) :
    uptime hz t ≤ uptime hz t' := by
  unfold uptime
  rw [Nat.mod_eq_of_lt hwrap, Nat.mod_eq_of_lt (lt_of_le_of_lt h hwrap)]
  exact Nat.div_le_div_right h

/-- **Across one change of the second**, a read that takes all the rest must be smooth. -/
lemma tick_snapshot_iff {hz since : ℕ} {s : Reader} {r : Read} (hopen : s.ended = false)
    (hall : (statsText hz (s.now + r.elapsed)).length ≤ r.count)
    (hreturned : s.returned = (statsText hz s.now).take s.pos) (hbegun : since ≤ s.now)
    (hsame : uptime hz since = uptime hz s.now) (hwrap : s.now + r.elapsed < 2 ^ 64)
    (htick : uptime hz (s.now + r.elapsed) = uptime hz s.now + 1) :
    (∃ t, since ≤ t ∧ t ≤ s.now + r.elapsed ∧
        (s.read (statsText hz) r).1.returned = statsText hz t) ↔
      Smooth (statsText hz) s r := by
  refine snapshot_iff_smooth hopen hall hreturned hbegun ?_
  intro t hle hnow
  have hlow := uptime_mono hz hle (lt_of_le_of_lt hnow hwrap)
  have hhigh := uptime_mono hz hnow hwrap
  obtain h | h : uptime hz t = uptime hz s.now ∨ uptime hz t = uptime hz (s.now + r.elapsed) := by
    omega
  · exact Or.inl (by rw [statsText_eq, statsText_eq, h])
  · exact Or.inr (by rw [statsText_eq, statsText_eq, h])

/-- **A reading of smooth reads gives the text of one moment**: the chunks put together, at end of
file. -/
theorem stats_snapshot (hz now : ℕ) (reads : List Read)
    (h : ∀ x ∈ (statsReader hz).trace (Reader.opened now) reads, Smooth (statsText hz) x.1 x.2) :
    (∀ s ∈ (statsReader hz).states (Reader.opened now) reads, Snapshot (statsText hz) s) ∧
      ((statsReader hz).run (Reader.opened now) reads).1.returned =
        ((statsReader hz).run (Reader.opened now) reads).2.flatten :=
  ⟨snapshot_of_smooth now reads h, returned_run (statsText hz) (Reader.opened now) reads⟩

/-- A hundred ticks a second: eight bytes and a digit at 19 seconds, the rest a second later. -/
def tornReads : List Read := [⟨9, 0⟩, ⟨4096, 100⟩, ⟨4096, 0⟩]

/-- The reading of `tornReads` is one of ten seconds. -/
theorem torn_uptime :
    let s := ((statsReader 100).run (Reader.opened 1900) tornReads).1
    s.returned = bytes "Uptime: 10 sec\nLoad: 0.1\n" ∧ ¬ Snapshot (statsText 100) s := by
  intro s
  have hreturned : s.returned = bytes "Uptime: 10 sec\nLoad: 0.1\n" := by decide +kernel
  refine ⟨hreturned, ?_⟩
  intro h
  have hended : s.ended = true := by decide +kernel
  have hsince : s.since = some 1900 := by decide +kernel
  have hnow : s.now = 2000 := by decide +kernel
  obtain ⟨since, hfirst, t, hle, hlast, htext⟩ := h hended
  obtain rfl : 1900 = since := Option.some.inj (hsince.symm.trans hfirst)
  rw [hnow] at hlast
  obtain huptime | huptime : uptime 100 t = 19 ∨ uptime 100 t = 20 := by
    unfold uptime
    omega
  · rw [hreturned, statsText_eq, huptime] at htext
    exact absurd htext (by decide +kernel)
  · rw [hreturned, statsText_eq, huptime] at htext
    exact absurd htext (by decide +kernel)

/-- A reading in one go, at the end of which a second has passed. -/
theorem stats_snapshot_cat :
    let s := ((statsReader 100).run (Reader.opened 1900) [⟨4096, 0⟩, ⟨4096, 100⟩]).1
    s.ended = true ∧ Snapshot (statsText 100) s := by
  refine ⟨by decide +kernel, ?_⟩
  exact (stats_snapshot 100 1900 [⟨4096, 0⟩, ⟨4096, 100⟩] (by decide +kernel)).1 _
    (by decide +kernel)

/-! ## Reading `/proc/sysmonitor` -/

/-- The module after the first `t` of these writes, each with whether `copy_from_user` fails. -/
def afterWrites (writes : List (Bool × List UInt8)) (t : ℕ) : ProcMonitor :=
  (writes.take t).foldl (fun m w => (monitorWrite w.1 w.2 m).2) ProcMonitor.loaded

/-- The program that reads `/proc/sysmonitor` to the end of file, the time being the number of
writes. Source: `proc_monitor.c`, `monitor_read`, `simple_read_from_buffer` -/
def sysmonitorReader (writes : List (Bool × List UInt8)) : Machine Reader Read (List UInt8) :=
  reader fun t => monitorRead (afterWrites writes t)

/-- The switch is always on or off. -/
lemma afterWrites_switch (writes : List (Bool × List UInt8)) (t : ℕ) :
    (afterWrites writes t).monitorEnabled = 0 ∨ (afterWrites writes t).monitorEnabled = 1 := by
  unfold afterWrites
  induction writes.take t using List.reverseRecOn with
  | nil => exact Or.inl rfl
  | append_singleton front w ih =>
      rw [List.foldl_append]
      exact monitorWrite_switch ih w.1 w.2

/-- The text, with the digit of the switch in it. -/
lemma monitorRead_eq {m : ProcMonitor} (h : m.monitorEnabled = 0 ∨ m.monitorEnabled = 1) :
    monitorRead m = bytes "Monitor: " ++ digit (m.monitorEnabled = 1) :: bytes "\n" := by
  obtain ⟨enabled⟩ := m
  rcases h with rfl | rfl <;> decide

/-- The texts differ in that digit only. -/
lemma oneByte_sysmonitor (writes : List (Bool × List UInt8)) :
    OneByte (fun t => monitorRead (afterWrites writes t)) 9 := by
  intro t t'
  dsimp only
  rw [monitorRead_eq (afterWrites_switch writes t), monitorRead_eq (afterWrites_switch writes t')]
  exact ⟨rfl, rfl⟩

/-- **A reading of `/proc/sysmonitor`**, in any pieces and under any writes, is at end of file after
twelve reads that ask for bytes, and has then given the text of one moment. -/
theorem sysmonitor_reading (writes : List (Bool × List UInt8)) (now : ℕ) (reads : List Read)
    (h : 11 < reads.countP fun r => 0 < r.count) :
    let r := (sysmonitorReader writes).run (Reader.opened now) reads
    r.1.ended = true ∧ ∃ since t, r.1.since = some since ∧ since ≤ t ∧ t ≤ r.1.now ∧
      r.2.flatten = monitorRead (afterWrites writes t) := by
  intro r
  have hlen (t : ℕ) : (monitorRead (afterWrites writes t)).length = 11 := by
    rw [monitorRead_eq (afterWrites_switch writes t)]
    rfl
  have hended : r.1.ended = true := ended_of_reads hlen h
  have hmem : r.1 ∈ (sysmonitorReader writes).states (Reader.opened now) reads := by
    rcases List.mem_cons.mp ((sysmonitorReader writes).run_mem_states _ reads) with hopened | hmem
    · change r.1 = Reader.opened now at hopened
      rw [hopened] at hended
      cases hended
    · exact hmem
  obtain ⟨since, hsince, t, hle, hnow, htext⟩ :=
    snapshot_of_oneByte (oneByte_sysmonitor writes) now reads r.1 hmem hended
  have hreturned : r.1.returned = [] ++ r.2.flatten := returned_run _ (Reader.opened now) reads
  rw [List.nil_append] at hreturned
  exact ⟨hended, since, t, hsince, hle, hnow, hreturned ▸ htext⟩

/-- Byte by byte, while the switch is turned on and off again. -/
theorem sysmonitor_reading_bytes :
    let r := (sysmonitorReader [(false, bytes "1"), (false, bytes "0")]).run (Reader.opened 0)
      (List.replicate 9 ⟨1, 0⟩ ++ [⟨1, 1⟩, ⟨1, 1⟩, ⟨1, 0⟩])
    r.1.ended = true ∧ ∃ since t, r.1.since = some since ∧ since ≤ t ∧ t ≤ r.1.now ∧
      r.2.flatten =
        monitorRead (afterWrites [(false, bytes "1"), (false, bytes "0")] t) :=
  sysmonitor_reading _ 0 _ (by decide)

end ProcessMonitor.Kernel
