import Mathlib.Data.BitVec
import ProcessMonitor.Integration.Monitor
import ProcessMonitor.Lib.Machine

/-!
# The CPU usage from `/proc/stat`

`get_cpu_usage_from_proc` of `src/04-integration/ipc_handler.c`, the fallback of
`ipc_read_kernel_data`. The previous reading is in two static variables, which all rooms share.

`usage_independent_iff` says on which schedules the values recorded for a room do not depend on what
the other rooms read: those in which no other room reads before the room does. `usage_percent_iff`
says on which sequences of readings all values are percentages: those in which the idle counters
never gain more than all counters together, with wrapping differences.
-/

namespace ProcessMonitor.Integration

/-! ## One call -/

/-- The counters of the first line of `/proc/stat`, each an `unsigned long long`. -/
structure CpuStat where
  user : BitVec 64
  nice : BitVec 64
  system : BitVec 64
  idle : BitVec 64
  iowait : BitVec 64
  irq : BitVec 64
  softirq : BitVec 64
  steal : BitVec 64
deriving DecidableEq

namespace CpuStat

variable (c : CpuStat)

/-- `current_idle` -/
def currentIdle : BitVec 64 := c.idle + c.iowait

/-- `current_total` -/
def currentTotal : BitVec 64 :=
  c.user + c.nice + c.system + c.idle + c.iowait + c.irq + c.softirq + c.steal

end CpuStat

/-- The value of `(100.0 * busy) / total` as a `float`, for a `total` that is not 0. -/
structure FloatShare where
  share : ℕ → ℕ → ℚ
  share_zero : ∀ total, 0 < total → share 0 total = 0
  share_self : ∀ total, 0 < total → share total total = 100

/-- Without rounding. -/
def FloatShare.exact : FloatShare where
  share busy total := 100 * busy / total
  share_zero total _ := by simp
  share_self total h := by
    have hne : (total : ℚ) ≠ 0 := by exact_mod_cast h.ne'
    exact mul_div_cancel_right₀ 100 hne

/-- The static variables. -/
structure CpuStatics where
  prevIdle : BitVec 64
  prevTotal : BitVec 64
deriving DecidableEq

/-- Before the first call. -/
def CpuStatics.zero : CpuStatics := ⟨0, 0⟩

/-- The argument is `none` where the file cannot be opened, has no line, or has fewer than eight
numbers in it. Source: `ipc_handler.c`, `get_cpu_usage_from_proc` -/
def getCpuUsageFromProc (F : FloatShare) (stat : Option CpuStat) (s : CpuStatics) :
    CpuStatics × ℚ :=
  match stat with
  | none => (s, 0)
  | some c =>
      let s' : CpuStatics := ⟨c.currentIdle, c.currentTotal⟩
      if s.prevTotal = 0 then (s', 0)
      else
        let idleDiff := c.currentIdle - s.prevIdle
        let totalDiff := c.currentTotal - s.prevTotal
        if totalDiff = 0 then (s', 0)
        else (s', F.share (totalDiff - idleDiff).toNat totalDiff.toNat)

/-- The fallback branch, with the room's name as it is stored and with what the other two readers
return. Source: `ipc_handler.c`, `ipc_read_kernel_data` -/
def fallbackData (F : FloatShare) (roomName : List UInt8) (stat : Option CpuStat)
    (memoryFree : ℕ) (processCount now : ℤ) (s : CpuStatics) : CpuStatics × MonitorData :=
  let r := getCpuUsageFromProc F stat s
  (r.1,
    { roomName := roomName, cpuUsage := r.2, memoryFree := memoryFree
      processCount := processCount, timestamp := now, valid := 1 })

/-- What a monitor thread records for its room is the value of the call. -/
lemma recorded_cpuUsage {w : World} {t : ℕ} {th : MonitorThread} {r : RoomInfo}
    (hth : w.threads[t]? = some th) (hended : th.ended = false)
    (hr : w.daemon.rooms[th.slot]? = some r) (F : FloatShare) (roomName : List UInt8)
    (stat : Option CpuStat) (memoryFree : ℕ) (processCount now : ℤ) (s : CpuStatics) :
    let found := (fallbackData F roomName stat memoryFree processCount now s).2
    ((monitorStep (.iterate t found) w).daemon.rooms[th.slot]?).map
      (fun r => r.latestData.cpuUsage) = some (getCpuUsageFromProc F stat s).2 := by
  simp [monitorStep, hth, hended, ipcReadKernelData, World.roomName, World.collect,
    hr, fallbackData]

/-- A successful reading is what the static variables hold afterwards. -/
def CpuStat.statics (c : CpuStat) : CpuStatics := ⟨c.currentIdle, c.currentTotal⟩

/-- What a successful reading leaves does not depend on the readings before. -/
lemma getCpuUsage_some (F : FloatShare) (c : CpuStat) (s : CpuStatics) :
    (getCpuUsageFromProc F (some c) s).1 = c.statics := by
  simp only [getCpuUsageFromProc]
  split_ifs <;> rfl

/-- The value after a reading `p` is the busy share since then. -/
lemma getCpuUsage_after (F : FloatShare) {p : CpuStat} (hp : p.currentTotal ≠ 0) (c : CpuStat) :
    (getCpuUsageFromProc F (some c) p.statics).2 =
      if c.currentTotal - p.currentTotal = 0 then 0
      else
        F.share ((c.currentTotal - p.currentTotal) - (c.currentIdle - p.currentIdle)).toNat
          (c.currentTotal - p.currentTotal).toNat := by
  have hzero : p.statics.prevTotal ≠ 0 := hp
  simp only [getCpuUsageFromProc]
  rw [if_neg hzero]
  exact apply_ite Prod.snd _ _ _

/-- Counters with any two sums. -/
lemma exists_cpuStat (idle total : BitVec 64) :
    ∃ c : CpuStat, c.currentIdle = idle ∧ c.currentTotal = total := by
  refine ⟨⟨total - idle, 0, 0, idle, 0, 0, 0, 0⟩, ?_, ?_⟩
  · simp [CpuStat.currentIdle]
  · simp [CpuStat.currentTotal]

/-- **The reading before decides**: no value is that of `c` after all readings. -/
lemma exists_getCpuUsage_ne (F : FloatShare) (c : CpuStat) (v : ℚ) :
    ∃ p : CpuStat, (getCpuUsageFromProc F (some c) p.statics).2 ≠ v := by
  -- a small step back that does not lead to the total 0
  obtain ⟨d, hd, hd', htotal⟩ : ∃ d : BitVec 64, d ≠ 0 ∧ 0 < d.toNat ∧ c.currentTotal - d ≠ 0 := by
    by_cases h : c.currentTotal = 1
    · exact ⟨2, by decide, by decide, by rw [h]; decide⟩
    · exact ⟨1, by decide, by decide, sub_ne_zero.mpr h⟩
  by_cases hv : v = 100
  · obtain ⟨p, hidle, hp⟩ := exists_cpuStat (c.currentIdle - d) (c.currentTotal - d)
    refine ⟨p, ?_⟩
    rw [getCpuUsage_after F (by rw [hp]; exact htotal), hidle, hp, sub_sub_cancel, sub_sub_cancel,
      if_neg hd, sub_self]
    have hshare : F.share (0 : BitVec 64).toNat d.toNat = 0 := F.share_zero _ hd'
    rw [hshare, hv]
    norm_num
  · obtain ⟨p, hidle, hp⟩ := exists_cpuStat c.currentIdle (c.currentTotal - d)
    refine ⟨p, ?_⟩
    rw [getCpuUsage_after F (by rw [hp]; exact htotal), hidle, hp, sub_sub_cancel, sub_self,
      if_neg hd, sub_zero, F.share_self _ hd']
    exact Ne.symm hv

/-! ## Schedules -/

/-- A call for a room, with what is read. -/
structure CpuSample where
  room : ℕ
  stat : Option CpuStat
deriving DecidableEq

/-- The reading succeeds. -/
def CpuSample.Reads (x : CpuSample) : Prop := x.stat.isSome

/-- The calls one after another, with their rooms and values. -/
def sampler (F : FloatShare) : Machine CpuStatics CpuSample (ℕ × ℚ) where
  step s x := ((getCpuUsageFromProc F x.stat s).1, (x.room, (getCpuUsageFromProc F x.stat s).2))

/-- The values recorded for the room `a`. -/
def recordedFor (F : FloatShare) (a : ℕ) (s : CpuStatics) (samples : List CpuSample) : List ℚ :=
  ((sampler F).run s samples).2.filterMap fun out => if out.1 = a then some out.2 else none

/-- The values that the room `a` would record alone. -/
def aloneFor (F : FloatShare) (a : ℕ) (s : CpuStatics) (samples : List CpuSample) : List ℚ :=
  ((sampler F).run s (samples.filter fun x => x.room = a)).2.map Prod.snd

/-- The same calls with the same readings of the room `a`; the other rooms may read other values. -/
def SameFor (a : ℕ) : List CpuSample → List CpuSample → Prop :=
  List.Forall₂ fun x y =>
    y.room = x.room ∧ y.stat.isSome = x.stat.isSome ∧ (x.room = a → y = x)

/-- Whatever the other rooms read, the values recorded for the room `a` are those that it would
record alone. -/
def Undisturbed (F : FloatShare) (a : ℕ) (s alone : CpuStatics) (samples : List CpuSample) : Prop :=
  ∀ samples', SameFor a samples samples' →
    recordedFor F a s samples' = aloneFor F a alone samples

section schedules

variable (F : FloatShare) {a : ℕ} {s alone : CpuStatics} {x : CpuSample} {samples : List CpuSample}

/-- A call of the room. -/
lemma recordedFor_cons_own (h : x.room = a) :
    recordedFor F a s (x :: samples) =
      (getCpuUsageFromProc F x.stat s).2 ::
        recordedFor F a (getCpuUsageFromProc F x.stat s).1 samples := by
  rw [recordedFor, Machine.run_cons]
  exact List.filterMap_cons_some (if_pos h)

lemma aloneFor_cons_own (h : x.room = a) :
    aloneFor F a s (x :: samples) =
      (getCpuUsageFromProc F x.stat s).2 ::
        aloneFor F a (getCpuUsageFromProc F x.stat s).1 samples := by
  rw [aloneFor, List.filter_cons_of_pos (by simpa using h), Machine.run_cons, List.map_cons]
  rfl

/-- A call of another room. -/
lemma recordedFor_cons_other (h : x.room ≠ a) :
    recordedFor F a s (x :: samples) =
      recordedFor F a (getCpuUsageFromProc F x.stat s).1 samples := by
  rw [recordedFor, Machine.run_cons]
  exact List.filterMap_cons_none (if_neg h)

lemma aloneFor_cons_other (h : x.room ≠ a) :
    aloneFor F a s (x :: samples) = aloneFor F a s samples := by
  rw [aloneFor, List.filter_cons_of_neg (by simpa using h), aloneFor]

/-- Where the room reads no more, nothing that happens before matters. -/
lemma recordedFor_of_no_reads {samples' : List CpuSample} (hsame : SameFor a samples samples')
    (h : ∀ y ∈ samples, ¬ (y.Reads ∧ y.room = a)) (s alone : CpuStatics) :
    recordedFor F a s samples' = aloneFor F a alone samples := by
  induction hsame generalizing s with
  | nil => rfl
  | @cons x y xs ys hxy _ ih =>
      obtain ⟨hroom, -, hown⟩ := hxy
      rw [List.forall_mem_cons] at h
      by_cases hx : x.room = a
      · obtain rfl := hown hx
        have hnone : y.stat = none := by
          rw [← Option.not_isSome_iff_eq_none]
          exact fun hsome => h.1 ⟨hsome, hx⟩
        rw [recordedFor_cons_own F hx, aloneFor_cons_own F hx, hnone]
        exact congrArg _ (ih h.2 s)
      · rw [recordedFor_cons_other F (by rw [hroom]; exact hx), aloneFor_cons_other F hx]
        exact ih h.2 _

/-- **No other room reads before the room does**: it records what it would record alone. -/
lemma recordedFor_eq_aloneFor {samples' : List CpuSample} (hsame : SameFor a samples samples')
    (h : samples.Pairwise fun x y => x.Reads ∧ x.room ≠ a → ¬ (y.Reads ∧ y.room = a))
    (s : CpuStatics) : recordedFor F a s samples' = aloneFor F a s samples := by
  induction hsame generalizing s with
  | nil => rfl
  | @cons x y xs ys hxy hrest ih =>
      obtain ⟨hroom, hsome, hown⟩ := hxy
      rw [List.pairwise_cons] at h
      by_cases hx : x.room = a
      · obtain rfl := hown hx
        rw [recordedFor_cons_own F hx, aloneFor_cons_own F hx, ih h.2]
      rw [recordedFor_cons_other F (by rw [hroom]; exact hx), aloneFor_cons_other F hx]
      cases hstat : y.stat with
      | none => exact ih h.2 s
      | some c =>
          have hreads : x.Reads := by rw [CpuSample.Reads, ← hsome, hstat]; rfl
          exact recordedFor_of_no_reads F hrest (fun z hz => h.1 z hz ⟨hreads, hx⟩) _ s

/-- The values of the rest of a schedule, after a call that is the same in both. -/
lemma Undisturbed.tail (h : Undisturbed F a s alone (x :: samples)) (x' : CpuSample)
    (hsame : x'.room = x.room ∧ x'.stat.isSome = x.stat.isSome ∧ (x.room = a → x' = x)) :
    Undisturbed F a (getCpuUsageFromProc F x'.stat s).1
      (if x.room = a then (getCpuUsageFromProc F x.stat alone).1 else alone) samples := by
  intro samples' hsamples
  have hrun := h (x' :: samples') (.cons hsame hsamples)
  by_cases hx : x.room = a
  · obtain rfl := hsame.2.2 hx
    rw [recordedFor_cons_own F hx, aloneFor_cons_own F hx] at hrun
    rw [if_pos hx]
    exact (List.cons.inj hrun).2
  · have hx' : x'.room ≠ a := by rw [hsame.1]; exact hx
    rw [recordedFor_cons_other F hx', aloneFor_cons_other F hx] at hrun
    rw [if_neg hx]
    exact hrun

/-- The schedule itself is one of those with the same readings. -/
lemma sameFor_refl (a : ℕ) (samples : List CpuSample) : SameFor a samples samples :=
  List.forall₂_same.mpr fun _ _ => ⟨rfl, rfl, fun _ => rfl⟩

/-- After a reading of another room that may be any, the room must not read. -/
lemma no_reads_of_undisturbed (h : ∀ p : CpuStat, Undisturbed F a p.statics alone samples) :
    ∀ y ∈ samples, ¬ (y.Reads ∧ y.room = a) := by
  induction samples generalizing alone with
  | nil => simp
  | cons x samples ih =>
      have hself : x.room = x.room ∧ x.stat.isSome = x.stat.isSome ∧ (x.room = a → x = x) :=
        ⟨rfl, rfl, fun _ => rfl⟩
      cases hstat : x.stat with
      | none =>
          -- the call leaves the static variables as they are
          have hrest (p : CpuStat) : Undisturbed F a p.statics
              (if x.room = a then (getCpuUsageFromProc F x.stat alone).1 else alone) samples := by
            have htail := (h p).tail F x hself
            rw [hstat] at htail ⊢
            exact htail
          refine List.forall_mem_cons.mpr ⟨?_, ih hrest⟩
          intro hx
          rw [CpuSample.Reads, hstat] at hx
          cases hx.1
      | some c =>
          by_cases hx : x.room = a
          · -- some reading before gives another value than the one recorded alone
            obtain ⟨p, hp⟩ := exists_getCpuUsage_ne F c (getCpuUsageFromProc F x.stat alone).2
            have hrun := h p (x :: samples) (sameFor_refl a _)
            rw [recordedFor_cons_own F hx, aloneFor_cons_own F hx] at hrun
            have hvalue := (List.cons.inj hrun).1
            rw [hstat] at hvalue hp
            exact absurd hvalue hp
          · have hrest (p : CpuStat) : Undisturbed F a p.statics alone samples := by
              have htail := (h p).tail F ⟨x.room, some p⟩
                ⟨rfl, by rw [hstat]; rfl, fun heq => absurd heq hx⟩
              rw [if_neg hx, getCpuUsage_some] at htail
              exact htail
            exact List.forall_mem_cons.mpr ⟨fun hy => hx hy.2, ih hrest⟩

/-- Where the values are those recorded alone, no other room reads before the room does. -/
lemma pairwise_of_undisturbed (h : Undisturbed F a s s samples) :
    samples.Pairwise fun x y => x.Reads ∧ x.room ≠ a → ¬ (y.Reads ∧ y.room = a) := by
  induction samples generalizing s with
  | nil => exact List.Pairwise.nil
  | cons x samples ih =>
      have hself : x.room = x.room ∧ x.stat.isSome = x.stat.isSome ∧ (x.room = a → x = x) :=
        ⟨rfl, rfl, fun _ => rfl⟩
      by_cases hx : x.room = a
      · have hrest := h.tail F x hself
        rw [if_pos hx] at hrest
        exact List.pairwise_cons.mpr ⟨fun _ _ hother => absurd hx hother.2, ih hrest⟩
      cases hstat : x.stat with
      | none =>
          have hrest := h.tail F x hself
          rw [if_neg hx, hstat] at hrest
          refine List.pairwise_cons.mpr ⟨?_, ih hrest⟩
          intro _ _ hother
          rw [CpuSample.Reads, hstat] at hother
          cases hother.1
      | some c =>
          have hrest (p : CpuStat) : Undisturbed F a p.statics s samples := by
            have htail := h.tail F ⟨x.room, some p⟩
              ⟨rfl, by rw [hstat]; rfl, fun heq => absurd heq hx⟩
            rw [if_neg hx, getCpuUsage_some] at htail
            exact htail
          have hno := no_reads_of_undisturbed F hrest
          refine List.pairwise_cons.mpr ⟨fun y hy _ => hno y hy, ?_⟩
          exact List.pairwise_of_forall_mem_list fun _ _ y hy _ => hno y hy

end schedules

/-- **Rooms sample independently** on exactly these schedules: the values recorded for a room are
those it would record alone, whatever the other rooms read, if and only if no other room has a
successful reading before a successful reading of the room. -/
theorem usage_independent_iff (F : FloatShare) (a : ℕ) (samples : List CpuSample) :
    Undisturbed F a .zero .zero samples ↔
      samples.Pairwise fun x y => x.Reads ∧ x.room ≠ a → ¬ (y.Reads ∧ y.room = a) := by
  constructor
  · exact pairwise_of_undisturbed F
  · intro h samples' hsame
    exact recordedFor_eq_aloneFor F hsame h .zero

/-- The room 0 reads, the room 1 reads, and the room 0 reads again: it records the share since the
reading of the other room, 0 and not 25. -/
theorem usage_disturbed :
    ¬ Undisturbed .exact 0 .zero .zero
      [⟨0, some ⟨100, 0, 0, 100, 0, 0, 0, 0⟩⟩, ⟨1, some ⟨150, 0, 0, 150, 0, 0, 0, 0⟩⟩,
        ⟨0, some ⟨150, 0, 0, 250, 0, 0, 0, 0⟩⟩] := by
  intro h
  have hvalues := h _ (sameFor_refl 0 _)
  have hrecorded : recordedFor .exact 0 .zero
      [⟨0, some ⟨100, 0, 0, 100, 0, 0, 0, 0⟩⟩, ⟨1, some ⟨150, 0, 0, 150, 0, 0, 0, 0⟩⟩,
        ⟨0, some ⟨150, 0, 0, 250, 0, 0, 0, 0⟩⟩] = [0, 0] := by decide +kernel
  have halone : aloneFor .exact 0 .zero
      [⟨0, some ⟨100, 0, 0, 100, 0, 0, 0, 0⟩⟩, ⟨1, some ⟨150, 0, 0, 150, 0, 0, 0, 0⟩⟩,
        ⟨0, some ⟨150, 0, 0, 250, 0, 0, 0, 0⟩⟩] = [0, 25] := by decide +kernel
  rw [hrecorded, halone] at hvalues
  exact absurd hvalues (by decide)

/-! ## The range of the values -/

/-- The calls one after another, each with a line of eight counters, and the values they return. -/
def readings : Machine CpuStatics CpuStat ℚ where
  step s c := getCpuUsageFromProc .exact (some c) s

/-- Between two readings the idle counters gain no more than all counters together; or the second is
taken as a first one, or nothing moves. -/
def Steady (p c : CpuStat) : Prop :=
  p.currentTotal = 0 ∨ c.currentTotal = p.currentTotal ∨
    (c.currentIdle - p.currentIdle).toNat ≤ (c.currentTotal - p.currentTotal).toNat

instance (p c : CpuStat) : Decidable (Steady p c) := by
  unfold Steady
  infer_instance

/-- A wrapping difference is no more than what it is taken from exactly if it does not wrap. -/
lemma toNat_sub_le_iff (total idle : BitVec 64) :
    (total - idle).toNat ≤ total.toNat ↔ idle.toNat ≤ total.toNat := by
  bv_omega

/-- The share is a percentage exactly if the busy part is no more than the whole. -/
lemma exact_share_mem_iff {busy total : ℕ} (h : 0 < total) :
    (0 ≤ FloatShare.exact.share busy total ∧ FloatShare.exact.share busy total ≤ 100) ↔
      busy ≤ total := by
  have hpos : (0 : ℚ) < total := by exact_mod_cast h
  have hshare : FloatShare.exact.share busy total = 100 * busy / total := rfl
  rw [hshare]
  constructor
  · rintro ⟨-, hle⟩
    rw [div_le_iff₀ hpos] at hle
    have hcast : (busy : ℚ) ≤ total := by linarith
    exact_mod_cast hcast
  · intro hle
    have hcast : (busy : ℚ) ≤ total := by exact_mod_cast hle
    refine ⟨by positivity, ?_⟩
    rw [div_le_iff₀ hpos]
    linarith

/-- **One call** returns a percentage exactly on a steady reading. -/
lemma usage_mem_iff (p c : CpuStat) :
    (0 ≤ (getCpuUsageFromProc .exact (some c) p.statics).2 ∧
        (getCpuUsageFromProc .exact (some c) p.statics).2 ≤ 100) ↔ Steady p c := by
  by_cases hp : p.currentTotal = 0
  · have hvalue : (getCpuUsageFromProc .exact (some c) p.statics).2 = 0 := by
      have hzero : p.statics.prevTotal = 0 := hp
      simp only [getCpuUsageFromProc]
      rw [if_pos hzero]
    rw [hvalue]
    exact iff_of_true ⟨le_rfl, by norm_num⟩ (Or.inl hp)
  · rw [getCpuUsage_after .exact hp]
    split_ifs with hsame
    · exact iff_of_true ⟨le_rfl, by norm_num⟩ (Or.inr (Or.inl (sub_eq_zero.mp hsame)))
    · have hpos : 0 < (c.currentTotal - p.currentTotal).toNat := by
        rw [Nat.pos_iff_ne_zero]
        intro h0
        exact hsame (BitVec.eq_of_toNat_eq h0)
      rw [exact_share_mem_iff hpos, toNat_sub_le_iff]
      constructor
      · intro hle
        exact Or.inr (Or.inr hle)
      · rintro (h0 | heq | hle)
        · exact absurd h0 hp
        · exact absurd (sub_eq_zero.mpr heq) hsame
        · exact hle

/-- The readings after the reading `p`. -/
lemma usages_mem_iff (p : CpuStat) (stats : List CpuStat) :
    (∀ v ∈ (readings.run p.statics stats).2, 0 ≤ v ∧ v ≤ 100) ↔
      (p :: stats).IsChain Steady := by
  induction stats generalizing p with
  | nil => exact iff_of_true (by intro v hv; cases hv) (List.isChain_singleton p)
  | cons c stats ih =>
      have hnext : (readings.step p.statics c).1 = c.statics := getCpuUsage_some .exact c p.statics
      rw [Machine.run_cons, List.forall_mem_cons, List.isChain_cons_cons, hnext, ih]
      exact and_congr_left fun _ => usage_mem_iff p c

/-- **The usage is a percentage** on exactly these sequences of readings: those in which, from each
reading to the next, the idle counters gain no more than all counters together (or the first of the
two has the total 0, or both have the same total). -/
theorem usage_percent_iff (stats : List CpuStat) :
    (∀ v ∈ (readings.run .zero stats).2, 0 ≤ v ∧ v ≤ 100) ↔ stats.IsChain Steady := by
  cases stats with
  | nil => exact iff_of_true (by intro v hv; cases hv) List.isChain_nil
  | cons c stats =>
      have hnext : (readings.step .zero c).1 = c.statics := getCpuUsage_some .exact c .zero
      have hfirst : (readings.step .zero c).2 = 0 := rfl
      rw [Machine.run_cons, List.forall_mem_cons, hnext, hfirst, usages_mem_iff]
      exact and_iff_right ⟨le_rfl, by norm_num⟩

/-- The counter of the time waiting for input falls by 100 while that of the users grows by 200: the
usage is 200. -/
theorem usage_two_hundred :
    ¬ ∀ v ∈ (readings.run .zero
        [⟨1000, 0, 0, 1000, 500, 0, 0, 0⟩, ⟨1200, 0, 0, 1000, 400, 0, 0, 0⟩]).2,
      0 ≤ v ∧ v ≤ 100 := by
  intro h
  have hvalues : (readings.run .zero
      [⟨1000, 0, 0, 1000, 500, 0, 0, 0⟩, ⟨1200, 0, 0, 1000, 400, 0, 0, 0⟩]).2 = [0, 200] := by
    decide +kernel
  rw [hvalues] at h
  exact absurd (h 200 (by decide)).2 (by norm_num)

end ProcessMonitor.Integration
