import Mathlib.Tactic
import ProcessMonitor.Lib.Decimal

/-!
# The kernel module's files, `/proc/sysmonitor` and `/proc/sysstats`

`monitorWrite` is the write handler of `src/01-kernel-module/proc_monitor.c`: whatever the length
of the write, it looks at the first byte only and takes that byte alone. `monitorRead` is what is
read there, and `statsText` the text of `/proc/sysstats`, which each read makes anew.
-/

namespace ProcessMonitor.Kernel

open CString Decimal

/-- The module's state.
Source: `proc_monitor.c`, `static int monitor_enabled` -/
structure ProcMonitor where
  monitorEnabled : ℤ
deriving DecidableEq, Repr

/-- The module as loaded. -/
def ProcMonitor.loaded : ProcMonitor := ⟨0⟩

/-- `-EFAULT`. -/
def efault : ℤ := -14
/-- `-EINVAL`. -/
def einval : ℤ := -22

/-- A write to `/proc/sysmonitor`; `fault` says that `copy_from_user` fails.
Source: `proc_monitor.c`, `monitor_write` -/
def monitorWrite (fault : Bool) (buf : List UInt8) (m : ProcMonitor) : ℤ × ProcMonitor :=
  match buf with
  | [] => (0, m)
  | b :: _ =>
      -- from here on `count` is 1, however long the buffer is
      if fault then (efault, m)
      else if b = 49 then (1, ⟨1⟩)
      else if b = 48 then (1, ⟨0⟩)
      else (einval, m)

/-- A write sets the switch to on or off, or leaves it. -/
lemma monitorWrite_switch {m : ProcMonitor} (h : m.monitorEnabled = 0 ∨ m.monitorEnabled = 1)
    (fault : Bool) (buf : List UInt8) :
    (monitorWrite fault buf m).2.monitorEnabled = 0 ∨
      (monitorWrite fault buf m).2.monitorEnabled = 1 := by
  unfold monitorWrite
  split
  · exact h
  · split_ifs
    · exact h
    · exact Or.inr rfl
    · exact Or.inl rfl
    · exact h

/-- The text under `/proc/sysmonitor`. Source: `proc_monitor.c`, `monitor_read` -/
def monitorRead (m : ProcMonitor) : List UInt8 :=
  snprintf 32 (bytes "Monitor: " ++ intText m.monitorEnabled ++ bytes "\n")

/-- `BUF_SIZE`. -/
def bufSize : ℕ := 128

/-- The uptime that is printed: the tick counter, an `unsigned long`, in seconds.
Source: `proc_monitor.c`, `(unsigned long)jiffies/HZ` -/
def uptime (hz jiffies : ℕ) : ℕ := jiffies % 2 ^ 64 / hz

/-- What a read of `/proc/sysstats` makes in `stats_buf`, at a time given in ticks.
Source: `proc_monitor.c`, `stats_read` -/
def statsText (hz jiffies : ℕ) : List UInt8 :=
  snprintf bufSize (bytes "Uptime: " ++ natText (uptime hz jiffies) ++ bytes " sec\nLoad: 0.1\n")

end ProcessMonitor.Kernel
