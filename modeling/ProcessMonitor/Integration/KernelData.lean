import ProcessMonitor.Integration.Monitor
import ProcessMonitor.Lib.Fgets
import ProcessMonitor.Lib.Strtok

/-!
# The data of the kernel module

`ipc_read_kernel_data` of `src/04-integration/ipc_handler.c` where `/proc/sysmonitor` can be opened:
the first line of the file is cut at its blanks, and the figures behind three keys are assigned.
None of the keys is for the memory usage, the module writes none of them, and the function returns 0
in any case.

`kernelFaithful_never` says that no file is read as it should be: as a success where all figures
that are shown have been read, and as a failure elsewhere.

`atof` is a parameter. Its results are rational numbers: the texts that C's `atof` reads as an
infinity or as a NaN are left out, here and in the other modules that take it.
-/

namespace ProcessMonitor.Integration

open CString Decimal Kernel

/-! ## The function -/

/-- The body of the loop over the tokens of the line. -/
def kernelField (atof : List UInt8 → ℚ) (data : MonitorData) (token : List UInt8) : MonitorData :=
  if strncmp token (bytes "cpu_usage:") 10 = 0 then { data with cpuUsage := atof (token.drop 10) }
  else if strncmp token (bytes "memory_free:") 12 = 0 then
    { data with memoryFree := strtoul (token.drop 12) }
  else if strncmp token (bytes "processes:") 10 = 0 then
    { data with processCount := atoi (token.drop 10) }
  else data

/-- The loop over the tokens of the line. -/
def kernelLine (atof : List UInt8 → ℚ) (line : List UInt8) (data : MonitorData) : MonitorData :=
  (strtok 32 (cstr line)).foldl (kernelField atof) data

/-- The line in the array of 512 bytes, unless the file is empty. -/
def kernelFirstLine (content : List UInt8) : Option (List UInt8) := (fgetsAll 512 content).head?

/-- What is left in `*data` for a file with this content. The name is as it is stored in its
`nameSize` bytes, up to the NUL. Source: `ipc_handler.c`, `ipc_read_kernel_data` -/
def kernelData (atof : List UInt8 → ℚ) (nameSize : ℕ) (roomName content : List UInt8) (now : ℤ) :
    MonitorData :=
  let data : MonitorData := { roomName := (cstr roomName).take (nameSize - 1) }
  match kernelFirstLine content with
  | none => data
  | some line => { kernelLine atof line data with timestamp := now, valid := 1 }

/-! ## Figures that are read -/

/-- The line assigns the field: what it holds afterwards does not depend on what it held before. -/
def AssignedBy {α : Type} (atof : List UInt8 → ℚ) (line : List UInt8) (field : MonitorData → α) :
    Prop :=
  ∀ d d' : MonitorData, field (kernelLine atof line d) = field (kernelLine atof line d')

/-- The file assigns all figures that are shown of a room. -/
def FiguresAssigned (atof : List UInt8 → ℚ) (content : List UInt8) : Prop :=
  ∃ line, kernelFirstLine content = some line ∧ AssignedBy atof line MonitorData.cpuUsage ∧
    AssignedBy atof line MonitorData.memoryUsage ∧ AssignedBy atof line MonitorData.processCount

/-- The file is read as a success that assigns all figures, or as a failure. -/
structure KernelFaithful (atof : List UInt8 → ℚ) (nameSize : ℕ) (roomName content : List UInt8)
    (now : ℤ) : Prop where
  zero_iff_valid :
    (ipcReadKernelData (some roomName) (kernelData atof nameSize roomName content now)).1 = 0 ↔
      (ipcReadKernelData (some roomName) (kernelData atof nameSize roomName content now)).2.valid =
        1
  assigned_of_valid :
    (ipcReadKernelData (some roomName) (kernelData atof nameSize roomName content now)).2.valid =
      1 → FiguresAssigned atof content
  result_of_not_valid :
    (ipcReadKernelData (some roomName) (kernelData atof nameSize roomName content now)).2.valid ≠
      1 → (ipcReadKernelData (some roomName) (kernelData atof nameSize roomName content now)).1 = -1

/-! ## What the line assigns -/

section line

variable (atof : List UInt8 → ℚ)

/-- The body of the loop, with the tests as keys. -/
lemma kernelField_eq (d : MonitorData) (token : List UInt8) : kernelField atof d token =
    if hasKey (bytes "cpu_usage:") token then { d with cpuUsage := atof (token.drop 10) }
    else if hasKey (bytes "memory_free:") token then
      { d with memoryFree := strtoul (token.drop 12) }
    else if hasKey (bytes "processes:") token then { d with processCount := atoi (token.drop 10) }
    else d := by
  simp only [kernelField, ← strncmp_key_iff]
  rfl

/-- The usage is assigned from a token with its key. -/
lemma kernelField_cpuUsage (d : MonitorData) (token : List UInt8) :
    (kernelField atof d token).cpuUsage =
      if hasKey (bytes "cpu_usage:") token then atof (token.drop 10) else d.cpuUsage := by
  rw [kernelField_eq]
  split_ifs <;> rfl

/-- The memory usage is not assigned. -/
lemma kernelLine_memoryUsage (line : List UInt8) (d : MonitorData) :
    (kernelLine atof line d).memoryUsage = d.memoryUsage := by
  rw [kernelLine]
  induction strtok 32 (cstr line) generalizing d with
  | nil => rfl
  | cons token tokens ih =>
      rw [List.foldl_cons, ih, kernelField_eq]
      split_ifs <;> rfl

/-- **A figure with a key** is assigned by exactly the lines that have a token with the key. -/
lemma assignedBy_iff {α : Type} {field : MonitorData → α} {key : List UInt8}
    {conv : List UInt8 → α} (hstep : ∀ d token, field (kernelField atof d token) =
      if hasKey key token then conv (token.drop key.length) else field d)
    (hne : ∃ d d' : MonitorData, field d ≠ field d') (line : List UInt8) :
    AssignedBy atof line field ↔ (lastWith key (strtok 32 (cstr line))).isSome = true := by
  have hvalue (d : MonitorData) := foldl_lastWith hstep (strtok 32 (cstr line)) d
  constructor
  · intro h
    by_contra hnone
    rw [Option.not_isSome_iff_eq_none] at hnone
    obtain ⟨d, d', hne⟩ := hne
    have hsame := h d d'
    rw [kernelLine, kernelLine, hvalue, hvalue, hnone] at hsame
    exact hne hsame
  · intro h d d'
    obtain ⟨v, hv⟩ := Option.isSome_iff_exists.mp h
    rw [kernelLine, kernelLine, hvalue, hvalue, hv]
    rfl

/-- **The usage** is assigned by the lines with its key. -/
lemma assignedBy_cpuUsage_iff (line : List UInt8) :
    AssignedBy atof line MonitorData.cpuUsage ↔
      (lastWith (bytes "cpu_usage:") (strtok 32 (cstr line))).isSome = true :=
  assignedBy_iff atof (kernelField_cpuUsage atof)
    ⟨{ cpuUsage := 0 }, { cpuUsage := 1 }, zero_ne_one⟩ line

/-- **The memory usage** is assigned by no line. -/
lemma not_assignedBy_memoryUsage (line : List UInt8) :
    ¬ AssignedBy atof line MonitorData.memoryUsage := by
  intro h
  have hdiff := h { memoryUsage := 0 } { memoryUsage := 1 }
  rw [kernelLine_memoryUsage, kernelLine_memoryUsage] at hdiff
  exact zero_ne_one hdiff

end line

/-! ## What is returned -/

section data

variable (atof : List UInt8 → ℚ) (nameSize : ℕ) (roomName content : List UInt8) (now : ℤ)

/-- A file with a line is valid, whatever is in it. -/
lemma kernelData_valid {line : List UInt8} (h : kernelFirstLine content = some line) :
    (kernelData atof nameSize roomName content now).valid = 1 := by
  rw [kernelData, h]

/-- An empty file is not. -/
lemma kernelData_not_valid (h : kernelFirstLine content = none) :
    (kernelData atof nameSize roomName content now).valid = 0 := by
  rw [kernelData, h]

/-- **Every file is a success** for the monitor thread: the data of the room is replaced, and no
error is counted. -/
lemma monitorStep_kernelData {w : World} {t : ℕ} {th : MonitorThread}
    (hth : w.threads[t]? = some th) (hended : th.ended = false) :
    monitorStep (.iterate t (kernelData atof nameSize roomName content now)) w =
      w.collect th.slot (kernelData atof nameSize roomName content now) := by
  simp [monitorStep, hth, hended, ipcReadKernelData, World.roomName]

/-- **No file is read as it should be.** Whatever `/proc/sysmonitor` contains, either the function
returns 0 without data, or the data is valid without the memory usage that is shown of it. -/
theorem kernelFaithful_never : ¬ KernelFaithful atof nameSize roomName content now := by
  intro h
  cases hline : kernelFirstLine content with
  | none =>
      have hvalid := h.zero_iff_valid.mp rfl
      have hzero := kernelData_not_valid atof nameSize roomName content now hline
      exact zero_ne_one (hzero.symm.trans hvalid)
  | some line =>
      obtain ⟨line', -, -, hmemory, -⟩ :=
        h.assigned_of_valid (kernelData_valid atof nameSize roomName content now hline)
      exact not_assignedBy_memoryUsage atof line' hmemory

end data

/-- The text of the loaded module, and no text at all: both are successes, and no figure is read. -/
theorem monitorRead_not_faithful :
    let text := monitorRead ProcMonitor.loaded
    text = bytes "Monitor: 0\n" ∧
      (¬ KernelFaithful (fun _ => 0) 64 (bytes "cpu") text 0) ∧
      ¬ KernelFaithful (fun _ => 0) 64 (bytes "cpu") [] 0 := by
  intro text
  refine ⟨by decide, ?_, ?_⟩
  · intro h
    obtain ⟨line, hline, hcpu, -, -⟩ := h.assigned_of_valid rfl
    obtain rfl : text = line := Option.some.inj hline
    rw [assignedBy_cpuUsage_iff] at hcpu
    exact absurd hcpu (by decide)
  · intro h
    have hvalid := h.zero_iff_valid.mp rfl
    exact absurd hvalid (by decide)

end ProcessMonitor.Integration
