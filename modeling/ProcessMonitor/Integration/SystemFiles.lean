import ProcessMonitor.Integration.Figures
import ProcessMonitor.Lib.Fgets
import ProcessMonitor.Lib.Scanf

/-!
# Readings without the kernel module

The three functions of `src/04-integration/ipc_handler.c` that read `/proc/stat`, `/proc/meminfo`
and `/proc/loadavg` where `/proc/sysmonitor` cannot be opened, and what the system puts into these
files (`SystemState`).

* `reading_faithful`: the functions return what the system counts.
* `shown_reading`: whatever the clients do and however they and the monitor threads interleave, a
  room is shown with the zeros that it is created with, or with the CPU usage and the process count
  of one single reading of the run.
-/

namespace ProcessMonitor.Integration

open CString Decimal Prog Scanf

/-! ## The functions -/

/-- What `%llu` and `%lu`, and `%d`, store for the number they read: the number itself if it is one
of the type. -/
structure Conversions where
  unsigned : ℤ → ℤ
  int : ℤ → ℤ
  unsigned_eq : ∀ n : ℕ, n < 2 ^ 64 → unsigned n = n
  int_eq : ∀ z, IsInt z → int z = z

/-- Those of a C library that reads with `strtoul` and `strtol`. -/
def Conversions.strto : Conversions where
  unsigned z := if z.natAbs < 2 ^ 64 then z % 2 ^ 64 else 2 ^ 64 - 1
  int z := wrapInt (clampLong z)
  unsigned_eq n h := by
    rw [Int.natAbs_natCast, if_pos h]
    omega
  int_eq _ h := wrapInt_clampLong h

/-- `sizeof(line)` -/
def systemLineSize : ℕ := 256

/-- The line that the first `fgets` reads. -/
def firstLine (content : List UInt8) : Option (List UInt8) :=
  (fgetsAll systemLineSize content).head?

/-- Eight counters. -/
def CpuStat.ofVals : List Val → Option CpuStat
  | [.int user, .int nice, .int system, .int idle, .int iowait, .int irq, .int softirq,
      .int steal] =>
      some ⟨.ofInt 64 user, .ofInt 64 nice, .ofInt 64 system, .ofInt 64 idle, .ofInt 64 iowait,
        .ofInt 64 irq, .ofInt 64 softirq, .ofInt 64 steal⟩
  | _ => none

/-- `"cpu %llu %llu %llu %llu %llu %llu %llu %llu"` -/
def cpuFormat : List Directive :=
  (bytes "cpu").map .lit ++ (List.range 8).flatMap fun _ => [.space, .int]

/-- What `get_cpu_usage_from_proc` reads, before it computes. -/
def readCpuStat (conv : Conversions) (file : Option (List UInt8)) : Option CpuStat :=
  (file.bind firstLine).bind fun line => CpuStat.ofVals (sscanf conv.unsigned cpuFormat line)

/-- `"MemFree: %lu kB"` -/
def memFreeFormat : List Directive :=
  (bytes "MemFree:").map .lit ++ [.space, .int, .space] ++ (bytes "kB").map .lit

/-- Source: `ipc_handler.c`, `get_memory_free_from_proc` -/
def getMemoryFreeFromProc (conv : Conversions) (file : Option (List UInt8)) : ℕ :=
  let lines := (file.map (fgetsAll systemLineSize)).getD []
  match lines.find? fun line => strncmp line (bytes "MemFree:") 8 = 0 with
  | none => 0
  | some line =>
      match sscanf conv.unsigned memFreeFormat line with
      | [.int memFree] => memFree.toNat
      | _ => 0

/-- `"%f %f %f %d/%d"`: the last number. -/
def scanLoadavg (conv : ℤ → ℤ) (line : List UInt8) : Option ℤ := do
  let load5 ← afterFloat (cstr line)
  let load15 ← afterFloat load5
  let counts ← afterFloat load15
  match scan conv [.space, .int, .lit 47, .int] counts with
  | [_, .int total] => some total
  | _ => none

/-- Source: `ipc_handler.c`, `get_process_count_from_proc` -/
def getProcessCountFromProc (conv : Conversions) (file : Option (List UInt8)) : ℤ :=
  ((file.bind firstLine).bind (scanLoadavg conv.int)).getD 0

/-- The contents of `/proc/stat`, `/proc/meminfo` and `/proc/loadavg`. -/
structure SystemFiles where
  stat : Option (List UInt8)
  meminfo : Option (List UInt8)
  loadavg : Option (List UInt8)

/-- What the three functions make of them. -/
def SystemFiles.found (conv : Conversions) (files : SystemFiles) (statics : CpuStatics) : Found :=
  .fallback (readCpuStat conv files.stat) (getMemoryFreeFromProc conv files.meminfo)
    (getProcessCountFromProc conv files.loadavg) statics

/-! ## What the system writes -/

/-- The counters in the order in which they are written. -/
def CpuStat.counters (c : CpuStat) : List ℕ :=
  [c.user.toNat, c.nice.toNat, c.system.toNat, c.idle.toNat, c.iowait.toNat, c.irq.toNat,
    c.softirq.toNat, c.steal.toNat]

/-- Numbers with a blank in front of each. -/
def numbersText (ns : List ℕ) : List UInt8 := ns.flatMap fun n => 32 :: natText n

/-- The line about all processors, up to the eighth counter. -/
def CpuStat.text (c : CpuStat) : List UInt8 := bytes "cpu " ++ numbersText c.counters

/-- A line of `/proc/meminfo`: a key, blanks, a number, and a unit or none. -/
structure MemoryLine where
  key : List UInt8
  blanks : ℕ
  value : ℕ
  unit : Bool
  key_plain : (58 : UInt8) ∉ key ∧ (10 : UInt8) ∉ key ∧ (0 : UInt8) ∉ key
  value_lt : value < 2 ^ 64
  short : key.length + blanks < 200

/-- The text of a line. -/
def MemoryLine.text (l : MemoryLine) : List UInt8 :=
  l.key ++ 58 :: (List.replicate l.blanks 32 ++ natText l.value ++
    if l.unit then bytes " kB" else [])

/-- A load average, in hundredths. -/
def loadText (load : ℕ) : List UInt8 := natText (load / 100) ++ 46 :: twoDigits (load % 100)

/-- What the system counts. -/
structure SystemState where
  cpu : CpuStat
  guest : List ℕ
  cpus : List UInt8
  memory : List MemoryLine
  loads : Fin 3 → ℕ
  running : ℕ
  processes : ℕ
  lastPid : ℕ
  loads_lt : ∀ i, loads i < 10 ^ 20
  running_lt : running < 2 ^ 31
  processes_lt : processes < 2 ^ 31
  lastPid_lt : lastPid < 2 ^ 31

namespace SystemState

variable (sys : SystemState)

/-- The text of `/proc/stat`: the line about all processors, and those about each and the rest. -/
def stat : List UInt8 := sys.cpu.text ++ numbersText sys.guest ++ 10 :: sys.cpus

/-- The text of `/proc/meminfo`. -/
def meminfo : List UInt8 := (sys.memory.map fun l => l.text ++ [10]).flatten

/-- The line of `/proc/loadavg`. -/
def loadLine : List UInt8 :=
  loadText (sys.loads 0) ++ 32 :: (loadText (sys.loads 1) ++ 32 :: (loadText (sys.loads 2) ++
    32 :: (natText sys.running ++ 47 :: (natText sys.processes ++ 32 :: natText sys.lastPid))))

/-- The text of `/proc/loadavg`. -/
def loadavg : List UInt8 := sys.loadLine ++ [10]

/-- The three files. -/
def files : SystemFiles := ⟨some sys.stat, some sys.meminfo, some sys.loadavg⟩

/-- The free memory. -/
def memFree : ℕ :=
  match sys.memory.find? fun l => l.key = bytes "MemFree" with
  | some l => l.value
  | none => 0

end SystemState

/-! ## The functions on these files -/

section faithful

variable (conv : Conversions) (sys : SystemState)

/-- A line, and what follows it. -/
lemma firstLine_append {l : List UInt8} (hl : (10 : UInt8) ∉ l) (rest : List UInt8) :
    firstLine (l ++ 10 :: rest) = some ((l ++ [10]).take 255) := by
  obtain ⟨others, heq, -⟩ := fgetsAll_line systemLineSize hl (by decide)
  rw [firstLine, fgetsAll_append, heq]
  rfl

/-- Printed numbers have digits only. -/
lemma notMem_natText {c : UInt8} (hc : isdigit c = false) (n : ℕ) : c ∉ natText n := by
  intro h
  rw [isdigit_of_mem_natText h] at hc
  cases hc

/-- And blanks, where there are several. -/
lemma notMem_numbersText {c : UInt8} (hc : isdigit c = false) (hblank : c ≠ 32) (ns : List ℕ) :
    c ∉ numbersText ns := by
  intro h
  obtain ⟨n, -, hn⟩ := List.mem_flatMap.mp h
  rcases List.mem_cons.mp hn with heq | hn
  · exact hblank heq
  · exact notMem_natText hc n hn

/-- A number of 64 bits takes at most 20 bytes. -/
lemma length_numbersText_le {ns : List ℕ} (h : ∀ n ∈ ns, n < 2 ^ 64) :
    (numbersText ns).length ≤ 21 * ns.length := by
  induction ns with
  | nil => exact le_rfl
  | cons n ns ih =>
      rw [List.forall_mem_cons] at h
      have hn : (natText n).length ≤ 20 :=
        length_natText_le (by norm_num) (lt_trans h.1 (by norm_num))
      have hns := ih h.2
      rw [numbersText] at hns ⊢
      simp only [List.flatMap_cons, List.length_append, List.length_cons]
      omega

/-- What follows a text, cut short or not, goes on as it did. -/
lemma noDigitHead_take {s : List UInt8} (h : NoDigitHead s) (n : ℕ) :
    NoDigitHead (cstr (s.take n)) := by
  cases n with
  | zero => exact noDigitHead_nil
  | succ n =>
      cases s with
      | nil => exact noDigitHead_nil
      | cons b s =>
          intro c hc
          by_cases hb : b = 0
          · simp [cstr, hb] at hc
          · rw [List.take_succ_cons, cstr, List.takeWhile_cons_of_pos (by simpa using hb)] at hc
            exact h c hc

namespace CpuStat

variable (c : CpuStat)

/-- The counters have 64 bits. -/
lemma lt_of_mem_counters : ∀ n ∈ c.counters, n < 2 ^ 64 := by
  intro n hn
  simp only [counters, List.mem_cons, List.not_mem_nil, or_false] at hn
  rcases hn with rfl | rfl | rfl | rfl | rfl | rfl | rfl | rfl <;> exact BitVec.isLt _

lemma length_text_le : c.text.length ≤ 172 := by
  have hcounters := length_numbersText_le c.lt_of_mem_counters
  have hcpu : (bytes "cpu ").length = 4 := rfl
  have height : c.counters.length = 8 := rfl
  rw [text, List.length_append, hcpu]
  omega

lemma notMem_text {b : UInt8} (hb : isdigit b = false) (hcpu : b ∉ bytes "cpu ") : b ∉ c.text := by
  rw [text, List.mem_append, not_or]
  refine ⟨hcpu, notMem_numbersText hb ?_ _⟩
  rintro rfl
  exact hcpu (by decide)

/-- The counters are read back. -/
lemma ofVals_counters :
    ofVals (c.counters.map fun n : ℕ => Val.int (conv.unsigned n)) = some c := by
  have hconv (x : BitVec 64) : BitVec.ofInt 64 (conv.unsigned x.toNat) = x := by
    rw [conv.unsigned_eq _ x.isLt, BitVec.ofInt_natCast, BitVec.ofNat_toNat, BitVec.setWidth_eq]
  simp only [counters, List.map_cons, List.map_nil, ofVals, hconv]

/-- From the text, too, whatever follows them. -/
lemma ofVals_text {rest : List UInt8} (hrest : NoDigitHead (cstr rest)) :
    ofVals (sscanf conv.unsigned cpuFormat (c.text ++ rest)) = some c := by
  have hnul : (0 : UInt8) ∉ c.text := c.notMem_text (by decide) (by decide)
  have htext : c.text ++ cstr rest =
      bytes "cpu" ++ (32 :: (numbersText c.counters ++ cstr rest)) := rfl
  have hformat : cpuFormat =
      (bytes "cpu").map .lit ++ (c.counters.flatMap (fun _ => [.space, .int]) ++ []) := rfl
  have hscan := scan_numbers conv.unsigned c.counters [] hrest
  rw [sscanf, cstr_append hnul, htext, hformat, scan_lits]
  -- The blank before the first number is doubled.
  have hblank : scan conv.unsigned (c.counters.flatMap (fun _ => [.space, .int]) ++ [])
      (32 :: (numbersText c.counters ++ cstr rest)) =
        scan conv.unsigned (c.counters.flatMap (fun _ => [.space, .int]) ++ [])
          (numbersText c.counters ++ cstr rest) := rfl
  rw [hblank, numbersText, hscan, scan_nil, List.append_nil, c.ofVals_counters conv]

end CpuStat

/-- **The counters** are read from the first line, however long it is. -/
lemma readCpuStat_stat : readCpuStat conv (some sys.stat) = some sys.cpu := by
  have hplain : (10 : UInt8) ∉ sys.cpu.text ++ numbersText sys.guest := by
    rw [List.mem_append, not_or]
    exact ⟨sys.cpu.notMem_text (by decide) (by decide),
      notMem_numbersText (by decide) (by decide) _⟩
  have hrest : NoDigitHead (numbersText sys.guest ++ [10]) := by
    intro b hb
    cases hguest : sys.guest with
    | nil =>
        rw [hguest] at hb
        obtain rfl : 10 = b := Option.some.inj hb
        decide
    | cons n ns =>
        rw [hguest] at hb
        obtain rfl : 32 = b := Option.some.inj hb
        decide
  have hline : firstLine sys.stat =
      some (sys.cpu.text ++ (numbersText sys.guest ++ [10]).take (255 - sys.cpu.text.length)) := by
    have hlength := sys.cpu.length_text_le
    rw [SystemState.stat, firstLine_append hplain, List.append_assoc, List.take_append,
      List.take_of_length_le (by omega)]
  rw [readCpuStat, Option.bind_some, hline, Option.bind_some,
    CpuStat.ofVals_text conv _ (noDigitHead_take hrest _)]

namespace MemoryLine

variable (l : MemoryLine)

/-- The text has no newline and no NUL. -/
lemma notMem_text {b : UInt8} (hkey : b ∉ l.key) (hb : isdigit b = false)
    (hothers : b ∉ bytes ": kB") : b ∉ l.text := by
  have hunit : b ∉ if l.unit then bytes " kB" else [] := by
    intro h
    split_ifs at h
    · exact hothers (List.mem_cons_of_mem _ h)
    · cases h
  have hblanks : b ∉ List.replicate l.blanks (32 : UInt8) := by
    intro h
    exact hothers (List.eq_of_mem_replicate h ▸ by decide)
  have hcolon : b ≠ 58 := by
    rintro rfl
    exact hothers (by decide)
  simp [text, hkey, hcolon, hblanks, notMem_natText hb, hunit]

/-- It fits into the array, with its newline. -/
lemma length_text_lt : l.text.length < systemLineSize - 1 := by
  have hvalue : (natText l.value).length ≤ 20 :=
    length_natText_le (by norm_num) (lt_trans l.value_lt (by norm_num))
  have hunit : (if l.unit then bytes " kB" else []).length ≤ 3 := by
    split_ifs <;> decide
  have hshort := l.short
  simp only [text, List.length_append, List.length_cons, List.length_replicate, systemLineSize]
  omega

/-- The line is a string with its newline. -/
lemma cstr_line : cstr (l.text ++ [10]) = l.text ++ [10] := by
  refine cstr_eq_self ?_
  rw [List.mem_append, not_or]
  exact ⟨l.notMem_text l.key_plain.2.2 (by decide) (by decide), by decide⟩

/-- The comparison finds the key. -/
lemma strncmp_iff :
    strncmp (l.text ++ [10]) (bytes "MemFree:") 8 = 0 ↔ l.key = bytes "MemFree" := by
  have hlength : (bytes "MemFree:").length = 8 := rfl
  rw [← hlength, strncmp_key_iff, hasKey_iff (by decide), l.cstr_line]
  constructor
  · rintro ⟨r, hr⟩
    have hkey : bytes "MemFree:" = bytes "MemFree" ++ [58] := rfl
    have hsplit : bytes "MemFree" ++ 58 :: r = l.key ++ 58 :: (List.replicate l.blanks 32 ++
        (natText l.value ++ ((if l.unit then bytes " kB" else []) ++ [10]))) := by
      simpa [text, hkey] using hr
    have hbefore {key : List UInt8} (h : (58 : UInt8) ∉ key) (rest : List UInt8) :
        (key ++ 58 :: rest).takeWhile (· ≠ 58) = key := by
      have hpos : ∀ b ∈ key, decide (b ≠ 58) = true := by
        intro b hb
        rw [decide_eq_true_iff]
        exact fun heq => h (heq ▸ hb)
      rw [List.takeWhile_append_of_pos hpos, List.takeWhile_cons_of_neg (by decide),
        List.append_nil]
    rw [← hbefore l.key_plain.1, ← hsplit, hbefore (by decide)]
  · intro hkey
    exact ⟨_, by rw [text, hkey]; rfl⟩

/-- The number behind the key is read. -/
lemma sscanf_text (hkey : l.key = bytes "MemFree") :
    sscanf conv.unsigned memFreeFormat (l.text ++ [10]) =
      [.int (conv.unsigned l.value)] := by
  set rest := (if l.unit then bytes " kB" else []) ++ [10] with hrest
  have hhead : NoDigitHead rest := by
    intro b hb
    rw [hrest] at hb
    split_ifs at hb <;> obtain rfl := Option.some.inj hb <;> decide
  have htext : l.text ++ [10] =
      bytes "MemFree:" ++ (List.replicate l.blanks 32 ++ (natText l.value ++ rest)) := by
    rw [text, hkey, hrest]
    simp [bytes]
  have hblanks : (List.replicate l.blanks 32 ++ (natText l.value ++ rest)).dropWhile isspace =
      natText l.value ++ rest := by
    rw [List.dropWhile_append_of_pos fun b hb => by rw [List.eq_of_mem_replicate hb]; decide,
      (numeral_natText l.value).dropWhile_isspace]
  rw [sscanf, l.cstr_line, htext, memFreeFormat, List.append_assoc, scan_lits,
    List.cons_append, scan_space, hblanks, List.cons_append,
    scan_cons_val _ _ (read_int_numeral _ (numeral_natText l.value) hhead), List.cons_append,
    scan_space, List.nil_append, scan_lits_nil]

end MemoryLine

/-- **The free memory** is read from its line, wherever that stands. -/
lemma getMemoryFree_meminfo :
    getMemoryFreeFromProc conv (some sys.meminfo) = sys.memFree := by
  have hlines : fgetsAll systemLineSize sys.meminfo = sys.memory.map fun l => l.text ++ [10] := by
    have hfit : ∀ t ∈ sys.memory.map MemoryLine.text,
        (10 : UInt8) ∉ t ∧ t.length < systemLineSize - 1 := by
      intro t ht
      obtain ⟨l, -, rfl⟩ := List.mem_map.mp ht
      exact ⟨l.notMem_text l.key_plain.2.1 (by decide) (by decide), l.length_text_lt⟩
    have hall := fgetsAll_lines systemLineSize hfit
    rwa [List.map_map] at hall
  have hfind : (sys.memory.find? fun l => strncmp (l.text ++ [10]) (bytes "MemFree:") 8 = 0) =
      sys.memory.find? fun l => l.key = bytes "MemFree" := by
    simp only [MemoryLine.strncmp_iff]
  simp only [getMemoryFreeFromProc, Option.map_some, Option.getD_some, hlines, List.find?_map,
    Function.comp_def, hfind, SystemState.memFree]
  cases hl : sys.memory.find? fun l => l.key = bytes "MemFree" with
  | none => rfl
  | some l =>
      have hkey : l.key = bytes "MemFree" := by simpa using List.find?_some hl
      simp only [Option.map_some, l.sscanf_text conv hkey, conv.unsigned_eq _ l.value_lt,
        Int.toNat_natCast]

/-- Two digits are digits. -/
lemma isdigit_of_mem_twoDigits {n : ℕ} {b : UInt8} (h : b ∈ twoDigits n) : isdigit b = true := by
  simp only [twoDigits, List.mem_cons, List.not_mem_nil, or_false] at h
  rcases h with rfl | rfl <;> exact isdigit_digit (by omega)

/-- A load average is read up to the next blank. -/
lemma afterFloat_loadText (load : ℕ) (rest : List UInt8) :
    afterFloat (loadText load ++ 32 :: rest) = some (32 :: rest) := by
  have hblank : SpaceHead (32 :: rest) := by
    intro b hb
    obtain rfl : 32 = b := Option.some.inj hb
    decide
  rw [loadText, List.append_assoc, List.cons_append]
  exact afterFloat_point (natText_ne_nil (load / 100)) (fun b hb => isdigit_of_mem_natText hb)
    (fun b hb => isdigit_of_mem_twoDigits hb) hblank

/-- It has digits and a point. -/
lemma notMem_loadText {b : UInt8} (hb : isdigit b = false) (hpoint : b ≠ 46) (load : ℕ) :
    b ∉ loadText load := by
  have hdigits : b ∉ twoDigits (load % 100) := fun h => by
    rw [isdigit_of_mem_twoDigits h] at hb
    cases hb
  simp [loadText, notMem_natText hb, hpoint, hdigits]

/-- It is short. -/
lemma length_loadText_le {load : ℕ} (h : load < 10 ^ 20) : (loadText load).length ≤ 23 := by
  have hwhole : (natText (load / 100)).length ≤ 20 := by
    refine length_natText_le (by norm_num) ?_
    omega
  simp only [loadText, List.length_append, List.length_cons, twoDigits, List.length_nil]
  omega

/-- The two numbers behind the load averages. -/
lemma scan_counts (running processes : ℕ) {rest : List UInt8} (hrest : NoDigitHead rest) :
    scan conv.int [.space, .int, .lit 47, .int]
        (32 :: (natText running ++ 47 :: (natText processes ++ rest))) =
      [.int (conv.int running), .int (conv.int processes)] := by
  have hslash : NoDigitHead (47 :: (natText processes ++ rest)) := by
    intro b hb
    obtain rfl : 47 = b := Option.some.inj hb
    decide
  rw [scan_space, List.dropWhile_cons_of_pos (by decide),
    (numeral_natText running).dropWhile_isspace,
    scan_cons_val _ _ (read_int_numeral _ (numeral_natText running) hslash),
    scan_cons_skip _ _ (read_lit_cons_self _ 47 _),
    scan_cons_val _ _ (read_int_numeral _ (numeral_natText processes) hrest), scan_nil]

namespace SystemState

/-- The line has digits, points, blanks and a slash. -/
lemma notMem_loadLine {b : UInt8} (hb : isdigit b = false) (hothers : b ∉ bytes ". /") :
    b ∉ sys.loadLine := by
  have hblank : b ≠ 32 := fun h => hothers (h ▸ by decide)
  have hslash : b ≠ 47 := fun h => hothers (h ▸ by decide)
  have hload (load : ℕ) : b ∉ loadText load :=
    notMem_loadText hb (fun h => hothers (h ▸ by decide)) load
  simp [loadLine, hblank, hslash, hload, notMem_natText hb]

/-- It fits into the array. -/
lemma length_loadLine_lt : sys.loadLine.length < 255 := by
  have hint {n : ℕ} (h : n < 2 ^ 31) : (natText n).length ≤ 10 :=
    length_natText_le (by norm_num) (lt_trans h (by norm_num))
  have h0 := length_loadText_le (sys.loads_lt 0)
  have h1 := length_loadText_le (sys.loads_lt 1)
  have h2 := length_loadText_le (sys.loads_lt 2)
  have hrunning := hint sys.running_lt
  have hprocesses := hint sys.processes_lt
  have hlastPid := hint sys.lastPid_lt
  simp only [loadLine, List.length_append, List.length_cons]
  omega

/-- The number of processes is read behind the load averages. -/
lemma scanLoadavg_loadLine : scanLoadavg conv.int (sys.loadLine ++ [10]) = some ↑sys.processes := by
  have hnul : cstr (sys.loadLine ++ [10]) = sys.loadLine ++ [10] := by
    refine cstr_eq_self ?_
    rw [List.mem_append, not_or]
    exact ⟨sys.notMem_loadLine (by decide) (by decide), by decide⟩
  have hblank : isspace 32 = true := by decide
  have hrest : NoDigitHead (32 :: (natText sys.lastPid ++ [10])) := by
    intro b hb
    obtain rfl : 32 = b := Option.some.inj hb
    decide
  have hint : conv.int sys.processes = sys.processes := by
    have hlt := sys.processes_lt
    exact conv.int_eq _ ⟨by omega, by omega⟩
  rw [scanLoadavg, hnul]
  simp only [loadLine, List.append_assoc, List.cons_append, Option.bind_eq_bind, Option.bind_some,
    afterFloat_loadText, afterFloat_cons_space hblank, scan_counts conv _ _ hrest, hint]

end SystemState

/-- **The number of processes** is read. -/
lemma getProcessCount_loadavg :
    getProcessCountFromProc conv (some sys.loadavg) = sys.processes := by
  have hline : firstLine sys.loadavg = some (sys.loadLine ++ [10]) := by
    have hlength := sys.length_loadLine_lt
    rw [SystemState.loadavg, firstLine_append (sys.notMem_loadLine (by decide) (by decide)),
      List.take_of_length_le]
    rw [List.length_append, List.length_singleton]
    omega
  rw [getProcessCountFromProc, Option.bind_some, hline, Option.bind_some,
    sys.scanLoadavg_loadLine conv, Option.getD_some]

variable (F : FloatShare) (atof : List UInt8 → ℚ) (nameSize : ℕ)

/-- **Without the module, the readings are those of the system.** Whatever it counts, the function
leaves the CPU usage that follows from its counters, its free memory and the number of its
processes. -/
theorem reading_faithful (name : List UInt8) (now : ℤ) (statics : CpuStatics) :
    (sys.files.found conv statics).data F atof nameSize name now =
      (fallbackData F ((cstr name).take (nameSize - 1)) (some sys.cpu) sys.memFree sys.processes
        now statics).2 := by
  have hfound : sys.files.found conv statics =
      .fallback (some sys.cpu) sys.memFree sys.processes statics := by
    simp only [SystemState.files, SystemFiles.found, readCpuStat_stat, getMemoryFree_meminfo,
      getProcessCount_loadavg]
  rw [hfound, Found.data]

end faithful

/-! ## What is shown -/

section shown

variable (H : Header) (conv : Conversions) (F : FloatShare) (atof : List UInt8 → ℚ) (nameSize : ℕ)

/-- If the step is a reading, it reads what the system writes. -/
def ReadsSystem (l : Sched Command ProcEvent) : Prop :=
  ∀ t found, l = .env (.iterate t found) →
    ∃ (sys : SystemState) (statics : CpuStatics), found = sys.files.found conv statics

/-- The figures are those of one reading of the run. -/
def OfReading (schedule : List (Sched Command ProcEvent)) (data : MonitorData) : Prop :=
  ∃ (u : ℕ) (sys : SystemState) (statics : CpuStatics),
    .env (.iterate u (sys.files.found conv statics)) ∈ schedule ∧
      data.cpuUsage = (getCpuUsageFromProc F (some sys.cpu) statics).2 ∧
        data.memoryUsage = 0 ∧ data.processCount = sys.processes

variable {conv F}

/-- A reading leaves its figures. -/
lemma ofReading_of_reads {schedule : List (Sched Command ProcEvent)} {t : ℕ} {found : Found}
    (hmem : .env (.iterate t found) ∈ schedule)
    (hreads : ReadsSystem conv (.env (.iterate t found))) (name : List UInt8) (now : ℤ) :
    OfReading conv F schedule (found.data F atof nameSize name now) := by
  obtain ⟨sys, statics, rfl⟩ := hreads t found rfl
  refine ⟨t, sys, statics, hmem, ?_, memoryUsage_data _ _ _, ?_⟩ <;> rw [reading_faithful] <;> rfl

variable (conv F)

/-- **What is shown without the module.** In every run in which the monitor threads read what the
system writes, however they and the clients interleave, a room is shown with the zeros that it is
created with or with the CPU usage and the number of processes of one reading of the run. -/
theorem shown_reading (config : Config) (n : ℕ) (schedule : List (Sched Command ProcEvent))
    (hreads : ∀ l ∈ schedule, ReadsSystem conv l) (t : ℕ) (command : Command) (response : Response)
    (hop : ((commanders H F atof nameSize).run (.initial H config n) schedule).1.op t =
      some command)
    (hret : ((commanders H F atof nameSize).run (.initial H config n) schedule).1.pool.prog t =
      .ret response)
    (hshow : command.type = .showRoom) (hsuccess : response.type = .success) :
    response.data = snprintf H.dataSize (bytes "CPU: 0.00%, Memory: 0.00%, Processes: 0") ∨
      ∃ (u : ℕ) (sys : SystemState) (statics : CpuStatics),
        .env (.iterate u (sys.files.found conv statics)) ∈ schedule ∧
          response.data = snprintf H.dataSize (bytes "CPU: " ++
            fixed2Text (getCpuUsageFromProc F (some sys.cpu) statics).2 ++
              bytes "%, Memory: 0.00%, Processes: " ++ intText sys.processes) := by
  obtain ⟨data, hfigures, hdata⟩ :=
    shown_figures (P := fun data => ZeroFigures data ∨ OfReading conv F schedule data)
      (C := fun _ l => l ∈ schedule) (Or.inl ⟨rfl, rfl, rfl⟩)
      (fun _ _ _ hmem _ name =>
        Or.inr (ofReading_of_reads atof nameSize hmem (hreads _ hmem) name _))
      config n (fun _ hx => Machine.mem_of_mem_trace _ hx) (Machine.run_mem_states _ _ _) hop hret
      hshow hsuccess
  rcases hfigures with hzero | ⟨u, sys, statics, hmem, hcpu, hmemory, hcount⟩
  · exact Or.inl (hdata.trans (figuresText_of_zero hzero))
  · refine Or.inr ⟨u, sys, statics, hmem, ?_⟩
    rw [hdata, figuresText_of_memory hmemory, hcpu, hcount]

end shown

/-- A system with 97 processes. -/
def smallSystem : SystemState where
  cpu := ⟨100, 0, 50, 800, 20, 0, 0, 0⟩
  guest := [0, 0]
  cpus := bytes "cpu0 100 0 50 800 20 0 0 0 0 0\n"
  memory := [⟨bytes "MemTotal", 8, 4096, true, by decide, by decide, by decide⟩,
    ⟨bytes "MemFree", 9, 2048, true, by decide, by decide, by decide⟩]
  loads i := 12 - 4 * i
  running := 1
  processes := 97
  lastPid := 4242
  loads_lt i := by omega
  running_lt := by decide
  processes_lt := by decide
  lastPid_lt := by decide

example : smallSystem.loadavg = bytes "0.12 0.08 0.04 1/97 4242\n" := by decide +kernel

/-- What is found there. -/
def smallFound : Found := smallSystem.files.found .strto .zero

/-- A room that is read once. -/
theorem shown_reading_small :
    (dataReply "CPU: 0.00%, Memory: 0.00%, Processes: 97").data =
        snprintf Header.plain.dataSize (bytes "CPU: 0.00%, Memory: 0.00%, Processes: 0") ∨
      ∃ (u : ℕ) (sys : SystemState) (statics : CpuStatics),
        .env (.iterate u (sys.files.found .strto statics)) ∈ createStartShow smallFound ∧
          (dataReply "CPU: 0.00%, Memory: 0.00%, Processes: 97").data =
            snprintf Header.plain.dataSize (bytes "CPU: " ++
              fixed2Text (getCpuUsageFromProc .exact (some sys.cpu) statics).2 ++
                bytes "%, Memory: 0.00%, Processes: " ++ intText sys.processes) := by
  refine shown_reading .plain .strto .exact (fun _ => 0) 64 (.zero .plain) 4
    (createStartShow smallFound) ?_ 0 (commandFor .showRoom)
    (dataReply "CPU: 0.00%, Memory: 0.00%, Processes: 97") rfl
    (eq_ret_of_result (by decide +kernel)) rfl rfl
  rintro l hl u found rfl
  simp only [createStartShow, List.replicate, List.mem_cons, List.cons_append, List.nil_append,
    reduceCtorEq, false_or, List.not_mem_nil, or_false, Sched.env.injEq,
    ProcEvent.iterate.injEq] at hl
  exact ⟨smallSystem, .zero, hl.2⟩

end ProcessMonitor.Integration
