import ProcessMonitor.Lib.Fgets
import ProcessMonitor.Lib.Strtok
import ProcessMonitor.Lib.Words
import ProcessMonitor.LocGen.RoomManager

/-!
# The readings of `loc_gen`

`src/02-loc-gen/data_collector.c`: three functions that read a file under `/proc` in pieces of at
most 255 bytes and print them. What goes to `stderr` is left out.

`show_refines` says what `show_room_data` prints, after any calls, in terms of the list of rooms and
of the texts of the files: the file as it is, however long its lines, or the first line of
`/proc/stat` that is about all processors.
-/

namespace ProcessMonitor.LocGen

open CString Decimal Words

/-! ## The functions -/

/-- `sizeof(line)` -/
def lineSize : ℕ := 256

/-- What is returned and printed for a file with this content; `none` if it cannot be opened.
Source: `data_collector.c`, `read_cpu_stats` -/
def readCpuStats (file : Option (List UInt8)) : ℤ × List UInt8 :=
  match file with
  | none => (-1, [])
  | some content =>
      match (fgetsAll lineSize content).find? fun line => strncmp line (bytes "cpu ") 4 = 0 with
      | some line => (0, bytes "CPU stats: " ++ cstr line)
      | none => (0, [])

/-- The two functions that print all pieces. -/
def readWhole (header : String) (file : Option (List UInt8)) : ℤ × List UInt8 :=
  match file with
  | none => (-1, [])
  | some content => (0, bytes header ++ ((fgetsAll lineSize content).map cstr).flatten)

/-- Source: `data_collector.c`, `read_memory_stats` -/
def readMemoryStats : Option (List UInt8) → ℤ × List UInt8 := readWhole "Memory stats:\n"

/-- Source: `data_collector.c`, `read_io_stats` -/
def readIoStats : Option (List UInt8) → ℤ × List UInt8 := readWhole "IO stats:\n"

/-- The contents of `/proc/stat`, `/proc/meminfo` and `/proc/diskstats`. -/
structure ProcFiles where
  stat : Option (List UInt8)
  meminfo : Option (List UInt8)
  diskstats : Option (List UInt8)

/-- What the three functions print. -/
def ProcFiles.readings (files : ProcFiles) : Readings :=
  ⟨(readCpuStats files.stat).2, (readMemoryStats files.meminfo).2, (readIoStats files.diskstats).2⟩

/-! ## What should be shown -/

/-- The texts of the three files, without a NUL: `/proc/stat` as its lines, which fit into the array
with their newline. -/
structure ProcTexts where
  stat : List (List UInt8)
  meminfo : List UInt8
  diskstats : List UInt8
  stat_plain : ∀ l ∈ stat, (10 : UInt8) ∉ l ∧ (0 : UInt8) ∉ l ∧ l.length < lineSize - 1
  meminfo_plain : (0 : UInt8) ∉ meminfo
  diskstats_plain : (0 : UInt8) ∉ diskstats

namespace ProcTexts

/-- The files with these texts. -/
def files (texts : ProcTexts) : ProcFiles :=
  ⟨some (ended 10 texts.stat), some texts.meminfo, some texts.diskstats⟩

/-- What a room of a type should show. -/
def shows (texts : ProcTexts) : RoomType → List UInt8
  | .cpuRoom =>
      match texts.stat.find? fun l => (bytes "cpu ").isPrefixOf l with
      | some l => bytes "CPU stats: " ++ l ++ bytes "\n"
      | none => []
  | .memoryRoom => bytes "Memory stats:\n" ++ texts.meminfo
  | .infStatsRoom => bytes "IO stats:\n" ++ texts.diskstats

end ProcTexts

/-! ## What is shown -/

/-- Pieces without a NUL are printed whole. -/
lemma readWhole_eq (header : String) {content : List UInt8} (h : (0 : UInt8) ∉ content) :
    readWhole header (some content) = (0, bytes header ++ content) := by
  have hpiece : ∀ piece ∈ fgetsAll lineSize content, cstr piece = piece := by
    intro piece hpiece
    refine cstr_eq_self fun h0 => h ?_
    rw [← flatten_fgetsAll lineSize content]
    exact List.mem_flatten.mpr ⟨piece, hpiece, h0⟩
  rw [readWhole, List.map_congr_left hpiece, List.map_id', flatten_fgetsAll]

/-- A line with its newline begins with `cpu ` if the line does. -/
lemma strncmp_cpu_iff {l : List UInt8} (h : (0 : UInt8) ∉ l) :
    strncmp (l ++ [10]) (bytes "cpu ") 4 = 0 ↔ (bytes "cpu ").isPrefixOf l = true := by
  have hnul : (0 : UInt8) ∉ l ++ [10] := by simp [h]
  have hkey : bytes "cpu " ≠ l ++ [10] := by
    intro heq
    have hmem : (10 : UInt8) ∈ bytes "cpu " := heq ▸ (by simp)
    exact absurd hmem (by decide)
  have hlength : (bytes "cpu ").length = 4 := rfl
  rw [← hlength, strncmp_key_iff, hasKey_iff (by decide), cstr_eq_self hnul, List.prefix_concat_iff,
    List.isPrefixOf_iff_prefix]
  exact or_iff_right hkey

/-- The first line that begins with `cpu ` is printed. -/
lemma readCpuStats_eq {ls : List (List UInt8)}
    (h : ∀ l ∈ ls, (10 : UInt8) ∉ l ∧ (0 : UInt8) ∉ l ∧ l.length < lineSize - 1) :
    readCpuStats (some (ended 10 ls)) =
      (0, match ls.find? fun l => (bytes "cpu ").isPrefixOf l with
        | some l => bytes "CPU stats: " ++ l ++ bytes "\n"
        | none => []) := by
  have hlines : fgetsAll lineSize (ended 10 ls) = ls.map (· ++ [10]) :=
    fgetsAll_lines lineSize fun l hl => ⟨(h l hl).1, (h l hl).2.2⟩
  have hfind : (ls.find? fun l => strncmp (l ++ [10]) (bytes "cpu ") 4 = 0) =
      ls.find? fun l => (bytes "cpu ").isPrefixOf l := by
    clear hlines
    induction ls with
    | nil => rfl
    | cons l ls ih =>
        rw [List.forall_mem_cons] at h
        have hiff := strncmp_cpu_iff h.1.2.1
        simp only [List.find?_cons, hiff, ih h.2, Bool.decide_eq_true]
  rw [readCpuStats, hlines, List.find?_map]
  simp only [Function.comp_def, hfind]
  cases hl : ls.find? fun l => (bytes "cpu ").isPrefixOf l with
  | none => rfl
  | some l =>
      have hnul : (0 : UInt8) ∉ l ++ [10] := by
        simp [(h l (List.mem_of_find?_eq_some hl)).2.1]
      simp only [Option.map_some]
      rw [cstr_eq_self hnul, List.append_assoc]
      rfl

/-- The readings of a type are what it should show. -/
lemma readings_of (texts : ProcTexts) (type : RoomType) :
    texts.files.readings.of type = texts.shows type := by
  cases type with
  | cpuRoom => exact congrArg Prod.snd (readCpuStats_eq texts.stat_plain)
  | memoryRoom => exact congrArg Prod.snd (readWhole_eq _ texts.meminfo_plain)
  | infStatsRoom => exact congrArg Prod.snd (readWhole_eq _ texts.diskstats_plain)

/-- **What `show_room_data` prints.** After every sequence of calls from the zeroed table, for every
id and every contents of the three files: the texts that belong to the type of the room that stands
in the list at the id, whole, and a refusal if there is none. -/
theorem show_refines (texts : ProcTexts) (calls : List Call) (roomId : ℤ) :
    showRoomData texts.files.readings roomId (manager.run Table.zero calls).1 =
      match (roomList.run RoomList.empty calls).1.get? roomId with
      | none => bytes "Invalid room id\n"
      | some x =>
          bytes "Displaying data for room id " ++ intText roomId ++ bytes "\n" ++
            texts.shows x.type := by
  have hholds : Holds (manager.run Table.zero calls).1 (roomList.run RoomList.empty calls).1 :=
    (manager.run_simulation roomList (R := Holds) (fun _ _ call h => h.step call) holds_zero
      calls).1
  rw [showRoomData]
  rcases hholds.id_cases roomId with ⟨hbad, hget⟩ | ⟨i, x, rfl, hok, hget, -, hroom⟩
  · rw [if_pos hbad, hget]
  · rw [hok, if_neg Bool.false_ne_true, hget, Int.toNat_natCast, hroom]
    dsimp only
    rw [← readings_of texts x.type]
    rfl

end ProcessMonitor.LocGen
