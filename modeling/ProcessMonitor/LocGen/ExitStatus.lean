import ProcessMonitor.LocGen.CommandLine

/-!
# The exit status of `loc_gen`

`main` of `src/02-loc-gen/main.c` returns 1 for a command line that it does not take, and 0 for
every other one: what the room manager returns is dropped. `status_tells_iff` says for which command
lines and rooms the status tells a refused operation from one that was done.
-/

namespace ProcessMonitor.LocGen

open CString Decimal

/-- The room manager refuses the call.
Source: the tests of the five functions of `room_manager.c` -/
def Call.Refused (t : Table) : Call → Bool
  | .create typeStr _ => t.roomCount ≥ maxRooms || strToRoomType typeStr = none
  | .delete roomId => t.badId roomId
  | .start roomId => t.badId roomId || t.running roomId.toNat
  | .stop roomId => t.badId roomId || !t.running roomId.toNat
  | .showData roomId => t.badId roomId

/-- The call returns an id or 0, or displays the data of the room. -/
def Call.Succeeds (readings : Readings) (t : Table) : Call → Prop
  | .create typeStr interval => 0 ≤ (createRoom typeStr interval t).result
  | .delete roomId => (deleteRoom roomId t).result = 0
  | .start roomId => (startMonitoring roomId t).result = 0
  | .stop roomId => (stopMonitoring roomId t).result = 0
  | .showData roomId =>
      bytes "Displaying data for room id " <+: showRoomData readings roomId t

/-- The status is 0 exactly if the command line is one of the program's, and its operation
succeeds. -/
def StatusTells (invocation : Invocation) (t : Table) : Prop :=
  (main invocation t).result = 0 ↔
    ∃ call, callOf invocation.argv = .ok call ∧ call.Succeeds invocation.readings t

section succeeds

variable {t : Table} {l : RoomList} (h : Holds t l) (readings : Readings)
include h

/-- **A call succeeds** exactly if it is not refused. -/
lemma Call.succeeds_iff (call : Call) :
    call.Succeeds readings t ↔ call.Refused t = false := by
  have hcount : 0 ≤ t.roomCount := by
    rw [h.count_eq]
    exact Int.natCast_nonneg _
  cases call with
  | create typeStr interval =>
      rw [Call.Succeeds, Call.Refused, createRoom]
      by_cases hfull : t.roomCount ≥ maxRooms
      · simp [hfull]
      · cases htype : strToRoomType typeStr with
        | none => simp [hfull]
        | some type => simpa [hfull] using hcount
  | delete roomId =>
      rw [Call.Succeeds, Call.Refused, deleteRoom]
      split_ifs with hbad
      · simp [hbad]
      · simp [hbad]
  | start roomId =>
      rw [Call.Succeeds, Call.Refused, startMonitoring]
      split_ifs with hbad hrunning
      · simp [hbad]
      · simp [hrunning]
      · simp [hbad, hrunning]
  | stop roomId =>
      rw [Call.Succeeds, Call.Refused, stopMonitoring]
      split_ifs with hbad hrunning
      · simp [hbad]
      · simpa [hbad] using hrunning
      · simpa [hbad] using hrunning
  | showData roomId =>
      rw [Call.Succeeds, Call.Refused, showRoomData]
      rcases h.id_cases roomId with ⟨hbad, -⟩ | ⟨i, x, rfl, hgood, -, -, hroom⟩
      · rw [if_pos hbad, hbad]
        exact iff_of_false (by decide) (by decide)
      · rw [hgood, if_neg Bool.false_ne_true, Int.toNat_natCast, hroom]
        refine iff_of_true ?_ rfl
        simp only [List.append_assoc]
        exact List.prefix_append _ _

end succeeds

/-- **The status tells of the operation** if and only if the command line is not one of the
program's, or its call is not refused. -/
theorem status_tells_iff (calls : List Call) (invocation : Invocation) :
    let t := (manager.run Table.zero calls).1
    StatusTells invocation t ↔
      ∀ call, callOf invocation.argv = .ok call → call.Refused t = false := by
  intro t
  obtain ⟨h, -⟩ := manager.run_simulation roomList (R := Holds)
    (fun _ _ call h => h.step call) holds_zero calls
  rw [StatusTells, main_eq]
  cases hcall : callOf invocation.argv with
  | error text => simp
  | ok call =>
      have hsucceeds := Call.succeeds_iff (t := t) h invocation.readings call
      simp [hsucceeds]

/-- `start 0` where there is no room: the status is 0. -/
theorem refused_start_returns_zero :
    let start : Invocation :=
      ⟨[bytes "./loc_gen", bytes "start", bytes "0"], ⟨[], [], []⟩⟩
    (main start Table.zero).result = 0 ∧
      (main start Table.zero).printed = bytes "Invalid room id\n" ∧
      ¬ StatusTells start Table.zero := by
  intro start
  refine ⟨by decide, by decide, ?_⟩
  intro h
  have hstatus : (main start Table.zero).result = 0 := by decide
  obtain ⟨call, hcall, hsucceeds⟩ := h.mp hstatus
  obtain rfl : call = .start 0 := by
    have hstart : callOf start.argv = .ok (.start 0) := by decide
    rw [hstart] at hcall
    exact (Except.ok.inj hcall).symm
  have hresult : (startMonitoring 0 Table.zero).result = 0 := hsucceeds
  exact absurd hresult (by decide)

end ProcessMonitor.LocGen
