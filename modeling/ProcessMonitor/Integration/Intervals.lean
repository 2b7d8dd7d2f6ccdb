import ProcessMonitor.Integration.Bounds
import ProcessMonitor.Integration.Sequential

/-!
# Collection intervals

`room_monitor_thread` of `src/04-integration/main_daemon.c` sleeps for the interval of its room
between two readings. `create_room` takes the interval that is asked for if it is positive, and else
the one of the configuration, which `load_configuration` takes from `atoi` as it is, and leaves 0
where the file does not set it.

`intervals_positive_iff` says for which files and calls every room has a positive interval.
-/

namespace ProcessMonitor.Integration

open CString Decimal

variable (H : Header)

/-! ## The intervals of the rooms -/

/-- The argument of `sleep(room->collection_interval)`, an `unsigned int`. -/
def RoomInfo.sleepSeconds (r : RoomInfo) : ℕ := (r.collectionInterval % 2 ^ 32).toNat

/-- The thread of the room sleeps for its interval, a positive time. -/
structure RoomInfo.Paced (r : RoomInfo) : Prop where
  interval_pos : 1 ≤ r.collectionInterval
  sleep_eq : (r.sleepSeconds : ℤ) = r.collectionInterval
  sleep_le : r.sleepSeconds ≤ 2147483647

/-- An interval that is an `int` is slept for exactly if it is positive. -/
lemma RoomInfo.paced_iff {r : RoomInfo} (h : IsInt r.collectionInterval) :
    r.Paced ↔ 1 ≤ r.collectionInterval := by
  obtain ⟨-, hmax⟩ := h
  constructor
  · intro hpaced
    exact hpaced.interval_pos
  · intro hpos
    refine ⟨hpos, ?_, ?_⟩ <;> rw [RoomInfo.sleepSeconds] <;> omega

/-- All rooms that are not inactive have a positive interval. -/
def World.Paced (w : World) : Prop := ∀ r ∈ w.daemon.rooms, r.state ≠ .inactive → r.Paced

/-- A call of `create_room`. -/
structure CreateCall where
  name : List UInt8
  interval : ℤ
  interval_isInt : IsInt interval

/-- The calls one after another, with what they return. -/
def creator : Machine World CreateCall ℤ where
  step w c := (RoomOp.create c.name c.interval).run H [] w

/-- The call creates a room: no other has the name, and a slot is free. -/
def Creates (w : World) (c : CreateCall) : Prop :=
  w.daemon.search H c.name = none ∧ w.daemon.freeSlot ≠ none

/-! ## One call -/

/-- The configuration has the interval `dflt`, and all intervals are of the type `int`. -/
structure Typed (n : ℕ) (dflt : ℤ) (w : World) : Prop where
  sized : w.daemon.Sized n
  dflt_eq : w.daemon.config.collectionInterval = dflt
  dflt_isInt : IsInt dflt
  isInt : ∀ r ∈ w.daemon.rooms, IsInt r.collectionInterval

section step

variable {H} {n : ℕ} {dflt : ℤ} {w : World} (h : Typed n dflt w)
include h

/-- **One call** leaves the table alone, or fills a slot with the interval asked for or the one of
the configuration. -/
lemma Typed.step_cases (c : CreateCall) :
    (¬ Creates H w c ∧ ((creator H).step w c).1 = w) ∨
      ∃ l₁ r l₂, Creates H w c ∧ w.daemon.rooms = l₁ ++ r :: l₂ ∧ r.used = false ∧
        ((creator H).step w c).1 = w.addRoom H c.name c.interval l₁.length ∧
        ((creator H).step w c).1.daemon.rooms =
          l₁ ++ r.fill H c.name c.interval dflt w.now :: l₂ := by
  have hstep : (creator H).step w c = _ := create_run H w c.name [] c.interval
  cases hs : w.daemon.search H c.name with
  | some i =>
      left
      refine ⟨fun hc => ?_, ?_⟩
      · rw [Creates, hs] at hc
        exact Option.some_ne_none i hc.1
      · rw [hstep, hs]
  | none =>
      cases hf : w.daemon.freeSlot with
      | none =>
          left
          refine ⟨fun hc => hc.2 hf, ?_⟩
          rw [hstep, hs, hf]
      | some i =>
          right
          obtain ⟨l₁, r, l₂, hl, rfl, hr⟩ := h.sized.of_freeSlot hf
          refine ⟨l₁, r, l₂, ⟨hs, by rw [hf]; exact Option.some_ne_none _⟩, hl, hr, ?_, ?_⟩
          · rw [hstep, hs, hf]
          · rw [hstep, hs, hf, ← h.dflt_eq]
            exact rooms_addRoom hl c.name c.interval

/-- A call keeps the types. -/
lemma Typed.step (c : CreateCall) : Typed n dflt ((creator H).step w c).1 := by
  rcases h.step_cases c with ⟨-, hsame⟩ | ⟨l₁, r, l₂, -, hl, -, hadd, hrooms⟩
  · rw [hsame]
    exact h
  · refine ⟨?_, ?_, h.dflt_isInt, ?_⟩
    · rw [hadd]
      exact h.sized.addRoom H _ c.name c.interval
    · rw [hadd]
      exact h.dflt_eq
    · have hint := h.isInt
      rw [hl] at hint
      rw [hrooms]
      intro r' hr'
      rcases List.mem_append.mp hr' with hmem | hmem
      · exact hint r' (List.mem_append_left _ hmem)
      · rcases List.mem_cons.mp hmem with rfl | hmem
        · simp only [RoomInfo.fill]
          split_ifs
          · exact c.interval_isInt
          · exact h.dflt_isInt
        · exact hint r' (List.mem_append_right _ (List.mem_cons_of_mem _ hmem))

/-- **One call keeps the intervals positive** exactly if the configuration's is, or it creates no
room, or it asks for a positive one. -/
lemma Typed.paced_step_iff (hpaced : w.Paced) (c : CreateCall) :
    ((creator H).step w c).1.Paced ↔ 1 ≤ dflt ∨ (Creates H w c → 1 ≤ c.interval) := by
  have hnext : Typed n dflt ((creator H).step w c).1 := h.step c
  replace hnext := hnext.isInt
  rcases h.step_cases c with ⟨hnot, hsame⟩ | ⟨l₁, r, l₂, hcreates, hl, -, -, hrooms⟩
  · rw [hsame]
    exact iff_of_true hpaced (Or.inr fun hc => absurd hc hnot)
  · have hmem : r.fill H c.name c.interval dflt w.now ∈
        ((creator H).step w c).1.daemon.rooms := by
      rw [hrooms]
      exact List.mem_append_right _ (List.mem_cons_self ..)
    have hnew : (r.fill H c.name c.interval dflt w.now).Paced ↔ 1 ≤ dflt ∨ 1 ≤ c.interval := by
      rw [RoomInfo.paced_iff (hnext _ hmem)]
      simp only [RoomInfo.fill]
      split_ifs <;> omega
    constructor
    · intro hall
      exact (hnew.mp (hall _ hmem RoomState.noConfusion)).imp_right fun hpos _ => hpos
    · intro hok r' hr' hused
      rw [hrooms] at hr'
      rcases List.mem_append.mp hr' with hr' | hr'
      · exact hpaced r' (hl ▸ List.mem_append_left _ hr') hused
      · rcases List.mem_cons.mp hr' with rfl | hr'
        · exact hnew.mpr (hok.imp_right fun hpos => hpos hcreates)
        · exact hpaced r' (hl ▸ List.mem_append_right _ (List.mem_cons_of_mem _ hr')) hused

end step

/-! ## The configuration -/

/-- The file sets a positive interval, or there is none. -/
def PositiveDefault (file : Option (List UInt8)) : Prop :=
  ∀ content ∈ file, ∃ v ∈ lastValue content .collectionInterval, 1 ≤ atoi v

/-- The interval that a file sets, or the default. -/
def fileInterval : Option (List UInt8) → ℤ
  | none => defaultCollectionInterval
  | some content => ((lastValue content .collectionInterval).map atoi).getD 0

/-- The interval of the configuration. -/
lemma collectionInterval_load (file : Option (List UInt8)) :
    (loadConfiguration H file (.zero H)).collectionInterval = fileInterval file := by
  cases file with
  | none => rfl
  | some content =>
      have hfield := field_load_lastValue H content .collectionInterval
      rw [fileInterval]
      cases hlast : lastValue content .collectionInterval with
      | none =>
          rw [hlast] at hfield
          exact FieldVal.int.inj hfield
      | some v =>
          rw [hlast] at hfield
          exact FieldVal.int.inj hfield

/-- It is an `int`. -/
lemma isInt_fileInterval (file : Option (List UInt8)) : IsInt (fileInterval file) := by
  cases file with
  | none => exact ⟨by decide, by decide⟩
  | some content =>
      rw [fileInterval]
      cases lastValue content .collectionInterval with
      | none => exact ⟨by decide, by decide⟩
      | some v => exact isInt_atoi v

/-- It is positive exactly if the file sets a positive one. -/
lemma fileInterval_pos_iff (file : Option (List UInt8)) :
    1 ≤ fileInterval file ↔ PositiveDefault file := by
  rw [PositiveDefault]
  cases file with
  | none => exact iff_of_true (by decide) fun content hcontent => by cases hcontent
  | some content =>
      rw [fileInterval]
      cases hlast : lastValue content .collectionInterval with
      | none => simp [hlast]
      | some v => simp [hlast]

/-! ## Any number of calls -/

/-- The daemon after `load_configuration` with this file, with a slot for each of `max_rooms`. -/
def World.configured (file : Option (List UInt8)) : World :=
  let config := loadConfiguration H file (.zero H)
  World.initial H config config.maxRooms.toNat

/-- **Every room has a positive interval** after each of the calls if and only if there is no
configuration file, or its last line for `collection_interval` sets a positive number, or each call
that creates a room asks for a positive interval. -/
theorem intervals_positive_iff (file : Option (List UInt8)) (calls : List CreateCall) :
    (∀ w ∈ (creator H).states (World.configured H file) calls, w.Paced) ↔
      PositiveDefault file ∨
        ∀ x ∈ (creator H).trace (World.configured H file) calls,
          Creates H x.1 x.2 → 1 ≤ x.2.interval := by
  have hcleared : ∀ r ∈ (World.configured H file).daemon.rooms, r = RoomInfo.cleared H := by
    intro r hr
    exact List.eq_of_mem_replicate hr
  have htyped : Typed (loadConfiguration H file (.zero H)).maxRooms.toNat (fileInterval file)
      (World.configured H file) := by
    refine ⟨⟨List.length_replicate, rfl⟩, collectionInterval_load H file,
      isInt_fileInterval file, ?_⟩
    intro r hr
    rw [hcleared r hr]
    exact (⟨by decide, by decide⟩ : IsInt 0)
  have hpaced : (World.configured H file).Paced := by
    intro r hr hused
    rw [hcleared r hr] at hused
    exact absurd rfl hused
  rw [(creator H).states_iff_trace (fun _ c ht _ => ht.step c)
    (fun _ c ht hp => ht.paced_step_iff hp c) htyped hpaced, fileInterval_pos_iff]
  by_cases hdflt : PositiveDefault file
  · exact iff_of_true (fun _ _ => Or.inl hdflt) (Or.inl hdflt)
  · simp only [hdflt, false_or]

/-- The file sets the number of rooms only, and no interval is asked for: the thread does not
sleep. -/
theorem interval_zero :
    let calls : List CreateCall := [⟨bytes "cpu", 0, by decide, by decide⟩]
    let w := ((creator .plain).run
      (World.configured .plain (some (bytes "max_rooms=10\n"))) calls).1
    (w.daemon.rooms.head?.map fun r => (r.state, r.collectionInterval, r.sleepSeconds)) =
        some (.created, 0, 0) ∧
      ¬ w.Paced := by
  intro calls w
  have hhead : (w.daemon.rooms.head?.map fun r => (r.state, r.collectionInterval,
      r.sleepSeconds)) = some (.created, 0, 0) := by
    decide +kernel
  refine ⟨hhead, ?_⟩
  intro hpaced
  obtain ⟨r, hr, heq⟩ := Option.map_eq_some_iff.mp hhead
  simp only [Prod.mk.injEq] at heq
  have hpos := (hpaced r (List.mem_of_mem_head? hr)
    (by rw [heq.1]; exact RoomState.noConfusion)).interval_pos
  rw [heq.2.1] at hpos
  exact absurd hpos (by decide)

end ProcessMonitor.Integration
