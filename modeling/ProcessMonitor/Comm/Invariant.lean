import ProcessMonitor.Comm.Refinement

/-!
# The room table under arbitrary input

Whatever bytes a client sends, `handle_command` either refuses them, lists the rooms, or calls one
of the command functions with a name that the parser can store. So the table goes on representing
some map (`represents_handleCommand`), and `states_wf` reads off what that means for the array,
the count and the pids.
-/

namespace ProcessMonitor.Comm

open CString Decimal Scanf

/-! ## The invariant -/

/-- What always holds of `rooms` and `room_count`. -/
structure Table.Wf (t : Table) : Prop where
  count_nonneg : 0 ≤ t.roomCount
  count_le : t.roomCount ≤ maxRooms
  active_iff : ∀ (i : ℕ) (r : Room), t.rooms[i]? = some r →
    (r.active = true ↔ (i : ℤ) < t.roomCount)
  terminated : ∀ r ∈ t.rooms, r.active → (0 : UInt8) ∈ r.name
  name_length : ∀ r ∈ t.rooms, r.active → 1 ≤ strlen r.name ∧ strlen r.name ≤ 63
  name_not_space : ∀ r ∈ t.rooms, r.active → ∀ b ∈ cstr r.name, isspace b = false
  names_ne : t.rooms.Pairwise fun r r' =>
    r.active → r'.active → strcmp r.name r'.name ≠ 0
  size_range : ∀ r ∈ t.rooms, r.active → 1 ≤ r.size ∧ r.size ≤ 10000
  running_iff : ∀ r ∈ t.rooms, r.active → (r.status = .running ↔ r.monitorPid > 0)

/-- The rooms whose monitor process `cleanup_daemon` signals.
Source: `daemon_main.c`, `cleanup_daemon` -/
def signalled (t : Table) : List Room := t.visited.filter fun r => r.active && r.monitorPid > 0

section represents

variable {host : Host} {t : Table} {m : RoomMap}

/-- The pid of a room tells whether it is running. -/
lemma running_iff_pidOf (host : Host) (status : RoomStatus) :
    status = .running ↔ host.pidOf status > 0 := by
  unfold Host.pidOf
  split_ifs with h
  · exact iff_of_true h host.pid_pos
  · exact iff_of_false h (by decide)

/-- A table that represents a map of tokens and sizes in range is well formed. -/
theorem wf_of_represents (h : Represents host t m) (hm : m.Ok) : t.Wf := by
  obtain ⟨l, free, hh, hl⟩ := h
  have hmem {r : Room} (hr : r ∈ t.rooms) (ha : r.active = true) : r ∈ l := by
    rw [hh.rooms_eq, List.mem_append] at hr
    refine hr.resolve_right fun hf => ?_
    rw [hh.inactive r hf] at ha
    exact absurd ha (by decide)
  have hok {r : Room} (hr : r ∈ l) : NameOk (cstr r.name) ∧ 1 ≤ r.size ∧ r.size ≤ 10000 :=
    hm r.entry (hl ▸ List.mem_map_of_mem hr)
  refine
    { count_nonneg := by rw [hh.count_eq]; exact Int.natCast_nonneg _
      count_le := by rw [hh.count_eq]; exact_mod_cast hh.length_le
      active_iff := fun i r hr => ?_
      terminated := fun r hr ha => ?_
      name_length := fun r hr ha => ?_
      name_not_space := fun r hr ha => (hok (hmem hr ha)).1.token.not_space
      names_ne := ?_
      size_range := fun r hr ha => (hok (hmem hr ha)).2
      running_iff := fun r hr ha => ?_ }
  · rw [hh.rooms_eq] at hr
    rw [hh.count_eq, Nat.cast_lt]
    rcases Nat.lt_or_ge i l.length with hi | hi
    · rw [List.getElem?_append_left hi] at hr
      exact iff_of_true (hh.active r (List.mem_of_getElem? hr)) hi
    · rw [List.getElem?_append_right hi] at hr
      refine iff_of_false (fun ha => ?_) (by omega)
      rw [hh.inactive r (List.mem_of_getElem? hr)] at ha
      exact absurd ha (by decide)
  · by_contra h0
    have hlen := (hok (hmem hr ha)).1.token.length_le
    rw [cstr_eq_self h0, r.name_length] at hlen
    exact absurd hlen (by decide)
  · have htok := (hok (hmem hr ha)).1.token
    exact ⟨List.length_pos_iff.mpr htok.ne_nil, htok.length_le⟩
  · rw [hh.rooms_eq, List.pairwise_append]
    have hnd := m.nodup
    rw [← hl, List.map_map, List.nodup_iff_pairwise_ne, List.pairwise_map] at hnd
    refine ⟨hnd.imp fun hne _ _ he => hne ((strcmp_eq_zero_iff _ _).mp he), ?_, ?_⟩
    · refine List.pairwise_of_forall_mem_list fun r hr _ _ ha => ?_
      rw [hh.inactive r hr] at ha
      exact absurd ha (by decide)
    · intro r _ r' hr' _ ha
      rw [hh.inactive r' hr'] at ha
      exact absurd ha (by decide)
  · rw [hh.pid_eq r (hmem hr ha)]
    exact running_iff_pidOf host r.status

/-- In a well-formed table `cleanup_daemon` signals exactly the running rooms. -/
lemma signalled_eq (h : Represents host t m) :
    signalled t = t.rooms.filter fun r => r.active && r.status = .running := by
  obtain ⟨l, free, hh, -⟩ := h
  have hfree : (free.filter fun r => r.active && r.status = .running) = [] := by
    rw [List.filter_eq_nil_iff]
    exact fun r hr => by simp [hh.inactive r hr]
  rw [signalled, hh.visited_eq, hh.rooms_eq, List.filter_append, hfree, List.append_nil]
  refine List.filter_congr fun r hr => ?_
  rw [hh.pid_eq r hr, decide_eq_decide.mpr (running_iff_pidOf host r.status)]

end represents

/-! ## Arbitrary input -/

/-- A call of `handle_command`: any bytes, any size of the response buffer, and what `%d` stores
in this call. -/
structure Received where
  command : List UInt8
  responseSize : ℕ
  scan : ScanInt

/-- The daemon on arbitrary input. -/
def daemon (host : Host) : Machine Table Received (ℤ × List UInt8) where
  step t c :=
    let o := handleCommand host c.scan c.command c.responseSize t
    (o.table, (o.result, o.response))

/-- The table represents a map of tokens and sizes in range. -/
def RepresentsOk (host : Host) (t : Table) : Prop := ∃ m, Represents host t m ∧ RoomMap.Ok m

/-- The map under the same calls: one that asks for no operation leaves it as it is. -/
def RoomMap.receive (host : Host) (m : RoomMap) (c : Received) : RoomMap :=
  if c.responseSize = 0 then m
  else
    match requestOf c.scan c.command with
    | .room op => (m.apply host op).1
    | _ => m

/-- **One call**, whatever the bytes. -/
lemma represents_receive {host : Host} {t : Table} {m : RoomMap} (hrep : Represents host t m)
    (hok : m.Ok) (c : Received) :
    Represents host ((daemon host).step t c).1 (m.receive host c) ∧
      RoomMap.Ok (m.receive host c) := by
  simp only [daemon, RoomMap.receive]
  by_cases hsize : c.responseSize = 0
  · rw [handleCommand, if_pos hsize, if_pos hsize]
    exact ⟨hrep, hok⟩
  · rw [handleCommand_eq host c.scan c.command hsize, if_neg hsize]
    cases hreq : requestOf c.scan c.command with
    | room op =>
        have hn := nameOk_of_requestOf hreq
        exact ⟨(exec_represents hrep hn c.responseSize).represents, hok.apply host hn⟩
    | list => exact ⟨hrep, hok⟩
    | exit => exact ⟨hrep, hok⟩
    | refused text => exact ⟨hrep, hok⟩

/-- One call keeps the table representing a map. -/
theorem represents_handleCommand {host : Host} {t : Table} (h : RepresentsOk host t)
    (c : Received) : RepresentsOk host ((daemon host).step t c).1 := by
  obtain ⟨m, hrep, hok⟩ := h
  exact ⟨_, represents_receive hrep hok c⟩

/-- The empty map is one of tokens and sizes in range. -/
lemma ok_empty : RoomMap.Ok OrderedMap.empty := fun e he => absurd he (by simp [OrderedMap.empty])

/-- **Any number of calls** from the empty table do to it what they do to the empty map. -/
theorem represents_run (host : Host) (received : List Received) :
    Represents host ((daemon host).run Table.empty received).1
        (received.foldl (RoomMap.receive host) OrderedMap.empty) ∧
      RoomMap.Ok (received.foldl (RoomMap.receive host) OrderedMap.empty) := by
  have hrun (t : Table) (m : RoomMap) (hrep : Represents host t m) (hok : m.Ok) :
      Represents host ((daemon host).run t received).1
          (received.foldl (RoomMap.receive host) m) ∧
        RoomMap.Ok (received.foldl (RoomMap.receive host) m) := by
    induction received generalizing t m with
    | nil => exact ⟨hrep, hok⟩
    | cons c cs ih =>
        obtain ⟨hrep', hok'⟩ := represents_receive hrep hok c
        exact ih _ _ hrep' hok'
  exact hrun _ _ (represents_empty host) ok_empty

/-- **The table under arbitrary input.** After every sequence of byte strings given to
`handle_command` from the empty table, the table is well formed, and `cleanup_daemon` would signal
exactly the running rooms. -/
theorem states_wf (host : Host) (received : List Received) :
    ∀ t ∈ Table.empty :: (daemon host).states Table.empty received,
      t.Wf ∧ signalled t = t.rooms.filter fun r => r.active && r.status = .running := by
  have hempty : RepresentsOk host Table.empty :=
    ⟨OrderedMap.empty, represents_empty host, ok_empty⟩
  have hall : ∀ t ∈ Table.empty :: (daemon host).states Table.empty received,
      RepresentsOk host t :=
    List.forall_mem_cons.mpr ⟨hempty,
      (daemon host).states_invariant (I := RepresentsOk host)
        (fun _ c h => represents_handleCommand h c) hempty received⟩
  intro t ht
  obtain ⟨m, hrep, hok⟩ := hall t ht
  exact ⟨wf_of_represents hrep hok, signalled_eq hrep⟩

/-- A number where a name should be, an empty line, and a line with a token too many. -/
def malformed : List Received :=
  [⟨bytes "CREATE 10", bufferSize, .strtol⟩, ⟨[], bufferSize, .strtol⟩,
   ⟨bytes "CREATE\ta 10 b", bufferSize, .strtol⟩]

/-- The last of them creates a room, in a well-formed table. -/
theorem malformed_wf :
    ((daemon .example).run Table.empty malformed).1.roomCount = 1 ∧
      ((daemon .example).run Table.empty malformed).1.Wf :=
  ⟨by decide, (states_wf .example malformed _ ((daemon .example).run_mem_states _ _)).1⟩

end ProcessMonitor.Comm
