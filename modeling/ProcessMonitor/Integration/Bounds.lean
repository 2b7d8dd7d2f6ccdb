import ProcessMonitor.Integration.Clients
import ProcessMonitor.Integration.ConfigRoundTrip
import ProcessMonitor.Integration.Rooms

/-!
# Array bounds

The loops over `g_daemon_state.rooms` and `g_daemon_state.clients` run up to `config.max_rooms` and
`config.max_clients`, which `load_configuration` takes from `atoi` as they are. Here each loop is
the list of the indices it uses, on a memory that has something to read at every index, inside the
arrays or not. `search_eq_look` ties the search loops to those of the room functions.

`load_inBounds_iff` says which files keep all of them inside the arrays.
-/

namespace ProcessMonitor.Integration

open CString Decimal Slots

variable (H : Header)

/-! ## The loops -/

/-- The lengths of `rooms` and `clients`, as declared. They are not smaller than the defaults of
`max_rooms` and `max_clients`. -/
structure ArrayLengths where
  rooms : ℕ
  clients : ℕ
  rooms_ge : defaultMaxRooms ≤ rooms
  clients_ge : defaultMaxClients ≤ clients

/-- What is read as `rooms[i]` and as `clients[i]`. -/
structure Memory where
  room : ℕ → RoomInfo
  client : ℕ → ClientConnection

/-- Where the code has loops over the arrays, with the name they look for. -/
inductive ArrayLoops
  | findRoom (name : List UInt8)
  | createRoom (name : List UInt8)
  | listRooms
  | networkThread
  | cleanupOnExit

namespace Memory

variable (m : Memory) (config : Config)

/-- The loop over the rooms up to the first with `stop`. -/
def lookRooms (stop : RoomInfo → Bool) : List ℕ × Option ℕ :=
  look (fun i => stop (m.room i)) config.maxRooms.toNat 0

/-- The loop over the clients up to the first with `stop`. -/
def lookClients (stop : ClientConnection → Bool) : List ℕ × Option ℕ :=
  look (fun i => stop (m.client i)) config.maxClients.toNat 0

/-- The two loops of `create_room`, and the slot that is filled. -/
def createRoomIndices (name : List UInt8) : List ℕ :=
  let duplicate := m.lookRooms config (RoomInfo.hasName H name)
  match duplicate.2 with
  | some _ => duplicate.1
  | none =>
      let free := m.lookRooms config fun r => r.state = .inactive
      duplicate.1 ++ free.1 ++ free.2.toList

/-- The indices used with `rooms`.
Source: `main_daemon.c`, `find_room`, `create_room`, `process_command` for `CMD_LIST_ROOMS`,
`cleanup_on_exit` -/
def roomIndices : ArrayLoops → List ℕ
  | .findRoom name => (m.lookRooms config (RoomInfo.hasName H name)).1
  | .createRoom name => m.createRoomIndices H config name
  | .listRooms => (m.lookRooms config fun _ => false).1
  | .networkThread => []
  | .cleanupOnExit => (m.lookRooms config fun _ => false).1

/-- The indices used with `clients`; the network thread writes to the slot it stops at.
Source: `main_daemon.c`, `network_thread`, `cleanup_on_exit` -/
def clientIndices : ArrayLoops → List ℕ
  | .networkThread =>
      let free := m.lookClients config fun c => !c.active
      free.1 ++ free.2.toList
  | .cleanupOnExit => (m.lookClients config fun _ => false).1
  | _ => []

end Memory

/-- In every state, the loops stay inside the arrays. -/
def InBounds (lengths : ArrayLengths) (config : Config) : Prop :=
  ∀ (m : Memory) (loops : ArrayLoops),
    (∀ i ∈ m.roomIndices H config loops, i < lengths.rooms) ∧
      ∀ i ∈ m.clientIndices config loops, i < lengths.clients

/-- In bounds, the search loop finds what the room functions find. -/
lemma search_eq_look {m : Memory} {d : DaemonState} (name : List UInt8)
    (hmem : ∀ i r, d.rooms[i]? = some r → m.room i = r)
    (hbound : d.config.maxRooms ≤ d.rooms.length) :
    (m.lookRooms d.config (RoomInfo.hasName H name)).2 = d.search H name := by
  have hlength : d.slots.length = d.config.maxRooms.toNat := by
    rw [DaemonState.slots, List.length_take]
    omega
  have hstop : ∀ k r, d.slots[k]? = some r →
      RoomInfo.hasName H name (m.room (0 + k)) = RoomInfo.hasName H name r := by
    intro k r hr
    have hk : d.rooms[k]? = some r := by
      rw [DaemonState.slots, List.getElem?_take] at hr
      split_ifs at hr
      exact hr
    rw [zero_add, hmem k r hk]
  have hlook := look_eq_findIdx? (fun i => RoomInfo.hasName H name (m.room i)) _ hstop
  rw [hlength] at hlook
  rw [Memory.lookRooms, hlook, DaemonState.search]
  simp

/-! ## The bounds -/

section bounds

variable {m : Memory} {config : Config} {i : ℕ}

/-- The indices of a loop over the rooms. -/
lemma Memory.lookRooms_lt {stop : RoomInfo → Bool}
    (h : i ∈ (m.lookRooms config stop).1 ∨ (m.lookRooms config stop).2 = some i) :
    (i : ℤ) < config.maxRooms := by
  have hlt := lt_of_mem_look (h.elim id mem_look_of_stop)
  omega

/-- The indices of a loop over the clients. -/
lemma Memory.lookClients_lt {stop : ClientConnection → Bool}
    (h : i ∈ (m.lookClients config stop).1 ∨ (m.lookClients config stop).2 = some i) :
    (i : ℤ) < config.maxClients := by
  have hlt := lt_of_mem_look (h.elim id mem_look_of_stop)
  omega

/-- All indices used with `rooms` are below `max_rooms`. -/
lemma Memory.roomIndices_lt {loops : ArrayLoops} (h : i ∈ m.roomIndices H config loops) :
    (i : ℤ) < config.maxRooms := by
  cases loops with
  | findRoom name => exact Memory.lookRooms_lt (Or.inl h)
  | createRoom name =>
      simp only [Memory.roomIndices, Memory.createRoomIndices] at h
      split at h
      · exact Memory.lookRooms_lt (Or.inl h)
      · simp only [List.mem_append, Option.mem_toList] at h
        rcases h with (h | h) | h
        · exact Memory.lookRooms_lt (Or.inl h)
        · exact Memory.lookRooms_lt (Or.inl h)
        · exact Memory.lookRooms_lt (Or.inr h)
  | listRooms => exact Memory.lookRooms_lt (Or.inl h)
  | networkThread => cases h
  | cleanupOnExit => exact Memory.lookRooms_lt (Or.inl h)

/-- All indices used with `clients` are below `max_clients`. -/
lemma Memory.clientIndices_lt {loops : ArrayLoops} (h : i ∈ m.clientIndices config loops) :
    (i : ℤ) < config.maxClients := by
  cases loops with
  | networkThread =>
      simp only [Memory.clientIndices, List.mem_append, Option.mem_toList] at h
      exact Memory.lookClients_lt h
  | cleanupOnExit => exact Memory.lookClients_lt (Or.inl h)
  | findRoom name => cases h
  | createRoom name => cases h
  | listRooms => cases h

end bounds

/-- Some memory. -/
def Memory.zero : Memory := ⟨fun _ => RoomInfo.cleared H, fun _ => ⟨0, false⟩⟩

/-- **The bounds of the loops** decide. -/
theorem inBounds_iff (lengths : ArrayLengths) (config : Config) :
    InBounds H lengths config ↔
      config.maxRooms ≤ lengths.rooms ∧ config.maxClients ≤ lengths.clients := by
  constructor
  · intro h
    obtain ⟨hrooms, hclients⟩ := h (Memory.zero H) .cleanupOnExit
    constructor
    · by_contra hlt
      rw [not_le] at hlt
      exact lt_irrefl _ (hrooms lengths.rooms (mem_look_never (Nat.zero_le _) (by omega)))
    · by_contra hlt
      rw [not_le] at hlt
      exact lt_irrefl _ (hclients lengths.clients (mem_look_never (Nat.zero_le _) (by omega)))
  · rintro ⟨hrooms, hclients⟩ m loops
    constructor
    · intro i hi
      have hlt := Memory.roomIndices_lt H hi
      omega
    · intro i hi
      have hlt := Memory.clientIndices_lt hi
      omega

/-! ## The file -/

/-- The value in the last line of a file that sets the key. -/
def lastValue (content : List UInt8) (key : Key) : Option (List UInt8) :=
  ((((fgetsAll 512 content).filterMap parseLine).filter
    fun kv => strcasecmp kv.1 key.name = 0).getLast?).map Prod.snd

/-- A file leaves in the field of a key what its last line for the key says, if there is one. -/
lemma field_load_lastValue (content : List UInt8) (key : Key) :
    (loadConfiguration H (some content) (.zero H)).field key =
      match lastValue content key with
      | some v => (key.kind H).read v
      | none => (Config.zero H).field key := by
  rw [loadConfiguration, lastValue]
  generalize fgetsAll 512 content = lines
  induction lines using List.reverseRecOn with
  | nil => rfl
  | append_singleton lines line ih =>
      rw [List.foldl_append, List.foldl_cons, List.foldl_nil, loadLine, List.filterMap_append,
        List.filter_append]
      have hsized : (lines.foldl (loadLine H) (.zero H)).Sized H := sized_zero.foldl lines
      generalize lines.foldl (loadLine H) (.zero H) = c at ih hsized ⊢
      cases hp : parseLine line with
      | none =>
          rw [List.filterMap_cons_none hp, List.filterMap_nil, List.filter_nil, List.append_nil]
          exact ih
      | some kv =>
          obtain ⟨k, v⟩ := kv
          rw [List.filterMap_cons_some hp, List.filterMap_nil]
          by_cases hk : strcasecmp k key.name = 0
          · rw [List.filter_cons_of_pos (by simpa using hk), List.filter_nil, List.getLast?_concat,
              Option.map_some]
            exact (congrArg (Config.field · key) (assign_of_eq H hk v c)).trans
              (field_set hsized key v)
          · rw [List.filter_cons_of_neg (by simpa using hk), List.filter_nil, List.append_nil]
            exact (field_assign_of_ne H hk v c).trans ih

/-- A number that a file sets, or 0. -/
lemma int_load_le_iff {content : List UInt8} (key : Key) {z bound : ℤ} (hbound : 0 ≤ bound)
    (hkind : key.kind H = .int) (hzero : (Config.zero H).field key = .int 0)
    (hz : (loadConfiguration H (some content) (.zero H)).field key = .int z) :
    z ≤ bound ↔ ∀ v ∈ lastValue content key, atoi v ≤ bound := by
  rw [field_load_lastValue] at hz
  cases hlast : lastValue content key with
  | none =>
      rw [hlast, hzero] at hz
      cases hz
      exact iff_of_true hbound fun v hv => by cases hv
  | some v =>
      simp only [hlast, hkind, Kind.read, FieldVal.int.injEq] at hz
      simp only [Option.mem_def, Option.some.injEq, forall_eq', hz]

/-- **Array bounds from configuration.** The loops stay inside the arrays in every state if and only
if there is no file, or its last lines for `max_rooms` and for `max_clients`, where it has such
lines, set no number above the lengths. -/
theorem load_inBounds_iff (lengths : ArrayLengths) (file : Option (List UInt8)) :
    InBounds H lengths (loadConfiguration H file (.zero H)) ↔
      ∀ content ∈ file, (∀ v ∈ lastValue content .maxRooms, atoi v ≤ lengths.rooms) ∧
        ∀ v ∈ lastValue content .maxClients, atoi v ≤ lengths.clients := by
  rw [inBounds_iff]
  cases file with
  | none => exact iff_of_true ⟨lengths.rooms_ge, lengths.clients_ge⟩ fun c hc => by cases hc
  | some content =>
      simp only [Option.mem_def, Option.some.injEq, forall_eq']
      rw [int_load_le_iff H .maxRooms (Int.natCast_nonneg _) rfl rfl rfl,
        int_load_le_iff H .maxClients (Int.natCast_nonneg _) rfl rfl rfl]
      rfl

/-- The file asks for more rooms than the array has. -/
theorem manyRooms_not_inBounds :
    ¬ InBounds .plain ⟨10, 50, by decide, by decide⟩
      (loadConfiguration .plain (some (bytes "max_rooms=100000\n")) (.zero .plain)) := by
  rw [inBounds_iff]
  intro h
  exact absurd h.1 (by decide)

end ProcessMonitor.Integration
