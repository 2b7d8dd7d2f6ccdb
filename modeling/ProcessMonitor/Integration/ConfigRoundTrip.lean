import ProcessMonitor.Integration.Configuration

/-!
# What a configuration file's values become

The lines `fgets` delivers end in a newline, and the scanset `%255[^\"]` stores it with the value.
Numbers do not mind; a path, a level name or a truth value is not what was written any more. A
value of 255 bytes or more has no room for the newline.

`Setting` is a line as a user writes it, `ConfigFile` a file of such lines for different keys, and
`load_denotes_iff` says which files are read back: those whose settings all `Survive`.
-/

namespace ProcessMonitor.Integration

open CString Decimal Scanf

variable (H : Header)

/-! ## Settings -/

/-- The values that are legal for a kind of key. -/
def Kind.Legal (v : List UInt8) : Kind → Prop
  | .path size => v.length ≤ 255 ∧ v.length < size
  | .level => ∃ l : LogLevel, strcasecmp v l.text = 0
  | .bool => v = bytes "true" ∨ v = bytes "false"
  | .int => ∃ z, Numeral v z ∧ IsInt z

/-- The field holds the value written. -/
def Kind.Denotes (v : List UInt8) : Kind → FieldVal → Prop
  | .path _, .path s => s = v
  | .level, .level l => strcasecmp v l.text = 0
  | .bool, .int z => z = 1 ↔ v = bytes "true"
  | .int, .int z => Numeral v z
  | _, _ => False

/-- The values that come through: numbers that `sscanf` does not cut, the names that a failed
comparison gives anyway, and paths so long that the newline is cut off. -/
def Kind.Survives (v : List UInt8) : Kind → Prop
  | .path _ => v.length = 255 ∧ ∀ b ∈ v.head?, isspace b = false
  | .level => strcasecmp v LogLevel.info.text = 0
  | .bool => v = bytes "false"
  | .int => v.length ≤ 255 ∨ Numeral v 0

/-- A line `key=value` with a legal value: not empty, without `=`, double quotes, newlines and
surrounding blanks. -/
structure Setting where
  key : Key
  value : List UInt8
  ne_nil : value ≠ []
  bytes_ok : ∀ b ∈ value, b ≠ 0 ∧ b ≠ 10 ∧ b ≠ 34 ∧ b ≠ 61
  head_ok : ∀ b ∈ value.head?, isblank b = false
  last_ok : ∀ b ∈ value.getLast?, isblank b = false
  legal : (key.kind H).Legal value

/-- A file of settings, each key used at most once. -/
structure ConfigFile where
  settings : List (Setting H)
  nodup : (settings.map Setting.key).Nodup

variable {H}

/-- The line without its newline. -/
def Setting.body (s : Setting H) : List UInt8 := s.key.name ++ 61 :: s.value

/-- The text of a file. -/
def ConfigFile.text (f : ConfigFile H) : List UInt8 :=
  f.settings.flatMap fun s => s.body ++ [10]

/-! ## Reading a line -/

/-- Without a `=` the `sscanf` finds no value. -/
lemma parseLine_of_notMem {line : List UInt8} (h : (61 : UInt8) ∉ line) :
    parseLine line = none := by
  unfold parseLine sscanf
  rw [scan_space]
  have hs : (61 : UInt8) ∉ (cstr line).dropWhile isspace := fun hm =>
    h (mem_of_mem_cstr ((List.dropWhile_suffix _).subset hm))
  generalize (cstr line).dropWhile isspace = s at hs
  cases hr : (Directive.set 127 (· ≠ 61)).read id s with
  | none => rw [scan_cons_none _ _ hr]
  | some vr =>
      obtain ⟨v, r⟩ := vr
      have hr61 : (61 : UInt8) ∉ r.dropWhile isspace := fun hm =>
        hs ((suffix_of_read_set id hr).subset ((List.dropWhile_suffix _).subset hm))
      cases v with
      | none =>
          rw [scan_cons_skip _ _ hr, scan_space, scan_cons_none _ _ (read_lit_of_notMem _ hr61)]
      | some v =>
          rw [scan_cons_val _ _ hr, scan_space, scan_cons_none _ _ (read_lit_of_notMem _ hr61)]
          cases v <;> rfl

/-- Blanks and tabs are white space. -/
lemma isspace_of_isblank {b : UInt8} (h : isblank b = true) : isspace b = true := by
  simp only [isblank, Bool.or_eq_true, beq_iff_eq] at h
  rcases h with rfl | rfl <;> decide

/-- Nothing in front of a byte that is no white space. -/
lemma dropWhile_isspace_cons {b : UInt8} (hb : isspace b = false) (r : List UInt8) :
    (b :: r).dropWhile isspace = b :: r := by
  simp [hb]

/-- White space that has been skipped leaves no blank in front. -/
lemma dropWhile_isblank_take (x : List UInt8) (n : ℕ) :
    ((x.dropWhile isspace).take n).dropWhile isblank = (x.dropWhile isspace).take n := by
  rw [List.dropWhile_eq_self_iff]
  intro hl
  rw [List.getElem_take]
  have hs := List.dropWhile_get_zero_not isspace x (by simp at hl; omega)
  exact fun hb => hs (isspace_of_isblank hb)

/-- The line of a key: the value is what follows the `=`, without white space in front, as far
as 255 bytes go. -/
lemma parseLine_key (key : Key) {x : List UInt8} (hx : ∀ b ∈ x, b ≠ 0 ∧ b ≠ 34) :
    parseLine (key.name ++ 61 :: x) =
      if x.dropWhile isspace = [] then none
      else some (key.name, (x.dropWhile isspace).take 255) := by
  obtain ⟨hne, hlen, hname⟩ := key.name_wf
  have hline : cstr (key.name ++ 61 :: x) = key.name ++ 61 :: x := by
    refine cstr_eq_self fun h0 => ?_
    rcases List.mem_append.mp h0 with h | h
    · exact (hname 0 h).1 rfl
    · rcases List.mem_cons.mp h with h | h
      · exact absurd h (by decide)
      · exact (hx 0 h).1 rfl
  have hskip : (key.name ++ 61 :: x).dropWhile isspace = key.name ++ 61 :: x := by
    obtain ⟨b, r, hb⟩ := List.exists_cons_of_ne_nil hne
    have hsp : isspace b = false := (hname b (by rw [hb]; simp)).2.2.2.1
    rw [hb, List.cons_append, dropWhile_isspace_cons hsp]
  have hkeyblank : key.name.dropWhile isblank = key.name := by
    obtain ⟨b, r, hb⟩ := List.exists_cons_of_ne_nil hne
    have hbl : isblank b = false := (hname b (by rw [hb]; simp)).2.2.2.2
    rw [hb, List.dropWhile_cons, hbl]
    rfl
  have hkey : (Directive.set 127 (· ≠ 61)).read id (key.name ++ 61 :: x) =
      some (some (.bytes key.name), 61 :: x) :=
    read_set_stop id hne (by omega) (by simpa using fun b hb => (hname b hb).2.2.1) (by simp)
  have hvalue : ∀ b ∈ x.dropWhile isspace, decide (b ≠ 34) = true := fun b hb => by
    simpa using (hx b ((List.dropWhile_suffix _).subset hb)).2
  unfold parseLine sscanf
  rw [hline, scan_space, hskip, scan_cons_val _ _ hkey, scan_space,
    dropWhile_isspace_cons (by decide), scan_cons_skip _ _ (read_lit_cons_self _ _ _), scan_space]
  split_ifs with h
  · rw [h, scan_cons_none _ _ (read_set_nil _ _ _)]
  · rw [scan_cons_val _ _ (read_set_all id (by norm_num) h hvalue), scan_nil]
    simp only [hkeyblank, dropWhile_isblank_take]

/-! ## What a stored value denotes -/

/-- Level names and their letter case. -/
lemma strcasecmp_level_iff {v : List UInt8} (h0 : (0 : UInt8) ∉ v) (l : LogLevel) :
    strcasecmp v l.text = 0 ↔ v.map tolower = l.text.map tolower := by
  have hl : cstr l.text = l.text := by cases l <;> decide
  rw [strcasecmp_eq_zero_iff, cstr_eq_self h0, hl]

/-- What is known of a text that names a level. -/
lemma level_text_wf (l : LogLevel) :
    l.text.length ≤ 5 ∧ ∀ b ∈ l.text.map tolower, b ≠ 10 ∧ isspace b = false := by
  cases l <;> decide

/-- With a newline at its end, a text names no level: the level is `LOG_INFO`. -/
lemma logLevelFromString_newline {v : List UInt8} (h0 : (0 : UInt8) ∉ v) :
    logLevelFromString (v ++ [10]) = .info := by
  have h0' : (0 : UInt8) ∉ v ++ [10] := by simp [h0]
  have hfind : LogLevel.all.find? (fun l => strcasecmp (v ++ [10]) l.text = 0) = none := by
    rw [List.find?_eq_none]
    intro l _ hl
    rw [decide_eq_true_eq, strcasecmp_level_iff h0'] at hl
    have hmem : (10 : UInt8) ∈ l.text.map tolower := by
      rw [← hl]
      exact List.mem_map.mpr ⟨10, by simp, rfl⟩
    exact ((level_text_wf l).2 10 hmem).1 rfl
  rw [logLevelFromString, hfind]
  rfl

/-- The bytes that `sscanf` stores for a value without white space in front. -/
def storedText (v : List UInt8) : List UInt8 := (v ++ [10]).take 255

/-- A value with room for its newline is stored with it. -/
lemma storedText_of_lt {v : List UInt8} (h : v.length < 255) : storedText v = v ++ [10] :=
  List.take_of_length_le (by simp; omega)

/-- A longer value is cut. -/
lemma storedText_of_ge {v : List UInt8} (h : 255 ≤ v.length) : storedText v = v.take 255 :=
  List.take_append_of_le_length h

/-- A path comes through when its newline is cut off. -/
lemma denotes_path_iff {v : List UInt8} {size : ℕ} (h0 : (0 : UInt8) ∉ v) (h10 : (10 : UInt8) ∉ v)
    (hlen : v.length ≤ 255) (hsize : v.length < size) :
    (Kind.path size).Denotes v ((Kind.path size).read (storedText v)) ↔ v.length = 255 := by
  rcases Nat.lt_or_eq_of_le hlen with hlt | heq
  · rw [storedText_of_lt hlt]
    refine iff_of_false (fun h => h10 ?_) hlt.ne
    have hfit : (v ++ [10]).length ≤ size := by simpa using hsize
    have h : (cstr (v ++ [10])).take size = v := h
    rw [cstr_eq_self (by simp [h0]), List.take_of_length_le hfit] at h
    rw [← h]
    simp
  · rw [storedText_of_ge heq.ge, ← heq, List.take_length]
    refine iff_of_true ?_ rfl
    change (cstr v).take size = v
    rw [cstr_eq_self h0, List.take_of_length_le hsize.le]

/-- A level name becomes `LOG_INFO`. -/
lemma denotes_level_iff {v : List UInt8} (h0 : (0 : UInt8) ∉ v) (hlegal : Kind.level.Legal v) :
    Kind.level.Denotes v (Kind.level.read (storedText v)) ↔ Kind.level.Survives v := by
  obtain ⟨l, hl⟩ := hlegal
  have hlen := congrArg List.length ((strcasecmp_level_iff h0 l).mp hl)
  rw [List.length_map, List.length_map] at hlen
  have hlt : v.length < 255 := by
    have := (level_text_wf l).1
    omega
  rw [storedText_of_lt hlt, Kind.read, logLevelFromString_newline h0]
  rfl

/-- A truth value becomes false. -/
lemma denotes_bool_iff {v : List UInt8} (hlegal : Kind.bool.Legal v) :
    Kind.bool.Denotes v (Kind.bool.read (storedText v)) ↔ Kind.bool.Survives v := by
  rcases hlegal with rfl | rfl
  · exact iff_of_false (fun h => absurd (h.mpr rfl) (by decide)) (by unfold Kind.Survives; decide)
  · exact iff_of_true (iff_of_false (by decide) (by decide)) rfl

/-- A number comes through, unless it is written in more than 255 bytes. -/
lemma denotes_int_iff {v : List UInt8} (h0 : (0 : UInt8) ∉ v) (hlegal : Kind.int.Legal v) :
    Kind.int.Denotes v (Kind.int.read (storedText v)) ↔ Kind.int.Survives v := by
  obtain ⟨z, hz, hint⟩ := hlegal
  change Numeral v (atoi (storedText v)) ↔ v.length ≤ 255 ∨ Numeral v 0
  rcases Nat.lt_or_ge v.length 255 with hlt | hge
  · have hc : cstr (storedText v) = v ++ [10] := by
      rw [storedText_of_lt hlt]
      exact cstr_eq_self (by simp [h0])
    rw [atoi_numeral hz hint hc (by unfold NoDigitHead; decide)]
    exact iff_of_true hz (Or.inl hlt.le)
  have hc : cstr (storedText v) = v.take 255 ++ [] := by
    rw [storedText_of_ge hge, List.append_nil]
    exact cstr_eq_self fun h => h0 (List.mem_of_mem_take h)
  rcases Nat.eq_or_lt_of_le hge with heq | hlt
  · rw [heq, List.take_length] at hc
    rw [atoi_numeral hz hint hc noDigitHead_nil]
    exact iff_of_true hz (Or.inl heq.ge)
  · -- the number read is that of the first 255 bytes
    obtain ⟨z', hz', hmin, hmax, hiff⟩ := hz.take (n := 255) (by norm_num) hlt
    have hint' : IsInt z' := by
      obtain ⟨h1, h2⟩ := hint
      constructor <;> omega
    rw [atoi_numeral hz' hint' hc noDigitHead_nil]
    constructor
    · intro h
      have hzero := hiff.mp (h.unique hz)
      exact Or.inr (hzero ▸ hz)
    · rintro (h | h)
      · omega
      · have hzero := hz.unique h
        exact (hiff.mpr hzero).symm ▸ hz

/-! ## One line -/

section line

variable (s : Setting H)

lemma Setting.zero_notMem : (0 : UInt8) ∉ s.value := fun h => (s.bytes_ok 0 h).1 rfl

lemma Setting.newline_notMem : (10 : UInt8) ∉ s.value := fun h => (s.bytes_ok 10 h).2.1 rfl

/-- The line has its newline at the end only. -/
lemma Setting.newline_notMem_body : (10 : UInt8) ∉ s.body := by
  intro h
  rcases List.mem_append.mp h with h | h
  · exact (s.key.name_wf.2.2 10 h).2.1 rfl
  · rcases List.mem_cons.mp h with h | h
    · exact absurd h (by decide)
    · exact s.newline_notMem h

/-- What follows the `=` in the first piece of the line that `fgets` delivers. -/
def Setting.tail : List UInt8 := (s.value ++ [10]).take (510 - s.key.name.length)

/-- The pieces in which `fgets` delivers the line: the first has the key and the `=`, and no
other one has a `=`. -/
lemma Setting.fgetsAll_body :
    ∃ others, fgetsAll 512 (s.body ++ [10]) = (s.key.name ++ 61 :: s.tail) :: others ∧
      ∀ o ∈ others, (61 : UInt8) ∉ o := by
  obtain ⟨others, heq, hothers⟩ := fgetsAll_line 512 s.newline_notMem_body (by norm_num)
  obtain ⟨-, hlen, -⟩ := s.key.name_wf
  have hsub : 512 - 1 - s.key.name.length = 510 - s.key.name.length + 1 := by omega
  have hbody : s.body ++ [10] = s.key.name ++ 61 :: (s.value ++ [10]) := by simp [Setting.body]
  refine ⟨others, ?_, fun o ho hmem => ?_⟩
  · rw [heq, hbody, List.take_append, List.take_of_length_le (by omega), hsub,
      List.take_succ_cons]
    rfl
  · have h := hothers o ho 61 hmem
    rw [hbody, List.drop_append, List.drop_of_length_le (by omega), hsub, List.drop_succ_cons,
      List.nil_append] at h
    rcases List.mem_append.mp (List.mem_of_mem_drop h) with h | h
    · exact (s.bytes_ok 61 h).2.2.2 rfl
    · exact absurd h (by decide)

/-- Pieces without a `=` do nothing. -/
lemma foldl_loadLine_of_notMem {lines : List (List UInt8)} (h : ∀ o ∈ lines, (61 : UInt8) ∉ o)
    (c : Config) : lines.foldl (loadLine H) c = c := by
  induction lines with
  | nil => rfl
  | cons o lines ih =>
      have ho : loadLine H c o = c := by
        rw [loadLine, parseLine_of_notMem (h o List.mem_cons_self)]
      rw [List.foldl_cons, ho]
      exact ih fun o' ho' => h o' (List.mem_cons_of_mem _ ho')

/-- A key's text matches the key. -/
lemma strcasecmp_name (key : Key) : strcasecmp key.name key.name = 0 :=
  (strcasecmp_eq_zero_iff _ _).mpr rfl

/-- What loading one line does. -/
lemma Setting.load_eq (c : Config) :
    (fgetsAll 512 (s.body ++ [10])).foldl (loadLine H) c =
      if s.tail.dropWhile isspace = [] then c
      else s.key.set H ((s.tail.dropWhile isspace).take 255) c := by
  obtain ⟨others, heq, hothers⟩ := s.fgetsAll_body
  have htail : ∀ b ∈ s.tail, b ≠ 0 ∧ b ≠ 34 := by
    intro b hb
    rcases List.mem_append.mp (List.mem_of_mem_take hb) with h | h
    · exact ⟨(s.bytes_ok b h).1, (s.bytes_ok b h).2.2.1⟩
    · rw [List.mem_singleton.mp h]
      decide
  rw [heq, List.foldl_cons, foldl_loadLine_of_notMem hothers, loadLine, parseLine_key _ htail]
  split_ifs with h
  · rfl
  · exact assign_of_eq H (strcasecmp_name s.key) _ c

end line

/-! ## The fields -/

/-- The path arrays have their sizes. -/
structure Config.Sized (H : Header) (c : Config) : Prop where
  logPath : c.logPath.length = H.logPathSize
  fifoPath : c.fifoPath.length = H.fifoPathSize
  procfsPath : c.procfsPath.length = H.procfsPathSize
  pidFile : c.pidFile.length = H.pidFileSize

lemma sized_zero : (Config.zero H).Sized H := by
  constructor <;> exact List.length_replicate

/-- Every branch keeps the sizes of the arrays. -/
lemma Config.Sized.set {c : Config} (h : c.Sized H) (key : Key) (v : List UInt8) :
    (key.set H v c).Sized H := by
  have hcopy {dst : List UInt8} {n : ℕ} (hd : dst.length = n) :
      (strncpy dst v n).length = n := (length_strncpy v hd.ge).trans hd
  cases key with
  | logPath => exact ⟨hcopy h.logPath, h.fifoPath, h.procfsPath, h.pidFile⟩
  | fifoPath => exact ⟨h.logPath, hcopy h.fifoPath, h.procfsPath, h.pidFile⟩
  | procfsPath => exact ⟨h.logPath, h.fifoPath, hcopy h.procfsPath, h.pidFile⟩
  | pidFile => exact ⟨h.logPath, h.fifoPath, h.procfsPath, hcopy h.pidFile⟩
  | _ => exact ⟨h.logPath, h.fifoPath, h.procfsPath, h.pidFile⟩

/-- And so does loading any number of lines. -/
lemma Config.Sized.foldl {c : Config} (h : c.Sized H) (lines : List (List UInt8)) :
    (lines.foldl (loadLine H) c).Sized H := by
  induction lines generalizing c with
  | nil => exact h
  | cons line lines ih =>
      refine ih ?_
      unfold loadLine assign
      split
      · split
        · exact h.set _ _
        · exact h
      · exact h

/-- What is in the field of a key after its branch. -/
lemma field_set {c : Config} (h : c.Sized H) (key : Key) (v : List UInt8) :
    (key.set H v c).field key = (key.kind H).read v := by
  cases key with
  | logPath => exact congrArg _ (cstr_strncpy_length h.logPath v)
  | fifoPath => exact congrArg _ (cstr_strncpy_length h.fifoPath v)
  | procfsPath => exact congrArg _ (cstr_strncpy_length h.procfsPath v)
  | pidFile => exact congrArg _ (cstr_strncpy_length h.pidFile v)
  | _ => rfl

/-- The zeroed path fields are empty strings. -/
lemma field_zero_path {key : Key} {size : ℕ} (h : key.kind H = .path size) :
    (Config.zero H).field key = .path [] := by
  cases key with
  | logPath | fifoPath | procfsPath | pidFile => exact congrArg _ (cstr_replicate_zero _)
  | _ => exact absurd h (by simp [Key.kind])

section setting

variable (s : Setting H)

/-- Only a path can begin with white space. -/
lemma Setting.exists_path {b : UInt8} (hb : b ∈ s.value.head?) (hspace : isspace b = true) :
    ∃ size, s.key.kind H = .path size := by
  have hlegal := s.legal
  cases hk : s.key.kind H with
  | path size => exact ⟨size, rfl⟩
  | level =>
      rw [hk] at hlegal
      obtain ⟨l, hl⟩ := hlegal
      have hmem : tolower b ∈ l.text.map tolower := by
        rw [← (strcasecmp_level_iff s.zero_notMem l).mp hl]
        exact List.mem_map_of_mem (List.mem_of_mem_head? hb)
      have h := ((level_text_wf l).2 _ hmem).2
      rw [isspace_tolower, hspace] at h
      exact absurd h (by decide)
  | bool =>
      rw [hk] at hlegal
      rcases hlegal with h | h <;> rw [h] at hb <;> cases Option.some.inj hb <;>
        exact absurd hspace (by decide)
  | int =>
      rw [hk] at hlegal
      obtain ⟨z, hz, -⟩ := hlegal
      rw [hz.head_not_space b hb] at hspace
      exact absurd hspace (by decide)

variable {c : Config} (hc : c.Sized H)
include hc

/-- A value without white space in front is stored as `storedText`. -/
lemma Setting.field_load (hhead : ∀ b ∈ s.value.head?, isspace b = false) :
    ((fgetsAll 512 (s.body ++ [10])).foldl (loadLine H) c).field s.key =
      (s.key.kind H).read (storedText s.value) := by
  obtain ⟨-, hlen, -⟩ := s.key.name_wf
  obtain ⟨b, r, hv⟩ := List.exists_cons_of_ne_nil s.ne_nil
  have hb : isspace b = false := hhead b (by rw [hv]; rfl)
  have hsub : 510 - s.key.name.length = (509 - s.key.name.length) + 1 := by omega
  have htail : s.tail.dropWhile isspace = s.tail := by
    rw [Setting.tail, hv, hsub, List.cons_append, List.take_succ_cons, dropWhile_isspace_cons hb]
  have hne : s.tail ≠ [] := by
    rw [Setting.tail, hv, hsub]
    simp
  rw [s.load_eq, htail, if_neg hne, field_set hc, Setting.tail, List.take_take,
    Nat.min_eq_left (by omega)]
  rfl

/-- A path with white space in front loses it, or is not found at all. -/
lemma Setting.not_denotes_of_space (hzero : c.field s.key = (Config.zero H).field s.key) {b : UInt8}
    (hb : b ∈ s.value.head?) (hspace : isspace b = true) :
    ¬ (s.key.kind H).Denotes s.value
      (((fgetsAll 512 (s.body ++ [10])).foldl (loadLine H) c).field s.key) := by
  obtain ⟨size, hk⟩ := s.exists_path hb hspace
  obtain ⟨-, hname, -⟩ := s.key.name_wf
  have hlegal := s.legal
  rw [hk] at hlegal ⊢
  obtain ⟨hlen, hsize⟩ := hlegal
  have htail : s.tail = s.value ++ [10] := List.take_of_length_le (by simp; omega)
  have hshort : (s.value.dropWhile isspace).length < s.value.length := by
    obtain ⟨b', r, hv⟩ := List.exists_cons_of_ne_nil s.ne_nil
    rw [hv] at hb ⊢
    obtain rfl : b' = b := Option.some.inj hb
    rw [List.dropWhile_cons, if_pos hspace, List.length_cons]
    exact Nat.lt_succ_of_le (List.dropWhile_suffix _).length_le
  rw [s.load_eq, htail, List.dropWhile_append]
  by_cases hu : s.value.dropWhile isspace = []
  · -- nothing but white space: the field is as it was
    have h10 : [(10 : UInt8)].dropWhile isspace = [] := by decide
    rw [hu, List.isEmpty_nil, if_pos rfl, h10, if_pos rfl, hzero, field_zero_path hk]
    exact fun h => s.ne_nil (Eq.symm h)
  · have hlast : (s.value.dropWhile isspace ++ [10]).length ≤ 255 := by simp; omega
    have hfit : (s.value.dropWhile isspace ++ [10]).length ≤ size := by simp; omega
    have h0 : (0 : UInt8) ∉ s.value.dropWhile isspace ++ [10] := by
      intro h
      rcases List.mem_append.mp h with h | h
      · exact s.zero_notMem ((List.dropWhile_suffix _).subset h)
      · exact absurd h (by decide)
    have hempty : ¬ (s.value.dropWhile isspace).isEmpty = true := fun h =>
      hu (List.isEmpty_iff.mp h)
    rw [if_neg hempty, if_neg (List.append_ne_nil_of_right_ne_nil _ (List.cons_ne_nil _ _)),
      field_set hc, hk, List.take_of_length_le hlast]
    intro h
    have h : (cstr (s.value.dropWhile isspace ++ [10])).take size = s.value := h
    rw [cstr_eq_self h0, List.take_of_length_le hfit] at h
    exact s.newline_notMem (h ▸ by simp)

/-- **One setting.** Loaded into a sized configuration in which its field is still zero, it is
read back exactly when it survives. -/
lemma Setting.denotes_iff (hzero : c.field s.key = (Config.zero H).field s.key) :
    (s.key.kind H).Denotes s.value
        (((fgetsAll 512 (s.body ++ [10])).foldl (loadLine H) c).field s.key) ↔
      (s.key.kind H).Survives s.value := by
  by_cases hhead : ∀ b ∈ s.value.head?, isspace b = false
  · rw [s.field_load hc hhead]
    have hlegal := s.legal
    cases hk : s.key.kind H with
    | path size =>
        rw [hk] at hlegal
        rw [denotes_path_iff s.zero_notMem s.newline_notMem hlegal.1 hlegal.2]
        exact (and_iff_left hhead).symm
    | level => exact denotes_level_iff s.zero_notMem (hk ▸ hlegal)
    | bool => exact denotes_bool_iff (hk ▸ hlegal)
    | int => exact denotes_int_iff s.zero_notMem (hk ▸ hlegal)
  · simp only [not_forall, Bool.not_eq_false] at hhead
    obtain ⟨b, hb, hspace⟩ := hhead
    refine iff_of_false (s.not_denotes_of_space hc hzero hb hspace) fun h => ?_
    obtain ⟨size, hk⟩ := s.exists_path hb hspace
    rw [hk] at h
    rw [h.2 b hb] at hspace
    exact absurd hspace (by decide)

end setting

/-! ## A whole file -/

/-- `fgets` delivers a file setting by setting. -/
lemma fgetsAll_settings (settings : List (Setting H)) :
    fgetsAll 512 (settings.flatMap fun s => s.body ++ [10]) =
      settings.flatMap fun s => fgetsAll 512 (s.body ++ [10]) := by
  induction settings with
  | nil => rfl
  | cons s settings ih =>
      rw [List.flatMap_cons, List.flatMap_cons, List.append_assoc, List.singleton_append,
        fgetsAll_append, ih]

/-- Settings of other keys leave a field alone. -/
lemma field_foldl_settings {settings : List (Setting H)} {key : Key}
    (h : key ∉ settings.map Setting.key) (c : Config) :
    ((settings.flatMap fun s => fgetsAll 512 (s.body ++ [10])).foldl (loadLine H) c).field key =
      c.field key := by
  induction settings generalizing c with
  | nil => rfl
  | cons s settings ih =>
      rw [List.map_cons, List.mem_cons, not_or] at h
      rw [List.flatMap_cons, List.foldl_append, ih h.2, s.load_eq]
      split
      · rfl
      · have hne : strcasecmp s.key.name key.name ≠ 0 := fun he =>
          h.1 (Key.eq_of_strcasecmp he (strcasecmp_name s.key) ▸ rfl)
        rw [← assign_of_eq H (strcasecmp_name s.key)]
        exact field_assign_of_ne H hne _ c

/-- **What is read back.** For every file of settings for different keys, `load_configuration` on
the zeroed state leaves in each field the value written if and only if every setting survives. -/
theorem load_denotes_iff (H : Header) (f : ConfigFile H) :
    (∀ s ∈ f.settings, (s.key.kind H).Denotes s.value
        ((loadConfiguration H (some f.text) (.zero H)).field s.key)) ↔
      ∀ s ∈ f.settings, (s.key.kind H).Survives s.value := by
  refine forall₂_congr fun s hs => ?_
  obtain ⟨before, after, hsplit⟩ := List.append_of_mem hs
  have hnodup := f.nodup
  rw [hsplit, List.map_append, List.map_cons, List.nodup_middle, List.nodup_cons,
    List.mem_append, not_or] at hnodup
  obtain ⟨⟨hbefore, hafter⟩, -⟩ := hnodup
  rw [loadConfiguration, ConfigFile.text, fgetsAll_settings, hsplit, List.flatMap_append,
    List.flatMap_cons, List.foldl_append, List.foldl_append, field_foldl_settings hafter]
  exact s.denotes_iff (sized_zero.foldl _) (field_foldl_settings hbefore _)

/-- One line of the repository's test configuration. -/
def testSettings : ConfigFile .plain where
  settings :=
    [{ key := .logPath, value := bytes "logs/test_monitor.log", ne_nil := by decide
       bytes_ok := by decide, head_ok := by decide, last_ok := by decide
       legal := ⟨by decide, by decide⟩ }]
  nodup := by simp

/-- The path of the log gets a newline at its end. -/
theorem testSettings_not_denoted :
    ¬ ∀ s ∈ testSettings.settings, (s.key.kind .plain).Denotes s.value
      ((loadConfiguration .plain (some testSettings.text) (.zero .plain)).field s.key) := by
  intro h
  have hpath := h _ List.mem_cons_self
  revert hpath
  change ¬ (_ = _)
  decide

end ProcessMonitor.Integration
