import Mathlib.Data.Nat.Digits.Lemmas
import ProcessMonitor.Lib.CString

/-!
# Decimal numerals: printing and reading

`natText`, `intText`, `fixed2Text`, `fixed3Text`, `twoDigits` and `hexText` are what `%u`, `%d`,
`%.2f`, `%.3f`, `%02d` and `%lx` print; `scanInt` is the reading loop that `strtol` and the `%d` of
`scanf` share (white space, an optional sign, the longest run of digits, at least one).
`Numeral t z` says that `t` is a complete numeral of `z`; the two round trips are `numeral_intText`
(what is printed is a numeral) and `scanInt_numeral` (a numeral is read back, whatever follows it
from the next non-digit on). `atoi` is `(int)strtol`, with the clamp to a 64-bit `long` and the wrap
to a 32-bit `int`.
-/

namespace Decimal

open CString

/-! ## Digits -/

/-- The value of a run of digits, the most significant one first. -/
def digitsVal (ds : List UInt8) : ℕ := Nat.ofDigits 10 (ds.reverse.map fun d => d.toNat - 48)

/-- `%u`: the digits of `n`, without leading zeros. -/
def natText (n : ℕ) : List UInt8 :=
  if n = 0 then [48] else (Nat.digits 10 n).reverse.map fun d => UInt8.ofNat (48 + d)

/-- `%d`. -/
def intText (z : ℤ) : List UInt8 := if z < 0 then 45 :: natText z.natAbs else natText z.natAbs

/-- The integer nearest to a non-negative rational, the even one of two. -/
def roundHalfEven (q : ℚ) : ℕ :=
  let f := q.floor.toNat
  let r := q - f
  if r < 1 / 2 then f else if 1 / 2 < r then f + 1 else if f % 2 = 0 then f else f + 1

/-- `%.2f` of a finite value. -/
def fixed2Text (q : ℚ) : List UInt8 :=
  let n := roundHalfEven (|q| * 100)
  let frac := [UInt8.ofNat (48 + n % 100 / 10), UInt8.ofNat (48 + n % 10)]
  (if q < 0 then [45] else []) ++ natText (n / 100) ++ 46 :: frac

/-- `%.3f` of a finite value, given as a sign, which zero has too, and a magnitude. -/
def fixed3Text (negative : Bool) (magnitude : ℚ≥0) : List UInt8 :=
  let n := roundHalfEven (magnitude * 1000)
  let frac := [UInt8.ofNat (48 + n % 1000 / 100), UInt8.ofNat (48 + n % 100 / 10),
    UInt8.ofNat (48 + n % 10)]
  (if negative then [45] else []) ++ natText (n / 1000) ++ 46 :: frac

/-- `%02d` of a number below 100. -/
def twoDigits (n : ℕ) : List UInt8 := [UInt8.ofNat (48 + n % 100 / 10), UInt8.ofNat (48 + n % 10)]

/-- `%lx`. -/
def hexText (n : ℕ) : List UInt8 :=
  if n = 0 then [48]
  else (Nat.digits 16 n).reverse.map fun d => UInt8.ofNat (if d < 10 then 48 + d else 87 + d)

/-- The byte of a digit stands for it. -/
lemma toNat_digit {d : ℕ} (h : d < 10) : (UInt8.ofNat (48 + d)).toNat = 48 + d := by
  rw [UInt8.toNat_ofNat']
  omega

/-- The byte of a digit is a digit. -/
lemma isdigit_digit {d : ℕ} (h : d < 10) : isdigit (UInt8.ofNat (48 + d)) = true := by
  simp only [isdigit, Bool.and_eq_true, decide_eq_true_eq, UInt8.le_iff_toNat_le, toNat_digit h]
  constructor
  · show 48 ≤ 48 + d
    omega
  · show 48 + d ≤ 57
    omega

/-- A printed natural number is not empty. -/
lemma natText_ne_nil (n : ℕ) : natText n ≠ [] := by
  unfold natText
  split
  · simp
  · rename_i h
    simpa [Nat.digits_ne_nil_iff_ne_zero] using h

/-- A printed natural number has only digits. -/
lemma isdigit_of_mem_natText {n : ℕ} {b : UInt8} (h : b ∈ natText n) : isdigit b = true := by
  unfold natText at h
  split at h
  · rw [List.mem_singleton] at h
    subst h
    decide
  · rw [List.mem_map] at h
    obtain ⟨d, hd, rfl⟩ := h
    exact isdigit_digit (Nat.digits_lt_base (by norm_num) (List.mem_reverse.mp hd))

/-- A printed natural number has its value. -/
lemma digitsVal_natText (n : ℕ) : digitsVal (natText n) = n := by
  unfold natText digitsVal
  split
  · rename_i h
    subst h
    rfl
  · rw [← List.map_reverse, List.reverse_reverse, List.map_map]
    have hid : (Nat.digits 10 n).map ((fun d : UInt8 => d.toNat - 48) ∘
        fun d => UInt8.ofNat (48 + d)) = Nat.digits 10 n := by
      rw [List.map_congr_left (g := id), List.map_id]
      intro d hd
      have hd10 : d < 10 := Nat.digits_lt_base (by norm_num) hd
      simp only [Function.comp_apply, toNat_digit hd10, id_eq]
      omega
    rw [hid, Nat.ofDigits_digits]

/-- A run of digits in two parts. -/
lemma digitsVal_append (a b : List UInt8) :
    digitsVal (a ++ b) = digitsVal a * 10 ^ b.length + digitsVal b := by
  unfold digitsVal
  rw [List.reverse_append, List.map_append, Nat.ofDigits_append, List.length_map,
    List.length_reverse]
  ring

/-- A run of digits cut short has another value, unless it is all zeros. -/
lemma digitsVal_take {ds : List UInt8} {n : ℕ} (h : n < ds.length) :
    digitsVal (ds.take n) ≤ digitsVal ds ∧
      (digitsVal (ds.take n) = digitsVal ds ↔ digitsVal ds = 0) := by
  have hval := digitsVal_append (ds.take n) (ds.drop n)
  rw [List.take_append_drop] at hval
  have hlen : (ds.drop n).length ≠ 0 := by
    rw [List.length_drop]
    omega
  obtain ⟨k, hk⟩ := Nat.exists_eq_succ_of_ne_zero hlen
  have hpow : 0 < 10 ^ k := by positivity
  rw [hk, Nat.pow_succ] at hval
  have hmul : digitsVal (ds.take n) * 10 ≤ digitsVal (ds.take n) * (10 ^ k * 10) := by
    gcongr
    omega
  omega

/-- A number below `10 ^ k` prints in at most `k` digits. -/
lemma length_natText_le {n k : ℕ} (hk : 0 < k) (h : n < 10 ^ k) : (natText n).length ≤ k := by
  unfold natText
  split
  · exact hk
  · rw [List.length_map, List.length_reverse]
    exact (Nat.digits_length_le_iff (by norm_num) n).mpr h

/-! ## Numerals -/

/-- `t` is a complete decimal numeral of `z`: digits, with or without a sign. -/
inductive Numeral : List UInt8 → ℤ → Prop
  | plain {ds : List UInt8} (hne : ds ≠ []) (hds : ∀ b ∈ ds, isdigit b = true) :
      Numeral ds (digitsVal ds)
  | plus {ds : List UInt8} (hne : ds ≠ []) (hds : ∀ b ∈ ds, isdigit b = true) :
      Numeral (43 :: ds) (digitsVal ds)
  | minus {ds : List UInt8} (hne : ds ≠ []) (hds : ∀ b ∈ ds, isdigit b = true) :
      Numeral (45 :: ds) (-digitsVal ds)

/-- What `%d` prints is a numeral of the number printed. -/
lemma numeral_intText (z : ℤ) : Numeral (intText z) z := by
  unfold intText
  split
  · rename_i h
    have hm := Numeral.minus (natText_ne_nil z.natAbs) fun b hb => isdigit_of_mem_natText hb
    rw [digitsVal_natText] at hm
    have hz : -(z.natAbs : ℤ) = z := by omega
    rwa [hz] at hm
  · rename_i h
    have hp := Numeral.plain (natText_ne_nil z.natAbs) fun b hb => isdigit_of_mem_natText hb
    rw [digitsVal_natText] at hp
    have hz : (z.natAbs : ℤ) = z := by omega
    rwa [hz] at hp

/-- So is what `%u` prints. -/
lemma numeral_natText (n : ℕ) : Numeral (natText n) n := by
  have hp := Numeral.plain (natText_ne_nil n) fun b hb => isdigit_of_mem_natText hb
  rwa [digitsVal_natText] at hp

/-- The sign in front of a numeral, and what follows it. -/
def sign : List UInt8 → Bool × List UInt8
  | 43 :: r => (false, r)
  | 45 :: r => (true, r)
  | s => (false, s)

/-- The reading loop of `strtol` and of `%d`: white space, a sign, the longest run of digits.
`none` when there is no digit; else the value and the rest of the input. -/
def scanInt (s : List UInt8) : Option (ℤ × List UInt8) :=
  let (neg, r) := sign (s.dropWhile isspace)
  let ds := r.takeWhile isdigit
  if ds = [] then none
  else some (if neg then -digitsVal ds else digitsVal ds, r.dropWhile isdigit)

/-- A byte list does not begin with a digit. -/
def NoDigitHead (s : List UInt8) : Prop := ∀ b ∈ s.head?, isdigit b = false

lemma noDigitHead_nil : NoDigitHead [] := by simp [NoDigitHead]

/-- The longest run of digits at the head of `ds ++ rest`. -/
lemma takeWhile_isdigit_append {ds rest : List UInt8} (hds : ∀ b ∈ ds, isdigit b = true)
    (hrest : NoDigitHead rest) :
    (ds ++ rest).takeWhile isdigit = ds ∧ (ds ++ rest).dropWhile isdigit = rest := by
  rw [List.takeWhile_append_of_pos hds, List.dropWhile_append_of_pos hds]
  cases rest with
  | nil => simp
  | cons b r =>
      have hb : isdigit b = false := hrest b (by simp)
      simp [hb]

/-- A digit is no sign. -/
lemma sign_of_isdigit {b : UInt8} (h : isdigit b = true) (r : List UInt8) :
    sign (b :: r) = (false, b :: r) := by
  unfold sign
  split
  · rename_i heq
    cases heq
    exact absurd h (by decide)
  · rename_i heq
    cases heq
    exact absurd h (by decide)
  · rfl

/-- A numeral has no white space at its head. -/
lemma Numeral.dropWhile_isspace {t : List UInt8} {z : ℤ} (h : Numeral t z) (rest : List UInt8) :
    (t ++ rest).dropWhile isspace = t ++ rest := by
  cases h with
  | plain hne hds =>
      obtain ⟨d, ds, rfl⟩ := List.exists_cons_of_ne_nil hne
      simp [isspace_of_isdigit (hds d (by simp))]
  | plus hne hds => rfl
  | minus hne hds => rfl

/-- **A numeral is read back**, up to the next byte that is no digit. -/
lemma scanInt_numeral {t : List UInt8} {z : ℤ} (h : Numeral t z) {rest : List UInt8}
    (hrest : NoDigitHead rest) : scanInt (t ++ rest) = some (z, rest) := by
  unfold scanInt
  rw [h.dropWhile_isspace]
  cases h with
  | plain hne hds =>
      obtain ⟨hT, hD⟩ := takeWhile_isdigit_append hds hrest
      have hs : sign (t ++ rest) = (false, t ++ rest) := by
        obtain ⟨d, ds, rfl⟩ := List.exists_cons_of_ne_nil hne
        exact sign_of_isdigit (hds d (by simp)) _
      simp [hs, hT, hD, hne]
  | plus hne hds =>
      obtain ⟨hT, hD⟩ := takeWhile_isdigit_append hds hrest
      simp [sign, hT, hD, hne]
  | minus hne hds =>
      obtain ⟨hT, hD⟩ := takeWhile_isdigit_append hds hrest
      simp [sign, hT, hD, hne]

/-- A numeral begins with a sign or a digit. -/
lemma Numeral.head_not_space {t : List UInt8} {z : ℤ} (h : Numeral t z) :
    ∀ b ∈ t.head?, isspace b = false := by
  cases h with
  | plain hne hds => exact fun b hb => isspace_of_isdigit (hds b (List.mem_of_mem_head? hb))
  | plus hne hds =>
      intro b hb
      obtain rfl : 43 = b := Option.some.inj hb
      decide
  | minus hne hds =>
      intro b hb
      obtain rfl : 45 = b := Option.some.inj hb
      decide

/-- A numeral has signs and digits only. -/
lemma Numeral.notMem {t : List UInt8} {z : ℤ} (h : Numeral t z) {c : UInt8}
    (hc : isdigit c = false) (hplus : c ≠ 43) (hminus : c ≠ 45) : c ∉ t := by
  have hds {ds : List UInt8} (hds : ∀ b ∈ ds, isdigit b = true) : c ∉ ds := by
    intro hmem
    rw [hds c hmem] at hc
    exact Bool.noConfusion hc
  cases h with
  | plain hne h => exact hds h
  | plus hne h => exact List.not_mem_cons_of_ne_of_not_mem hplus (hds h)
  | minus hne h => exact List.not_mem_cons_of_ne_of_not_mem hminus (hds h)

/-- A numeral has no NUL. -/
lemma Numeral.zero_notMem {t : List UInt8} {z : ℤ} (h : Numeral t z) : (0 : UInt8) ∉ t :=
  h.notMem (by decide) (by decide) (by decide)

lemma zero_notMem_intText (z : ℤ) : (0 : UInt8) ∉ intText z := (numeral_intText z).zero_notMem

lemma Numeral.ne_nil {t : List UInt8} {z : ℤ} (h : Numeral t z) : t ≠ [] := by
  cases h with
  | plain hne _ => exact hne
  | plus _ _ => exact List.cons_ne_nil _ _
  | minus _ _ => exact List.cons_ne_nil _ _

/-- A text is the numeral of one number only. -/
lemma Numeral.unique {t : List UInt8} {z z' : ℤ} (h : Numeral t z) (h' : Numeral t z') :
    z = z' := by
  have hs := scanInt_numeral h noDigitHead_nil
  rw [scanInt_numeral h' noDigitHead_nil] at hs
  simpa using hs.symm

/-- A numeral cut short is one of another number, nearer to 0, unless it is one of 0. -/
lemma Numeral.take {t : List UInt8} {z : ℤ} (h : Numeral t z) {n : ℕ} (hn : 2 ≤ n)
    (hlt : n < t.length) :
    ∃ z', Numeral (t.take n) z' ∧ min 0 z ≤ z' ∧ z' ≤ max 0 z ∧ (z' = z ↔ z = 0) := by
  have hcut {ds : List UInt8} {k : ℕ} (hk : 0 < k) (hlen : k < ds.length)
      (hds : ∀ b ∈ ds, isdigit b = true) :
      ds.take k ≠ [] ∧ ∀ b ∈ ds.take k, isdigit b = true := by
    refine ⟨fun h => ?_, fun b hb => hds b (List.mem_of_mem_take hb)⟩
    have hl := congrArg List.length h
    rw [List.length_take, List.length_nil] at hl
    omega
  obtain ⟨k, rfl⟩ : ∃ k, n = k + 1 := ⟨n - 1, by omega⟩
  cases h with
  | @plain ds hne hds =>
      obtain ⟨hle, hiff⟩ := digitsVal_take hlt
      obtain ⟨hne', hds'⟩ := hcut (by omega) hlt hds
      exact ⟨_, .plain hne' hds', by omega, by omega, by omega⟩
  | @plus ds hne hds =>
      have hlt' : k < ds.length := by simpa using hlt
      obtain ⟨hle, hiff⟩ := digitsVal_take hlt'
      obtain ⟨hne', hds'⟩ := hcut (by omega) hlt' hds
      exact ⟨_, .plus hne' hds', by omega, by omega, by omega⟩
  | @minus ds hne hds =>
      have hlt' : k < ds.length := by simpa using hlt
      obtain ⟨hle, hiff⟩ := digitsVal_take hlt'
      obtain ⟨hne', hds'⟩ := hcut (by omega) hlt' hds
      exact ⟨_, .minus hne' hds', by omega, by omega, by omega⟩

/-! ## Conversion to the machine's integers -/

/-- `z` is a value of a 32-bit `int`. -/
def IsInt (z : ℤ) : Prop := -2147483648 ≤ z ∧ z ≤ 2147483647

/-- An `int` prints in at most 11 bytes. -/
lemma length_intText_le {z : ℤ} (h : IsInt z) : (intText z).length ≤ 11 := by
  obtain ⟨h1, h2⟩ := h
  have hlen := length_natText_le (n := z.natAbs) (k := 10) (by norm_num) (by omega)
  unfold intText
  split
  · rw [List.length_cons]
    omega
  · omega

/-- The value `strtol` returns for a numeral of `z`: clamped to a 64-bit `long`. -/
def clampLong (z : ℤ) : ℤ := max (-9223372036854775808) (min z 9223372036854775807)

/-- The conversion of a `long` to `int`: modulo `2 ^ 32`. -/
def wrapInt (z : ℤ) : ℤ := Int.bmod z 4294967296

/-- What is wrapped is an `int`. -/
lemma isInt_wrapInt (z : ℤ) : IsInt (wrapInt z) := by
  unfold IsInt wrapInt
  rw [Int.bmod_def]
  split <;> omega

/-- An `int` is not wrapped. -/
lemma wrapInt_eq_self {z : ℤ} (h : IsInt z) : wrapInt z = z := by
  obtain ⟨hlow, hhigh⟩ := h
  exact Int.bmod_eq_of_le (by omega) (by omega)

/-- Behind the largest `int` there are the negative ones. -/
lemma wrapInt_neg {z : ℤ} (hlow : 2147483647 < z) (hhigh : z < 4294967296) : wrapInt z < 0 := by
  unfold wrapInt
  rw [Int.bmod_def]
  split_ifs with h <;> omega

/-- An `int` is neither clamped nor wrapped. -/
lemma wrapInt_clampLong {z : ℤ} (h : IsInt z) : wrapInt (clampLong z) = z := by
  obtain ⟨h1, h2⟩ := h
  have hc : clampLong z = z := by
    unfold clampLong
    omega
  rw [hc, wrapInt_eq_self ⟨h1, h2⟩]

/-- A number that survives is an `int`. -/
lemma wrapInt_clampLong_eq_iff (z : ℤ) : wrapInt (clampLong z) = z ↔ IsInt z := by
  constructor
  · intro h
    rw [← h]
    exact isInt_wrapInt _
  · exact wrapInt_clampLong

/-- `atoi`, as `(int)strtol(s, NULL, 10)`. -/
def atoi (mem : List UInt8) : ℤ :=
  match scanInt (cstr mem) with
  | none => 0
  | some (z, _) => wrapInt (clampLong z)

/-- `atoi` returns an `int`. -/
lemma isInt_atoi (mem : List UInt8) : IsInt (atoi mem) := by
  unfold atoi
  split
  · exact ⟨by decide, by decide⟩
  · exact isInt_wrapInt _

/-- `strtoul(s, NULL, 10)`: clamped to a 64-bit `unsigned long`; a minus sign negates modulo
`2 ^ 64`. -/
def strtoul (mem : List UInt8) : ℕ :=
  match scanInt (cstr mem) with
  | none => 0
  | some (z, _) => if z.natAbs < 2 ^ 64 then (z % 2 ^ 64).toNat else 2 ^ 64 - 1

/-- `atoi` reads a numeral of an `int`, whatever non-digit follows it. -/
lemma atoi_numeral {t : List UInt8} {z : ℤ} (h : Numeral t z) (hz : IsInt z)
    {mem rest : List UInt8} (hmem : cstr mem = t ++ rest) (hrest : NoDigitHead rest) :
    atoi mem = z := by
  unfold atoi
  rw [hmem, scanInt_numeral h hrest]
  exact wrapInt_clampLong hz

end Decimal
