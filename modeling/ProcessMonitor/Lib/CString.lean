import Mathlib.Data.List.TakeWhile
import Mathlib.Tactic

/-!
# C strings as byte lists

A `char` array is the list of its bytes; the C string it holds is what stands before the first
NUL (`cstr`), the end of the list counting as one. On these:

* the comparisons `strcmp`, `strncmp` and `strcasecmp`, all three read off one loop
  (`cmpBytes`) and one lemma about it (`cmpBytes_eq_zero_iff`);
* `strncpy`, with its NUL padding and its missing terminator (`take_cstr_strncpy`: the first `n`
  bytes of the copy always read like the source's first `n` bytes), and `strcpy`;
* `snprintf` into a buffer of a given size, as the text that ends up in it.

All of them are the functions of the C standard library, `strcasecmp` the one of POSIX; the
character classes are those of the "C" locale.
-/

namespace CString

/-! ## Bytes -/

/-- The bytes of a string literal of the source. -/
def bytes (s : String) : List UInt8 := s.toList.map fun c => UInt8.ofNat c.toNat

/-- A property of the bytes of a text is decided on these bytes, not on all 256. -/
instance decidableForallMem (p : UInt8 → Prop) [DecidablePred p] (s : List UInt8) :
    Decidable (∀ b ∈ s, p b) := List.decidableBAll p s

/-- The same for the first or the last byte of a text. -/
instance decidableForallMemOption (p : UInt8 → Prop) [DecidablePred p] (o : Option UInt8) :
    Decidable (∀ b ∈ o, p b) := Option.decidableForallMem o

/-- `isspace` in the "C" locale: blank, `\t`, `\n`, `\v`, `\f`, `\r`. -/
def isspace (b : UInt8) : Bool := b == 32 || (9 ≤ b && b ≤ 13)

/-- `isdigit`. -/
def isdigit (b : UInt8) : Bool := 48 ≤ b && b ≤ 57

/-- `tolower` in the "C" locale. -/
def tolower (b : UInt8) : UInt8 := if 65 ≤ b && b ≤ 90 then b + 32 else b

/-- Letter case has nothing to do with white space. -/
lemma isspace_tolower (b : UInt8) : isspace (tolower b) = isspace b := by
  unfold tolower
  split
  · rename_i h
    simp only [Bool.and_eq_true, decide_eq_true_eq, UInt8.le_iff_toNat_le] at h
    obtain ⟨h1, h2⟩ := h
    have h65 : (65 : UInt8).toNat = 65 := rfl
    have h90 : (90 : UInt8).toNat = 90 := rfl
    have hadd : (b + 32).toNat = b.toNat + 32 := by
      rw [UInt8.toNat_add]
      have h32 : (32 : UInt8).toNat = 32 := rfl
      omega
    have hno {c : UInt8} (hc : 33 ≤ c.toNat) : isspace c = false := by
      have h32 : (32 : UInt8).toNat = 32 := rfl
      have h13 : (13 : UInt8).toNat = 13 := rfl
      simp only [isspace, Bool.or_eq_false_iff, beq_eq_false_iff_ne, Bool.and_eq_false_iff,
        decide_eq_false_iff_not, UInt8.le_iff_toNat_le]
      refine ⟨fun e => ?_, Or.inr (by omega)⟩
      rw [e] at hc
      omega
    rw [hno (by omega), hno (by omega)]
  · rfl

/-- A digit is no white space. -/
lemma isspace_of_isdigit {b : UInt8} (h : isdigit b = true) : isspace b = false := by
  unfold isdigit at h
  unfold isspace
  simp only [Bool.and_eq_true, decide_eq_true_eq, UInt8.le_iff_toNat_le] at h
  simp only [Bool.or_eq_false_iff, Bool.and_eq_false_iff, decide_eq_false_iff_not,
    UInt8.le_iff_toNat_le, beq_eq_false_iff_ne, ne_eq, ← UInt8.toNat_inj]
  simp only [UInt8.reduceToNat] at h ⊢
  omega

/-! ## The string in an array -/

/-- The C string that starts at the head of an array: the bytes before the first NUL. -/
def cstr (mem : List UInt8) : List UInt8 := mem.takeWhile (· ≠ 0)

/-- `strlen`. -/
def strlen (mem : List UInt8) : ℕ := (cstr mem).length

/-- A C string has no NUL. -/
lemma zero_notMem_cstr (mem : List UInt8) : (0 : UInt8) ∉ cstr mem := by
  intro h
  simpa using List.mem_takeWhile_imp h

/-- Bytes without a NUL are their own C string. -/
lemma cstr_eq_self {s : List UInt8} (h : (0 : UInt8) ∉ s) : cstr s = s := by
  rw [cstr, List.takeWhile_eq_self_iff]
  intro x hx
  have : x ≠ 0 := fun h0 => h (h0 ▸ hx)
  simpa using this

/-- Every byte of the string stands in the array. -/
lemma mem_of_mem_cstr {mem : List UInt8} {b : UInt8} (h : b ∈ cstr mem) : b ∈ mem :=
  (List.takeWhile_prefix _).subset h

/-- A NUL ends the string, whatever follows it. -/
lemma cstr_append_zero {s : List UInt8} (h : (0 : UInt8) ∉ s) (rest : List UInt8) :
    cstr (s ++ 0 :: rest) = s := by
  unfold cstr
  rw [List.takeWhile_append_of_pos]
  · simp
  · intro x hx
    have : x ≠ 0 := fun h0 => h (h0 ▸ hx)
    simpa using this

/-- Without a NUL in it, a first part belongs to the string. -/
lemma cstr_append {s : List UInt8} (h : (0 : UInt8) ∉ s) (rest : List UInt8) :
    cstr (s ++ rest) = s ++ cstr rest := by
  unfold cstr
  rw [List.takeWhile_append_of_pos]
  intro x hx
  have : x ≠ 0 := fun h0 => h (h0 ▸ hx)
  simpa using this

/-- An array of NULs holds the empty string. -/
@[simp] lemma cstr_replicate_zero (n : ℕ) : cstr (List.replicate n 0) = [] := by
  cases n <;> simp [cstr, List.replicate_succ]

/-! ## Comparisons -/

/-- The comparison loop behind `strcmp` and its relatives, on two strings already cut at their
NUL: the difference of the first two bytes that `f` tells apart. -/
def cmpBytes (f : UInt8 → UInt8) : List UInt8 → List UInt8 → ℤ
  | [], [] => 0
  | [], b :: _ => -(f b).toNat
  | a :: _, [] => (f a).toNat
  | a :: as, b :: bs => if f a = f b then cmpBytes f as bs else (f a).toNat - (f b).toNat

/-- `strcmp`. -/
def strcmp (a b : List UInt8) : ℤ := cmpBytes id (cstr a) (cstr b)

/-- `strncmp`: at most `n` bytes of each string are looked at. -/
def strncmp (a b : List UInt8) (n : ℕ) : ℤ := cmpBytes id ((cstr a).take n) ((cstr b).take n)

/-- `strcasecmp`. -/
def strcasecmp (a b : List UInt8) : ℤ := cmpBytes tolower (cstr a) (cstr b)

/-- The loop returns `0` exactly on strings that `f` maps to the same bytes, provided `f` maps
no byte of them to NUL. -/
lemma cmpBytes_eq_zero_iff {f : UInt8 → UInt8} :
    ∀ {a b : List UInt8}, (∀ x ∈ a, f x ≠ 0) → (∀ x ∈ b, f x ≠ 0) →
      (cmpBytes f a b = 0 ↔ a.map f = b.map f)
  | [], [], _, _ => by simp [cmpBytes]
  | [], b :: bs, _, hb => by
      have h0 : (f b).toNat ≠ 0 := fun h => hb b (by simp) (UInt8.toNat_inj.mp (by simpa using h))
      simp [cmpBytes, h0]
  | a :: as, [], ha, _ => by
      have h0 : (f a).toNat ≠ 0 := fun h => ha a (by simp) (UInt8.toNat_inj.mp (by simpa using h))
      simp [cmpBytes, h0]
  | a :: as, b :: bs, ha, hb => by
      have ih := cmpBytes_eq_zero_iff (a := as) (b := bs)
        (fun x hx => ha x (by simp [hx])) (fun x hx => hb x (by simp [hx]))
      by_cases hab : f a = f b
      · simp [cmpBytes, hab, ih]
      · have hne : (f a).toNat ≠ (f b).toNat := fun h => hab (UInt8.toNat_inj.mp h)
        simp only [cmpBytes, hab, if_false, List.map_cons, List.cons.injEq, false_and, iff_false]
        omega

/-- `strcmp` is `0` exactly on equal strings. -/
lemma strcmp_eq_zero_iff (a b : List UInt8) : strcmp a b = 0 ↔ cstr a = cstr b := by
  unfold strcmp
  rw [cmpBytes_eq_zero_iff]
  · simp
  · intro x hx h0
    exact zero_notMem_cstr a (h0 ▸ hx)
  · intro x hx h0
    exact zero_notMem_cstr b (h0 ▸ hx)

/-- `strncmp` is `0` exactly on strings with the same first `n` bytes. -/
lemma strncmp_eq_zero_iff (a b : List UInt8) (n : ℕ) :
    strncmp a b n = 0 ↔ (cstr a).take n = (cstr b).take n := by
  unfold strncmp
  rw [cmpBytes_eq_zero_iff]
  · simp
  · intro x hx h0
    exact zero_notMem_cstr a (h0 ▸ List.mem_of_mem_take hx)
  · intro x hx h0
    exact zero_notMem_cstr b (h0 ▸ List.mem_of_mem_take hx)

/-- `tolower` keeps a byte away from NUL. -/
lemma tolower_ne_zero {b : UInt8} (h : b ≠ 0) : tolower b ≠ 0 := by
  unfold tolower
  split
  · rename_i hb
    simp only [Bool.and_eq_true, decide_eq_true_eq, UInt8.le_iff_toNat_le,
      UInt8.reduceToNat] at hb
    intro h0
    have := congrArg UInt8.toNat h0
    simp only [UInt8.toNat_add, UInt8.reduceToNat] at this
    omega
  · exact h

/-- `strcasecmp` is `0` exactly on strings equal up to the case of their letters. -/
lemma strcasecmp_eq_zero_iff (a b : List UInt8) :
    strcasecmp a b = 0 ↔ (cstr a).map tolower = (cstr b).map tolower := by
  unfold strcasecmp
  rw [cmpBytes_eq_zero_iff]
  · intro x hx
    exact tolower_ne_zero fun h0 => zero_notMem_cstr a (h0 ▸ hx)
  · intro x hx
    exact tolower_ne_zero fun h0 => zero_notMem_cstr b (h0 ▸ hx)

/-! ## Copying and printing -/

/-- `strncpy(dst, src, n)`: the first `n` bytes of `src`, NULs up to `n` when it is shorter, and
no terminator when it is not; the bytes of `dst` behind them stay. -/
def strncpy (dst src : List UInt8) (n : ℕ) : List UInt8 :=
  ((cstr src).take n).rightpad n 0 ++ dst.drop n

/-- The copy keeps the array's size when `n` fits in it. -/
lemma length_strncpy {dst : List UInt8} (src : List UInt8) {n : ℕ} (h : n ≤ dst.length) :
    (strncpy dst src n).length = dst.length := by
  simp only [strncpy, List.length_append, List.rightpad, List.length_replicate, List.length_take,
    List.length_drop]
  omega

/-- A source shorter than `n` is copied as a C string. -/
lemma cstr_strncpy_of_lt {src : List UInt8} {n : ℕ} (dst : List UInt8)
    (h : (cstr src).length < n) : cstr (strncpy dst src n) = cstr src := by
  have hpad : n - (cstr src).length = (n - (cstr src).length - 1) + 1 := by omega
  unfold strncpy List.rightpad
  rw [List.take_of_length_le h.le, hpad, List.replicate_succ, List.append_assoc,
    List.cons_append]
  exact cstr_append_zero (zero_notMem_cstr src) _

/-- A source of `n` bytes or more fills the first `n` bytes of the array without a NUL. -/
lemma cstr_strncpy_of_ge {src : List UInt8} {n : ℕ} (dst : List UInt8)
    (h : n ≤ (cstr src).length) :
    cstr (strncpy dst src n) = (cstr src).take n ++ cstr (dst.drop n) := by
  have hlen : ((cstr src).take n).length = n := by simpa using h
  unfold strncpy List.rightpad
  rw [hlen, Nat.sub_self, List.replicate_zero, List.append_nil]
  exact cstr_append (fun h0 => zero_notMem_cstr src (List.mem_of_mem_take h0)) _

/-- On its first `n` bytes the copy reads like the source, terminated or not. -/
lemma take_cstr_strncpy (dst src : List UInt8) (n : ℕ) :
    (cstr (strncpy dst src n)).take n = (cstr src).take n := by
  rcases Nat.lt_or_ge (cstr src).length n with h | h
  · rw [cstr_strncpy_of_lt dst h]
  · have hlen : ((cstr src).take n).length = n := by simpa using h
    rw [cstr_strncpy_of_ge dst h, List.take_append_of_le_length hlen.ge,
      List.take_of_length_le hlen.le]

/-- The usual copy into an array of `n + 1` bytes, with a terminator set behind it. -/
lemma cstr_strncpy_set {dst : List UInt8} (src : List UInt8) {n : ℕ} (h : n < dst.length) :
    cstr ((strncpy dst src n).set n 0) = (cstr src).take n := by
  have h0 : (0 : UInt8) ∉ (cstr src).take n := fun hmem =>
    zero_notMem_cstr src (List.mem_of_mem_take hmem)
  have hpad : (((cstr src).take n).rightpad n 0).length = n := by
    rw [List.length_rightpad, List.length_take]
    omega
  obtain ⟨b, rest, hrest⟩ := List.exists_cons_of_length_pos
    (l := dst.drop n) (by rw [List.length_drop]; omega)
  rw [strncpy, hrest, List.set_append_right _ _ hpad.le, hpad, Nat.sub_self, List.set_cons_zero,
    List.rightpad, List.append_assoc, cstr_append h0]
  -- what follows the copy begins with a NUL, be it the padding's or the terminator
  have hnul (k : ℕ) : cstr (List.replicate k 0 ++ 0 :: rest) = [] := by
    cases k <;> simp [cstr, List.replicate_succ]
  rw [hnul, List.append_nil]

/-- `strcpy(dst, src)` into an array that has room for `src`. -/
def strcpy (dst src : List UInt8) : List UInt8 :=
  cstr src ++ 0 :: dst.drop ((cstr src).length + 1)

/-- The copy keeps the array's size when `src` fits in it. -/
lemma length_strcpy {dst src : List UInt8} (h : (cstr src).length < dst.length) :
    (strcpy dst src).length = dst.length := by
  simp only [strcpy, List.length_append, List.length_cons, List.length_drop]
  omega

/-- What `snprintf(buf, size, ...)` leaves in `buf` of the text it formats: the text, cut so
that the terminator still fits. -/
def snprintf (size : ℕ) (text : List UInt8) : List UInt8 := text.take (size - 1)

/-- A text that fits is left whole. -/
lemma snprintf_eq_self {size : ℕ} {text : List UInt8} (h : text.length < size) :
    snprintf size text = text := List.take_of_length_le (by omega)

/-- What is printed leaves room for the terminator. -/
lemma length_snprintf_le (size : ℕ) (text : List UInt8) :
    (snprintf size text).length ≤ size - 1 := List.length_take_le _ _

end CString
