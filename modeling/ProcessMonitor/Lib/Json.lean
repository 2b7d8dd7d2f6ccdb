import ProcessMonitor.Lib.Decimal

/-!
# Flat JSON objects, and lines printed as such

The grammar of JSON objects whose values are strings and numbers, on bytes in UTF-8: what is
between the quotes of a string stands for its value (`StringBody`), and `IsObject members text` says
that `text` is an object with these members in this order.

A program that builds an object with a format prints a string either as it is or escaped
(`Printed`, `objectText`). `isObject_objectText_iff` is the law: such a text is the object it is
meant to be exactly if the strings printed as they are are `Plain`, that is UTF-8 without a quote, a
backslash or a control character. The proof is by length: a string takes at least `cost` bytes
between its quotes, and its own length only if it is plain.
-/

namespace Json

open CString Decimal

/-! ## Characters -/

/-- A character that a string may show as it is. -/
def Unescaped (c : Char) : Prop := 32 ≤ c.toNat ∧ c.toNat ≠ 34 ∧ c.toNat ≠ 92

/-- A text in UTF-8 of such characters. -/
def Plain (v : List UInt8) : Prop :=
  ∃ cs : List Char, v = cs.flatMap String.utf8EncodeChar ∧ ∀ c ∈ cs, Unescaped c

/-- A byte that must be escaped. -/
def special (b : UInt8) : Bool := b == 34 || b == 92 || b < 32

/-- The least number of bytes for a string between its quotes. -/
def cost (v : List UInt8) : ℕ := (v.map fun b => if special b then 2 else 1).sum

@[simp] lemma cost_nil : cost [] = 0 := rfl

lemma cost_cons (b : UInt8) (v : List UInt8) :
    cost (b :: v) = (if special b then 2 else 1) + cost v := rfl

lemma cost_append (v v' : List UInt8) : cost (v ++ v') = cost v + cost v' := by
  simp only [cost, List.map_append, List.sum_append]

lemma length_le_cost (v : List UInt8) : v.length ≤ cost v := by
  induction v with
  | nil => rfl
  | cons b v ih =>
      rw [cost_cons, List.length_cons]
      split_ifs <;> omega

/-- Without special bytes the cost is the length. -/
lemma cost_eq_length {v : List UInt8} (h : ∀ b ∈ v, special b = false) : cost v = v.length := by
  induction v with
  | nil => rfl
  | cons b v ih =>
      rw [List.forall_mem_cons] at h
      rw [cost_cons, h.1, ih h.2, List.length_cons]
      exact Nat.add_comm ..

/-- The bytes of a character: itself below 128, and else bytes of 128 or more, at most four. -/
lemma utf8EncodeChar_cases (c : Char) :
    (c.toNat < 128 ∧ String.utf8EncodeChar c = [UInt8.ofNat c.toNat]) ∨
      (128 ≤ c.toNat ∧ (String.utf8EncodeChar c).length ≤ 4 ∧
        ∀ b ∈ String.utf8EncodeChar c, 128 ≤ b.toNat) := by
  have hbyte {n : ℕ} (hlow : 128 ≤ n) (hhigh : n < 256) : 128 ≤ (UInt8.ofNat n).toNat := by
    rw [UInt8.toNat_ofNat', Nat.mod_eq_of_lt hhigh]
    exact hlow
  fun_cases String.utf8EncodeChar c with
  | case1 n h => exact Or.inl ⟨Nat.lt_succ_of_le h, rfl⟩
  | case2 n h1 h2 =>
      refine Or.inr ⟨Nat.lt_of_not_le h1, by simp, ?_⟩
      simp only [List.forall_mem_cons, List.not_mem_nil, false_imp_iff, implies_true, and_true]
      exact ⟨hbyte (by omega) (by omega), hbyte (by omega) (by omega)⟩
  | case3 n h1 h2 h3 =>
      refine Or.inr ⟨Nat.lt_of_not_le h1, by simp, ?_⟩
      simp only [List.forall_mem_cons, List.not_mem_nil, false_imp_iff, implies_true, and_true]
      exact ⟨hbyte (by omega) (by omega), hbyte (by omega) (by omega),
        hbyte (by omega) (by omega)⟩
  | case4 n h1 h2 h3 =>
      refine Or.inr ⟨Nat.lt_of_not_le h1, by simp, ?_⟩
      simp only [List.forall_mem_cons, List.not_mem_nil, false_imp_iff, implies_true, and_true]
      exact ⟨hbyte (by omega) (by omega), hbyte (by omega) (by omega),
        hbyte (by omega) (by omega), hbyte (by omega) (by omega)⟩

/-- A byte from 128 on need not be escaped. -/
lemma special_eq_false {b : UInt8} (h32 : 32 ≤ b.toNat) (h34 : b.toNat ≠ 34)
    (h92 : b.toNat ≠ 92) : special b = false := by
  simp only [special, Bool.or_eq_false_iff, beq_eq_false_iff_ne, decide_eq_false_iff_not, ne_eq,
    ← UInt8.toNat_inj, UInt8.lt_iff_toNat_lt, UInt8.reduceToNat]
  omega

/-- A character that is shown as it is has no special bytes. -/
lemma special_utf8 {c : Char} (hc : Unescaped c) :
    ∀ b ∈ String.utf8EncodeChar c, 32 ≤ b.toNat ∧ special b = false := by
  obtain ⟨h32, h34, h92⟩ := hc
  intro b hb
  rcases utf8EncodeChar_cases c with ⟨hlt, heq⟩ | ⟨-, -, hhigh⟩
  · rw [heq, List.mem_singleton] at hb
    have hnat : b.toNat = c.toNat := by
      rw [hb, UInt8.toNat_ofNat', Nat.mod_eq_of_lt (by omega)]
    exact ⟨by omega, special_eq_false (by omega) (by omega) (by omega)⟩
  · have hb128 := hhigh b hb
    exact ⟨by omega, special_eq_false (by omega) (by omega) (by omega)⟩

/-- A character costs four bytes at most. -/
lemma cost_utf8_le (c : Char) : cost (String.utf8EncodeChar c) ≤ 4 := by
  rcases utf8EncodeChar_cases c with ⟨-, heq⟩ | ⟨-, hlen, hhigh⟩
  · rw [heq, cost_cons, cost_nil]
    split_ifs <;> omega
  · have hspecial : ∀ b ∈ String.utf8EncodeChar c, special b = false := by
      intro b hb
      have hb128 := hhigh b hb
      exact special_eq_false (by omega) (by omega) (by omega)
    rw [cost_eq_length hspecial]
    exact hlen

/-! ## Plain texts -/

lemma plain_nil : Plain [] := ⟨[], rfl, fun _ hc => absurd hc List.not_mem_nil⟩

lemma Plain.append {v v' : List UInt8} (h : Plain v) (h' : Plain v') : Plain (v ++ v') := by
  obtain ⟨cs, rfl, hcs⟩ := h
  obtain ⟨cs', rfl, hcs'⟩ := h'
  refine ⟨cs ++ cs', (List.flatMap_append ..).symm, ?_⟩
  intro c hc
  rcases List.mem_append.mp hc with hc | hc
  · exact hcs c hc
  · exact hcs' c hc

/-- The bytes of a plain text are neither control characters nor special. -/
lemma Plain.special_eq_false {v : List UInt8} (h : Plain v) :
    ∀ b ∈ v, 32 ≤ b.toNat ∧ special b = false := by
  obtain ⟨cs, rfl, hcs⟩ := h
  intro b hb
  obtain ⟨c, hc, hbc⟩ := List.mem_flatMap.mp hb
  exact special_utf8 (hcs c hc) b hbc

/-- A byte of ASCII that may be shown as it is. -/
def plainByte (b : UInt8) : Bool := 32 ≤ b && b ≤ 126 && b != 34 && b != 92

/-- Such a byte is a character of its own. -/
lemma exists_utf8_of_plainByte {b : UInt8} (h : plainByte b = true) :
    ∃ c, Unescaped c ∧ String.utf8EncodeChar c = [b] := by
  simp only [plainByte, Bool.and_eq_true, decide_eq_true_eq, UInt8.le_iff_toNat_le,
    UInt8.reduceToNat, bne_iff_ne, ne_eq, ← UInt8.toNat_inj] at h
  have hvalid : b.toNat.isValidChar := Or.inl (by omega)
  have hnat : (Char.ofNat b.toNat).toNat = b.toNat := by
    rw [Char.ofNat, dif_pos hvalid]
    rfl
  refine ⟨Char.ofNat b.toNat, ?_, ?_⟩
  · rw [Unescaped, hnat]
    omega
  · rcases utf8EncodeChar_cases (Char.ofNat b.toNat) with ⟨-, heq⟩ | ⟨hge, -⟩
    · rw [heq, hnat, UInt8.ofNat_toNat]
    · omega

/-- Texts of such bytes are plain. -/
lemma plain_of_ascii {v : List UInt8} (h : ∀ b ∈ v, plainByte b = true) : Plain v := by
  induction v with
  | nil => exact plain_nil
  | cons b v ih =>
      rw [List.forall_mem_cons] at h
      obtain ⟨c, hc, hutf8⟩ := exists_utf8_of_plainByte h.1
      obtain ⟨cs, hv, hcs⟩ := ih h.2
      refine ⟨c :: cs, ?_, List.forall_mem_cons.mpr ⟨hc, hcs⟩⟩
      rw [List.flatMap_cons, hutf8, hv]
      rfl

lemma plainByte_of_isdigit {b : UInt8} (h : isdigit b = true) : plainByte b = true := by
  simp only [isdigit, Bool.and_eq_true, decide_eq_true_eq, UInt8.le_iff_toNat_le,
    UInt8.reduceToNat] at h
  simp only [plainByte, Bool.and_eq_true, decide_eq_true_eq, UInt8.le_iff_toNat_le,
    UInt8.reduceToNat, bne_iff_ne, ne_eq, ← UInt8.toNat_inj]
  omega

/-- What `%d` prints is plain. -/
lemma plain_intText (z : ℤ) : Plain (intText z) := by
  have hnat : ∀ b ∈ natText z.natAbs, plainByte b = true := fun b hb =>
    plainByte_of_isdigit (isdigit_of_mem_natText hb)
  unfold intText
  split_ifs
  · exact plain_of_ascii (List.forall_mem_cons.mpr ⟨by decide, hnat⟩)
  · exact plain_of_ascii hnat

/-- What `%02d` prints is plain. -/
lemma plain_twoDigits (n : ℕ) : Plain (twoDigits n) := by
  refine plain_of_ascii ?_
  simp only [twoDigits, List.forall_mem_cons, List.not_mem_nil, false_imp_iff, implies_true,
    and_true]
  exact ⟨plainByte_of_isdigit (isdigit_digit (by omega)),
    plainByte_of_isdigit (isdigit_digit (by omega))⟩

/-- What `%lx` prints is plain. -/
lemma plain_hexText (n : ℕ) : Plain (hexText n) := by
  unfold hexText
  split_ifs
  · exact plain_of_ascii (by decide)
  · refine plain_of_ascii ?_
    intro b hb
    obtain ⟨d, hd, rfl⟩ := List.mem_map.mp hb
    have hlt : d < 16 := Nat.digits_lt_base (by norm_num) (List.mem_reverse.mp hd)
    interval_cases d <;> rfl

/-! ## Strings -/

/-- The bytes with an escape of two characters, each with the second one. -/
def shortEscapes : List (UInt8 × UInt8) :=
  [(34, 34), (92, 92), (47, 47), (8, 98), (12, 102), (10, 110), (13, 114), (9, 116)]

/-- A hexadecimal digit. -/
def isxdigit (b : UInt8) : Bool := isdigit b || (65 ≤ b && b ≤ 70) || (97 ≤ b && b ≤ 102)

/-- The value of a hexadecimal digit. -/
def xdigitVal (b : UInt8) : ℕ :=
  if isdigit b then b.toNat - 48 else if b ≤ 70 then b.toNat - 55 else b.toNat - 87

/-- Four hexadecimal digits of this value. -/
def Hex4 (ds : List UInt8) (n : ℕ) : Prop :=
  ds.length = 4 ∧ (∀ b ∈ ds, isxdigit b = true) ∧ Nat.ofDigits 16 (ds.reverse.map xdigitVal) = n

/-- `t` between quotes is a string of the value `v`. -/
inductive StringBody : List UInt8 → List UInt8 → Prop
  | nil : StringBody [] []
  /-- A character as it is. -/
  | char {c : Char} {v t : List UInt8} (hc : Unescaped c) (h : StringBody v t) :
      StringBody (String.utf8EncodeChar c ++ v) (String.utf8EncodeChar c ++ t)
  /-- A backslash and another byte. -/
  | short {b l : UInt8} {v t : List UInt8} (hb : (b, l) ∈ shortEscapes) (h : StringBody v t) :
      StringBody (b :: v) (92 :: l :: t)
  /-- A character by its number. -/
  | unicode {c : Char} {ds v t : List UInt8} (hds : Hex4 ds c.toNat) (h : StringBody v t) :
      StringBody (String.utf8EncodeChar c ++ v) (92 :: 117 :: (ds ++ t))
  /-- A character by the numbers of its two surrogates. -/
  | surrogates {c : Char} {hi lo : ℕ} {ds ds' v t : List UInt8} (hds : Hex4 ds hi)
      (hds' : Hex4 ds' lo) (hhi : 0xD800 ≤ hi ∧ hi < 0xDC00) (hlo : 0xDC00 ≤ lo ∧ lo < 0xE000)
      (hc : c.toNat = 0x10000 + (hi - 0xD800) * 0x400 + (lo - 0xDC00)) (h : StringBody v t) :
      StringBody (String.utf8EncodeChar c ++ v) (92 :: 117 :: (ds ++ 92 :: 117 :: (ds' ++ t)))

/-- A plain text may stand as it is. -/
lemma Plain.stringBody {v : List UInt8} (h : Plain v) : StringBody v v := by
  obtain ⟨cs, rfl, hcs⟩ := h
  induction cs with
  | nil => exact .nil
  | cons c cs ih =>
      rw [List.forall_mem_cons] at hcs
      exact .char hcs.1 (ih hcs.2)

/-- A string between its quotes takes at least its cost. -/
lemma StringBody.cost_le {v t : List UInt8} (h : StringBody v t) : cost v ≤ t.length := by
  induction h with
  | nil => rfl
  | char hc _ ih =>
      have hcost := cost_eq_length fun b hb => (special_utf8 hc b hb).2
      rw [cost_append, List.length_append, hcost]
      omega
  | @short b l v t hb _ ih =>
      rw [cost_cons, List.length_cons, List.length_cons]
      split_ifs <;> omega
  | @unicode c ds v t hds _ ih =>
      have hcost := cost_utf8_le c
      simp only [cost_append, List.length_cons, List.length_append, hds.1]
      omega
  | @surrogates c hi lo ds ds' v t hds hds' _ _ _ _ ih =>
      have hcost := cost_utf8_le c
      simp only [cost_append, List.length_cons, List.length_append, hds.1, hds'.1]
      omega

/-- **Only a plain text stands in as many bytes as it has.** -/
lemma StringBody.plain {v t : List UInt8} (h : StringBody v t) (hlen : t.length = v.length) :
    Plain v := by
  induction h with
  | nil => exact plain_nil
  | @char c v t hc _ ih =>
      rw [List.length_append, List.length_append] at hlen
      obtain ⟨cs, hv, hcs⟩ := ih (by omega)
      refine ⟨c :: cs, ?_, List.forall_mem_cons.mpr ⟨hc, hcs⟩⟩
      rw [List.flatMap_cons, hv]
  | @short b l v t hb h _ =>
      have hle := (length_le_cost v).trans h.cost_le
      simp only [List.length_cons] at hlen
      omega
  | @unicode c ds v t hds h _ =>
      have hle := (length_le_cost v).trans h.cost_le
      have hc := (length_le_cost _).trans (cost_utf8_le c)
      simp only [List.length_cons, List.length_append, hds.1] at hlen
      omega
  | @surrogates c hi lo ds ds' v t hds hds' _ _ _ h _ =>
      have hle := (length_le_cost v).trans h.cost_le
      have hc := (length_le_cost _).trans (cost_utf8_le c)
      simp only [List.length_cons, List.length_append, hds.1, hds'.1] at hlen
      omega

lemma toNat_of_isxdigit {b : UInt8} (h : isxdigit b = true) : 32 ≤ b.toNat := by
  simp only [isxdigit, isdigit, Bool.or_eq_true, Bool.and_eq_true, decide_eq_true_eq,
    UInt8.le_iff_toNat_le, UInt8.reduceToNat] at h
  omega

/-- There is no control character between the quotes of a string. -/
lemma StringBody.le_of_mem {v t : List UInt8} (h : StringBody v t) : ∀ b ∈ t, 32 ≤ b.toNat := by
  have hslash : 32 ≤ (92 : UInt8).toNat ∧ 32 ≤ (117 : UInt8).toNat := by decide
  induction h with
  | nil => exact fun b hb => absurd hb List.not_mem_nil
  | char hc _ ih =>
      exact List.forall_mem_append.mpr ⟨fun b hb => (special_utf8 hc b hb).1, ih⟩
  | @short b l v t hb _ ih =>
      have hletters : shortEscapes.all (fun p => 32 ≤ p.2.toNat) = true := by decide
      have hletter := of_decide_eq_true (List.all_eq_true.mp hletters (b, l) hb)
      exact List.forall_mem_cons.mpr ⟨hslash.1, List.forall_mem_cons.mpr ⟨hletter, ih⟩⟩
  | unicode hds _ ih =>
      refine List.forall_mem_cons.mpr ⟨hslash.1, List.forall_mem_cons.mpr ⟨hslash.2, ?_⟩⟩
      exact List.forall_mem_append.mpr ⟨fun b hb => toNat_of_isxdigit (hds.2.1 b hb), ih⟩
  | surrogates hds hds' _ _ _ _ ih =>
      refine List.forall_mem_cons.mpr ⟨hslash.1, List.forall_mem_cons.mpr ⟨hslash.2, ?_⟩⟩
      refine List.forall_mem_append.mpr ⟨fun b hb => toNat_of_isxdigit (hds.2.1 b hb), ?_⟩
      refine List.forall_mem_cons.mpr ⟨hslash.1, List.forall_mem_cons.mpr ⟨hslash.2, ?_⟩⟩
      exact List.forall_mem_append.mpr ⟨fun b hb => toNat_of_isxdigit (hds'.2.1 b hb), ih⟩

/-! ### The value of a string -/

section value

variable {b l : UInt8} {v t : List UInt8}

/-- The first byte of a character that is shown as it is. -/
lemma utf8_eq_cons {c : Char} {rest tail : List UInt8}
    (h : b :: tail = String.utf8EncodeChar c ++ rest) :
    b ∈ String.utf8EncodeChar c := by
  cases hc : String.utf8EncodeChar c with
  | nil => exact absurd hc String.utf8EncodeChar_ne_nil
  | cons b' bs =>
      rw [hc, List.cons_append] at h
      rw [(List.cons.inj h).1]
      exact List.mem_cons_self ..

/-- An empty text has the empty value. -/
lemma StringBody.eq_nil (h : StringBody v []) : v = [] := by
  generalize htext : ([] : List UInt8) = text at h
  cases h with
  | nil => rfl
  | char _ _ => exact absurd (List.append_eq_nil_iff.mp htext.symm).1 String.utf8EncodeChar_ne_nil
  | _ => cases htext

/-- A byte of ASCII that is shown as it is stands for itself. -/
lemma StringBody.of_plainByte (hb : plainByte b = true) (h : StringBody v (b :: t)) :
    ∃ v', v = b :: v' ∧ StringBody v' t := by
  simp only [plainByte, Bool.and_eq_true, decide_eq_true_eq, UInt8.le_iff_toNat_le,
    UInt8.reduceToNat, bne_iff_ne, ne_eq] at hb
  generalize htext : b :: t = text at h
  cases h with
  | nil => cases htext
  | @char c v' t' hc h' =>
      have hmem := utf8_eq_cons htext
      rcases utf8EncodeChar_cases c with ⟨-, heq⟩ | ⟨-, -, hhigh⟩
      · rw [heq, List.singleton_append] at htext ⊢
        obtain ⟨rfl, rfl⟩ := List.cons.inj htext
        exact ⟨v', rfl, h'⟩
      · have hb128 := hhigh b hmem
        omega
  | _ => exact absurd (List.cons.inj htext).1 hb.2

/-- A backslash and a letter stand for one byte. -/
lemma StringBody.of_short (hl : (b, l) ∈ shortEscapes) (h : StringBody v (92 :: l :: t)) :
    ∃ v', v = b :: v' ∧ StringBody v' t := by
  have hu : l ≠ 117 := by
    rintro rfl
    revert hl
    simp [shortEscapes]
  generalize htext : 92 :: l :: t = text at h
  cases h with
  | nil => cases htext
  | @char c v' t' hc h' =>
      have hspecial := (special_utf8 hc 92 (utf8_eq_cons htext)).2
      exact absurd hspecial (by decide)
  | @short b' l' v' t' hl' h' =>
      obtain ⟨rfl, rfl⟩ := List.cons.inj (List.cons.inj htext).2
      obtain rfl : b' = b := by
        revert hl hl'
        simp only [shortEscapes, List.mem_cons, Prod.mk.injEq, List.not_mem_nil, or_false]
        rintro (⟨rfl, rfl⟩ | ⟨rfl, rfl⟩ | ⟨rfl, rfl⟩ | ⟨rfl, rfl⟩ | ⟨rfl, rfl⟩ | ⟨rfl, rfl⟩ |
          ⟨rfl, rfl⟩ | ⟨rfl, rfl⟩) <;> simp
      exact ⟨v', rfl, h'⟩
  | _ => exact absurd (List.cons.inj (List.cons.inj htext).2).1 hu

end value

/-! ## Numbers -/

/-- A run of digits, at least one. -/
def Digits (ds : List UInt8) : Prop := ds ≠ [] ∧ ∀ b ∈ ds, isdigit b = true

/-- The integer part of a number: digits without leading zeros. -/
def IntPart (ds : List UInt8) : Prop := Digits ds ∧ (ds = [48] ∨ ds.head? ≠ some 48)

/-- A number: a minus sign or none, an integer part, and perhaps a fraction and an exponent. -/
def Number (t : List UInt8) : Prop :=
  ∃ minus int frac exp, t = minus ++ (int ++ (frac ++ exp)) ∧
    (minus = [] ∨ minus = [45]) ∧ IntPart int ∧
    (frac = [] ∨ ∃ ds, frac = 46 :: ds ∧ Digits ds) ∧
    (exp = [] ∨ ∃ e sign ds, exp = e :: (sign ++ ds) ∧ (e = 69 ∨ e = 101) ∧
      (sign = [] ∨ sign = [43] ∨ sign = [45]) ∧ Digits ds)

lemma Digits.le_of_mem {ds : List UInt8} (h : Digits ds) : ∀ b ∈ ds, 32 ≤ b.toNat := by
  intro b hb
  have hdigit := h.2 b hb
  simp only [isdigit, Bool.and_eq_true, decide_eq_true_eq, UInt8.le_iff_toNat_le,
    UInt8.reduceToNat] at hdigit
  omega

/-- There is no control character in a number. -/
lemma Number.le_of_mem {t : List UInt8} (h : Number t) : ∀ b ∈ t, 32 ≤ b.toNat := by
  obtain ⟨minus, int, frac, exp, rfl, hminus, hint, hfrac, hexp⟩ := h
  refine List.forall_mem_append.mpr ⟨?_, List.forall_mem_append.mpr ⟨hint.1.le_of_mem,
    List.forall_mem_append.mpr ⟨?_, ?_⟩⟩⟩
  · rcases hminus with rfl | rfl
    · simp
    · decide
  · rcases hfrac with rfl | ⟨ds, rfl, hds⟩
    · simp
    · exact List.forall_mem_cons.mpr ⟨by decide, hds.le_of_mem⟩
  · rcases hexp with rfl | ⟨e, sign, ds, rfl, he, hsign, hds⟩
    · simp
    · refine List.forall_mem_cons.mpr ⟨?_, List.forall_mem_append.mpr ⟨?_, hds.le_of_mem⟩⟩
      · rcases he with rfl | rfl <;> decide
      · rcases hsign with rfl | rfl | rfl
        · simp
        · decide
        · decide

/-- What `%u` prints is an integer part. -/
lemma intPart_natText (n : ℕ) : IntPart (natText n) := by
  refine ⟨⟨natText_ne_nil n, fun b hb => isdigit_of_mem_natText hb⟩, ?_⟩
  unfold natText
  split_ifs with hn
  · exact Or.inl rfl
  · right
    -- the first digit printed is the last one of `Nat.digits`
    have hne : Nat.digits 10 n ≠ [] := Nat.digits_ne_nil_iff_ne_zero.mpr hn
    have hlast := Nat.getLast_digit_ne_zero 10 hn
    have hlt : (Nat.digits 10 n).getLast hne < 10 :=
      Nat.digits_lt_base (by norm_num) (List.getLast_mem hne)
    rw [List.head?_map, List.head?_reverse, List.getLast?_eq_some_getLast hne, Option.map_some]
    intro heq
    have hval := congrArg UInt8.toNat (Option.some.inj heq)
    rw [toNat_digit hlt] at hval
    have h48 : (48 : UInt8).toNat = 48 := rfl
    omega

/-- What `%d` prints is a number. -/
lemma number_intText (z : ℤ) : Number (intText z) := by
  have hint := intPart_natText z.natAbs
  unfold intText
  split_ifs
  · exact ⟨[45], _, [], [], by simp, Or.inr rfl, hint, Or.inl rfl, Or.inl rfl⟩
  · exact ⟨[], _, [], [], by simp, Or.inl rfl, hint, Or.inl rfl, Or.inl rfl⟩

/-- A sign, an integer part and digits behind a point are a number. -/
lemma number_point (negative : Bool) (n : ℕ) {ds : List UInt8} (hds : Digits ds) :
    Number ((if negative then [45] else []) ++ natText n ++ 46 :: ds) := by
  refine ⟨if negative then [45] else [], natText n, 46 :: ds, [], ?_, ?_, intPart_natText n,
    Or.inr ⟨ds, rfl, hds⟩, Or.inl rfl⟩
  · rw [List.append_nil, List.append_assoc]
  · cases negative with
    | false => exact Or.inl rfl
    | true => exact Or.inr rfl

/-- What `%.3f` prints is a number. -/
lemma number_fixed3Text (negative : Bool) (magnitude : ℚ≥0) :
    Number (fixed3Text negative magnitude) := by
  refine number_point negative _ ⟨List.cons_ne_nil _ _, ?_⟩
  simp only [List.forall_mem_cons, List.not_mem_nil, false_imp_iff, implies_true, and_true]
  exact ⟨isdigit_digit (by omega), isdigit_digit (by omega), isdigit_digit (by omega)⟩

/-! ## Objects -/

/-- The value of a member; that of a number is its numeral. -/
inductive Value
  | string (v : List UInt8)
  | number (t : List UInt8)

/-- `t` is a text of the value. -/
def IsValue : Value → List UInt8 → Prop
  | .string v, t => ∃ body, t = 34 :: (body ++ [34]) ∧ StringBody v body
  | .number n, t => t = n ∧ Number n

/-- White space between the parts of an object. -/
def Ws (w : List UInt8) : Prop := ∀ b ∈ w, b = 32 ∨ b = 9 ∨ b = 10 ∨ b = 13

/-- `t` is a text of the member `m`. -/
def IsMember (m : List UInt8 × Value) (t : List UInt8) : Prop :=
  ∃ w₁ w₂ w₃ w₄ name value, t = w₁ ++ (name ++ (w₂ ++ (58 :: (w₃ ++ (value ++ w₄))))) ∧
    (Ws w₁ ∧ Ws w₂ ∧ Ws w₃ ∧ Ws w₄) ∧ IsValue (.string m.1) name ∧ IsValue m.2 value

/-- `t` is a text of the members, with commas between them. -/
inductive IsMembers : List (List UInt8 × Value) → List UInt8 → Prop
  | one {m : List UInt8 × Value} {t : List UInt8} (h : IsMember m t) : IsMembers [m] t
  | cons {m : List UInt8 × Value} {ms : List (List UInt8 × Value)} {t ts : List UInt8}
      (h : IsMember m t) (hs : IsMembers ms ts) : IsMembers (m :: ms) (t ++ 44 :: ts)

/-- `t` is an object of these members, one or more. -/
def IsObject (ms : List (List UInt8 × Value)) (t : List UInt8) : Prop :=
  ∃ body, t = 123 :: (body ++ [125]) ∧ IsMembers ms body

/-! ## Objects built by a format -/

/-- How a value is printed. -/
inductive Printed
  /-- A string as it is, between quotes. -/
  | raw (v : List UInt8)
  /-- A string that was escaped first. -/
  | escaped (v t : List UInt8)
  /-- A numeral. -/
  | numeral (t : List UInt8)

namespace Printed

/-- The value that is meant. -/
def value : Printed → Value
  | .raw v | .escaped v _ => .string v
  | .numeral t => .number t

/-- The text that is printed. -/
def text : Printed → List UInt8
  | .raw v => 34 :: (v ++ [34])
  | .escaped _ t => 34 :: (t ++ [34])
  | .numeral t => t

/-- What was escaped was escaped right, with no byte too many, and a numeral is a number. -/
def Sound : Printed → Prop
  | .raw _ => True
  | .escaped v t => StringBody v t ∧ t.length = cost v
  | .numeral t => Number t

/-- What is printed as it is may stand as it is. -/
def Fine : Printed → Prop
  | .raw v => Plain v
  | _ => True

variable {p : Printed}

/-- **No text of the value is shorter** than the printed one; if one is no longer, what is printed
as it is may stand as it is. -/
lemma length_le (hs : p.Sound) {t : List UInt8} (h : IsValue p.value t) :
    p.text.length ≤ t.length ∧ (t.length = p.text.length → p.Fine) := by
  cases p with
  | raw v =>
      obtain ⟨body, rfl, hbody⟩ := h
      have hle := (length_le_cost v).trans hbody.cost_le
      simp only [text, List.length_cons, List.length_append, List.length_nil]
      exact ⟨by omega, fun heq => hbody.plain (by omega)⟩
  | escaped v u =>
      obtain ⟨body, rfl, hbody⟩ := h
      have hle := hbody.cost_le
      rw [← hs.2] at hle
      simp only [text, List.length_cons, List.length_append, List.length_nil]
      exact ⟨by omega, fun _ => trivial⟩
  | numeral n =>
      obtain ⟨rfl, -⟩ := h
      exact ⟨le_rfl, fun _ => trivial⟩

/-- The printed text is one of the value. -/
lemma isValue_text (hs : p.Sound) (hf : p.Fine) : IsValue p.value p.text := by
  cases p with
  | raw v => exact ⟨v, rfl, Plain.stringBody hf⟩
  | escaped v t => exact ⟨t, rfl, hs.1⟩
  | numeral t => exact ⟨rfl, hs⟩

end Printed

/-- There is no control character in a text of a value. -/
lemma IsValue.le_of_mem {v : Value} {t : List UInt8} (h : IsValue v t) :
    ∀ b ∈ t, 32 ≤ b.toNat := by
  cases v with
  | string v =>
      obtain ⟨body, rfl, hbody⟩ := h
      refine List.forall_mem_cons.mpr ⟨by decide, List.forall_mem_append.mpr ⟨hbody.le_of_mem, ?_⟩⟩
      decide
  | number n =>
      obtain ⟨rfl, hn⟩ := h
      exact hn.le_of_mem

/-- A member as a format prints it. -/
def memberText (f : List UInt8 × Printed) : List UInt8 := 34 :: (f.1 ++ [34]) ++ 58 :: f.2.text

/-- Members as a format prints them. -/
def membersText : List (List UInt8 × Printed) → List UInt8
  | [] => []
  | [f] => memberText f
  | f :: g :: fs => memberText f ++ 44 :: membersText (g :: fs)

/-- An object as a format prints it. -/
def objectText (fs : List (List UInt8 × Printed)) : List UInt8 :=
  123 :: (membersText fs ++ [125])

/-- The members that are meant. -/
def members (fs : List (List UInt8 × Printed)) : List (List UInt8 × Value) :=
  fs.map fun f => (f.1, f.2.value)

/-- No text of a member is shorter than the printed one. -/
lemma length_memberText_le {f : List UInt8 × Printed} (hs : f.2.Sound) {t : List UInt8}
    (h : IsMember (f.1, f.2.value) t) :
    (memberText f).length ≤ t.length ∧ (t.length = (memberText f).length → f.2.Fine) := by
  obtain ⟨w₁, w₂, w₃, w₄, name, value, rfl, -, hname, hvalue⟩ := h
  have hkey := (Printed.length_le (p := .raw f.1) trivial hname).1
  obtain ⟨hle, hfine⟩ := Printed.length_le hs hvalue
  simp only [Printed.text, List.length_cons, List.length_append, List.length_nil] at hkey
  simp only [memberText, List.length_cons, List.length_append, List.length_nil]
  exact ⟨by omega, fun heq => hfine (by omega)⟩

/-- And no text of all members. -/
lemma length_membersText_le {fs : List (List UInt8 × Printed)} (hs : ∀ f ∈ fs, f.2.Sound)
    {t : List UInt8} (h : IsMembers (members fs) t) :
    (membersText fs).length ≤ t.length ∧
      (t.length = (membersText fs).length → ∀ f ∈ fs, f.2.Fine) := by
  induction fs generalizing t with
  | nil => cases h
  | cons f fs ih =>
      rw [List.forall_mem_cons] at hs
      cases fs with
      | nil =>
          cases h with
          | one h =>
              obtain ⟨hle, hfine⟩ := length_memberText_le hs.1 h
              exact ⟨hle, fun heq => List.forall_mem_singleton.mpr (hfine heq)⟩
          | cons _ hnone => cases hnone
      | cons g fs =>
          cases h with
          | @cons _ _ t ts h hrest =>
              obtain ⟨hle, hfine⟩ := length_memberText_le hs.1 h
              obtain ⟨hles, hfines⟩ := ih hs.2 hrest
              simp only [membersText, List.length_append, List.length_cons]
              refine ⟨by omega, ?_⟩
              intro heq
              exact List.forall_mem_cons.mpr ⟨hfine (by omega), hfines (by omega)⟩

section fine

variable {fs : List (List UInt8 × Printed)} (hkeys : ∀ f ∈ fs, Plain f.1)
  (hs : ∀ f ∈ fs, f.2.Sound) (hf : ∀ f ∈ fs, f.2.Fine)
include hkeys hs hf

/-- What is printed is the members. -/
lemma isMembers_membersText (hne : fs ≠ []) : IsMembers (members fs) (membersText fs) := by
  have hmember {f : List UInt8 × Printed} (hkey : Plain f.1) (hsound : f.2.Sound)
      (hfine : f.2.Fine) : IsMember (f.1, f.2.value) (memberText f) := by
    have hempty : Ws [] := fun b hb => absurd hb List.not_mem_nil
    refine ⟨[], [], [], [], 34 :: (f.1 ++ [34]), f.2.text, ?_, ⟨hempty, hempty, hempty, hempty⟩,
      ⟨f.1, rfl, hkey.stringBody⟩, Printed.isValue_text hsound hfine⟩
    simp only [memberText, List.nil_append, List.append_nil]
  induction fs with
  | nil => exact absurd rfl hne
  | cons f fs ih =>
      rw [List.forall_mem_cons] at hkeys hs hf
      cases fs with
      | nil => exact .one (hmember hkeys.1 hs.1 hf.1)
      | cons g fs =>
          exact .cons (hmember hkeys.1 hs.1 hf.1) (ih hkeys.2 hs.2 hf.2 (List.cons_ne_nil g fs))

/-- There is no control character in what is printed. -/
lemma le_of_mem_objectText : ∀ b ∈ objectText fs, 32 ≤ b.toNat := by
  have hmember {f : List UInt8 × Printed} (hkey : Plain f.1) (hsound : f.2.Sound)
      (hfine : f.2.Fine) : ∀ b ∈ memberText f, 32 ≤ b.toNat := by
    refine List.forall_mem_append.mpr ⟨?_, List.forall_mem_cons.mpr ⟨by decide,
      (Printed.isValue_text hsound hfine).le_of_mem⟩⟩
    have hname : IsValue (.string f.1) (34 :: (f.1 ++ [34])) := ⟨f.1, rfl, hkey.stringBody⟩
    exact hname.le_of_mem
  have hmembers : ∀ b ∈ membersText fs, 32 ≤ b.toNat := by
    induction fs with
    | nil => exact fun b hb => absurd hb List.not_mem_nil
    | cons f fs ih =>
        rw [List.forall_mem_cons] at hkeys hs hf
        cases fs with
        | nil => exact hmember hkeys.1 hs.1 hf.1
        | cons g fs =>
            exact List.forall_mem_append.mpr ⟨hmember hkeys.1 hs.1 hf.1,
              List.forall_mem_cons.mpr ⟨by decide, ih hkeys.2 hs.2 hf.2⟩⟩
  refine List.forall_mem_cons.mpr ⟨by decide, List.forall_mem_append.mpr ⟨hmembers, ?_⟩⟩
  decide

end fine

/-- **A printed object is the object that is meant** if and only if the strings printed as they are
may stand as they are. -/
theorem isObject_objectText_iff {fs : List (List UInt8 × Printed)} (hne : fs ≠ [])
    (hkeys : ∀ f ∈ fs, Plain f.1) (hs : ∀ f ∈ fs, f.2.Sound) :
    IsObject (members fs) (objectText fs) ↔ ∀ f ∈ fs, f.2.Fine := by
  constructor
  · rintro ⟨body, heq, hbody⟩
    have hbody' : membersText fs = body := List.append_cancel_right (List.cons.inj heq).2
    exact (length_membersText_le hs hbody).2 (by rw [hbody'])
  · intro hf
    exact ⟨membersText fs, rfl, isMembers_membersText hkeys hs hf hne⟩

end Json
