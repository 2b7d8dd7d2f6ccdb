import ProcessMonitor.Lib.Decimal

/-!
# `sscanf`

A format is a list of directives (`Directive`), and `sscanf conv fmt mem` is the list of the
values assigned, in order, before the first directive that fails: its length is the count that
the C function returns (which returns `EOF`, a negative number, in place of `0` when the input
ends before the first conversion; a caller that compares the count with a positive number does
not see the difference). `conv` is the `int` that `%d` stores for the numeral it has read, which
the C standard fixes for values of type `int` only.

`tokens` are the tokens of the input, whole, and `word` and `afterWord` what one `%ws` makes of
them. `Token w t` says that `t` can be what `%ws` stores; `read_str_token` reads a token that stands
at the head of the input, `token_of_read_str` is the converse. `afterFloat` is what `%f` leaves of
the input.
-/

namespace Scanf

open CString Decimal

/-- A directive of a `scanf` format. -/
inductive Directive
  /-- White space in the format: any amount of it in the input. -/
  | space
  /-- An ordinary character. -/
  | lit (c : UInt8)
  /-- `%ws`. -/
  | str (width : ℕ)
  /-- `%w[...]`, the scanset given by its characteristic function. -/
  | set (width : ℕ) (mem : UInt8 → Bool)
  /-- `%d`. -/
  | int

/-- A value stored by a conversion. -/
inductive Val
  | bytes (s : List UInt8)
  | int (z : ℤ)
deriving DecidableEq, Repr

variable (conv : ℤ → ℤ)

/-- One directive: `none` when it fails, else the value it stores, if it is a conversion, and
the rest of the input. -/
def Directive.read : Directive → List UInt8 → Option (Option Val × List UInt8)
  | .space, s => some (none, s.dropWhile isspace)
  | .lit _, [] => none
  | .lit c, b :: r => if b = c then some (none, r) else none
  | .str w, s =>
      let r := s.dropWhile isspace
      let t := (r.takeWhile (!isspace ·)).take w
      if t = [] then none else some (some (.bytes t), r.drop t.length)
  | .set w mem, s =>
      let t := (s.takeWhile mem).take w
      if t = [] then none else some (some (.bytes t), s.drop t.length)
  | .int, s => (scanInt s).map fun p => (some (.int (conv p.1)), p.2)

/-- The directives of a format, one after the other. -/
def scan : List Directive → List UInt8 → List Val
  | [], _ => []
  | d :: ds, s =>
      match d.read conv s with
      | none => []
      | some (none, r) => scan ds r
      | some (some v, r) => v :: scan ds r

/-- `sscanf`: the values assigned. -/
def sscanf (fmt : List Directive) (mem : List UInt8) : List Val := scan conv fmt (cstr mem)

/-! ## Running a format -/

@[simp] lemma scan_nil (s : List UInt8) : scan conv [] s = [] := rfl

lemma scan_cons_none {d : Directive} {s : List UInt8} (ds : List Directive)
    (h : d.read conv s = none) : scan conv (d :: ds) s = [] := by
  simp [scan, h]

lemma scan_cons_skip {d : Directive} {s r : List UInt8} (ds : List Directive)
    (h : d.read conv s = some (none, r)) : scan conv (d :: ds) s = scan conv ds r := by
  simp [scan, h]

lemma scan_cons_val {d : Directive} {s r : List UInt8} {v : Val} (ds : List Directive)
    (h : d.read conv s = some (some v, r)) : scan conv (d :: ds) s = v :: scan conv ds r := by
  simp [scan, h]

@[simp] lemma scan_space (ds : List Directive) (s : List UInt8) :
    scan conv (.space :: ds) s = scan conv ds (s.dropWhile isspace) := rfl

/-! ## Tokens -/

/-- `t` can be the value of a `%ws`: at least one byte, at most `w`, none of them white space. -/
structure Token (w : ℕ) (t : List UInt8) : Prop where
  ne_nil : t ≠ []
  length_le : t.length ≤ w
  not_space : ∀ b ∈ t, isspace b = false

/-- `s` is empty or begins with white space. -/
def SpaceHead (s : List UInt8) : Prop := ∀ b ∈ s.head?, isspace b = true

/-- What `%ws` stores is a token of the input's bytes. -/
lemma token_of_read_str {w : ℕ} {s r : List UInt8} {v : Option Val}
    (h : (Directive.str w).read conv s = some (v, r)) :
    ∃ t, v = some (.bytes t) ∧ Token w t ∧ ∀ b ∈ t, b ∈ s := by
  simp only [Directive.read] at h
  split at h
  · exact absurd h (by simp)
  · rename_i hne
    simp only [Option.some.injEq, Prod.mk.injEq] at h
    refine ⟨_, h.1.symm, ⟨hne, by simp, ?_⟩, ?_⟩
    · intro b hb
      simpa using List.mem_takeWhile_imp (List.mem_of_mem_take hb)
    · intro b hb
      have hb' := (List.takeWhile_prefix _).subset (List.mem_of_mem_take hb)
      exact (List.dropWhile_suffix _).subset hb'

/-- What `%ws` leaves is part of the input. -/
lemma suffix_of_read_str {w : ℕ} {s r : List UInt8} {v : Option Val}
    (h : (Directive.str w).read conv s = some (v, r)) : r <:+ s := by
  simp only [Directive.read] at h
  split at h
  · simp at h
  · cases h
    exact (List.drop_suffix _ _).trans (List.dropWhile_suffix _)

/-- A format that begins with `%ws` and assigns something has read a token. -/
lemma scan_str_eq_cons {w : ℕ} {ds : List Directive} {s : List UInt8} {v : Val} {vs : List Val}
    (h : scan conv (.str w :: ds) s = v :: vs) :
    ∃ t r, v = .bytes t ∧ Token w t ∧ (∀ b ∈ t, b ∈ s) ∧ r <:+ s ∧ scan conv ds r = vs := by
  cases hr : (Directive.str w).read conv s with
  | none =>
      rw [scan_cons_none _ _ hr] at h
      simp at h
  | some vr =>
      obtain ⟨o, r⟩ := vr
      obtain ⟨t, rfl, ht, hmem⟩ := token_of_read_str conv hr
      rw [scan_cons_val _ _ hr, List.cons.injEq] at h
      exact ⟨t, r, h.1.symm, ht, hmem, suffix_of_read_str conv hr, h.2⟩

/-- White space is skipped once. -/
lemma dropWhile_dropWhile_isspace (s : List UInt8) :
    (s.dropWhile isspace).dropWhile isspace = s.dropWhile isspace := by
  rw [List.dropWhile_eq_self_iff]
  intro hl
  exact List.dropWhile_get_zero_not _ _ hl

/-- White space in front does not change what `%ws` reads. -/
lemma read_str_dropWhile (w : ℕ) (s : List UInt8) :
    (Directive.str w).read conv (s.dropWhile isspace) = (Directive.str w).read conv s := by
  simp only [Directive.read, dropWhile_dropWhile_isspace]

/-- A token that ends at white space or at the end of the input is read whole. -/
lemma read_str_token {w : ℕ} {t rest : List UInt8} (ht : Token w t) (hrest : SpaceHead rest) :
    (Directive.str w).read conv (t ++ rest) = some (some (.bytes t), rest) := by
  have hdrop : (t ++ rest).dropWhile isspace = t ++ rest := by
    obtain ⟨b, r, rfl⟩ := List.exists_cons_of_ne_nil ht.ne_nil
    simp [ht.not_space b (by simp)]
  have htake : (t ++ rest).takeWhile (!isspace ·) = t := by
    rw [List.takeWhile_append_of_pos (by simpa using ht.not_space)]
    cases rest with
    | nil => simp
    | cons b r =>
        have hb : isspace b = true := hrest b (by simp)
        simp [hb]
  simp only [Directive.read, hdrop, htake, List.take_of_length_le ht.length_le, ht.ne_nil,
    if_false, List.drop_left]

/-- On white space alone `%ws` fails. -/
lemma read_str_of_all_space {w : ℕ} {s : List UInt8} (h : ∀ b ∈ s, isspace b = true) :
    (Directive.str w).read conv s = none := by
  have hd : s.dropWhile isspace = [] := List.dropWhile_eq_nil_iff.mpr h
  simp [Directive.read, hd]

/-- `%d` reads a numeral that ends before a non-digit. -/
lemma read_int_numeral {t rest : List UInt8} {z : ℤ} (ht : Numeral t z)
    (hrest : NoDigitHead rest) :
    Directive.int.read conv (t ++ rest) = some (some (.int (conv z)), rest) := by
  simp [Directive.read, scanInt_numeral ht hrest]

/-- On the empty input `%d` fails. -/
@[simp] lemma read_int_nil : Directive.int.read conv [] = none := rfl

/-! ## Words -/

/-- What `%ws` stores: the first bytes of the next word, at most `w` of them. -/
def word (w : ℕ) (s : List UInt8) : List UInt8 :=
  ((s.dropWhile isspace).takeWhile (!isspace ·)).take w

/-- What `%ws` leaves. -/
def afterWord (w : ℕ) (s : List UInt8) : List UInt8 :=
  (s.dropWhile isspace).drop (word w s).length

/-- A word consists of bytes of the input. -/
lemma mem_of_mem_word {w : ℕ} {s : List UInt8} {b : UInt8} (h : b ∈ word w s) : b ∈ s :=
  (List.dropWhile_suffix _).subset
    ((List.takeWhile_prefix _).subset (List.mem_of_mem_take h))

/-- So does what is left. -/
lemma mem_of_mem_afterWord {w : ℕ} {s : List UInt8} {b : UInt8} (h : b ∈ afterWord w s) : b ∈ s :=
  (List.dropWhile_suffix _).subset (List.mem_of_mem_drop h)

/-- A format that begins with `%ws`. -/
lemma scan_str (w : ℕ) (ds : List Directive) (s : List UInt8) :
    scan conv (.str w :: ds) s =
      if word w s = [] then [] else .bytes (word w s) :: scan conv ds (afterWord w s) := by
  by_cases h : word w s = []
  · rw [if_pos h]
    exact scan_cons_none conv ds (if_pos h)
  · rw [if_neg h]
    exact scan_cons_val conv ds (if_neg h)

/-- A format that begins with `%d`. -/
lemma scan_int (ds : List Directive) (s : List UInt8) :
    scan conv (.int :: ds) s =
      match scanInt s with
      | none => []
      | some (z, r) => .int (conv z) :: scan conv ds r := by
  cases h : scanInt s with
  | none => exact scan_cons_none conv ds (by rw [Directive.read, h, Option.map_none])
  | some zr => exact scan_cons_val conv ds (by rw [Directive.read, h, Option.map_some])

section space

variable (s : List UInt8)

/-- White space in front does not change a word. -/
lemma word_dropWhile (w : ℕ) : word w (s.dropWhile isspace) = word w s := by
  rw [word, dropWhile_dropWhile_isspace, word]

lemma afterWord_dropWhile (w : ℕ) : afterWord w (s.dropWhile isspace) = afterWord w s := by
  rw [afterWord, dropWhile_dropWhile_isspace, word_dropWhile, afterWord]

/-- Nor does it change a number. -/
lemma scanInt_dropWhile : scanInt (s.dropWhile isspace) = scanInt s := by
  rw [scanInt, dropWhile_dropWhile_isspace, scanInt]

end space

/-! ## Whole tokens

A `%ws` takes the first `w` bytes of a token, and leaves the rest of it to the next directive. -/

/-- The next token of the input, however long; empty where there is none. -/
def token (s : List UInt8) : List UInt8 := (s.dropWhile isspace).takeWhile (!isspace ·)

/-- What follows it. -/
def afterToken (s : List UInt8) : List UInt8 := (s.dropWhile isspace).dropWhile (!isspace ·)

/-- The tokens of the input, with `cur` for what has been read of the first one. -/
def tokensFrom (cur : List UInt8) : List UInt8 → List (List UInt8)
  | [] => if cur = [] then [] else [cur]
  | b :: s =>
      if isspace b then if cur = [] then tokensFrom [] s else cur :: tokensFrom [] s
      else tokensFrom (cur ++ [b]) s

/-- The tokens of the input: what white space separates. -/
def tokens (s : List UInt8) : List (List UInt8) := tokensFrom [] s

/-- White space, then a token, then the rest. -/
lemma token_append_afterToken (s : List UInt8) : token s ++ afterToken s = s.dropWhile isspace :=
  List.takeWhile_append_dropWhile

/-- A token has no white space. -/
lemma isspace_of_mem_token {s : List UInt8} {b : UInt8} (h : b ∈ token s) : isspace b = false := by
  simpa using List.mem_takeWhile_imp h

/-- What follows a token begins with white space, or is empty. -/
lemma spaceHead_afterToken (s : List UInt8) : SpaceHead (afterToken s) := by
  intro b hb
  have hb : ((s.dropWhile isspace).dropWhile (!isspace ·)).head? = some b := hb
  have h := List.head?_dropWhile_not (!isspace ·) (s.dropWhile isspace)
  rw [hb] at h
  simpa using h

/-- A `%ws` takes the first bytes of the token. -/
lemma word_eq_take (w : ℕ) (s : List UInt8) : word w s = (token s).take w := rfl

/-- The rest of the token is left to the next directive. -/
lemma afterWord_eq (w : ℕ) (s : List UInt8) : afterWord w s = (token s).drop w ++ afterToken s := by
  rw [afterWord, word_eq_take, ← token_append_afterToken, List.length_take]
  rcases Nat.le_total w (token s).length with h | h
  · rw [Nat.min_eq_left h, List.drop_append_of_le_length h]
  · rw [Nat.min_eq_right h, List.drop_left, List.drop_of_length_le h, List.nil_append]

/-- Without a token there is only white space. -/
lemma dropWhile_of_token_nil {s : List UInt8} (h : token s = []) : s.dropWhile isspace = [] := by
  have hs : s.dropWhile isspace = afterToken s := by
    rw [← token_append_afterToken, h, List.nil_append]
  have hno := List.head?_dropWhile_not isspace s
  rw [hs] at hno ⊢
  cases hr : afterToken s with
  | nil => rfl
  | cons b r =>
      have hspace : isspace b = true := spaceHead_afterToken s b (by rw [hr]; rfl)
      rw [hr] at hno
      have hno : isspace b = false := hno
      rw [hspace] at hno
      cases hno

/-- Bytes that are no white space belong to the token begun. -/
lemma tokensFrom_append {t : List UInt8} (ht : ∀ b ∈ t, isspace b = false)
    (cur rest : List UInt8) : tokensFrom cur (t ++ rest) = tokensFrom (cur ++ t) rest := by
  induction t generalizing cur with
  | nil => rw [List.nil_append, List.append_nil]
  | cons b t ih =>
      rw [List.forall_mem_cons] at ht
      rw [List.cons_append, tokensFrom, ht.1]
      exact (ih ht.2 _).trans (by rw [List.append_assoc, List.singleton_append])

/-- White space in front separates nothing. -/
lemma tokens_dropWhile (s : List UInt8) : tokens (s.dropWhile isspace) = tokens s := by
  induction s with
  | nil => rfl
  | cons b s ih =>
      by_cases hb : isspace b = true
      · rw [List.dropWhile_cons, if_pos hb, ih, tokens, tokens, tokensFrom, if_pos hb, if_pos rfl]
      · rw [List.dropWhile_cons, if_neg hb]

/-- **The tokens, one after the other.** -/
lemma tokens_eq (s : List UInt8) :
    tokens s = if token s = [] then [] else token s :: tokens (afterToken s) := by
  rw [← tokens_dropWhile]
  split_ifs with h
  · rw [dropWhile_of_token_nil h]
    rfl
  · rw [← token_append_afterToken, tokens,
      tokensFrom_append (fun b hb => isspace_of_mem_token hb), List.nil_append]
    have hspace := spaceHead_afterToken s
    generalize afterToken s = r at hspace
    cases r with
    | nil => rw [tokensFrom, if_neg h, tokens, tokensFrom, if_pos rfl]
    | cons b r =>
        have hb : isspace b = true := hspace b rfl
        rw [tokensFrom, if_pos hb, if_neg h, tokens, tokensFrom, if_pos hb, if_pos rfl]

/-- Tokens consist of bytes of the input. -/
lemma mem_of_mem_tokens {s w : List UInt8} (hw : w ∈ tokens s) {b : UInt8} (hb : b ∈ w) :
    b ∈ s := by
  have hfrom : ∀ s cur : List UInt8, w ∈ tokensFrom cur s → b ∈ cur ∨ b ∈ s := by
    intro s
    induction s with
    | nil =>
        intro cur hw
        rw [tokensFrom] at hw
        split_ifs at hw
        · exact absurd hw List.not_mem_nil
        · exact Or.inl (List.mem_singleton.mp hw ▸ hb)
    | cons a s ih =>
        intro cur hw
        have hrest (hw : w ∈ tokensFrom [] s) : b ∈ a :: s :=
          List.mem_cons_of_mem a ((ih [] hw).resolve_left List.not_mem_nil)
        rw [tokensFrom] at hw
        split_ifs at hw
        · exact Or.inr (hrest hw)
        · rcases List.mem_cons.mp hw with rfl | hw
          · exact Or.inl hb
          · exact Or.inr (hrest hw)
        · rcases ih _ hw with h | h
          · rcases List.mem_append.mp h with h | h
            · exact Or.inl h
            · exact Or.inr (List.mem_singleton.mp h ▸ List.mem_cons_self)
          · exact Or.inr (List.mem_cons_of_mem a h)
  exact (hfrom s [] hw).resolve_left List.not_mem_nil

/-- A number is read from the next token alone. -/
lemma scanInt_append {t rest : List UInt8} (hne : t ≠ []) (ht : ∀ b ∈ t, isspace b = false)
    (hrest : SpaceHead rest) : (scanInt (t ++ rest)).map Prod.fst = (scanInt t).map Prod.fst := by
  have hdigit : rest.takeWhile isdigit = [] := by
    cases rest with
    | nil => rfl
    | cons b r =>
        have hb : isdigit b = false := by
          by_contra hdigit
          rw [Bool.not_eq_false] at hdigit
          exact absurd (hrest b rfl) (by rw [isspace_of_isdigit hdigit]; decide)
        rw [List.takeWhile_cons, hb]
        rfl
  have htake (l : List UInt8) : (l ++ rest).takeWhile isdigit = l.takeWhile isdigit := by
    rw [List.takeWhile_append, hdigit, List.append_nil]
    split_ifs with hl
    · exact (List.takeWhile_prefix _).eq_of_length hl |>.symm
    · rfl
  have hskip (l : List UInt8) (hl : ∀ b ∈ l.head?, isspace b = false) :
      l.dropWhile isspace = l := by
    cases l with
    | nil => rfl
    | cons b l => rw [List.dropWhile_cons, hl b rfl]; rfl
  obtain ⟨b, t, rfl⟩ := List.exists_cons_of_ne_nil hne
  have hb : isspace b = false := ht b List.mem_cons_self
  have hsign : ∃ neg l, sign (b :: t) = (neg, l) ∧ sign (b :: t ++ rest) = (neg, l ++ rest) := by
    by_cases hplus : b = 43
    · exact ⟨false, t, by rw [hplus]; rfl, by rw [hplus]; rfl⟩
    by_cases hminus : b = 45
    · exact ⟨true, t, by rw [hminus]; rfl, by rw [hminus]; rfl⟩
    refine ⟨false, b :: t, ?_, ?_⟩ <;> simp [sign, hplus, hminus]
  obtain ⟨neg, l, h₁, h₂⟩ := hsign
  unfold scanInt
  rw [hskip (b :: t ++ rest) (by simpa using hb), hskip (b :: t) (by simpa using hb), h₁, h₂]
  simp only [htake]
  split_ifs <;> rfl

/-! ## Scansets and ordinary characters -/

/-- A scanset reads up to the first byte outside it. -/
lemma read_set_stop {w : ℕ} {mem : UInt8 → Bool} {t rest : List UInt8} (hne : t ≠ [])
    (hlen : t.length ≤ w) (ht : ∀ b ∈ t, mem b = true) (hrest : ∀ b ∈ rest.head?, mem b = false) :
    (Directive.set w mem).read conv (t ++ rest) = some (some (.bytes t), rest) := by
  have htake : (t ++ rest).takeWhile mem = t := by
    rw [List.takeWhile_append_of_pos ht]
    cases rest with
    | nil => simp
    | cons b r =>
        have hb : mem b = false := hrest b (by simp)
        simp [hb]
  simp only [Directive.read, htake, List.take_of_length_le hlen, hne, if_false, List.drop_left]

/-- A scanset that has all bytes of the input reads as many as its width allows. -/
lemma read_set_all {w : ℕ} (hw : 0 < w) {mem : UInt8 → Bool} {s : List UInt8} (hne : s ≠ [])
    (hs : ∀ b ∈ s, mem b = true) :
    (Directive.set w mem).read conv s = some (some (.bytes (s.take w)), s.drop w) := by
  have htake : s.takeWhile mem = s := List.takeWhile_eq_self_iff.mpr hs
  have hne' : s.take w ≠ [] := by
    rw [ne_eq, List.take_eq_nil_iff]
    rintro (h | h)
    · omega
    · exact hne h
  simp only [Directive.read, htake, hne', if_false, List.length_take]
  rcases Nat.le_total w s.length with h | h
  · rw [Nat.min_eq_left h]
  · rw [Nat.min_eq_right h, List.drop_length, List.drop_of_length_le h]

/-- On the empty input a scanset fails. -/
@[simp] lemma read_set_nil (w : ℕ) (mem : UInt8 → Bool) :
    (Directive.set w mem).read conv [] = none := by
  simp [Directive.read]

/-- What a scanset leaves is part of the input. -/
lemma suffix_of_read_set {w : ℕ} {mem : UInt8 → Bool} {s r : List UInt8} {v : Option Val}
    (h : (Directive.set w mem).read conv s = some (v, r)) : r <:+ s := by
  simp only [Directive.read] at h
  split at h
  · simp at h
  · cases h
    exact List.drop_suffix _ _

/-- The width of a conversion that stores bytes. -/
def Directive.width : Directive → ℕ
  | .str w | .set w _ => w
  | _ => 0

/-- A conversion stores no more bytes than its width. -/
lemma length_of_read {d : Directive} {s t r : List UInt8}
    (h : d.read conv s = some (some (.bytes t), r)) : t.length ≤ d.width := by
  cases d with
  | space => cases h
  | lit c =>
      cases s with
      | nil => cases h
      | cons b s =>
          simp only [Directive.read] at h
          split at h <;> cases h
  | str w =>
      simp only [Directive.read] at h
      split at h
      · cases h
      · cases h
        exact List.length_take_le _ _
  | set w mem =>
      simp only [Directive.read] at h
      split at h
      · cases h
      · cases h
        exact List.length_take_le _ _
  | int =>
      rw [Directive.read, Option.map_eq_some_iff] at h
      obtain ⟨p, -, hp⟩ := h
      cases hp

/-- Neither does a format whose conversions all have at most this width. -/
lemma length_of_mem_scan {fmt : List Directive} {w : ℕ} (hw : ∀ d ∈ fmt, d.width ≤ w)
    {s t : List UInt8} (h : Val.bytes t ∈ scan conv fmt s) : t.length ≤ w := by
  induction fmt generalizing s with
  | nil => cases h
  | cons d fmt ih =>
      rw [List.forall_mem_cons] at hw
      rw [scan] at h
      split at h
      · cases h
      · exact ih hw.2 h
      · rename_i hread
        rcases List.mem_cons.mp h with heq | hmem
        · rw [← heq] at hread
          exact (length_of_read conv hread).trans hw.1
        · exact ih hw.2 hmem

/-- An ordinary character. -/
@[simp] lemma read_lit_cons_self (c : UInt8) (r : List UInt8) :
    (Directive.lit c).read conv (c :: r) = some (none, r) := by
  simp [Directive.read]

/-- An ordinary character that is not in the input. -/
lemma read_lit_of_notMem {c : UInt8} {s : List UInt8} (h : c ∉ s) :
    (Directive.lit c).read conv s = none := by
  cases s with
  | nil => rfl
  | cons b r =>
      have hb : b ≠ c := fun e => h (by simp [e])
      simp [Directive.read, hb]

/-- Ordinary characters that the input begins with. -/
lemma scan_lits (key : List UInt8) (ds : List Directive) (s : List UInt8) :
    scan conv (key.map .lit ++ ds) (key ++ s) = scan conv ds s := by
  induction key with
  | nil => rfl
  | cons c key ih =>
      rw [List.map_cons, List.cons_append, List.cons_append,
        scan_cons_skip conv _ (read_lit_cons_self conv c _), ih]

/-- Ordinary characters store nothing. -/
lemma scan_lits_nil (key s : List UInt8) : scan conv (key.map .lit) s = [] := by
  induction key generalizing s with
  | nil => rfl
  | cons c key ih =>
      rw [List.map_cons]
      cases hread : (Directive.lit c).read conv s with
      | none => exact scan_cons_none conv _ hread
      | some r =>
          cases s with
          | nil => cases hread
          | cons b s =>
              rw [Directive.read] at hread
              split_ifs at hread with hb
              rw [hb, scan_cons_skip conv _ (read_lit_cons_self conv c s), ih]

/-- Numbers with a blank in front of each are read one after the other. -/
lemma scan_numbers (ns : List ℕ) (ds : List Directive) {rest : List UInt8}
    (hrest : NoDigitHead rest) :
    scan conv (ns.flatMap (fun _ => [.space, .int]) ++ ds)
        (ns.flatMap (fun n => 32 :: natText n) ++ rest) =
      ns.map (fun n => .int (conv n)) ++ scan conv ds rest := by
  induction ns with
  | nil => rfl
  | cons n ns ih =>
      have hnext : NoDigitHead (ns.flatMap (fun n => 32 :: natText n) ++ rest) := by
        cases ns with
        | nil => exact hrest
        | cons m ns =>
            intro b hb
            obtain rfl : 32 = b := Option.some.inj hb
            decide
      have hblank : ((32 : UInt8) :: natText n ++ ns.flatMap (fun n => 32 :: natText n) ++
          rest).dropWhile isspace =
            natText n ++ (ns.flatMap (fun n => 32 :: natText n) ++ rest) := by
        rw [List.append_assoc, List.cons_append, List.dropWhile_cons_of_pos (by decide),
          (numeral_natText n).dropWhile_isspace]
      simp only [List.append_assoc, List.cons_append] at hblank
      simp only [List.flatMap_cons, List.append_assoc, List.cons_append, List.nil_append]
      rw [scan_space, hblank,
        scan_cons_val conv _ (read_int_numeral conv (numeral_natText n) hnext), ih, List.map_cons,
        List.cons_append]

/-! ## Floating numbers

The value that `%f` stores is left out: `afterFloat` is what it leaves of the input. It reads the
longest start of the input with which a number could begin, and fails where that is no number. -/

/-- What follows a key in lower case that the input begins with, in either case. -/
def afterKey (key s : List UInt8) : Option (List UInt8) :=
  if (s.take key.length).map tolower = key then some (s.drop key.length) else none

/-- Behind digits with at most one point between or beside them. -/
def afterMantissa (digit : UInt8 → Bool) (s : List UInt8) : Option (List UInt8) :=
  match s.dropWhile digit with
  | 46 :: r =>
      if s.takeWhile digit = [] ∧ r.takeWhile digit = [] then none else some (r.dropWhile digit)
  | r => if s.takeWhile digit = [] then none else some r

/-- Behind the exponent, if the letter of one follows. -/
def afterExponent (letter : UInt8) : List UInt8 → Option (List UInt8)
  | [] => some []
  | b :: r =>
      if tolower b = letter then
        let ds := (sign r).2
        if ds.takeWhile isdigit = [] then none else some (ds.dropWhile isdigit)
      else some (b :: r)

/-- Behind `inf`, which may go on to `infinity`. -/
def afterInf (s : List UInt8) : Option (List UInt8) :=
  match afterKey (bytes "inity") s with
  | some r => some r
  | none => if s.head?.map tolower = some 105 then none else some s

/-- Behind `nan`, which letters, digits and underscores in parentheses may follow. -/
def afterNan : List UInt8 → Option (List UInt8)
  | 40 :: r =>
      let word (b : UInt8) : Bool := isdigit b || b == 95 || (97 ≤ tolower b && tolower b ≤ 122)
      match r.dropWhile word with
      | 41 :: rest => some rest
      | _ => none
  | s => some s

/-- `%f`: `none` when it fails, else the rest of the input. -/
def afterFloat (s : List UInt8) : Option (List UInt8) :=
  let hexDigit (b : UInt8) : Bool := isdigit b || (97 ≤ tolower b && tolower b ≤ 102)
  let r := (sign (s.dropWhile isspace)).2
  match afterKey (bytes "0x") r with
  | some hex => (afterMantissa hexDigit hex).bind (afterExponent 112)
  | none =>
      match afterKey (bytes "inf") r with
      | some rest => afterInf rest
      | none =>
          match afterKey (bytes "nan") r with
          | some rest => afterNan rest
          | none => (afterMantissa isdigit r).bind (afterExponent 101)

/-- White space in front is skipped. -/
lemma afterFloat_cons_space {b : UInt8} (h : isspace b = true) (s : List UInt8) :
    afterFloat (b :: s) = afterFloat s := by
  simp only [afterFloat, List.dropWhile_cons_of_pos h]

/-- A key is not read where another byte stands in its place. -/
lemma afterKey_of_ne {key s : List UInt8} {i : ℕ} {b c : UInt8} (hs : s[i]? = some b)
    (hkey : key[i]? = some c) (hne : tolower b ≠ c) : afterKey key s = none := by
  rw [afterKey, if_neg]
  intro heq
  have hi : i < key.length := (List.getElem?_eq_some_iff.mp hkey).1
  have hat : ((s.take key.length).map tolower)[i]? = some (tolower b) := by
    rw [List.getElem?_map, List.getElem?_take_of_lt hi, hs, Option.map_some]
  rw [heq, hkey] at hat
  exact hne (Option.some.inj hat).symm

/-- What stands before the letters is none in lower case. -/
lemma tolower_ne {b c : UInt8} (hb : b.toNat < 65) (hc : 65 ≤ c.toNat) : tolower b ≠ c := by
  have hlow : ¬ 65 ≤ b := by
    rw [UInt8.le_iff_toNat_le]
    exact not_le.mpr hb
  rintro rfl
  simp only [tolower, hlow, decide_false, Bool.false_and, Bool.false_eq_true, if_false] at hc
  omega

/-- Digits stand before the letters. -/
lemma toNat_lt_of_isdigit {b : UInt8} (h : isdigit b = true) : b.toNat < 65 := by
  simp only [isdigit, Bool.and_eq_true, decide_eq_true_eq, UInt8.le_iff_toNat_le] at h
  exact lt_of_le_of_lt h.2 (by decide)

/-- So does white space. -/
lemma toNat_lt_of_isspace {b : UInt8} (h : isspace b = true) : b.toNat < 65 := by
  simp only [isspace, Bool.or_eq_true, beq_iff_eq, Bool.and_eq_true, decide_eq_true_eq,
    UInt8.le_iff_toNat_le] at h
  rcases h with rfl | h
  · decide
  · exact lt_of_le_of_lt h.2 (by decide)

/-- Digits, a point and digits, up to the next byte that is no digit. -/
lemma afterMantissa_point {ds fs rest : List UInt8} (hne : ds ≠ [])
    (hds : ∀ b ∈ ds, isdigit b = true) (hfs : ∀ b ∈ fs, isdigit b = true)
    (hrest : NoDigitHead rest) : afterMantissa isdigit (ds ++ 46 :: (fs ++ rest)) = some rest := by
  have hpoint : NoDigitHead (46 :: (fs ++ rest)) := by
    intro b hb
    obtain rfl : 46 = b := Option.some.inj hb
    decide
  obtain ⟨htake, hdrop⟩ := takeWhile_isdigit_append hds hpoint
  simp only [afterMantissa, htake, hdrop, hne, false_and, if_false,
    (takeWhile_isdigit_append hfs hrest).2]

/-- **A decimal number with a point** is read up to the next white space. -/
lemma afterFloat_point {ds fs rest : List UInt8} (hne : ds ≠ [])
    (hds : ∀ b ∈ ds, isdigit b = true) (hfs : ∀ b ∈ fs, isdigit b = true) (hrest : SpaceHead rest) :
    afterFloat (ds ++ 46 :: (fs ++ rest)) = some rest := by
  have hdigit : NoDigitHead rest := by
    intro b hb
    by_contra hdigit
    rw [Bool.not_eq_false] at hdigit
    exact absurd (hrest b hb) (by rw [isspace_of_isdigit hdigit]; decide)
  have hmantissa : afterMantissa isdigit (ds ++ 46 :: (fs ++ rest)) = some rest :=
    afterMantissa_point hne hds hfs hdigit
  obtain ⟨d, ds, rfl⟩ := List.exists_cons_of_ne_nil hne
  rw [List.forall_mem_cons] at hds
  -- The first byte is neither `i` nor `n`, and the second is no `x`.
  have hletter (key : List UInt8) (c : UInt8) (hkey : key[0]? = some c) (hc : 65 ≤ c.toNat) :
      afterKey key (d :: ds ++ 46 :: (fs ++ rest)) = none :=
    afterKey_of_ne (i := 0) rfl hkey (tolower_ne (toNat_lt_of_isdigit hds.1) hc)
  have hhex : afterKey (bytes "0x") (d :: ds ++ 46 :: (fs ++ rest)) = none := by
    cases ds with
    | nil => exact afterKey_of_ne (i := 1) (b := 46) (c := 120) rfl rfl (by decide)
    | cons e ds =>
        have he : e.toNat < 65 := toNat_lt_of_isdigit (hds.2 e List.mem_cons_self)
        exact afterKey_of_ne (i := 1) (b := e) (c := 120) rfl rfl (tolower_ne he (by decide))
  have hexponent : afterExponent 101 rest = some rest := by
    cases rest with
    | nil => rfl
    | cons b rest =>
        have hb : b.toNat < 65 := toNat_lt_of_isspace (hrest b rfl)
        rw [afterExponent, if_neg (tolower_ne hb (by decide))]
  have hsign : (sign ((d :: ds ++ 46 :: (fs ++ rest)).dropWhile isspace)).2 =
      d :: ds ++ 46 :: (fs ++ rest) := by
    rw [List.cons_append, List.dropWhile_cons_of_neg (by simp [isspace_of_isdigit hds.1]),
      sign_of_isdigit hds.1]
  simp only [afterFloat, hsign, hhex, hletter (bytes "inf") 105 rfl (by decide),
    hletter (bytes "nan") 110 rfl (by decide), hmantissa, Option.bind_some, hexponent]

end Scanf
