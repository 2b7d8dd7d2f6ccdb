import ProcessMonitor.Lib.CString

/-!
# Fields of a line

`strtok` called until it returns `NULL`, and the loop that follows it in many programs: each token
is compared with keys such as `cpu:`, and what is behind the key is assigned. A key that comes twice
is assigned twice, so that the last one wins.

* `strtok_append`: the first token, and the tokens of the rest;
* `lastWith` is what the last token with a key has behind it;
* `foldl_lastWith`: the field that a key is assigned to, after the loop.
-/

namespace CString

/-! ## Tokens -/

/-- The tokens that the calls of `strtok` return, with the delimiter `sep`: the pieces between
delimiters that are not empty. -/
def strtok (sep : UInt8) (s : List UInt8) : List (List UInt8) :=
  (s.splitOn sep).filter (· ≠ [])

@[simp] lemma strtok_nil (sep : UInt8) : strtok sep [] = [] := rfl

/-- A delimiter in front is skipped. -/
@[simp] lemma strtok_cons_self (sep : UInt8) (s : List UInt8) :
    strtok sep (sep :: s) = strtok sep s := by
  rw [strtok, strtok, List.splitOn_eq_splitOnP, List.splitOn_eq_splitOnP,
    List.splitOnP_cons_eq_if_modifyHead, if_pos (beq_self_eq_true sep)]
  rfl

lemma beq_false_of_notMem {sep : UInt8} {t : List UInt8} (h : sep ∉ t) :
    ∀ b ∈ t, (b == sep) = false := by
  intro b hb
  rw [beq_eq_false_iff_ne]
  intro heq
  exact h (heq ▸ hb)

section token

variable {sep : UInt8} {t : List UInt8} (hne : t ≠ []) (hsep : sep ∉ t)
include hne hsep

/-- A text without delimiters is one token. -/
lemma strtok_of_notMem : strtok sep t = [t] := by
  rw [strtok, List.splitOn_eq_splitOnP, List.splitOnP_eq_singleton (beq_false_of_notMem hsep),
    List.filter_cons_of_pos (by simpa using hne), List.filter_nil]

/-- A text without delimiters is the first token in front of a delimiter. -/
lemma strtok_append_cons (s : List UInt8) :
    strtok sep (t ++ sep :: s) = t :: strtok sep s := by
  rw [strtok, List.splitOn_eq_splitOnP,
    List.splitOnP_append_cons_of_forall_mem (beq_false_of_notMem hsep) sep (beq_self_eq_true sep),
    List.filter_cons_of_pos (by simpa using hne), ← List.splitOn_eq_splitOnP]
  rfl

/-- **The first token**: a text without delimiters, and what follows it up to the next one. -/
lemma strtok_append (s : List UInt8) :
    strtok sep (t ++ s) = (t ++ s.takeWhile (· ≠ sep)) :: strtok sep (s.dropWhile (· ≠ sep)) := by
  have hne' : t ++ s.takeWhile (· ≠ sep) ≠ [] := by
    intro h
    exact hne (List.append_eq_nil_iff.mp h).1
  have hsep' : sep ∉ t ++ s.takeWhile (· ≠ sep) := by
    rw [List.mem_append, not_or]
    refine ⟨hsep, fun hmem => ?_⟩
    have h := List.mem_takeWhile_imp hmem
    exact of_decide_eq_true h rfl
  have hsplit : t ++ s = (t ++ s.takeWhile (· ≠ sep)) ++ s.dropWhile (· ≠ sep) := by
    rw [List.append_assoc, List.takeWhile_append_dropWhile]
  rw [hsplit]
  cases hrest : s.dropWhile (· ≠ sep) with
  | nil => rw [List.append_nil, strtok_of_notMem hne' hsep', strtok_nil]
  | cons b rest =>
      have hb : b = sep := by
        have h := List.head?_dropWhile_not (fun x => decide (x ≠ sep)) s
        rw [hrest] at h
        simpa using h
      rw [hb, strtok_append_cons hne' hsep', strtok_cons_self]

end token

/-! ## Keys -/

/-- The test `strncmp(token, key, strlen(key)) == 0`. -/
def hasKey (key token : List UInt8) : Bool := strncmp token key key.length = 0

/-- The test as it is written. -/
lemma strncmp_key_iff (key token : List UInt8) :
    strncmp token key key.length = 0 ↔ hasKey key token = true := by
  rw [hasKey, decide_eq_true_iff]

/-- The token begins with the key. -/
lemma hasKey_iff {key : List UInt8} (hkey : (0 : UInt8) ∉ key) (token : List UInt8) :
    hasKey key token = true ↔ key <+: cstr token := by
  rw [hasKey, decide_eq_true_iff, strncmp_eq_zero_iff, cstr_eq_self hkey, List.take_length,
    List.prefix_iff_eq_take, eq_comm]

/-- A token with a key in front has this key. -/
lemma hasKey_append {key t : List UInt8} (hkey : (0 : UInt8) ∉ key) :
    hasKey key (key ++ t) = true := by
  rw [hasKey_iff hkey, cstr_append hkey]
  exact List.prefix_append key _

/-- A token does not begin with two keys, unless one begins with the other. -/
lemma hasKey_unique {key key' token : List UInt8} (hkey : (0 : UInt8) ∉ key)
    (hkey' : (0 : UInt8) ∉ key') (h : hasKey key token = true) (hnot : ¬ key <+: key')
    (hnot' : ¬ key' <+: key) : hasKey key' token = false := by
  rw [Bool.eq_false_iff, Ne, hasKey_iff hkey']
  intro h'
  rw [hasKey_iff hkey] at h
  rcases List.prefix_or_prefix_of_prefix h h' with hp | hp
  · exact hnot hp
  · exact hnot' hp

/-- What is behind the key in the last token that begins with it. -/
def lastWith (key : List UInt8) (tokens : List (List UInt8)) : Option (List UInt8) :=
  ((tokens.filter (hasKey key)).getLast?).map (List.drop key.length)

/-- The tokens of a second part count first. -/
lemma lastWith_append (key : List UInt8) (tokens tokens' : List (List UInt8)) :
    lastWith key (tokens ++ tokens') = (lastWith key tokens').or (lastWith key tokens) := by
  rw [lastWith, lastWith, lastWith, List.filter_append, List.getLast?_append, Option.map_or]

/-- A last token counts if it has the key. -/
lemma lastWith_concat (key : List UInt8) (tokens : List (List UInt8)) (token : List UInt8) :
    lastWith key (tokens ++ [token]) =
      if hasKey key token then some (token.drop key.length) else lastWith key tokens := by
  rw [lastWith_append]
  split_ifs with h
  · rw [lastWith, List.filter_cons_of_pos h]
    rfl
  · rw [lastWith, List.filter_cons_of_neg h]
    rfl

/-- **The last one wins.** A loop that assigns what is behind a key to a field, and changes it
nowhere else, leaves there what the last token with the key has. -/
lemma foldl_lastWith {σ α : Type} {f : σ → List UInt8 → σ} {field : σ → α} {key : List UInt8}
    {conv : List UInt8 → α}
    (hstep : ∀ d token, field (f d token) =
      if hasKey key token then conv (token.drop key.length) else field d)
    (tokens : List (List UInt8)) (d : σ) :
    field (tokens.foldl f d) = ((lastWith key tokens).map conv).getD (field d) := by
  induction tokens using List.reverseRecOn with
  | nil => rfl
  | append_singleton tokens token ih =>
      rw [List.foldl_concat, hstep, lastWith_concat, ih]
      split_ifs <;> rfl

end CString
