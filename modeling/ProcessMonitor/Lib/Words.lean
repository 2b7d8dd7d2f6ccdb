import Mathlib.Tactic

/-!
# Texts of words and lines

A text that is put together from pieces with a separator between each two, or behind each, tells the
pieces, as long as none of them contains the separator.
-/

namespace Words

variable {α : Type} {sep : α}

/-- No piece contains the separator. -/
def Free (sep : α) (pieces : List (List α)) : Prop := ∀ p ∈ pieces, sep ∉ p

/-- The pieces with the separator between each two. -/
def joined (sep : α) (pieces : List (List α)) : List α := [sep].intercalate pieces

/-- The pieces, each with the separator behind it. -/
def ended (sep : α) (pieces : List (List α)) : List α := (pieces.map (· ++ [sep])).flatten

/-- **A text of words tells the words.** -/
lemma joined_injective [DecidableEq α] {ws ws' : List (List α)} (hws : Free sep ws)
    (hws' : Free sep ws') (hne : ws ≠ []) (hne' : ws' ≠ []) (h : joined sep ws = joined sep ws') :
    ws = ws' := by
  have hsplit := congrArg (List.splitOn sep) h
  unfold joined at hsplit
  rwa [List.splitOn_intercalate sep hws hne, List.splitOn_intercalate sep hws' hne'] at hsplit

/-- What is in no piece and is not the separator is not in the text. -/
lemma notMem_joined {ws : List (List α)} {a : α} (h : Free a ws) (hne : a ≠ sep) :
    a ∉ joined sep ws := by
  unfold joined
  induction ws with
  | nil => simp
  | cons w ws ih =>
      unfold Free at h
      rw [List.forall_mem_cons] at h
      by_cases hws : ws = []
      · simpa [hws] using h.1
      · rw [List.intercalate_cons_of_ne_nil hws]
        simp [h.1, hne, ih h.2]

/-- Lines are words with nothing behind the last separator. -/
lemma ended_eq_joined (ls : List (List α)) : ended sep ls = joined sep (ls ++ [[]]) := by
  unfold ended joined
  induction ls with
  | nil => rfl
  | cons l ls ih =>
      rw [List.map_cons, List.flatten_cons, ih, List.cons_append,
        List.intercalate_cons_of_ne_nil (by simp)]

/-- **A text of lines tells the lines.** -/
lemma ended_injective [DecidableEq α] {ls ls' : List (List α)} (hls : Free sep ls)
    (hls' : Free sep ls') (h : ended sep ls = ended sep ls') : ls = ls' := by
  have hfree {ls : List (List α)} (hls : Free sep ls) : Free sep (ls ++ [[]]) := by
    intro p hp
    rcases List.mem_append.mp hp with hp | hp
    · exact hls p hp
    · rw [List.mem_singleton.mp hp]
      exact List.not_mem_nil
  rw [ended_eq_joined, ended_eq_joined] at h
  have happend := joined_injective (hfree hls) (hfree hls') (by simp) (by simp) h
  exact List.append_cancel_right happend

end Words
