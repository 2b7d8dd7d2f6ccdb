import ProcessMonitor.Integration.StructuredLog
import ProcessMonitor.Lib.Buffer

/-!
# The buffer of `escape_json_string`

`escape_json_string` of `src/04-integration/logger.c` stores one byte or two in a round of its loop,
each behind a guard with an unsigned subtraction, and a terminator at the end. `escapeStores` are
these stores; the text they leave is that of `escapeJsonString`, of which the other modules speak.

`escape_sound_lossless`: from two bytes on, the stores stay in the buffer and leave the body of a
JSON string there, and if the buffer has two bytes for each byte of the input and two besides, this
string stands for the printable part of the input and for nothing else.
-/

namespace ProcessMonitor.Integration

open CString Json Buffer

/-! ## The stores -/

/-- `output_size - k`, in the type `size_t`. -/
def sizeSub (outputSize k : ℕ) : ℕ := (2 ^ 64 + outputSize - k) % 2 ^ 64

/-- The stores of the loop from the index `j` on, and that of the terminator.
Source: `logger.c`, `escape_json_string` -/
def escapeStores (outputSize : ℕ) : ℕ → List UInt8 → List Store
  | j, [] => [⟨j, 0⟩]
  | j, b :: input =>
      if j < sizeSub outputSize 2 then
        match escapeLetter b with
        | some c =>
            if j < sizeSub outputSize 3 then
              ⟨j, 92⟩ :: ⟨j + 1, c⟩ :: escapeStores outputSize (j + 2) input
            else escapeStores outputSize j input
        | none =>
            if isprint b then ⟨j, b⟩ :: escapeStores outputSize (j + 1) input
            else escapeStores outputSize j input
      else [⟨j, 0⟩]

/-- The stores of a call: `input_len` is `strlen(input)`. -/
def escapeJsonStores (input : List UInt8) (outputSize : ℕ) : List Store :=
  escapeStores outputSize 0 (cstr input)

section loop

variable {outputSize : ℕ} (hsize : outputSize < 2 ^ 64)
include hsize

/-- No wrap as long as there is that much. -/
lemma sizeSub_eq {k : ℕ} (hk : k ≤ outputSize) : sizeSub outputSize k = outputSize - k := by
  unfold sizeSub
  omega

/-- **One round**: the bytes of `b`, where they fit, or none; and there is still room for the
terminator and a byte. -/
lemma exists_round {j : ℕ} (hguard : j < outputSize - 2) (b : UInt8) (input : List UInt8) :
    ∃ round, (round = escapeByte b ∨ round = []) ∧
      j + round.length + 2 ≤ outputSize ∧
      escapeStores outputSize j (b :: input) =
        consecutive j round ++ escapeStores outputSize (j + round.length) input ∧
      ∀ output, output.length = j → escapeStep outputSize output b = output ++ round := by
  rw [escapeStores, sizeSub_eq hsize (by omega), sizeSub_eq hsize (by omega), if_pos hguard]
  unfold escapeByte escapeStep
  cases escapeLetter b with
  | some c =>
      by_cases hinner : j < outputSize - 3
      · refine ⟨[92, c], Or.inl rfl, ?_, ?_, ?_⟩
        · show j + 2 + 2 ≤ outputSize
          omega
        · simp only [if_pos hinner]
          rfl
        · intro output houtput
          simp only [houtput, if_pos hinner]
      · refine ⟨[], Or.inr rfl, ?_, ?_, ?_⟩
        · show j + 0 + 2 ≤ outputSize
          omega
        · simp only [if_neg hinner]
          rfl
        · intro output houtput
          simp only [houtput, if_neg hinner, List.append_nil]
  | none =>
      refine ⟨if isprint b then [b] else [], Or.inl rfl, ?_⟩
      cases isprint b with
      | true =>
          refine ⟨?_, rfl, fun output _ => rfl⟩
          show j + 1 + 2 ≤ outputSize
          omega
      | false =>
          refine ⟨?_, rfl, fun output _ => (List.append_nil output).symm⟩
          show j + 0 + 2 ≤ outputSize
          omega

/-- **The bytes that are shown.** What the guards leave out are whole bytes of the input, so that no
escape is cut in two. -/
lemma exists_shown {j : ℕ} (hj : j + 2 ≤ outputSize) (input : List UInt8) :
    ∃ shown : List UInt8,
      escapeStores outputSize j input = consecutive j (shown.flatMap escapeByte ++ [0]) ∧
      (∀ output, output.length = j →
        escapeLoop outputSize output input = output ++ shown.flatMap escapeByte) ∧
      j + (shown.flatMap escapeByte).length + 2 ≤ outputSize := by
  induction input generalizing j with
  | nil => exact ⟨[], rfl, fun output _ => (List.append_nil output).symm, hj⟩
  | cons b input ih =>
      by_cases hguard : j < outputSize - 2
      · obtain ⟨round, hround, hroom, hstores, hstep⟩ := exists_round hsize hguard b input
        obtain ⟨shown, hrest, hloop, hlen⟩ := ih hroom
        obtain ⟨shown', hshown'⟩ : ∃ shown' : List UInt8, shown'.flatMap escapeByte =
            round ++ shown.flatMap escapeByte := by
          rcases hround with rfl | rfl
          · exact ⟨b :: shown, List.flatMap_cons⟩
          · exact ⟨shown, rfl⟩
        refine ⟨shown', ?_, ?_, ?_⟩
        · rw [hstores, hrest, Nat.cast_add, ← consecutive_append, hshown', List.append_assoc]
        · intro output houtput
          rw [escapeLoop, houtput, if_pos hguard, hstep output houtput,
            hloop _ (by rw [List.length_append, houtput]), hshown', List.append_assoc]
        · rw [hshown', List.length_append]
          omega
      · refine ⟨[], ?_, ?_, hj⟩
        · rw [escapeStores, sizeSub_eq hsize (by omega), if_neg hguard]
          rfl
        · intro output houtput
          rw [escapeLoop, houtput, if_neg hguard]
          exact (List.append_nil output).symm

/-! ## The string -/

/-- **What a call stores**: the text of `escapeJsonString` at the front of the buffer, and behind it
a terminator that is still in the buffer. -/
lemma escapeJsonStores_eq (htwo : 2 ≤ outputSize) (input : List UInt8) :
    escapeJsonStores input outputSize =
        consecutive 0 (escapeJsonString input outputSize ++ [0]) ∧
      (escapeJsonString input outputSize).length + 2 ≤ outputSize ∧
      ∃ v, StringBody v (escapeJsonString input outputSize) := by
  obtain ⟨shown, hstores, hloop, hroom⟩ := exists_shown (j := 0) hsize htwo (cstr input)
  have htext : escapeJsonString input outputSize = shown.flatMap escapeByte := hloop [] rfl
  refine ⟨?_, ?_, ?_⟩
  · rw [escapeJsonStores, hstores, htext, Nat.cast_zero]
  · rw [htext]
    omega
  · rw [htext]
    exact ⟨_, (stringBody_escape shown).1⟩

/-- What the buffer holds then. -/
lemma stores_escapeJson (htwo : 2 ≤ outputSize) (input : List UInt8) {mem : List UInt8}
    (hmem : outputSize ≤ mem.length) :
    stores mem (escapeJsonStores input outputSize) =
        escapeJsonString input outputSize ++
          0 :: mem.drop ((escapeJsonString input outputSize).length + 1) ∧
      cstr (stores mem (escapeJsonStores input outputSize)) =
        escapeJsonString input outputSize := by
  obtain ⟨hss, hroom, v, hv⟩ := escapeJsonStores_eq hsize htwo input
  have hlength : (escapeJsonString input outputSize ++ [0]).length =
      (escapeJsonString input outputSize).length + 1 := List.length_append
  have hput := stores_consecutive mem 0 (escapeJsonString input outputSize ++ [0]) (by omega)
  rw [Nat.cast_zero, ← hss, put, List.take_zero, List.nil_append, Nat.zero_add, hlength,
    List.append_assoc, List.singleton_append] at hput
  have hnul : (0 : UInt8) ∉ escapeJsonString input outputSize := by
    intro h0
    have hlow := hv.le_of_mem 0 h0
    exact absurd hlow (by decide)
  refine ⟨hput, ?_⟩
  rw [hput]
  exact cstr_append_zero hnul _

end loop

/-- **Nothing else is meant** by the escapes of a message than its printable part. -/
lemma eq_printable {v message : List UInt8} (h : StringBody v (message.flatMap escapeByte)) :
    v = printable message := by
  induction message generalizing v with
  | nil => exact h.eq_nil
  | cons b message ih =>
      rw [List.flatMap_cons] at h
      rw [printable]
      rcases escapeByte_cases b with ⟨hkept, -, c, hc, heq⟩ | ⟨hkept, hplain, heq⟩ | ⟨hkept, heq⟩
      · rw [heq] at h
        obtain ⟨v', rfl, hv'⟩ := StringBody.of_short hc h
        rw [List.filter_cons_of_pos hkept, ih hv', printable]
      · rw [heq] at h
        obtain ⟨v', rfl, hv'⟩ := StringBody.of_plainByte hplain h
        rw [List.filter_cons_of_pos hkept, ih hv', printable]
      · rw [heq, List.nil_append] at h
        rw [List.filter_cons_of_neg (by rw [hkept]; decide), ih h, printable]

/-- **A text that is not cut** stands for the printable part of the input alone. -/
lemma stringBody_escapeJson_iff {input : List UInt8} {outputSize : ℕ}
    (hfits : 2 * (cstr input).length + 2 ≤ outputSize) (v : List UInt8) :
    StringBody v (escapeJsonString input outputSize) ↔ v = printable (cstr input) := by
  have hall : escapeJsonString input outputSize = (cstr input).flatMap escapeByte := by
    rw [escapeJsonString, escapeLoop_eq]
    · rfl
    · simpa using hfits
  rw [hall]
  constructor
  · exact eq_printable
  · rintro rfl
    exact (stringBody_escape (cstr input)).1

/-- A message of the logger fits in its buffer. -/
lemma length_message_le (formatted : List UInt8) :
    2 * (cstr (snprintf maxLogLength formatted)).length + 2 ≤ maxLogLength * 2 := by
  have hcut := length_snprintf_le maxLogLength formatted
  have hle : (cstr (snprintf maxLogLength formatted)).length ≤ maxLogLength - 1 :=
    ((List.takeWhile_prefix _).length_le).trans hcut
  have hpos : 0 < maxLogLength := by decide
  omega

/-- **`escape_json_string` is sound and lossless.** For every input and every buffer of two bytes or
more, it stores inside the buffer only, and leaves a string there that is the body of a string of
JSON, without control characters. If the buffer has two bytes for each byte of the input and two
besides, as that of the logger has, this string stands for the input without the bytes that are
neither printable ASCII nor newline, carriage return or tab, and for nothing else. -/
theorem escape_sound_lossless (input mem : List UInt8) (outputSize : ℕ) (htwo : 2 ≤ outputSize)
    (hsize : outputSize < 2 ^ 64) (hmem : outputSize ≤ mem.length) :
    (∀ s ∈ escapeJsonStores input outputSize, 0 ≤ s.index ∧ s.index < outputSize) ∧
      let after := stores mem (escapeJsonStores input outputSize)
      let text := cstr after
      text = escapeJsonString input outputSize ∧
        text.length < outputSize ∧
        after = text ++ 0 :: mem.drop (text.length + 1) ∧
        (∃ v, StringBody v text) ∧
        (∀ b ∈ text, 32 ≤ b.toNat) ∧
        (2 * (cstr input).length + 2 ≤ outputSize →
          ∀ v, StringBody v text ↔ v = (cstr input).filter kept) ∧
        ∀ formatted,
          2 * (cstr (snprintf maxLogLength formatted)).length + 2 ≤ maxLogLength * 2 := by
  obtain ⟨hss, hroom, v, hv⟩ := escapeJsonStores_eq hsize htwo input
  obtain ⟨hafter, htext⟩ := stores_escapeJson hsize htwo input hmem
  refine ⟨?_, ?_⟩
  · intro s hs
    rw [hss] at hs
    have hindex := index_of_mem_consecutive hs
    rw [List.length_append, List.length_singleton] at hindex
    omega
  · intro after text
    have htext' : text = escapeJsonString input outputSize := htext
    rw [htext']
    exact ⟨rfl, by omega, hafter, ⟨v, hv⟩, hv.le_of_mem, stringBody_escapeJson_iff,
      length_message_le⟩

/-- Three bytes with a quote among them, in the least buffer for which nothing is lost. -/
theorem escape_quote :
    let input : List UInt8 := [97, 34, 1]
    let text := cstr (stores (List.replicate 8 7) (escapeJsonStores input 8))
    text = [97, 92, 34] ∧ ∀ v, StringBody v text ↔ v = [97, 34] := by
  have h := escape_sound_lossless [97, 34, 1] (List.replicate 8 7) 8 (by decide) (by decide)
    (by decide)
  exact ⟨by decide, h.2.2.2.2.2.2.1 (by decide)⟩

end ProcessMonitor.Integration
