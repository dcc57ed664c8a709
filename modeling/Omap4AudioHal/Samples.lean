import Omap4AudioHal.Config
import Mathlib.Logic.Function.Basic
import Mathlib.Data.List.Range

/-!
# Sample arrays

The buffers of the HAL are arrays of 16-bit samples, `int16_t *` in the source; here a buffer is a
function from sample index to the sample's bit pattern, and what a piece of code may touch is
tracked separately (`Span`, in bytes). Three operations of the source act on whole arrays: the
in-place loop that keeps the left channel of interleaved stereo frames, `pcm_read` filling a
prefix, and the `memset` of a muted read.

## The in-place loop

`for (i = 1; i < n; i++) a[i] = a[i * 2]` reads index `2i` after it has written only indices below
`i`, and `2i ≥ i`, so every read sees the original array: `discardRightChannel_apply`. The lemma
holds of every array and every `n`, with no invariant to carry.

The loop's accesses are listed as spans beside it (`discardSpans`), and the two are tied by its
footprint: a sample no span covers keeps its value, and the samples the spans cover depend on
nothing else (`discardRightChannel_footprint`). What bounds the spans then bounds the loop.
-/

namespace Omap4AudioHal

variable {α : Type}

/-- `k` iterations of `a[i] = a[2 * i]`, starting at index `i`. -/
def discardFrom (a : Nat → α) (i : Nat) : Nat → Nat → α
  | 0 => a
  | k + 1 => discardFrom (Function.update a i (a (2 * i))) (i + 1) k

/-- `for (i = 1; i < n; i++) a[i] = a[i * 2]`. -/
def discardRightChannel (a : Nat → α) (n : Nat) : Nat → α :=
  discardFrom a 1 (n - 1)

theorem discardFrom_apply (a : Nat → α) (i k j : Nat) :
    discardFrom a i k j = if i ≤ j ∧ j < i + k then a (2 * j) else a j := by
  induction k generalizing a i with
  | zero => rw [discardFrom, if_neg (by omega)]
  | succ k ih =>
    rw [discardFrom, ih]
    by_cases hj : j = i
    · subst hj; simp
    · have h2 : 2 * j ≠ i ∨ ¬(i + 1 ≤ j ∧ j < i + 1 + k) := by omega
      rcases h2 with h2 | h2
      · simp only [Function.update_noteq h2, Function.update_noteq hj]
        split_ifs <;> first | rfl | omega
      · simp only [if_neg h2, Function.update_noteq hj]
        split_ifs <;> first | rfl | omega

/-- **The in-place compaction is correct.** After the loop, the first `n` entries are the
even-indexed entries of the original array. -/
theorem discardRightChannel_apply (a : Nat → α) {n j : Nat} (hj : j < n) :
    discardRightChannel a n j = a (2 * j) := by
  rw [discardRightChannel, discardFrom_apply]
  split_ifs with h
  · rfl
  · have : j = 0 := by omega
    subst this; rfl

/-! ## Filling and clearing -/

/-- `dst` with its first `n` samples taken from `src`. -/
def fillPrefix (dst src : Nat → UInt16) (n : Nat) : Nat → UInt16 :=
  fun j ↦ if j < n then src j else dst j

@[simp] theorem fillPrefix_lt {dst src : Nat → UInt16} {n j : Nat} (h : j < n) :
    fillPrefix dst src n j = src j := if_pos h

/-- The byte at offset `k` of a sample array, little-endian as on the target. -/
def byteAt (a : Nat → UInt16) (k : Nat) : UInt8 :=
  if k % 2 = 0 then (a (k / 2)).toUInt8 else (a (k / 2) >>> 8).toUInt8

/-- `memset(a, 0, bytes)`: the samples wholly inside the first `bytes` bytes become `0`, and when
`bytes` is odd the low byte of the next sample. -/
def memsetZero (a : Nat → UInt16) (bytes : Nat) : Nat → UInt16 :=
  fun j ↦ if 2 * j + 2 ≤ bytes then 0 else if 2 * j < bytes then a j &&& 0xFF00 else a j

theorem toUInt8_and_ff00 (x : UInt16) : (x &&& 0xFF00).toUInt8 = 0 := by
  have h : (x.toNat &&& 0xFF00) % 2 ^ 8 = 0 := by
    rw [← Nat.and_pow_two_sub_one_eq_mod, Nat.and_assoc,
      show (0xFF00 &&& 2 ^ 8 - 1 : Nat) = 0 by decide, Nat.and_zero]
  show Nat.toUInt8 _ = 0
  rw [UInt16.and_toNat]
  exact UInt8.eq_of_val_eq (Fin.ext h)

/-- **`memset` clears exactly the bytes it is given.** -/
theorem byteAt_memsetZero (a : Nat → UInt16) {bytes k : Nat} (hk : k < bytes) :
    byteAt (memsetZero a bytes) k = 0 := by
  unfold byteAt memsetZero
  by_cases hfull : 2 * (k / 2) + 2 ≤ bytes
  · simp only [if_pos hfull]
    split_ifs <;> rfl
  · have hodd : k % 2 = 0 := by omega
    simp only [if_neg hfull, if_pos (show 2 * (k / 2) < bytes by omega), if_pos hodd]
    exact toUInt8_and_ff00 _

/-- `memset` leaves the samples past its `bytes` bytes alone. -/
theorem memsetZero_of_le (a : Nat → UInt16) {bytes j : Nat} (hj : bytes ≤ 2 * j) :
    memsetZero a bytes j = a j := by
  unfold memsetZero
  rw [if_neg (by omega), if_neg (by omega)]

theorem fillPrefix_of_le {dst src : Nat → UInt16} {n j : Nat} (h : n ≤ j) :
    fillPrefix dst src n j = dst j := if_neg (by omega)

/-! ## Spans -/

/-- A range `[lo, hi)` of byte offsets into a buffer that a piece of code reads or writes. -/
structure Span where
  lo : Nat
  hi : Nat
  deriving DecidableEq, Repr

/-- Every access stays inside a buffer of `size` bytes. -/
def Span.within (size : Nat) (sp : Span) : Prop := sp.hi ≤ size

instance (size : Nat) (sp : Span) : Decidable (sp.within size) :=
  inferInstanceAs (Decidable (sp.hi ≤ size))

/-- The byte ranges the loop `for (i = 1; i < n; i++) a[i] = a[i * 2]` reads (`a[2i]`) and
writes (`a[i]`), one span per access. -/
def discardSpans (n : Nat) : List Span :=
  (List.range' 1 (n - 1)).flatMap fun i ↦ [⟨4 * i, 4 * i + 2⟩, ⟨2 * i, 2 * i + 2⟩]

theorem mem_discardSpans {n : Nat} {sp : Span} (h : sp ∈ discardSpans n) :
    ∃ i, 1 ≤ i ∧ i < n ∧ (sp = ⟨4 * i, 4 * i + 2⟩ ∨ sp = ⟨2 * i, 2 * i + 2⟩) := by
  simp only [discardSpans, List.mem_flatMap, List.mem_range'_1, List.mem_cons,
    List.not_mem_nil, or_false] at h
  obtain ⟨i, hi, hsp⟩ := h
  exact ⟨i, hi.1, by omega, hsp⟩

/-- Sample `j` lies in a span of the loop when the loop writes it (`1 ≤ j < n`) or reads it
(`j = 2i` for such an `i`). -/
theorem sample_mem_discardSpans {n j : Nat} :
    (⟨2 * j, 2 * j + 2⟩ : Span) ∈ discardSpans n ↔
      (1 ≤ j ∧ j < n) ∨ ∃ i, 1 ≤ i ∧ i < n ∧ j = 2 * i := by
  simp only [discardSpans, List.mem_flatMap, List.mem_range'_1, List.mem_cons, List.not_mem_nil,
    or_false, Span.mk.injEq]
  constructor
  · rintro ⟨i, hi, ⟨h, -⟩ | ⟨h, -⟩⟩
    · exact .inr ⟨i, hi.1, by omega, by omega⟩
    · exact .inl (by omega)
  · rintro (hj | ⟨i, hi, hin, rfl⟩)
    · exact ⟨j, by omega, .inr ⟨rfl, rfl⟩⟩
    · exact ⟨i, by omega, .inl ⟨by omega, by omega⟩⟩

/-- **The loop's footprint is its spans.** A sample no span of the loop covers keeps its value,
and arrays that agree on the samples the spans cover leave the same values there: the loop reads
and writes nothing outside `discardSpans`. -/
theorem discardRightChannel_footprint (n : Nat) :
    (∀ (a : Nat → α) j, (⟨2 * j, 2 * j + 2⟩ : Span) ∉ discardSpans n →
      discardRightChannel a n j = a j) ∧
    ∀ a b : Nat → α, (∀ j, (⟨2 * j, 2 * j + 2⟩ : Span) ∈ discardSpans n → a j = b j) →
      ∀ j, (⟨2 * j, 2 * j + 2⟩ : Span) ∈ discardSpans n →
        discardRightChannel a n j = discardRightChannel b n j := by
  have happ : ∀ (a : Nat → α) j,
      discardRightChannel a n j = if 1 ≤ j ∧ j < n then a (2 * j) else a j := fun a j ↦ by
    rw [discardRightChannel, discardFrom_apply]
    split_ifs <;> first | rfl | omega
  refine ⟨fun a j hj ↦ ?_, fun a b hab j hj ↦ ?_⟩
  · rw [happ, if_neg fun h ↦ hj (sample_mem_discardSpans.2 (.inl h))]
  · rw [happ, happ]
    split_ifs with h
    · exact hab _ (sample_mem_discardSpans.2 (.inr ⟨j, h.1, h.2, rfl⟩))
    · exact hab j hj

/-- **The in-place loop touches only the first `2n - 1` samples.** It leaves `a[i] = a0[2i]` for
every `i < n`, and every sample it reads or writes lies in the first `2 * (2n - 1)` bytes. -/
theorem discardRightChannel_within (a : Nat → α) (n : Nat) :
    (∀ i < n, discardRightChannel a n i = a (2 * i)) ∧
      ∀ sp ∈ discardSpans n, sp.within (2 * (2 * n - 1)) := by
  refine ⟨fun _ hi ↦ discardRightChannel_apply a hi, fun sp hsp ↦ ?_⟩
  obtain ⟨i, _, hi, rfl | rfl⟩ := mem_discardSpans hsp <;> (simp only [Span.within]; omega)

end Omap4AudioHal
