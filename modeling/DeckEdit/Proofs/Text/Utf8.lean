import DeckEdit.Proofs.Text
import DeckEdit.Text.Lines
import DeckEdit.Text.Utf8
import Mathlib.Data.List.TakeWhile
import Mathlib.Tactic.SplitIfs

/-! A text that has a form in UTF-8 is read back from its bytes, code point by code point; and a text without
    carriage returns has the line breaks that it is read with. -/

namespace DeckEdit
namespace Utf8

/-! ### Bytes -/

theorem toNat_ofNat {n : Nat} (h : n < 0x100) : (UInt8.ofNat n).toNat = n :=
  UInt8.toNat_ofNat_of_lt' h

section
variable {position : Nat} {taken : Text} {rest : List UInt8}

theorem decodeFrom_lead {b : UInt8} {lead : Lead} (hlead : lead? b.toNat = some lead)
    (hfollow : lead.follow ≠ 0) : decodeFrom position none taken (b :: rest) =
      decodeFrom (position + 1) (some ⟨b, 1, lead.follow, lead.low, lead.high, lead.bits⟩) taken rest := by
  simp only [decodeFrom, hlead, if_neg hfollow]

theorem toNat_continuation (n shift : Nat) :
    (continuation n shift).toNat = 0x80 + n / Nat.pow 2 shift % 0x40 := by
  have hmod : n / Nat.pow 2 shift % 0x40 < 0x40 := Nat.mod_lt _ (by decide)
  exact toNat_ofNat (by omega)

variable {first : UInt8} {seen low high bits n shift : Nat}

/-- A continuation byte within the bounds adds its six bits. -/
theorem decodeFrom_next {owed : Nat} (hlow : low ≤ 0x80 + n / Nat.pow 2 shift % 0x40)
    (hhigh : 0x80 + n / Nat.pow 2 shift % 0x40 ≤ high) :
    decodeFrom position (some ⟨first, seen, owed + 2, low, high, bits⟩) taken (continuation n shift :: rest) =
      decodeFrom (position + 1)
        (some ⟨first, seen + 1, owed + 1, 0x80, 0xBF, bits * 0x40 + n / Nat.pow 2 shift % 0x40⟩)
        taken rest := by
  rw [decodeFrom]
  simp only [toNat_continuation]
  rw [if_neg (by omega), if_neg (by omega), Nat.add_sub_cancel_left]
  rfl

theorem decodeFrom_last :
    decodeFrom position (some ⟨first, seen, 1, 0x80, 0xBF, bits⟩) taken (continuation n shift :: rest) =
      decodeFrom (position + 1) none
        (CodePoint.ofNat (bits * 0x40 + n / Nat.pow 2 shift % 0x40) :: taken) rest := by
  have hmod : n / Nat.pow 2 shift % 0x40 < 0x40 := Nat.mod_lt _ (by decide)
  rw [decodeFrom]
  simp only [toNat_continuation, if_true]
  rw [if_neg (by omega), Nat.add_sub_cancel_left]

end

/-! ### Code points -/

theorem lead?_two {n : Nat} (hlow : 0x80 ≤ n) (hhigh : n < 0x800) :
    lead? (0xC0 + n / 0x40) = some ⟨1, 0x80, 0xBF, n / 0x40⟩ := by
  rw [lead?, if_neg (by omega), if_neg (by omega), if_pos (by omega), Nat.add_sub_cancel_left]

/-- The first byte of three leaves the second one such bounds that it cannot spell a surrogate, and needs all
    three bytes. -/
theorem exists_lead?_three {n : Nat} (hlow : 0x800 ≤ n) (hhigh : n < 0x10000)
    (hscalar : n < 0xD800 ∨ 0xDFFF < n) :
    ∃ low high, lead? (0xE0 + n / 0x1000) = some ⟨2, low, high, n / 0x1000⟩ ∧
      low ≤ 0x80 + n / 0x40 % 0x40 ∧ 0x80 + n / 0x40 % 0x40 ≤ high := by
  by_cases hfirst : n / 0x1000 = 0
  · rw [hfirst]
    exact ⟨0xA0, 0xBF, rfl, by omega, by omega⟩
  by_cases hsurrogates : n / 0x1000 = 0xD
  · rw [hsurrogates]
    exact ⟨0x80, 0x9F, rfl, by omega, by omega⟩
  · refine ⟨0x80, 0xBF, ?_, by omega, by omega⟩
    rw [lead?, if_neg (by omega), if_neg (by omega), if_neg (by omega), if_neg (by omega), if_neg (by omega),
      if_pos (by omega), Nat.add_sub_cancel_left]

theorem exists_lead?_four {n : Nat} (hlow : 0x10000 ≤ n) (hhigh : n < 0x110000) :
    ∃ low high, lead? (0xF0 + n / 0x40000) = some ⟨3, low, high, n / 0x40000⟩ ∧
      low ≤ 0x80 + n / 0x1000 % 0x40 ∧ 0x80 + n / 0x1000 % 0x40 ≤ high := by
  by_cases hfirst : n / 0x40000 = 0
  · rw [hfirst]
    exact ⟨0x90, 0xBF, rfl, by omega, by omega⟩
  by_cases hlast : n / 0x40000 = 4
  · rw [hlast]
    exact ⟨0x80, 0x8F, rfl, by omega, by omega⟩
  · refine ⟨0x80, 0xBF, ?_, by omega, by omega⟩
    rw [lead?, if_neg (by omega), if_neg (by omega), if_neg (by omega), if_neg (by omega), if_neg (by omega),
      if_neg (by omega), if_neg (by omega), if_pos (by omega), Nat.add_sub_cancel_left]

section
variable {c : CodePoint} (position : Nat) (taken : Text) (rest : List UInt8)

theorem decodeFrom_one (h : c.val < 0x80) : decodeFrom position none taken (UInt8.ofNat c.val :: rest) =
    decodeFrom (position + 1) none (c :: taken) rest := by
  have hlead : lead? (UInt8.ofNat c.val).toNat = some ⟨0, 0x80, 0xBF, c.val⟩ := by
    rw [toNat_ofNat (by omega), lead?, if_pos h]
  simp only [decodeFrom, hlead, if_true, CodePoint.ofNat_val]

theorem decodeFrom_two (hlow : 0x80 ≤ c.val) (hhigh : c.val < 0x800) :
    decodeFrom position none taken (UInt8.ofNat (0xC0 + c.val / 0x40) :: continuation c.val 0 :: rest) =
      decodeFrom (position + 2) none (c :: taken) rest := by
  have hlead := lead?_two hlow hhigh
  rw [← toNat_ofNat (n := 0xC0 + c.val / 0x40) (by omega)] at hlead
  have hvalue : c.val / 0x40 * 0x40 + c.val / Nat.pow 2 0 % 0x40 = c.val := by
    change c.val / 0x40 * 0x40 + c.val / 1 % 0x40 = c.val
    omega
  rw [decodeFrom_lead hlead (Nat.succ_ne_zero _), decodeFrom_last, hvalue, CodePoint.ofNat_val]

theorem decodeFrom_three (hlow : 0x800 ≤ c.val) (hhigh : c.val < 0x10000)
    (hscalar : c.val < 0xD800 ∨ 0xDFFF < c.val) :
    decodeFrom position none taken
        (UInt8.ofNat (0xE0 + c.val / 0x1000) :: continuation c.val 6 :: continuation c.val 0 :: rest) =
      decodeFrom (position + 3) none (c :: taken) rest := by
  obtain ⟨low, high, hlead, hleast, hmost⟩ := exists_lead?_three hlow hhigh hscalar
  rw [← toNat_ofNat (n := 0xE0 + c.val / 0x1000) (by omega)] at hlead
  have hvalue : (c.val / 0x1000 * 0x40 + c.val / Nat.pow 2 6 % 0x40) * 0x40 +
      c.val / Nat.pow 2 0 % 0x40 = c.val := by
    change (c.val / 0x1000 * 0x40 + c.val / 0x40 % 0x40) * 0x40 + c.val / 1 % 0x40 = c.val
    omega
  rw [decodeFrom_lead hlead (Nat.succ_ne_zero _), decodeFrom_next hleast hmost, decodeFrom_last, hvalue,
    CodePoint.ofNat_val]

theorem decodeFrom_four (hlow : 0x10000 ≤ c.val) :
    decodeFrom position none taken (UInt8.ofNat (0xF0 + c.val / 0x40000) :: continuation c.val 12 ::
        continuation c.val 6 :: continuation c.val 0 :: rest) =
      decodeFrom (position + 4) none (c :: taken) rest := by
  have hhigh := c.isLt
  obtain ⟨low, high, hlead, hleast, hmost⟩ := exists_lead?_four hlow hhigh
  rw [← toNat_ofNat (n := 0xF0 + c.val / 0x40000) (by omega)] at hlead
  have hvalue : ((c.val / 0x40000 * 0x40 + c.val / Nat.pow 2 12 % 0x40) * 0x40 +
      c.val / Nat.pow 2 6 % 0x40) * 0x40 + c.val / Nat.pow 2 0 % 0x40 = c.val := by
    change ((c.val / 0x40000 * 0x40 + c.val / 0x1000 % 0x40) * 0x40 + c.val / 0x40 % 0x40) * 0x40 +
      c.val / 1 % 0x40 = c.val
    omega
  have hthird := Nat.mod_lt (c.val / Nat.pow 2 6) (show 0 < 0x40 by decide)
  rw [decodeFrom_lead hlead (Nat.succ_ne_zero _), decodeFrom_next hleast hmost,
    decodeFrom_next (Nat.le_add_right _ _) (by omega), decodeFrom_last, hvalue, CodePoint.ofNat_val]

end

/-- The bytes of a code point are read as the code point. -/
theorem decodeFrom_bytesOf {c : CodePoint} (h : c.isSurrogate = false) (position : Nat) (taken : Text)
    (rest : List UInt8) : decodeFrom position none taken (bytesOf c ++ rest) =
      decodeFrom (position + (bytesOf c).length) none (c :: taken) rest := by
  have hscalar : c.val < 0xD800 ∨ 0xDFFF < c.val := by
    simp only [CodePoint.isSurrogate, Bool.and_eq_false_imp, decide_eq_true_eq, decide_eq_false_iff_not] at h
    omega
  unfold bytesOf
  dsimp only
  split_ifs with hone htwo hthree
  · exact decodeFrom_one position taken rest hone
  · exact decodeFrom_two position taken rest (Nat.not_lt.mp hone) htwo
  · exact decodeFrom_three position taken rest (Nat.not_lt.mp htwo) hthree hscalar
  · exact decodeFrom_four position taken rest (Nat.not_lt.mp hthree)

/-! ### Texts -/

theorem decodeFrom_flatMap {t : Text} (h : ∀ c ∈ t, c.isSurrogate = false) (position : Nat) (taken : Text) :
    decodeFrom position none taken (t.flatMap bytesOf) = .ok (taken.reverse ++ t) := by
  induction t generalizing position taken with
  | nil => simp [decodeFrom]
  | cons c t ih =>
    rw [List.flatMap_cons, decodeFrom_bytesOf (h c List.mem_cons_self),
      ih fun d hd => h d (List.mem_cons_of_mem c hd)]
    simp

theorem unencodable?_eq_none_iff (spared : CodePoint → Bool) (t : Text) :
    unencodable? spared t = none ↔ ∀ c ∈ t, c.isSurrogate = true → spared c = true := by
  have hdrop : (t.dropWhile fun c => !c.isSurrogate || spared c) = [] ↔
      ∀ c ∈ t, c.isSurrogate = true → spared c = true := by
    rw [List.dropWhile_eq_nil_iff]
    exact forall₂_congr fun c _ => by cases c.isSurrogate <;> simp
  unfold unencodable?
  split
  · rename_i hnil
    exact iff_of_true rfl (hdrop.mp hnil)
  · rename_i c rest hcons
    exact iff_of_false nofun fun h => by cases hcons.symm.trans (hdrop.mpr h)

/-- A text has no form in UTF-8 if it holds a surrogate. -/
theorem encode_eq_error_iff {t : Text} : (∃ e, encode t = .error e) ↔ ∃ c ∈ t, c.isSurrogate = true := by
  have hnone := unencodable?_eq_none_iff (fun _ => false) t
  unfold encode
  split
  · rename_i hencodes
    refine iff_of_false nofun ?_
    rintro ⟨c, hc, hsurrogate⟩
    cases hnone.mp hencodes c hc hsurrogate
  · rename_i e hfound
    refine iff_of_true ⟨e, rfl⟩ ?_
    by_contra hall
    cases hfound.symm.trans (hnone.mpr fun c hc hsurrogate => absurd ⟨c, hc, hsurrogate⟩ hall)

theorem isSurrogate_of_encode {t : Text} {bytes : List UInt8} (h : encode t = .ok bytes) :
    ∀ c ∈ t, c.isSurrogate = false := by
  intro c hc
  by_contra hsurrogate
  obtain ⟨e, he⟩ := encode_eq_error_iff.mpr ⟨c, hc, Bool.of_not_eq_false hsurrogate⟩
  cases h.symm.trans he

/-- What is written is read again. -/
theorem decode_of_encode {t : Text} {bytes : List UInt8} (h : encode t = .ok bytes) :
    decode bytes = .ok t := by
  have hscalar := isSurrogate_of_encode h
  unfold encode at h
  split at h
  · cases h
    exact decodeFrom_flatMap hscalar 0 []
  · cases h

end Utf8

namespace Text

theorem withLineFeeds_eq {t : Text} (h : CodePoint.ofChar '\r' ∉ t) (taken : Text) :
    withLineFeeds false taken t = taken.reverse ++ t := by
  induction t generalizing taken with
  | nil => simp [withLineFeeds]
  | cons c t ih =>
    obtain ⟨hne, hrest⟩ := List.ne_and_not_mem_of_not_mem_cons h
    rw [withLineFeeds, if_neg (Ne.symm hne), if_neg Bool.false_ne_true, ite_self, ih hrest]
    simp

theorem normalizeLines_eq_self {t : Text} (h : CodePoint.ofChar '\r' ∉ t) : t.normalizeLines = t :=
  withLineFeeds_eq h []

end Text
end DeckEdit
