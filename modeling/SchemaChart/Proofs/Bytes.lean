import Mathlib
import SchemaChart.Proofs.Results
import SchemaChart.Text.Utf8

/-!
# Texts as bytes

Bytes are read as a text exactly if they are those of the text (`decode_ok_iff`). A
character takes one byte, or a lead byte and up to three more. The bounds on the second byte
rule out no character: they keep away overlong forms, surrogates and what lies behind the last
plane, so that a character is read from no bytes but its own.
-/

namespace SchemaChart

theorem toNat_byte (h : n < 0x100) : (UInt8.ofNat n).toNat = n := UInt8.toNat_ofNat_of_lt h

namespace Bytes

-- ---------------------------------------------------------------------------
-- One byte
-- ---------------------------------------------------------------------------

theorem decodeFrom_ascii (hn : n < 0x80) (position : Nat) (rest : Bytes) :
    decodeFrom position none (UInt8.ofNat n :: rest) =
      (decodeFrom (position + 1) none rest).map (Char.ofNat n :: ·) := by
  have byte : (UInt8.ofNat n).toNat = n := toNat_byte (by omega)
  have small : UInt8.ofNat n < 0x80 := by
    rw [UInt8.lt_iff_toNat_lt, byte]
    exact hn
  rw [decodeFrom, if_pos small, byte]

theorem decodeFrom_lead (large : 0x80 ≤ n) (hn : n < 0x100)
    (start : Utf8Partial.start? (UInt8.ofNat n) = some p) (position : Nat) (rest : Bytes) :
    decodeFrom position none (UInt8.ofNat n :: rest) = decodeFrom (position + 1) (some p) rest := by
  have other : ¬UInt8.ofNat n < 0x80 := by
    rw [UInt8.lt_iff_toNat_lt, toNat_byte hn]
    exact Nat.not_lt.mpr large
  rw [decodeFrom, if_neg other, start]

/-- Whether a byte may come next in a character. -/
def Fits (p : Utf8Partial) (n : Nat) : Prop := p.low.toNat ≤ n ∧ n ≤ p.high.toNat ∧ n < 0x100

theorem Fits.bounds (h : Fits p n) : (p.low ≤ UInt8.ofNat n && UInt8.ofNat n ≤ p.high) = true := by
  rw [Bool.and_eq_true, decide_eq_true_eq, decide_eq_true_eq, UInt8.le_iff_toNat_le,
    UInt8.le_iff_toNat_le, toNat_byte h.2.2]
  exact ⟨h.1, h.2.1⟩

theorem decodeFrom_owed {p : Utf8Partial} (h : Fits p n) (owed : p.owed = k + 1) (position : Nat)
    (rest : Bytes) : decodeFrom position (some p) (UInt8.ofNat n :: rest) =
      decodeFrom (position + 1)
        (some ⟨p.lead, p.count + 1, k, 0x80, 0xBF, p.bits * 0x40 + n % 0x40⟩) rest := by
  simp only [decodeFrom, h.bounds, if_true, owed, toNat_byte h.2.2]

theorem decodeFrom_last {p : Utf8Partial} (h : Fits p n) (owed : p.owed = 0) (position : Nat)
    (rest : Bytes) : decodeFrom position (some p) (UInt8.ofNat n :: rest) =
      (decodeFrom (position + 1) none rest).map (Char.ofNat (p.bits * 0x40 + n % 0x40) :: ·) := by
  simp only [decodeFrom, h.bounds, if_true, owed, toNat_byte h.2.2]

/-- A byte behind the second one holds six bits and nothing else. -/
theorem fits_next (lead : UInt8) (count owed bits m : Nat) :
    Fits ⟨lead, count, owed, 0x80, 0xBF, bits⟩ (m % 64 + 128) :=
  ⟨show 0x80 ≤ m % 64 + 128 by omega, show m % 64 + 128 ≤ 0xBF by omega, by omega⟩

-- ---------------------------------------------------------------------------
-- One character
-- ---------------------------------------------------------------------------

theorem start?_two (low : 0xC2 ≤ n) (high : n ≤ 0xDF) :
    Utf8Partial.start? (UInt8.ofNat n) = some ⟨UInt8.ofNat n, 1, 0, 0x80, 0xBF, n % 0x20⟩ := by
  have byte : (UInt8.ofNat n).toNat = n := toNat_byte (by omega)
  simp [Utf8Partial.start?, UInt8.le_iff_toNat_le, byte, low, high]

theorem start?_three (low : 0xE0 ≤ n) (high : n ≤ 0xEF) :
    Utf8Partial.start? (UInt8.ofNat n) = some ⟨UInt8.ofNat n, 1, 1,
      if n = 0xE0 then 0xA0 else 0x80, if n = 0xED then 0x9F else 0xBF, n % 0x10⟩ := by
  have byte : (UInt8.ofNat n).toNat = n := toNat_byte (by omega)
  have behind : ¬n ≤ 0xDF := by omega
  simp [Utf8Partial.start?, UInt8.le_iff_toNat_le, ← UInt8.toNat_inj, byte, low, high, behind]

theorem start?_four (low : 0xF0 ≤ n) (high : n ≤ 0xF4) :
    Utf8Partial.start? (UInt8.ofNat n) = some ⟨UInt8.ofNat n, 1, 2,
      if n = 0xF0 then 0x90 else 0x80, if n = 0xF4 then 0x8F else 0xBF, n % 8⟩ := by
  have byte : (UInt8.ofNat n).toNat = n := toNat_byte (by omega)
  have behind : ¬n ≤ 0xDF ∧ ¬n ≤ 0xEF := by omega
  simp [Utf8Partial.start?, UInt8.le_iff_toNat_le, ← UInt8.toNat_inj, byte, low, high, behind]

theorem decodeFrom_encodeChar (c : Char) (position : Nat) (rest : Bytes) :
    ∃ position', decodeFrom position none (String.utf8EncodeChar c ++ rest) =
      (decodeFrom position' none rest).map (c :: ·) := by
  have same : Char.ofNat c.val.toNat = c := c.ofNat_toNat
  have valid : c.val.toNat < 0xD800 ∨ 0xDFFF < c.val.toNat ∧ c.val.toNat < 0x110000 := c.valid
  generalize hv : c.val.toNat = v at same valid
  simp only [String.utf8EncodeChar, hv]
  by_cases one : v ≤ 0x7F
  · rw [if_pos one, List.singleton_append, decodeFrom_ascii (by omega), same]
    exact ⟨_, rfl⟩
  rw [if_neg one]
  by_cases two : v ≤ 0x7FF
  · have bits : (v / 64 % 32 + 192) % 0x20 * 0x40 + (v % 64 + 128) % 0x40 = v := by omega
    rw [if_pos two, List.cons_append, List.singleton_append, decodeFrom_lead (by omega) (by omega)
      (start?_two (by omega) (by omega)), decodeFrom_last (fits_next ..) rfl, bits, same]
    exact ⟨_, rfl⟩
  rw [if_neg two]
  by_cases three : v ≤ 0xFFFF
  · have second : Fits ⟨UInt8.ofNat (v / 4096 % 16 + 224), 1, 1,
        if v / 4096 % 16 + 224 = 0xE0 then 0xA0 else 0x80,
        if v / 4096 % 16 + 224 = 0xED then 0x9F else 0xBF, (v / 4096 % 16 + 224) % 0x10⟩
        (v / 64 % 64 + 128) := by
      refine ⟨?_, ?_, by omega⟩ <;> simp only [apply_ite UInt8.toNat, UInt8.reduceToNat] <;>
        split <;> omega
    have bits : ((v / 4096 % 16 + 224) % 0x10 * 0x40 + (v / 64 % 64 + 128) % 0x40) * 0x40 +
        (v % 64 + 128) % 0x40 = v := by omega
    rw [if_pos three, List.cons_append, List.cons_append, List.singleton_append,
      decodeFrom_lead (by omega) (by omega) (start?_three (by omega) (by omega)),
      decodeFrom_owed second rfl, decodeFrom_last (fits_next ..) rfl, bits, same]
    exact ⟨_, rfl⟩
  rw [if_neg three]
  have second : Fits ⟨UInt8.ofNat (v / 262144 % 8 + 240), 1, 2,
      if v / 262144 % 8 + 240 = 0xF0 then 0x90 else 0x80,
      if v / 262144 % 8 + 240 = 0xF4 then 0x8F else 0xBF, (v / 262144 % 8 + 240) % 8⟩
      (v / 4096 % 64 + 128) := by
    refine ⟨?_, ?_, by omega⟩ <;> simp only [apply_ite UInt8.toNat, UInt8.reduceToNat] <;>
      split <;> omega
  have bits : (((v / 262144 % 8 + 240) % 8 * 0x40 + (v / 4096 % 64 + 128) % 0x40) * 0x40 +
      (v / 64 % 64 + 128) % 0x40) * 0x40 + (v % 64 + 128) % 0x40 = v := by omega
  rw [List.cons_append, List.cons_append, List.cons_append, List.singleton_append,
    decodeFrom_lead (by omega) (by omega) (start?_four (by omega) (by omega)),
    decodeFrom_owed second rfl, decodeFrom_owed (fits_next ..) rfl,
    decodeFrom_last (fits_next ..) rfl, bits, same]
  exact ⟨_, rfl⟩

-- ---------------------------------------------------------------------------
-- A text
-- ---------------------------------------------------------------------------

theorem decodeFrom_encode (s : Text) (position : Nat) :
    decodeFrom position none s.encode = .ok s := by
  induction s generalizing position with
  | nil => rfl
  | cons c s ih =>
    obtain ⟨position', read⟩ := decodeFrom_encodeChar c position (Text.encode s)
    rw [Text.encode, List.flatMap_cons, ← Text.encode, read, ih]
    rfl

theorem decode_encode (s : Text) : decode s.encode = .ok s := decodeFrom_encode s 0

theorem readText_encode (s : Text) : readText s.encode = .ok (s.unifyLines false) := by
  rw [readText, decode_encode]
  rfl

-- ---------------------------------------------------------------------------
-- Bytes that are a text
-- ---------------------------------------------------------------------------

theorem Fits.of_bounds {b : UInt8} (h : (p.low ≤ b && b ≤ p.high) = true) : Fits p b.toNat := by
  rw [Bool.and_eq_true, decide_eq_true_eq, decide_eq_true_eq, UInt8.le_iff_toNat_le,
    UInt8.le_iff_toNat_le] at h
  exact ⟨h.1, h.2, b.toNat_lt⟩

/-- Behind a byte that fits a character goes on as its kind has it. -/
theorem fits_of_decodeFrom (h : decodeFrom position (some p) bytes = .ok s) :
    ∃ n rest, bytes = UInt8.ofNat n :: rest ∧ Fits p n := by
  cases bytes with
  | nil => simp [decodeFrom] at h
  | cons b rest =>
    refine ⟨b.toNat, rest, by rw [UInt8.ofNat_toNat], ?_⟩
    by_cases bounds : (p.low ≤ b && b ≤ p.high) = true
    · exact .of_bounds bounds
    · simp [decodeFrom, bounds] at h

theorem of_decodeFrom_owed {p : Utf8Partial} (owed : p.owed = k + 1)
    (h : decodeFrom position (some p) bytes = .ok s) :
    ∃ n rest, bytes = UInt8.ofNat n :: rest ∧ Fits p n ∧ decodeFrom (position + 1)
      (some ⟨p.lead, p.count + 1, k, 0x80, 0xBF, p.bits * 0x40 + n % 0x40⟩) rest = .ok s := by
  obtain ⟨n, rest, rfl, fits⟩ := fits_of_decodeFrom h
  rw [decodeFrom_owed fits owed] at h
  exact ⟨n, rest, rfl, fits, h⟩

theorem of_decodeFrom_last {p : Utf8Partial} (owed : p.owed = 0)
    (h : decodeFrom position (some p) bytes = .ok s) :
    ∃ n rest s', bytes = UInt8.ofNat n :: rest ∧ Fits p n ∧
      s = Char.ofNat (p.bits * 0x40 + n % 0x40) :: s' ∧
      decodeFrom (position + 1) none rest = .ok s' := by
  obtain ⟨n, rest, rfl, fits⟩ := fits_of_decodeFrom h
  rw [decodeFrom_last fits owed] at h
  obtain ⟨s', behind, rfl⟩ := map_ok_iff.mp h
  exact ⟨n, rest, s', rfl, fits, rfl, behind⟩

theorem Fits.next (h : Fits ⟨lead, count, owed, 0x80, 0xBF, bits⟩ n) : 0x80 ≤ n ∧ n ≤ 0xBF :=
  ⟨h.1, h.2.1⟩

/-- Some lead bytes narrow the bounds of the byte behind them. -/
theorem Fits.narrowed {low high : UInt8} [Decidable P] [Decidable Q] (lowest : 0x80 ≤ low.toNat)
    (highest : high.toNat ≤ 0xBF)
    (h : Fits ⟨lead, count, owed, if P then low else 0x80, if Q then high else 0xBF, bits⟩ n) :
    (P → low.toNat ≤ n) ∧ (Q → n ≤ high.toNat) ∧ 0x80 ≤ n ∧ n ≤ 0xBF := by
  obtain ⟨above, below, -⟩ := h
  simp only [apply_ite UInt8.toNat, UInt8.reduceToNat] at above below
  refine ⟨fun narrow => ?_, fun narrow => ?_, ?_, ?_⟩
  · rwa [if_pos narrow] at above
  · rwa [if_pos narrow] at below
  · split at above <;> omega
  · split at below <;> omega

theorem start?_foreign (h : n < 0xC2 ∨ 0xF4 < n) (hn : n < 0x100) :
    Utf8Partial.start? (UInt8.ofNat n) = none := by
  have byte : (UInt8.ofNat n).toNat = n := toNat_byte hn
  simp only [Utf8Partial.start?, UInt8.le_iff_toNat_le, byte, UInt8.reduceToNat,
    Bool.and_eq_true, decide_eq_true_eq]
  rw [if_neg (by omega), if_neg (by omega), if_neg (by omega)]

theorem decodeFrom_foreign (large : 0x80 ≤ n) (h : n < 0xC2 ∨ 0xF4 < n) (hn : n < 0x100)
    (position : Nat) (rest : Bytes) : decodeFrom position none (UInt8.ofNat n :: rest) =
      .error ⟨.invalidStart, position, UInt8.ofNat n, 1⟩ := by
  have other : ¬UInt8.ofNat n < 0x80 := by
    rw [UInt8.lt_iff_toNat_lt, toNat_byte hn]
    exact Nat.not_lt.mpr large
  rw [decodeFrom, if_neg other, start?_foreign h hn]

theorem toNat_ofNat_scalar (h : v < 0xD800 ∨ 0xDFFF < v ∧ v < 0x110000) :
    (Char.ofNat v).val.toNat = v := by
  rw [Char.ofNat, dif_pos h]
  rfl

theorem utf8EncodeChar_one (hn : n < 0x80) :
    String.utf8EncodeChar (Char.ofNat n) = [UInt8.ofNat n] := by
  have value : (Char.ofNat n).val.toNat = n := toNat_ofNat_scalar (by omega)
  simp only [String.utf8EncodeChar, value]
  rw [if_pos (by omega)]

theorem utf8EncodeChar_two (low : 0xC2 ≤ n) (high : n ≤ 0xDF) (hm : 0x80 ≤ m ∧ m ≤ 0xBF) :
    String.utf8EncodeChar (Char.ofNat (n % 0x20 * 0x40 + m % 0x40)) =
      [UInt8.ofNat n, UInt8.ofNat m] := by
  have value := toNat_ofNat_scalar (v := n % 0x20 * 0x40 + m % 0x40) (by omega)
  generalize hv : n % 0x20 * 0x40 + m % 0x40 = v at value
  have bytes : v / 64 % 32 + 192 = n ∧ v % 64 + 128 = m := by omega
  simp only [String.utf8EncodeChar, value, bytes]
  rw [if_neg (by omega), if_pos (by omega)]

theorem utf8EncodeChar_three (low : 0xE0 ≤ n) (high : n ≤ 0xEF) (hm : 0x80 ≤ m ∧ m ≤ 0xBF)
    (long : n = 0xE0 → 0xA0 ≤ m) (scalar : n = 0xED → m ≤ 0x9F) (hl : 0x80 ≤ l ∧ l ≤ 0xBF) :
    String.utf8EncodeChar (Char.ofNat ((n % 0x10 * 0x40 + m % 0x40) * 0x40 + l % 0x40)) =
      [UInt8.ofNat n, UInt8.ofNat m, UInt8.ofNat l] := by
  have value := toNat_ofNat_scalar (v := (n % 0x10 * 0x40 + m % 0x40) * 0x40 + l % 0x40)
    (by omega)
  generalize hv : (n % 0x10 * 0x40 + m % 0x40) * 0x40 + l % 0x40 = v at value
  have bytes : v / 4096 % 16 + 224 = n ∧ v / 64 % 64 + 128 = m ∧ v % 64 + 128 = l := by omega
  simp only [String.utf8EncodeChar, value, bytes]
  rw [if_neg (by omega), if_neg (by omega), if_pos (by omega)]

theorem utf8EncodeChar_four (low : 0xF0 ≤ n) (high : n ≤ 0xF4) (hm : 0x80 ≤ m ∧ m ≤ 0xBF)
    (long : n = 0xF0 → 0x90 ≤ m) (last : n = 0xF4 → m ≤ 0x8F) (hl : 0x80 ≤ l ∧ l ≤ 0xBF)
    (hk : 0x80 ≤ k ∧ k ≤ 0xBF) :
    String.utf8EncodeChar
        (Char.ofNat (((n % 8 * 0x40 + m % 0x40) * 0x40 + l % 0x40) * 0x40 + k % 0x40)) =
      [UInt8.ofNat n, UInt8.ofNat m, UInt8.ofNat l, UInt8.ofNat k] := by
  have value := toNat_ofNat_scalar
    (v := ((n % 8 * 0x40 + m % 0x40) * 0x40 + l % 0x40) * 0x40 + k % 0x40) (by omega)
  generalize hv : ((n % 8 * 0x40 + m % 0x40) * 0x40 + l % 0x40) * 0x40 + k % 0x40 = v at value
  have bytes : v / 262144 % 8 + 240 = n ∧ v / 4096 % 64 + 128 = m ∧ v / 64 % 64 + 128 = l ∧
      v % 64 + 128 = k := by omega
  simp only [String.utf8EncodeChar, value, bytes]
  rw [if_neg (by omega), if_neg (by omega), if_neg (by omega)]

/-- The bytes from which a character is read are those that it is written in. -/
theorem encodeChar_of_decodeFrom (h : decodeFrom position none (b :: rest) = .ok s) :
    ∃ c rest' s' position', b :: rest = String.utf8EncodeChar c ++ rest' ∧ s = c :: s' ∧
      decodeFrom position' none rest' = .ok s' := by
  obtain ⟨n, hn, rfl⟩ : ∃ n, n < 0x100 ∧ b = UInt8.ofNat n :=
    ⟨b.toNat, b.toNat_lt, UInt8.ofNat_toNat.symm⟩
  -- the lead byte tells how many bytes follow, and what the second one may be
  by_cases one : n < 0x80
  · rw [decodeFrom_ascii one] at h
    obtain ⟨s', behind, rfl⟩ := map_ok_iff.mp h
    exact ⟨_, rest, s', _, by rw [utf8EncodeChar_one one]; rfl, rfl, behind⟩
  by_cases foreign : n < 0xC2 ∨ 0xF4 < n
  · rw [decodeFrom_foreign (by omega) foreign hn] at h
    cases h
  by_cases two : n ≤ 0xDF
  · rw [decodeFrom_lead (by omega) hn (start?_two (by omega) two)] at h
    obtain ⟨m, rest, s', rfl, fits, rfl, behind⟩ := of_decodeFrom_last rfl h
    exact ⟨_, rest, s', _, by rw [utf8EncodeChar_two (by omega) two fits.next]; rfl, rfl, behind⟩
  by_cases three : n ≤ 0xEF
  · rw [decodeFrom_lead (by omega) hn (start?_three (by omega) three)] at h
    obtain ⟨m, rest, rfl, second, h⟩ := of_decodeFrom_owed rfl h
    obtain ⟨l, rest, s', rfl, fits, rfl, behind⟩ := of_decodeFrom_last rfl h
    obtain ⟨long, scalar, second⟩ := second.narrowed (by decide) (by decide)
    have bytes := utf8EncodeChar_three (by omega) three second long scalar fits.next
    exact ⟨_, rest, s', _, by rw [bytes]; rfl, rfl, behind⟩
  · rw [decodeFrom_lead (by omega) hn (start?_four (by omega) (by omega))] at h
    obtain ⟨m, rest, rfl, second, h⟩ := of_decodeFrom_owed rfl h
    obtain ⟨l, rest, rfl, third, h⟩ := of_decodeFrom_owed rfl h
    obtain ⟨k, rest, s', rfl, fits, rfl, behind⟩ := of_decodeFrom_last rfl h
    obtain ⟨long, last, second⟩ := second.narrowed (by decide) (by decide)
    have bytes := utf8EncodeChar_four (by omega) (by omega) second long last third.next fits.next
    exact ⟨_, rest, s', _, by rw [bytes]; rfl, rfl, behind⟩

theorem encode_of_decodeFrom (h : decodeFrom position none bytes = .ok s) : bytes = s.encode := by
  -- on the length, since a character takes up to four bytes at once
  induction hl : bytes.length using Nat.strong_induction_on generalizing bytes position s with
  | _ size ih =>
    cases bytes with
    | nil =>
      obtain rfl : [] = s := Except.ok.inj h
      rfl
    | cons b rest =>
      obtain ⟨c, rest', s', position', bytes, rfl, behind⟩ := encodeChar_of_decodeFrom h
      have shorter : rest'.length < size := by
        have width := Char.utf8Size_pos c
        rw [← String.length_utf8EncodeChar] at width
        rw [← hl, bytes, List.length_append]
        omega
      rw [bytes, ih _ shorter behind rfl]
      rfl

/-- The bytes that are a text are those that it is written in. -/
theorem decode_ok_iff : decode bytes = .ok s ↔ bytes = s.encode :=
  ⟨encode_of_decodeFrom, fun h => h ▸ decode_encode s⟩

theorem readText_ok_iff :
    readText bytes = .ok t ↔ ∃ s : Text, bytes = s.encode ∧ s.unifyLines false = t := by
  simp only [readText, map_ok_iff, decode_ok_iff]

end Bytes

end SchemaChart
