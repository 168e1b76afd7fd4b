import Mathlib.Tactic.SplitIfs
import SchemaChart.Json.Encoding
import SchemaChart.Json.Writing

/-!
# Escapes

A text is written with escapes and comes back when it is read: an escape spells the
UTF-16 units of a character (`charUnits`), and units are joined to characters again.

`readText_escapeText` is the way there and back. No unit of an escaped text is alone
(`hasLoneUnit_points_escape`).
-/

namespace SchemaChart

namespace Text

/-- All characters of the text are ASCII. -/
def IsAscii (s : Text) : Prop := ∀ c ∈ s, c.toNat < 0x80

instance (s : Text) : Decidable (IsAscii s) := List.decidableBAll _ s

theorem isAscii_cons : IsAscii (c :: s) ↔ c.toNat < 0x80 ∧ IsAscii s := List.forall_mem_cons

theorem isAscii_append : IsAscii (s ++ t) ↔ IsAscii s ∧ IsAscii t := List.forall_mem_append

end Text

open Text (IsAscii isAscii_cons isAscii_append)

theorem isUnit_toNat (c : Char) : isUnit c.toNat = false := by
  have valid : c.toNat < 0xD800 ∨ 0xDFFF < c.toNat ∧ c.toNat < 0x110000 := c.valid
  rw [Bool.eq_false_iff, isUnit, isHighUnit, isLowUnit, Ne]
  simp only [Bool.or_eq_true, Bool.and_eq_true, decide_eq_true_eq]
  omega

theorem textOfPoint_toNat (c : Char) : textOfPoint c.toNat = [c] := by
  rw [textOfPoint, isUnit_toNat, if_neg (by simp), Char.ofNat_toNat]

theorem hasLoneUnit_cons (h : isUnit n = false) (ns : List Nat) :
    hasLoneUnit (n :: ns) = hasLoneUnit ns := by
  have high : isHighUnit n = false := (Bool.or_eq_false_iff.mp h).1
  cases ns with
  | nil => exact h
  | cons m ns => simp [hasLoneUnit, h, high]

namespace Json

-- ---------------------------------------------------------------------------
-- The units of a character
-- ---------------------------------------------------------------------------

/-- The high unit of a code point above U+FFFF. -/
def highUnit (n : Nat) : Nat := 0xD800 + (n - 0x10000) / 0x400

def lowUnit (n : Nat) : Nat := 0xDC00 + (n - 0x10000) % 0x400

def charUnits (c : Char) : List Nat :=
  if c.toNat < 0x10000 then [c.toNat] else [highUnit c.toNat, lowUnit c.toNat]

theorem isHighUnit_highUnit (h : n < 0x110000) : isHighUnit (highUnit n) = true := by
  rw [isHighUnit, highUnit, Bool.and_eq_true, decide_eq_true_eq, decide_eq_true_eq]
  omega

theorem isLowUnit_lowUnit (n : Nat) : isLowUnit (lowUnit n) = true := by
  rw [isLowUnit, lowUnit, Bool.and_eq_true, decide_eq_true_eq, decide_eq_true_eq]
  omega

theorem pairedUnits_units (h : ¬n < 0x10000) : pairedUnits (highUnit n) (lowUnit n) = n := by
  have cut := Nat.div_add_mod' (n - 0x10000) 0x400
  unfold pairedUnits highUnit lowUnit
  rw [Nat.add_sub_cancel_left, Nat.add_sub_cancel_left]
  omega

theorem toNat_lt (c : Char) : c.toNat < 0x110000 := by
  have valid : c.toNat < 0xD800 ∨ 0xDFFF < c.toNat ∧ c.toNat < 0x110000 := c.valid
  omega

theorem joinUnits_charUnits (c : Char) (ns : List Nat) :
    joinUnits (charUnits c ++ ns) = c :: joinUnits ns := by
  have high : isHighUnit c.toNat = false := (Bool.or_eq_false_iff.mp (isUnit_toNat c)).1
  rw [charUnits]
  split
  · cases ns with
    | nil => exact textOfPoint_toNat c
    | cons n ns => simp [joinUnits, high, textOfPoint_toNat]
  · next large =>
    simp [joinUnits, isHighUnit_highUnit (toNat_lt c), isLowUnit_lowUnit, pairedUnits_units large]

theorem joinUnits_flatMap (s : Text) : joinUnits (s.flatMap charUnits) = s := by
  induction s with
  | nil => rfl
  | cons c s ih => rw [List.flatMap_cons, joinUnits_charUnits, ih]

theorem hasLoneUnit_charUnits (c : Char) (ns : List Nat) :
    hasLoneUnit (charUnits c ++ ns) = hasLoneUnit ns := by
  rw [charUnits]
  split
  · exact hasLoneUnit_cons (isUnit_toNat c) ns
  · simp [hasLoneUnit, isHighUnit_highUnit (toNat_lt c), isLowUnit_lowUnit]

theorem lt_of_mem_charUnits (h : n ∈ charUnits c) : n < 0x10000 := by
  have last := toNat_lt c
  rw [charUnits] at h
  split at h
  · next small => exact List.eq_of_mem_singleton h ▸ small
  · simp only [highUnit, lowUnit, List.mem_cons, List.not_mem_nil, or_false] at h
    omega

-- ---------------------------------------------------------------------------
-- One escape
-- ---------------------------------------------------------------------------

/-- The three ways in which a character is written. -/
inductive Escape (c : Char) : Text → Prop
  | short : escaped? d = some c → d ≠ 'u' → c.toNat < 0x80 → d.toNat < 0x80 → Escape c ['\\', d]
  | plain : c ≠ '\x22' → c ≠ '\\' → ¬c < ' ' → c.toNat < 0x80 → Escape c [c]
  | units : Escape c ((charUnits c).flatMap unitEscape)

theorem escape_escapeChar (c : Char) : Escape c (escapeChar c) := by
  have short : ∀ {c d : Char}, escaped? d = some c ∧ d ≠ 'u' ∧ c.toNat < 0x80 ∧ d.toNat < 0x80 →
      Escape c ['\\', d] := fun h => .short h.1 h.2.1 h.2.2.1 h.2.2.2
  rw [escapeChar]
  split_ifs with quote backslash feed return' tab back page ascii small
  · subst quote; exact short (by decide)
  · subst backslash; exact short (by decide)
  · subst feed; exact short (by decide)
  · subst return'; exact short (by decide)
  · subst tab; exact short (by decide)
  · subst back; exact short (by decide)
  · subst page; exact short (by decide)
  · obtain ⟨low, high⟩ : ' ' ≤ c ∧ c ≤ '~' := by simpa using ascii
    have top : c.toNat ≤ 0x7E := high
    exact .plain quote backslash (Char.not_lt.mpr low) (by omega)
  · have units : unitEscape c.toNat = (charUnits c).flatMap unitEscape := by
      simp [charUnits, small]
    exact units ▸ .units
  · have units : unitEscape (highUnit c.toNat) ++ unitEscape (lowUnit c.toNat) =
        (charUnits c).flatMap unitEscape := by
      simp [charUnits, small]
    exact units ▸ .units

theorem unitValue?_hexDigits (h : n < 0x10000) :
    ∃ a b c d, hexDigits 4 n = [a, b, c, d] ∧ unitValue? a b c d = some n := by
  refine ⟨_, _, _, _, rfl, ?_⟩
  simp only [unitValue?, hexValue?_hexDigit, Option.pure_def, Option.bind_eq_bind,
    Option.bind_some, Option.some.injEq]
  omega

theorem readUnits_unitEscape (h : n < 0x10000) (opening : Text) (hs : s ≠ []) :
    readUnits opening (unitEscape n ++ s) =
      (readUnits opening s).map fun r => (n :: r.1, r.2) := by
  obtain ⟨a, b, c, d, digits, value⟩ := unitValue?_hexDigits h
  obtain ⟨e, s, rfl⟩ := List.exists_cons_of_ne_nil hs
  rw [unitEscape, digits]
  show readUnits opening ('\\' :: 'u' :: a :: b :: c :: d :: e :: s) = _
  rw [readUnits, value]

theorem readUnits_units (h : ∀ n ∈ ns, n < 0x10000) (opening : Text) (hs : s ≠ []) :
    readUnits opening (ns.flatMap unitEscape ++ s) =
      (readUnits opening s).map fun r => (ns ++ r.1, r.2) := by
  induction ns with
  | nil => cases hr : readUnits opening s <;> simp [Except.map, hr]
  | cons n ns ih =>
    obtain ⟨hn, hns⟩ := List.forall_mem_cons.mp h
    rw [List.flatMap_cons, List.append_assoc, readUnits_unitEscape hn opening (by simp [hs]),
      ih hns]
    cases readUnits opening s <;> rfl

theorem readUnits_short (h : escaped? d = some c) (hu : d ≠ 'u') (opening s : Text) :
    readUnits opening ('\\' :: d :: s) =
      (readUnits opening s).map fun r => (c.toNat :: r.1, r.2) := by
  rw [readUnits, h]
  all_goals simp [hu]

theorem readUnits_plain (quote : c ≠ '\x22') (escape : c ≠ '\\') (h : ¬c < ' ')
    (opening s : Text) :
    readUnits opening (c :: s) = (readUnits opening s).map fun r => (c.toNat :: r.1, r.2) := by
  rw [readUnits, if_neg h]
  all_goals simp [quote, escape]

theorem charUnits_ascii (h : c.toNat < 0x80) : charUnits c = [c.toNat] := if_pos (by omega)

theorem readUnits_escapeChar (c : Char) (opening : Text) (hs : s ≠ []) :
    readUnits opening (escapeChar c ++ s) =
      (readUnits opening s).map fun r => (charUnits c ++ r.1, r.2) := by
  have form := escape_escapeChar c
  generalize escapeChar c = e at form ⊢
  cases form with
  | short meant hu hc =>
    rw [charUnits_ascii hc]
    exact readUnits_short meant hu opening s
  | plain quote escape control hc =>
    rw [charUnits_ascii hc]
    exact readUnits_plain quote escape control opening s
  | units => exact readUnits_units (fun n => lt_of_mem_charUnits) opening hs

-- ---------------------------------------------------------------------------
-- A text between quotes
-- ---------------------------------------------------------------------------

theorem readUnits_escapeText (s opening rest : Text) :
    readUnits opening (escapeText s ++ '\x22' :: rest) = .ok (s.flatMap charUnits, rest) := by
  induction s with
  | nil => simp [escapeText, readUnits]
  | cons c s ih =>
    rw [escapeText, List.flatMap_cons, List.append_assoc, ← escapeText,
      readUnits_escapeChar c opening (by simp), ih]
    rfl

theorem readText_escapeText (s opening rest : Text) :
    readText opening (escapeText s ++ '\x22' :: rest) = .ok (s, rest) := by
  rw [readText, readUnits_escapeText]
  exact congrArg (fun t => Except.ok (t, rest)) (joinUnits_flatMap s)

-- ---------------------------------------------------------------------------
-- A text that may hold units alone
-- ---------------------------------------------------------------------------

theorem lt_of_heldUnit? (h : heldUnit? c d = some n) : n < 0x10000 := by
  rw [heldUnit?] at h
  split at h
  · next held =>
    simp only [isUnit, isHighUnit, isLowUnit, Bool.and_eq_true, Bool.or_eq_true,
      decide_eq_true_eq] at held
    have unit := Option.some.inj h
    omega
  · cases h

theorem readUnits_escapeUnits (s : Text) :
    ∃ ns, ∀ opening rest, readUnits opening (escapeUnits s ++ '\x22' :: rest) = .ok (ns, rest) := by
  rw [escapeUnits]
  induction s using Text.flatMapUnits.induct with
  | case1 => exact ⟨[], fun _ _ => rfl⟩
  | case2 c =>
    refine ⟨charUnits c, fun opening rest => ?_⟩
    rw [Text.flatMapUnits, readUnits_escapeChar c opening (by simp), readUnits]
    simp [Except.map]
  | case3 c d s unit held ih =>
    obtain ⟨ns, read⟩ := ih
    refine ⟨unit :: ns, fun opening rest => ?_⟩
    have behind : Text.flatMapUnits escapeChar unitEscape s ++ '\x22' :: rest ≠ [] := by simp
    simp only [Text.flatMapUnits, held]
    rw [List.append_assoc, readUnits_unitEscape (lt_of_heldUnit? held) opening behind, read]
    rfl
  | case4 c d s other ih =>
    obtain ⟨ns, read⟩ := ih
    refine ⟨charUnits c ++ ns, fun opening rest => ?_⟩
    simp only [Text.flatMapUnits, other]
    rw [List.append_assoc, readUnits_escapeChar c opening (by simp), read]
    rfl

/-- Where no unit is held, none is written. -/
theorem escapeUnits_eq_escapeText (h : unitSign ∉ s) : escapeUnits s = escapeText s := by
  rw [escapeUnits, escapeText]
  induction s using Text.flatMapUnits.induct with
  | case1 => rfl
  | case2 c => simp [Text.flatMapUnits]
  | case3 c d s unit held ih =>
    obtain ⟨sign, -⟩ := List.ne_and_not_mem_of_not_mem_cons h
    simp [heldUnit?, sign.symm] at held
  | case4 c d s other ih =>
    obtain ⟨-, rest⟩ := List.ne_and_not_mem_of_not_mem_cons h
    simp only [Text.flatMapUnits, other, ih rest, List.flatMap_cons]

/-- A text with units is read as some text, and as itself if it holds none alone. -/
theorem readText_escapeUnits (s : Text) : ∃ t, (unitSign ∉ s → t = s) ∧
    ∀ opening rest, readText opening (escapeUnits s ++ '\x22' :: rest) = .ok (t, rest) := by
  obtain ⟨ns, read⟩ := readUnits_escapeUnits s
  refine ⟨joinUnits ns, fun plain => ?_, fun opening rest => by rw [readText, read]; rfl⟩
  have same := read [] []
  rw [escapeUnits_eq_escapeText plain, readUnits_escapeText] at same
  cases same
  exact joinUnits_flatMap s

-- ---------------------------------------------------------------------------
-- Units alone in written texts
-- ---------------------------------------------------------------------------

theorem points_units (h : ∀ n ∈ ns, n < 0x10000) (s : Text) :
    points (ns.flatMap unitEscape ++ s) = ns ++ points s := by
  induction ns with
  | nil => rfl
  | cons n ns ih =>
    obtain ⟨hn, hns⟩ := List.forall_mem_cons.mp h
    obtain ⟨a, b, c, d, digits, value⟩ := unitValue?_hexDigits hn
    rw [List.flatMap_cons, List.append_assoc, unitEscape, digits]
    show points ('\\' :: 'u' :: a :: b :: c :: d :: (ns.flatMap unitEscape ++ s)) = _
    rw [points, value, ih hns, List.cons_append]

/-- Text without escapes has no unit alone. -/
theorem hasLoneUnit_points_append (h : '\\' ∉ a) (s : Text) :
    hasLoneUnit (points (a ++ s)) = hasLoneUnit (points s) := by
  induction a with
  | nil => rfl
  | cons c a ih =>
    obtain ⟨hc, ha⟩ := List.ne_and_not_mem_of_not_mem_cons h
    have read : points (c :: (a ++ s)) = c.toNat :: points (a ++ s) := by
      rw [points]
      all_goals simp [hc.symm]
    rw [List.cons_append, read, hasLoneUnit_cons (isUnit_toNat c), ih ha]

/-- An escape leaves no unit alone. -/
theorem hasLoneUnit_points_escape (c : Char) (s : Text) :
    hasLoneUnit (points (escapeChar c ++ s)) = hasLoneUnit (points s) := by
  have form := escape_escapeChar c
  generalize escapeChar c = e at form ⊢
  cases form with
  | @short d meant hu =>
    have read : points ('\\' :: d :: s) = d.toNat :: points s := by
      rw [points]
      all_goals simp [hu]
    exact read ▸ hasLoneUnit_cons (isUnit_toNat d) _
  | plain quote escape => exact hasLoneUnit_points_append (by simp [escape.symm]) s
  | units =>
    rw [points_units fun n => lt_of_mem_charUnits]
    exact hasLoneUnit_charUnits c _

theorem hasLoneUnit_points_escapeText (s t : Text) :
    hasLoneUnit (points (escapeText s ++ t)) = hasLoneUnit (points t) := by
  induction s with
  | nil => rfl
  | cons c s ih =>
    rw [escapeText, List.flatMap_cons, List.append_assoc, ← escapeText,
      hasLoneUnit_points_escape, ih]

theorem ascii_hexDigit (n : Nat) : (hexDigit n).toNat < 0x80 := by
  have small : ∀ m, m < 16 → (Nat.digitChar m).toNat < 0x80 := by decide
  exact small _ (Nat.mod_lt _ (by decide))

theorem isAscii_hexDigits (width n : Nat) : IsAscii (hexDigits width n) := by
  induction width generalizing n with
  | zero => exact List.forall_mem_nil _
  | succ width ih =>
    exact isAscii_append.mpr
      ⟨ih _, isAscii_cons.mpr ⟨ascii_hexDigit n, List.forall_mem_nil _⟩⟩

theorem isAscii_unitEscape (n : Nat) : IsAscii (unitEscape n) :=
  isAscii_append.mpr ⟨by decide, isAscii_hexDigits _ _⟩

theorem isAscii_escapeText (s : Text) : IsAscii (escapeText s) := by
  intro c mem
  obtain ⟨d, -, mem⟩ := List.mem_flatMap.mp mem
  have form := escape_escapeChar d
  generalize escapeChar d = e at form mem
  cases form with
  | short meant hu hc hd =>
    obtain rfl | rfl : c = '\\' ∨ c = _ := by simpa using mem
    · decide
    · exact hd
  | plain quote escape control hc => exact List.eq_of_mem_singleton mem ▸ hc
  | units =>
    obtain ⟨n, -, mem⟩ := List.mem_flatMap.mp mem
    exact isAscii_unitEscape n c mem

end Json

end SchemaChart
