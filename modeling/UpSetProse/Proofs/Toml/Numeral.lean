import Mathlib.Data.List.TakeDrop
import UpSetProse.Proofs.Text.Numeral
import UpSetProse.Toml.Numeral

/-!
# Integers in TOML

A run of decimal digits without a leading zero is an integer: the forms of dates, times and floats
all need some other character.
-/

namespace UpSetProse.Toml

/-- What is taken from the front of a text ends where its characters do. -/
theorem span_append {p : Char → Bool} {front rest : List Char} (hfront : ∀ c ∈ front, p c = true)
    (hrest : ∀ c, rest.head? = some c → p c = false) : (front ++ rest).span p = (front, rest) := by
  rw [List.span_eq_takeWhile_dropWhile, List.takeWhile_append_of_pos hfront,
    List.dropWhile_append_of_pos hfront]
  cases rest with
  | nil => simp
  | cons c rest => simp [hrest c rfl]

/-- One or more decimal digits. -/
structure Digits (run : List Char) : Prop where
  ne_nil : run ≠ []
  isDigit : ∀ c ∈ run, Text.isDigit c = true

/-- The decimal digits of a number are such a run. -/
theorem digits_toDigits (n : Nat) : Digits (Nat.toDigits 10 n) :=
  ⟨Nat.toDigits_ne_nil, fun _ => Text.isDigit_of_mem_toDigits⟩

namespace Digits

variable {run : List Char}

/-- What is no digit does not occur in a run of digits. -/
theorem not_mem (h : Digits run) {c : Char} (hc : Text.isDigit c = false) : c ∉ run :=
  fun hmem => Text.ne_of_isDigit (h.isDigit c hmem) hc rfl

/-- A run of digits is taken whole by every reader that goes on at digits. -/
theorem span_eq (h : Digits run) {p : Char → Bool} (hp : ∀ c, Text.isDigit c = true → p c = true) :
    run.span p = (run, []) := by
  have hspan : (run ++ []).span p = (run, []) :=
    span_append (fun c hc => hp c (h.isDigit c hc)) fun _ hc => nomatch hc
  rwa [List.append_nil] at hspan

private theorem isGrouped_of_isDigit {c : Char} {rest : List Char}
    (h : ∀ d ∈ c :: rest, Text.isDigit d = true) : isGrouped 10 (c :: rest) = true := by
  induction rest generalizing c with
  | nil => exact h c List.mem_cons_self
  | cons d rest ih =>
    obtain ⟨hc, hrest⟩ := List.forall_mem_cons.mp h
    have hd : d ≠ '_' := Text.ne_of_isDigit (hrest d List.mem_cons_self) (by decide)
    rw [isGrouped, ih hrest, Bool.and_true]
    · exact hc
    · exact fun heq => nomatch heq
    · exact fun _ heq => hd (List.cons.inj heq).1

/-- Without underscores, the digits are read as the number that they write. -/
theorem grouped?_eq (h : Digits run) : grouped? 10 run = some (Text.natural 10 run) := by
  have hgrouped : isGrouped 10 run = true := by
    obtain ⟨c, rest, rfl⟩ := List.exists_cons_of_ne_nil h.ne_nil
    exact isGrouped_of_isDigit h.isDigit
  have hfilter : run.filter (· != '_') = run := by
    apply List.filter_eq_self.mpr
    intro c hc
    exact bne_iff_ne.mpr fun heq => h.not_mem (by decide) (heq ▸ hc)
  rw [grouped?, if_pos hgrouped, hfilter]

/-- Digits have no sign. -/
theorem unsigned_eq (h : Digits run) : unsigned run = (false, run) := by
  unfold unsigned
  split
  · exact absurd List.mem_cons_self (h.not_mem (by decide))
  · exact absurd List.mem_cons_self (h.not_mem (by decide))
  · rfl

/-- Digits alone are no date, which has hyphens. -/
theorem isDate_eq_false (h : ∀ c ∈ run, Text.isDigit c = true) : isDate run = false := by
  unfold isDate
  split
  · have hminus := h '-' (by simp)
    exact absurd hminus (by decide)
  · rfl

theorem isDateTime_eq_false (h : Digits run) : isDateTime run = false := by
  have htime : afterTime? run = none := by
    unfold afterTime?
    split
    · have hcolon := h.isDigit ':' (by simp)
      exact absurd hcolon (by decide)
    · rfl
  have htake := isDate_eq_false fun c hc => h.isDigit c (List.mem_of_mem_take (i := 10) hc)
  simp [isDateTime, isTime, htime, isDate_eq_false h.isDigit, htake]

/-- Digits alone are no float, which has a point or an exponent. -/
theorem float?_eq_none (h : Digits run) : float? run = none := by
  have hinf : run ≠ "inf".toList := by
    rintro rfl
    exact h.not_mem (c := 'i') (by decide) (by decide)
  have hnan : run ≠ "nan".toList := by
    rintro rfl
    exact h.not_mem (c := 'n') (by decide) (by decide)
  have hmantissa : run.span (fun c => c != 'e' && c != 'E') = (run, []) := by
    refine h.span_eq fun c hc => ?_
    have hlower : c ≠ 'e' := Text.ne_of_isDigit hc (by decide)
    have hupper : c ≠ 'E' := Text.ne_of_isDigit hc (by decide)
    simp [hlower, hupper]
  have hwhole : run.span (· != '.') = (run, []) := by
    refine h.span_eq fun c hc => ?_
    have hpoint : c ≠ '.' := Text.ne_of_isDigit hc (by decide)
    simp [hpoint]
  have hfractional : fractional? false run = none := by
    simp only [fractional?, hmantissa, hwhole, List.isEmpty_nil, Bool.and_self, ite_true]
    rfl
  simp only [float?, h.unsigned_eq, hinf, hnan, hfractional, ite_false, Option.filter_none]

end Digits

/-- The digits of a number are read back as this number. -/
theorem decimal?_toDigits (n : Nat) : decimal? (Nat.toDigits 10 n) = some n := by
  have hleading : ¬((Nat.toDigits 10 n).head? = some '0' ∧ Nat.toDigits 10 n ≠ ['0']) := by
    rintro ⟨hhead, hne⟩
    rcases Nat.eq_zero_or_pos n with rfl | hpos
    · exact hne (by decide)
    · exact Text.head?_toDigits_ne hpos hhead
  rw [decimal?, if_neg hleading, (digits_toDigits n).grouped?_eq, Text.natural_toDigits]

/-- The digits of a number that fits into 64 bits with a sign are an integer. -/
theorem integer?_toDigits {n : Nat} (h : n ≤ Int64.maxValue.toInt) :
    integer? (Nat.toDigits 10 n) = some (n : Int) := by
  have hdigits := digits_toDigits n
  have hrange : inRange? n = some (n : Int) := by
    have hmin : Int64.minValue.toInt ≤ n := Int.le_trans (by decide) (Int.natCast_nonneg n)
    exact if_pos ⟨hmin, h⟩
  -- A letter in the second place would mark another base.
  have hletter : ∀ {letter : Char} {run : List Char}, Text.isDigit letter = false →
      Nat.toDigits 10 n ≠ '0' :: letter :: run := by
    intro letter run hfalse heq
    exact hdigits.not_mem hfalse (heq ▸ List.mem_cons_of_mem _ List.mem_cons_self)
  unfold integer?
  split
  · exact absurd ‹_› (hletter (by decide))
  · exact absurd ‹_› (hletter (by decide))
  · exact absurd ‹_› (hletter (by decide))
  · simp [hdigits.unsigned_eq, decimal?_toDigits, hrange]

/-- A number with at most 64 bits, one of them for the sign, is read back, and the reader stops
where the digits end. -/
theorem readRun_toDigits {n : Nat} (h : n ≤ Int64.maxValue.toInt) {rest : List Char}
    (hrest : ∀ c, rest.head? = some c → isRunChar c = false) :
    readRun (Nat.toDigits 10 n ++ rest) = some (.integer n, rest) := by
  have hdigits := digits_toDigits n
  have hspan : (Nat.toDigits 10 n ++ rest).span isRunChar = (Nat.toDigits 10 n, rest) := by
    refine span_append (fun c hc => ?_) hrest
    have hdigit : c.isDigit = true := Nat.isDigit_of_mem_toDigits (by decide) (by decide) hc
    simp [isRunChar, Char.isAlphanum, hdigit]
  have hvalue : runValue? (Nat.toDigits 10 n) = some (.integer n) := by
    simp [runValue?, hdigits.isDateTime_eq_false, hdigits.float?_eq_none, integer?_toDigits h]
  simp only [readRun, hspan, Digits.isDate_eq_false hdigits.isDigit, hvalue, Bool.false_and,
    Option.map_some]
  rfl

end UpSetProse.Toml
