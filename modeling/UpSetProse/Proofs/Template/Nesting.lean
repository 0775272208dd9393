import Mathlib.Data.List.Infix

/-!
# Nested pairs of brackets

Where text is read again and again, it matters how deep its doubled brackets nest. A word of them is
looked at from the left: around a place nest as many pairs as were opened before it and are closed
behind it. Taking out the innermost pairs makes the nesting less by exactly one.
-/

namespace UpSetProse

/-- A doubled bracket. -/
inductive Doubled where
  | opening | closing
  deriving DecidableEq, Repr

namespace Doubled

/-- How many of the pairs that are opened before a word it closes. -/
def closed : List Doubled → Nat
  | [] => 0
  | closing :: word => closed word + 1
  | opening :: word => closed word - 1

/-- The greatest number of pairs around a place, if some pairs are opened before the word. -/
def nestingWithin (opened : Nat) : List Doubled → Nat
  | [] => 0
  | closing :: word =>
    max (min opened (closed (closing :: word))) (nestingWithin (opened - 1) word)
  | opening :: word =>
    max (min opened (closed (opening :: word))) (nestingWithin (opened + 1) word)

/-- The greatest number of pairs around a place. -/
def nesting (word : List Doubled) : Nat := nestingWithin 0 word

/-- Takes out the innermost pairs. -/
def strip : List Doubled → List Doubled
  | opening :: closing :: word => strip word
  | first :: word => first :: strip word
  | [] => []

example : nesting [opening, opening, closing, opening, closing, closing, closing] = 2 := by
  decide

/-- The pairs around the beginning of a word are among those that are counted. -/
theorem min_closed_le_nestingWithin (opened : Nat) (word : List Doubled) :
    min opened (closed word) ≤ nestingWithin opened word := by
  cases word with
  | nil => simp [closed]
  | cons first word => cases first <;> exact Nat.le_max_left _ _

/-- Innermost pairs close nothing that was opened before. -/
theorem closed_strip (word : List Doubled) : closed (strip word) = closed word := by
  fun_induction strip word with
  | case1 word ih =>
    rw [ih]
    rfl
  | case2 first word hpair ih =>
    cases first
    · exact congrArg (· - 1) ih
    · exact congrArg (· + 1) ih
  | case3 => rfl

/-- Taking out the innermost pairs brings every place out of one pair, except that no place loses
the pairs around the beginning of the word. -/
theorem nestingWithin_strip (opened : Nat) (word : List Doubled) :
    nestingWithin opened (strip word) =
      max (min opened (closed word)) (nestingWithin opened word - 1) := by
  fun_induction strip word generalizing opened with
  | case1 word ih =>
    have hle := min_closed_le_nestingWithin opened word
    simp only [ih, nestingWithin, closed, Nat.add_sub_cancel]
    omega
  | case2 first word hpair ih =>
    have hclosed := closed_strip word
    cases first with
    | closing =>
      simp only [nestingWithin, closed, ih, hclosed]
      omega
    | opening =>
      cases word with
      | nil => simp [strip, nestingWithin, closed]
      | cons second word =>
        cases second with
        | closing => exact absurd rfl (hpair word rfl)
        | opening =>
          -- The place behind both openings has one pair more around it than the one between them.
          have hle := min_closed_le_nestingWithin (opened + 1 + 1) word
          rw [closed] at hclosed
          simp only [nestingWithin, closed, ih, hclosed]
          omega
  | case3 => simp [nestingWithin, closed]

/-- Taking out the innermost pairs makes the nesting less by one. -/
theorem nesting_strip (word : List Doubled) : nesting (strip word) = nesting word - 1 := by
  rw [nesting, nestingWithin_strip, Nat.zero_min, Nat.zero_max]
  rfl

/-- Where nothing is closed, nothing is taken out. -/
theorem strip_eq_self {word : List Doubled} (h : closing ∉ word) : strip word = word := by
  fun_induction strip word with
  | case1 word => simp at h
  | case2 first word hpair ih =>
    rw [ih fun hmem => h (List.mem_cons_of_mem first hmem)]
  | case3 => rfl

/-- Closings that close nothing stay. -/
theorem strip_append {before : List Doubled} (h : opening ∉ before) (word : List Doubled) :
    strip (before ++ word) = before ++ strip word := by
  induction before with
  | nil => rfl
  | cons first before ih =>
    rw [List.mem_cons, not_or] at h
    cases first with
    | opening => exact absurd rfl h.1
    | closing => exact congrArg (closing :: ·) (ih h.2)

/-- Of a run of openings and the closing behind it, the innermost pair is taken out. -/
theorem strip_opening_append {run : List Doubled} (h : closing ∉ run) (word : List Doubled) :
    strip (opening :: (run ++ closing :: word)) = run ++ strip word := by
  induction run with
  | nil => rfl
  | cons first run ih =>
    rw [List.mem_cons, not_or] at h
    cases first with
    | opening => exact congrArg (opening :: ·) (ih h.2)
    | closing => exact absurd rfl h.1

/-- Opened pairs are counted as soon as something is closed behind them. -/
theorem nestingWithin_pos {opened : Nat} {word : List Doubled} (hopened : 0 < opened)
    (h : closing ∈ word) : 0 < nestingWithin opened word := by
  induction word generalizing opened with
  | nil => cases h
  | cons first word ih =>
    cases first with
    | opening =>
      have hrest := ih (Nat.succ_pos opened) ((List.mem_cons.mp h).resolve_left nofun)
      exact Nat.lt_of_lt_of_le hrest (Nat.le_max_right _ _)
    | closing =>
      have hfirst : 0 < min opened (closed (closing :: word)) := by
        rw [closed]
        omega
      exact Nat.lt_of_lt_of_le hfirst (Nat.le_max_left _ _)

/-- A word in which something is opened and closed has nested places. -/
theorem nesting_pos {before word : List Doubled} (h : closing ∈ word) :
    0 < nesting (before ++ opening :: word) := by
  suffices ∀ opened, 0 < nestingWithin opened (before ++ opening :: word) from this 0
  induction before with
  | nil =>
    intro opened
    exact Nat.lt_of_lt_of_le (nestingWithin_pos (Nat.succ_pos opened) h) (Nat.le_max_right _ _)
  | cons first before ih =>
    intro opened
    cases first <;> exact Nat.lt_of_lt_of_le (ih _) (Nat.le_max_right _ _)

/-- A word with nothing opened nests nothing. -/
theorem nesting_eq_zero {word : List Doubled} (h : opening ∉ word) : nesting word = 0 := by
  unfold nesting
  induction word with
  | nil => rfl
  | cons first word ih =>
    rw [List.mem_cons, not_or] at h
    cases first with
    | opening => exact absurd rfl h.1
    | closing => simpa [nestingWithin] using ih h.2

theorem closed_le_append (word more : List Doubled) : closed word ≤ closed (word ++ more) := by
  induction word with
  | nil => exact Nat.zero_le _
  | cons first word ih =>
    cases first with
    | opening => exact Nat.sub_le_sub_right ih 1
    | closing => exact Nat.succ_le_succ ih

/-- More pairs are counted around the places of a longer word, and if more are open before it. -/
theorem nestingWithin_le_append {opened opened' : Nat} (hle : opened ≤ opened')
    (word more : List Doubled) :
    nestingWithin opened word ≤ nestingWithin opened' (word ++ more) := by
  induction word generalizing opened opened' with
  | nil => exact Nat.zero_le _
  | cons first word ih =>
    have hclosed := closed_le_append (first :: word) more
    cases first with
    | opening =>
      have hrest := ih (Nat.add_le_add_right hle 1)
      rw [List.cons_append] at hclosed ⊢
      simp only [nestingWithin]
      omega
    | closing =>
      have hrest := ih (Nat.sub_le_sub_right hle 1)
      rw [List.cons_append] at hclosed ⊢
      simp only [nestingWithin]
      omega

/-- A word nests as deep as each of its parts at least. -/
theorem nesting_le_append (before word after : List Doubled) :
    nesting word ≤ nesting (before ++ word ++ after) := by
  suffices ∀ opened, nesting word ≤ nestingWithin opened (before ++ word ++ after) from this 0
  induction before with
  | nil => exact fun opened => nestingWithin_le_append (Nat.zero_le opened) word after
  | cons first before ih =>
    intro opened
    cases first <;> exact Nat.le_trans (ih _) (Nat.le_max_right _ _)

end Doubled
end UpSetProse
