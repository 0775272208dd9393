import Mathlib.Algebra.Order.Group.Nat
import Mathlib.Tactic.SplitIfs
import UpSetProse.Proofs.Plot.Classification

/-!
# Bands of degrees

For a fixed number of sets the ordered rules cut the degrees into consecutive bands: the row of no
set, single sets, low, medium and high order. The bands are written down here without the rules,
with a row of all sets decided before the bands of its plot, and the classification is shown to give
exactly them. So the kind of a row never falls as its degree grows, and rules that overlap, such as
the one for all sets in a plot of one set, or that hold no degree, such as the medium rule for seven
sets, change nothing.
-/

namespace UpSetProse.Kind

/-- The kind of a degree from two on that is below the number of sets. -/
def ofSeveral (setCount degree : Nat) : Kind :=
  if setCount = 3 then .medium
  else if setCount = 4 then if degree = 2 then .low else .medium
  else if setCount = 5 then
    if degree = 2 then .low else if degree = 3 then .medium else .highOrder
  else if setCount = 6 then
    if degree = 2 then .low else if degree ≤ 4 then .medium else .highOrder
  else if degree ≤ 3 then .low
  else if degree ≤ setCount / 2 then .medium
  else .highOrder

/-- The kind of a degree by the band that it lies in. -/
def byBands (setCount degree : Nat) : Kind :=
  if setCount < degree then .highOrder
  else if degree = 1 then .individual
  else if degree = 0 then .empty
  else if degree = setCount then .highOrder
  else ofSeveral setCount degree

/-- The place of a kind in the order of the vocabulary. -/
def rank (kind : Kind) : Nat := (Keyword.all : List Kind).idxOf kind

@[simp] theorem rank_empty : rank .empty = 0 := rfl

@[simp] theorem rank_individual : rank .individual = 1 := rfl

@[simp] theorem rank_low : rank .low = 2 := rfl

@[simp] theorem rank_medium : rank .medium = 3 := rfl

@[simp] theorem rank_highOrder : rank .highOrder = 4 := rfl

/-- A rule decides the degrees that it holds, and the rules behind it decide the others. -/
theorem find?_cons_holds (rule : DegreeRule) (rules : List DegreeRule) (degree : Nat) :
    (rule :: rules).find? (·.holds degree) =
      if rule.first ≤ degree ∧ degree ≤ rule.last then some rule
      else rules.find? (·.holds degree) := by
  rw [List.find?_cons]
  by_cases h : rule.first ≤ degree ∧ degree ≤ rule.last
  · have hholds : rule.holds degree = true := by simpa [DegreeRule.holds] using h
    rw [hholds, if_pos h]
  · have hholds : rule.holds degree = false := by simpa [DegreeRule.holds] using h
    rw [hholds, if_neg h]

/-- A rule for one degree applies to this degree, and to others the rules after it do. -/
theorem find?_cons_exactly (single : Nat) (kind : Kind) (rules : List DegreeRule) (degree : Nat) :
    (.exactly single kind :: rules).find? (·.holds degree) =
      if degree = single then some (.exactly single kind) else rules.find? (·.holds degree) := by
  have hiff : single ≤ degree ∧ degree ≤ single ↔ degree = single := by omega
  rw [find?_cons_holds]
  simp only [DegreeRule.exactly, hiff]

/-- The last rule holds every degree. -/
def lastRule : DegreeRule := ⟨0, maxDegree, .highOrder⟩

/-- The middle rules, and behind them the last one, decide a degree between one set and all sets. -/
theorem find?_middleRules {setCount degree : Nat} (hlow : 2 ≤ degree) (hhigh : degree < setCount)
    (hmax : setCount ≤ maxDegree) :
    ((middleRules setCount setCount ++ [lastRule]).find? (·.holds degree)).elim .highOrder
      (·.kind) = ofSeveral setCount degree := by
  unfold middleRules ofSeveral
  split
  case h_1 =>
    obtain rfl : degree = 2 := by omega
    rfl
  case h_2 =>
    obtain rfl | rfl : degree = 2 ∨ degree = 3 := by omega
    all_goals rfl
  case h_3 =>
    obtain rfl | rfl | rfl : degree = 2 ∨ degree = 3 ∨ degree = 4 := by omega
    all_goals rfl
  case h_4 =>
    obtain rfl | rfl | rfl | rfl : degree = 2 ∨ degree = 3 ∨ degree = 4 ∨ degree = 5 := by omega
    all_goals rfl
  case h_5 h3 h4 h5 h6 =>
    rw [if_neg h3, if_neg h4, if_neg h5, if_neg h6, List.cons_append, List.cons_append,
      List.nil_append, find?_cons_holds, find?_cons_holds, find?_cons_holds]
    by_cases hthree : degree ≤ 3
    · rw [if_pos ⟨hlow, hthree⟩, if_pos hthree]
      rfl
    · have hnot : ¬ (2 ≤ degree ∧ degree ≤ 3) := fun h => hthree h.2
      rw [if_neg hnot, if_neg hthree]
      by_cases hhalf : degree ≤ setCount / 2
      · have hfour : 4 ≤ degree := by omega
        rw [if_pos ⟨hfour, hhalf⟩, if_pos hhalf]
        rfl
      · have hnot : ¬ (4 ≤ degree ∧ degree ≤ setCount / 2) := fun h => hhalf h.2
        have hlast : lastRule.first ≤ degree ∧ degree ≤ lastRule.last :=
          ⟨Nat.zero_le _, Nat.le_trans (Nat.le_of_lt hhigh) hmax⟩
        rw [if_neg hnot, if_neg hhalf, if_pos hlast]
        rfl

/-- The rules for single degrees come before those for the degrees between them. -/
theorem byRules_eq_byBands {setCount degree : Nat} (hle : degree ≤ setCount)
    (hmax : setCount ≤ maxDegree) : byRules setCount degree = byBands setCount degree := by
  have htop : Nat.min setCount maxDegree = setCount := Nat.min_eq_left hmax
  have hrules : degreeRules setCount =
      .exactly 1 .individual :: .exactly 0 .empty :: .exactly setCount .highOrder ::
        (middleRules setCount setCount ++ [lastRule]) := by
    unfold degreeRules
    rw [htop]
    rfl
  unfold byRules byBands
  rw [hrules, find?_cons_exactly, find?_cons_exactly, find?_cons_exactly,
    if_neg (Nat.not_lt.mpr hle)]
  by_cases hone : degree = 1
  · rw [if_pos hone, if_pos hone]
    rfl
  · rw [if_neg hone, if_neg hone]
    by_cases hzero : degree = 0
    · rw [if_pos hzero, if_pos hzero]
      rfl
    · rw [if_neg hzero, if_neg hzero]
      by_cases hall : degree = setCount
      · rw [if_pos hall, if_pos hall]
        rfl
      · rw [if_neg hall, if_neg hall]
        exact find?_middleRules (by omega) (by omega) hmax

/-! ## The bands in order -/

/-- Rows of more sets are of a kind as high or higher. -/
theorem rank_ofSeveral_mono {setCount degree higher : Nat} (hlow : 2 ≤ degree)
    (h : degree ≤ higher) :
    rank (ofSeveral setCount degree) ≤ rank (ofSeveral setCount higher) := by
  simp only [ofSeveral, apply_ite rank, rank_low, rank_medium, rank_highOrder]
  split_ifs <;> omega

/-- The kinds of rows of several sets are low, medium and high. -/
theorem rank_ofSeveral (setCount degree : Nat) :
    2 ≤ rank (ofSeveral setCount degree) ∧ rank (ofSeveral setCount degree) ≤ 4 := by
  unfold ofSeveral
  split_ifs <;> decide

/-- The bands are in the order of the vocabulary. -/
theorem rank_byBands_mono {setCount degree higher : Nat} (h : degree ≤ higher) :
    rank (byBands setCount degree) ≤ rank (byBands setCount higher) := by
  have hdegree := rank_ofSeveral setCount degree
  have hhigher := rank_ofSeveral setCount higher
  have hseveral (hlow : 2 ≤ degree) :
      rank (ofSeveral setCount degree) ≤ rank (ofSeveral setCount higher) :=
    rank_ofSeveral_mono hlow h
  simp only [byBands, apply_ite rank, rank_empty, rank_individual, rank_highOrder]
  split_ifs <;> omega

/-- The classification puts every degree in its band. It never gives the kind of all sets, and for
a fixed number of sets a higher degree is never of a kind earlier in the vocabulary. -/
theorem classify_eq_byBands {setCount : Nat} (h : setCount < 2 ^ 32) (degree : UInt32) :
    classify degree setCount = byBands setCount degree.toNat ∧
    classify degree setCount ≠ .allSets ∧
    ∀ higher, degree ≤ higher →
      rank (classify degree setCount) ≤ rank (classify higher setCount) := by
  have hbands (degree : UInt32) : classify degree setCount = byBands setCount degree.toNat := by
    have hruled : lastRuled setCount = setCount := Nat.mod_eq_of_lt h
    unfold classify
    rw [hruled]
    split
    · rename_i hle
      exact byRules_eq_byBands hle (Nat.le_pred_of_lt h)
    · rename_i hgt
      rw [byBands, if_pos (Nat.not_le.mp hgt)]
  refine ⟨hbands degree, classify_ne_allSets degree setCount, fun higher hle => ?_⟩
  rw [hbands degree, hbands higher]
  exact rank_byBands_mono (UInt32.le_iff_toNat_le.mp hle)

/-- Among seven sets the medium band is empty, and the degrees of high order begin at four. -/
theorem classify_four_of_seven :
    (7 < 2 ^ 32 ∧ byBands 7 4 = .highOrder) ∧
      classify 4 7 = .highOrder ∧ classify 4 7 ≠ .allSets ∧
      ∀ higher, 4 ≤ higher → rank (classify 4 7) ≤ rank (classify higher 7) := by
  have hcount : 7 < 2 ^ 32 := by decide
  have hband : byBands 7 4 = .highOrder := rfl
  obtain ⟨hkind, hnot, hmono⟩ := classify_eq_byBands hcount 4
  exact ⟨⟨hcount, hband⟩, hkind.trans hband, hnot, hmono⟩

end UpSetProse.Kind
