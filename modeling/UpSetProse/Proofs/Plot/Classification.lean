import UpSetProse.Facts.Rows
import UpSetProse.Plot.Classification

/-!
# Which kinds rows can have

The rules give the kind of the empty intersection to degree zero and to no other degree, whatever
the number of sets, and they never give the kind of all sets. So a classified row is of one of the
four summarized kinds exactly if it is in a set.
-/

namespace UpSetProse.Kind

/-- Summaries leave out the two special kinds. -/
theorem mem_summarizedKinds_iff {kind : Kind} :
    kind ∈ Analysis.summarizedKinds ↔ kind ≠ .empty ∧ kind ≠ .allSets := by
  cases kind <;> decide

/-- The rules after the first two are about rows of several sets. -/
theorem kind_of_mem_drop_degreeRules {setCount : Nat} {rule : DegreeRule}
    (h : rule ∈ (degreeRules setCount).drop 2) :
    rule.kind = .low ∨ rule.kind = .medium ∨ rule.kind = .highOrder := by
  have hmiddle {top : Nat} (hrule : rule ∈ middleRules setCount top) :
      rule.kind = .low ∨ rule.kind = .medium ∨ rule.kind = .highOrder := by
    unfold middleRules at hrule
    split at hrule <;>
      simp only [List.mem_cons, List.not_mem_nil, or_false] at hrule <;>
      rcases hrule with rfl | rfl | rfl | rfl <;> simp [DegreeRule.exactly]
  have hsplit : (degreeRules setCount).drop 2 =
      .exactly (Nat.min setCount maxDegree) .highOrder ::
        (middleRules setCount (Nat.min setCount maxDegree) ++ [⟨0, maxDegree, .highOrder⟩]) := rfl
  rw [hsplit, List.mem_cons, List.mem_append, List.mem_singleton] at h
  rcases h with rfl | hrule | rfl
  · exact .inr (.inr rfl)
  · exact hmiddle hrule
  · exact .inr (.inr rfl)

/-- Of the rules for a positive degree none gives the kind of no set or of all sets. -/
theorem byRules_mem_summarizedKinds {setCount degree : Nat} (h : 0 < degree) :
    byRules setCount degree ∈ Analysis.summarizedKinds := by
  have hsplit : degreeRules setCount =
      .exactly 1 .individual :: .exactly 0 .empty :: (degreeRules setCount).drop 2 := rfl
  unfold byRules
  rw [hsplit, List.find?_cons, List.find?_cons]
  split
  · simp [DegreeRule.exactly, Analysis.summarizedKinds]
  · have hzero : (DegreeRule.exactly 0 .empty).holds degree = false := by
      simp [DegreeRule.holds, DegreeRule.exactly, Nat.ne_of_gt h]
    rw [hzero]
    cases hfound : ((degreeRules setCount).drop 2).find? (·.holds degree) with
    | none => simp [Analysis.summarizedKinds]
    | some rule =>
      have hkind := kind_of_mem_drop_degreeRules (List.mem_of_find?_eq_some hfound)
      rcases hkind with hkind | hkind | hkind <;> simp [hkind, Analysis.summarizedKinds]

theorem byRules_zero (setCount : Nat) : byRules setCount 0 = .empty := rfl

/-- All rows but those without a set are of a summarized kind. -/
theorem classify_mem_summarizedKinds (setCount : Nat) {degree : UInt32} (h : 0 < degree.toNat) :
    classify degree setCount ∈ Analysis.summarizedKinds := by
  unfold classify
  split
  · exact byRules_mem_summarizedKinds h
  · simp [Analysis.summarizedKinds]

/-- A row without sets is the empty intersection, however many sets there are. -/
theorem classify_of_eq_zero (setCount : Nat) {degree : UInt32} (h : degree.toNat = 0) :
    classify degree setCount = .empty := by
  rw [classify, h, if_pos (Nat.zero_le _), byRules_zero]

/-- The kind of a row is summarized exactly if the row has sets, also if it has all of them. -/
theorem classify_mem_summarizedKinds_iff {degree : UInt32} {setCount : Nat} :
    classify degree setCount ∈ Analysis.summarizedKinds ↔ 0 < degree.toNat := by
  refine ⟨fun hmem => Nat.pos_iff_ne_zero.mpr fun hzero => ?_,
    classify_mem_summarizedKinds setCount⟩
  rw [classify_of_eq_zero setCount hzero] at hmem
  exact absurd hmem (by decide)

/-- No row is of the kind of all sets. -/
theorem classify_ne_allSets (degree : UInt32) (setCount : Nat) :
    classify degree setCount ≠ .allSets := by
  intro h
  rcases Nat.eq_zero_or_pos degree.toNat with hzero | hpos
  · cases h.symm.trans (classify_of_eq_zero setCount hzero)
  · have hmem := classify_mem_summarizedKinds setCount hpos
    rw [h] at hmem
    exact absurd hmem (by decide)

end UpSetProse.Kind
