import UpSetProse.Proofs.Double.Approximation
import UpSetProse.Proofs.Statistics.Reordering

/-!
# The median of sizes

A list has one element in its middle or two. The doubles of sizes are in order where the sizes are,
so the middle of the sorted doubles holds the doubles of the middle sizes. The median that is taken
of the doubles is therefore the median of the sizes up to three roundings, and exactly so for sizes
whose sums are doubles.
-/

namespace UpSetProse

/-- A list around its middle. -/
inductive Middle {α : Type} : List α → Prop
  | none : Middle []
  | one (before after : List α) (middle : α) (hhalves : before.length = after.length) :
    Middle (before ++ middle :: after)
  | two (before after : List α) (low high : α) (hhalves : before.length = after.length) :
    Middle (before ++ low :: high :: after)

/-- Every list has a middle. -/
theorem exists_middle {α : Type} (xs : List α) : Middle xs := by
  obtain ⟨half, heven | hodd⟩ := Nat.even_or_odd' xs.length
  · cases half with
    | zero =>
      obtain rfl := List.eq_nil_of_length_eq_zero heven
      exact .none
    | succ half =>
      have hlow : half < xs.length := by omega
      have hhigh : half + 1 < xs.length := by omega
      have hsplit : xs = xs.take half ++ xs[half] :: xs[half + 1] :: xs.drop (half + 2) := by
        rw [← List.drop_eq_getElem_cons hhigh, ← List.drop_eq_getElem_cons hlow,
          List.take_append_drop]
      rw [hsplit]
      refine .two _ _ _ _ ?_
      rw [List.length_take, List.length_drop]
      omega
  · have hmiddle : half < xs.length := by omega
    have hsplit : xs = xs.take half ++ xs[half] :: xs.drop (half + 1) := by
      rw [← List.drop_eq_getElem_cons hmiddle, List.take_append_drop]
    rw [hsplit]
    refine .one _ _ _ ?_
    rw [List.length_take, List.length_drop]
    omega

/-! ## The middle of sorted doubles -/

/-- Doubles without a sign are sorted to the one list of them that is in order. -/
theorem ascending_eq {values sorted : List Double} (hsign : ∀ x ∈ values, x.Unsigned)
    (hperm : sorted.Perm values) (hsorted : sorted.Pairwise (·.value ≤ ·.value)) :
    ascending values = sorted := by
  have hless : ∀ a ∈ values, ∀ b ∈ values, (a.order b == .lt) = true ↔ a.value < b.value := by
    intro a ha b hb
    rw [Double.order_eq_compare (hsign a ha).isNaN (hsign b hb).isNaN]
    exact beq_iff_eq.trans compare_lt_iff_lt
  have hkey : ∀ a ∈ values, ∀ b ∈ values, a.value = b.value → a = b := fun a ha b hb =>
    (hsign a ha).eq_of_value (hsign b hb)
  refine stableSort_eq_of_sorted Double.value hless hkey hperm ?_
  refine hsorted.imp_of_mem fun {earlier later} hearlier hlater hle => ?_
  rw [← Bool.not_eq_true, hless later (hperm.subset hlater) earlier (hperm.subset hearlier)]
  exact not_lt.mpr hle

theorem median_of_one {values before after : List Double} {middle : Double}
    (h : ascending values = before ++ middle :: after) (hhalves : before.length = after.length) :
    median values = middle := by
  have hlength : (before ++ middle :: after).length = 2 * before.length + 1 := by
    rw [List.length_append, List.length_cons, ← hhalves]
    omega
  have hnonempty : (before ++ middle :: after).isEmpty = false := by simp
  have hodd : ¬ (2 * before.length + 1) % 2 = 0 := by omega
  have hhalf : (2 * before.length + 1) / 2 = before.length := by omega
  simp only [median, h, hlength, hnonempty, Bool.false_eq_true, if_false, if_neg hodd, hhalf]
  simp

theorem median_of_two {values before after : List Double} {low high : Double}
    (h : ascending values = before ++ low :: high :: after)
    (hhalves : before.length = after.length) : median values = (low + high) / 2 := by
  have hlength : (before ++ low :: high :: after).length = 2 * (before.length + 1) := by
    rw [List.length_append, List.length_cons, List.length_cons, ← hhalves]
    omega
  have hnonempty : (before ++ low :: high :: after).isEmpty = false := by simp
  have heven : 2 * (before.length + 1) % 2 = 0 := by omega
  have hhalf : 2 * (before.length + 1) / 2 = before.length + 1 := by omega
  simp only [median, h, hlength, hnonempty, Bool.false_eq_true, if_false, if_pos heven, hhalf]
  simp

/-! ## The median of sizes -/

/-- The median of sizes, exactly and as it is taken of their doubles. -/
inductive Size.Median (sizes : List Size) : ℚ → Double → Prop
  | none (hsizes : sizes = []) : Median sizes 0 0
  | one {before after : List Size} {middle : Size}
    (hperm : (before ++ middle :: after).Perm sizes)
    (hsorted : (before ++ middle :: after).Pairwise (· ≤ ·))
    (hhalves : before.length = after.length) :
    Median sizes middle.toNat (.ofNat middle.toNat)
  | two {before after : List Size} {low high : Size}
    (hperm : (before ++ low :: high :: after).Perm sizes)
    (hsorted : (before ++ low :: high :: after).Pairwise (· ≤ ·))
    (hhalves : before.length = after.length) :
    Median sizes ((low.toNat + high.toNat) / 2)
      ((.ofNat low.toNat + .ofNat high.toNat) / 2)

/-- Sizes in order, of which the doubles are the sorted doubles. -/
theorem Size.exists_sorted (sizes : List Size) :
    ∃ sorted : List Size, sorted.Perm sizes ∧ sorted.Pairwise (· ≤ ·) ∧
      ascending (sizes.map fun size => .ofNat size.toNat) =
        sorted.map fun size => .ofNat size.toNat := by
  let sorted := stableSort (fun a b : Size => decide (a < b)) sizes
  have hperm : sorted.Perm sizes := perm_stableSort _ sizes
  have hless : ∀ a ∈ sizes, ∀ b ∈ sizes, decide (a < b) = true ↔ a.toNat < b.toNat := by
    intro a _ b _
    rw [decide_eq_true_iff]
    exact UInt64.lt_iff_toNat_lt
  have hsorted : sorted.Pairwise (· ≤ ·) :=
    (sorted_stableSort (.of_key hless)).imp fun hnotLess =>
      UInt64.not_lt.mp (of_decide_eq_false hnotLess)
  refine ⟨sorted, hperm, hsorted, ascending_eq ?_ (hperm.map _) ?_⟩
  · intro x hx
    obtain ⟨size, _, rfl⟩ := List.mem_map.mp hx
    exact Double.unsigned_ofNat _
  · rw [List.pairwise_map]
    exact hsorted.imp fun hle => Double.value_ofNat_mono (UInt64.le_iff_toNat_le.mp hle)

/-- The median that is taken of the doubles of sizes is that of the sizes. -/
theorem Row.exists_median (rows : List Row) :
    ∃ exact, Size.Median (rows.map (·.size)) exact (medianSize rows) := by
  obtain ⟨sorted, hperm, hsorted, hascending⟩ := Size.exists_sorted (rows.map (·.size))
  rw [map_sizes_ofNat] at hascending
  unfold medianSize
  obtain hnone | ⟨before, after, middle, hhalves⟩ | ⟨before, after, low, high, hhalves⟩ :=
    exists_middle sorted
  · have hmedian : median (doubleSizes rows) = 0 := by
      simp only [median, hascending, List.map_nil, List.isEmpty_nil, if_true]
    rw [hmedian]
    exact ⟨0, .none hperm.nil_eq.symm⟩
  · rw [List.map_append, List.map_cons] at hascending
    rw [median_of_one hascending (by simpa using hhalves)]
    exact ⟨_, .one hperm hsorted hhalves⟩
  · rw [List.map_append, List.map_cons, List.map_cons] at hascending
    rw [median_of_two hascending (by simpa using hhalves)]
    exact ⟨_, .two hperm hsorted hhalves⟩

/-! ## Roundings -/

namespace Size

theorem approximates_ofNat (size : Size) : (Double.ofNat size.toNat).Approximates 1 size.toNat := by
  rcases Nat.eq_zero_or_pos size.toNat with hzero | hpos
  · rw [hzero]
    exact (Double.approximates_ofNat_of_le (by decide)).mono (Nat.cast_nonneg 0) (Nat.zero_le 1)
  · exact Double.approximates_ofNat hpos size.toNat_lt.le

/-- The mean of two sizes that is taken of their doubles is rounded three times. -/
theorem approximates_mean (low high : Size) :
    ((Double.ofNat low.toNat + Double.ofNat high.toNat) / 2).Approximates 3
      ((low.toNat + high.toNat) / 2) := by
  rcases Nat.eq_zero_or_pos (low.toNat + high.toNat) with hzero | hpos
  · have hmean := (Double.approximates_half (n := 0) (by decide)).mono (by simp) (Nat.zero_le 3)
    rwa [Double.ofNat_add_ofNat (hzero.trans_le (by decide)), ← Nat.cast_add, hzero]
  · have hone : (1 : ℚ) ≤ low.toNat + high.toNat := by exact_mod_cast hpos
    have hlast : (low.toNat + high.toNat : ℚ) ≤ 2 ^ 65 := by
      have hsum : low.toNat + high.toNat ≤ 2 ^ 65 := by
        have := low.toNat_lt
        have := high.toNat_lt
        omega
      exact_mod_cast hsum
    have hsum : Moderate (low.toNat + high.toNat) := ⟨by linarith, by linarith⟩
    have hmean : Moderate ((low.toNat + high.toNat) / 2) := ⟨by linarith, by linarith⟩
    have htwo : (2 : Double).Approximates 0 2 := Double.approximates_ofNat_of_le (by decide)
    exact (low.approximates_ofNat.add high.approximates_ofNat hsum (by decide)).div htwo hsum.pos
      two_pos hmean (by decide)

namespace Median

variable {sizes : List Size} {exact : ℚ} {rounded : Double}

/-- The median that is taken of doubles is off by no more than three roundings. -/
theorem approximates (h : Median sizes exact rounded) : rounded.Approximates 3 exact := by
  cases h with
  | none => exact (Double.approximates_ofNat_of_le (by decide)).mono le_rfl (Nat.zero_le 3)
  | @one before after middle =>
    exact middle.approximates_ofNat.mono (Nat.cast_nonneg _) (by decide)
  | @two before after low high => exact approximates_mean low high

/-- It is the median for sizes of up to 52 bits, since no sum of two of them is rounded. -/
theorem approximates_of_le (h : Median sizes exact rounded)
    (hsmall : ∀ size ∈ sizes, size.toNat ≤ 2 ^ 52) : rounded.Approximates 0 exact := by
  cases h with
  | none => exact Double.approximates_ofNat_of_le (by decide)
  | @one before after middle hperm =>
    have hmiddle := hsmall middle (hperm.subset (by simp))
    exact Double.approximates_ofNat_of_le (hmiddle.trans (by decide))
  | @two before after low high hperm =>
    have hlow := hsmall low (hperm.subset (by simp))
    have hhigh := hsmall high (hperm.subset (by simp))
    have hsum : low.toNat + high.toNat ≤ 2 ^ 53 := by omega
    rw [Double.ofNat_add_ofNat hsum, ← Nat.cast_add]
    exact Double.approximates_half hsum

end Median
end Size
end UpSetProse
