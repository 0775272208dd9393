import UpSetProse.Proofs.Double.Copies
import UpSetProse.Proofs.Double.Root
import UpSetProse.Proofs.Double.Sums
import UpSetProse.Statistics.Comparison

/-!
# The change of a sequence that does not change

The deviation of copies of one number comes from their running sum: each copy adds the square of
what the sum misses the product by. As long as the sums have the values of the products, nothing is
added, and the change is constant. As soon as one does not, the deviation is no longer zero, so that
the change is gradual; the sums miss too little for it to be drastic.
-/

namespace UpSetProse

namespace Double

variable {x : Double}

/-! ## The deviation of copies -/

/-- What the copy after `k + 1` others adds to the sum of squared differences. -/
def spread (x : Double) (k : Nat) : Double :=
  let difference := ofNat (k + 2) * x - (· + x)^[k + 1] x
  difference * difference / (ofNat (k + 2) * (ofNat (k + 2) - 1))

/-- Running over copies adds one squared difference after the other. -/
theorem runningSquares_replicate (x squares : Double) (k count : Nat) :
    runningSquares ((· + x)^[k] x) squares (k + 2) (List.replicate count x) =
      ((List.range' k count).map (spread x)).foldl (· + ·) squares := by
  induction count generalizing squares k with
  | zero => rfl
  | succ count ih =>
    have hsum : (· + x)^[k] x + x = (· + x)^[k + 1] x :=
      (Function.iterate_succ_apply' (· + x) k x).symm
    rw [List.replicate_succ, runningSquares, List.range'_succ, List.map_cons, List.foldl_cons,
      ← ih, hsum]
    rfl

/-- The deviation of two or more copies. -/
theorem sampleDeviation_replicate (x : Double) (count : Nat) :
    sampleDeviation (List.replicate (count + 2) x) =
      (sum ((List.range (count + 1)).map (spread x)) / ofNat (count + 1)).sqrt := by
  have hsquares := runningSquares_replicate x 0 0 (count + 1)
  have hlength : (List.replicate (count + 1) x).length = count + 1 := List.length_replicate
  rw [Function.iterate_zero, id, ← List.range_eq_range'] at hsquares
  rw [List.replicate_succ, sampleDeviation, hsquares, hlength, sum]
  exact fun h => absurd (congrArg List.length h) (by simp)

/-- Copies that add up have no deviation, as every copy adds nothing. -/
theorem idle_sampleDeviation (count : Nat) (h : x.AddsUp (count + 2)) :
    (sampleDeviation (List.replicate (count + 2) x)).Idle := by
  rw [sampleDeviation_replicate]
  have hspread : ∀ y ∈ (List.range (count + 1)).map (spread x), y.Idle := by
    refine List.forall_mem_map.mpr fun k hk => ?_
    have hvalue := h (k + 1) (Nat.succ_lt_succ (List.mem_range.mp hk))
    exact (idle_sub_of_value hvalue.symm).square.div _
  have hzero : (0 : Double).Idle := by
    rw [zero_eq]
    exact .zero false
  exact ((Idle.foldl_add hspread hzero).div _).sqrt

/-! ## Copies that do not add up -/

/-- The number of earlier copies times the number of copies. -/
theorem weight_eq {k : Nat} (hk : k < 2 ^ 16) :
    ofNat (k + 2) * (ofNat (k + 2) - 1) = ofNat ((k + 2) * (k + 1)) := by
  obtain ⟨hlast, heq⟩ := ofNat_eq_finite_of_le (n := k + 2) (by omega)
  obtain ⟨hfirst, hone⟩ := ofNat_eq_finite_of_le (n := 1) (by decide)
  obtain ⟨hbefore, hcount⟩ := ofNat_eq_finite_of_le (n := k + 1) (by omega)
  have hdifference : ofNat (k + 2) - 1 = ofNat (k + 1) := by
    have hrest : (k + 2) * one - 1 * one = (k + 1) * one := by
      rw [← Nat.sub_mul]
      rfl
    change ofNat (k + 2) - ofNat 1 = _
    rw [heq, hone, sub_of_le _ _ (Nat.mul_le_mul_right one (by omega)), hrest]
    rfl
  rw [hdifference, hcount, ofNat_mul_finite false hbefore (by omega), ← Nat.mul_assoc]
  rfl

/-- A number of units neither huge nor tiny, with the place of its twentieth digit. The square of
the place is again a place, which stands above the units by the rest. -/
structure Placed (units place rest : Nat) : Prop where
  low : 2 ^ (place + 19) ≤ units
  high : units < 2 ^ (place + 20)
  square : 2 * place = rest + unitScale
  large : 855 ≤ place
  small : place ≤ 1255

section Placed

variable {units place rest k : Nat}

theorem exists_placed (hlow : one ≤ units * 2 ^ 200) (hhigh : units ≤ one * 2 ^ 200) :
    ∃ place rest, Placed units place rest := by
  have hscale : unitScale = 1074 := rfl
  have hpos : 0 < units := by
    have hone := one_pos
    omega
  obtain ⟨length, hlength⟩ := exists_bitLength_eq_succ hpos
  obtain ⟨hfirst, hlast⟩ := bitLength_eq_succ_iff.mp hlength
  rw [one_eq] at hlow hhigh
  have hproduct : 2 ^ unitScale * 2 ^ 200 = 2 ^ (unitScale + 200) :=
    (pow_add 2 unitScale 200).symm
  rw [hproduct] at hhigh
  have hmost : length ≤ unitScale + 200 :=
    (Nat.pow_le_pow_iff_right (by decide)).mp (hfirst.trans hhigh)
  have hleast : unitScale < length + 1 + 200 := by
    refine (Nat.pow_lt_pow_iff_right (a := 2) (by decide)).mp (hlow.trans_lt ?_)
    rw [Nat.pow_add]
    exact Nat.mul_lt_mul_of_pos_right hlast (Nat.two_pow_pos 200)
  have hplace : length - 19 + 19 = length := by omega
  have hnext : length - 19 + 20 = length + 1 := by omega
  refine ⟨length - 19, 2 * (length - 19) - unitScale, ?_, ?_, ?_, ?_, ?_⟩
  · rw [hplace]
    exact hfirst
  · rw [hnext]
    exact hlast
  · omega
  · omega
  · omega

namespace Placed

theorem finite (h : Placed units place rest) : units * 2 ^ 17 < infiniteUnits := by
  have hscale : unitScale = 1074 := rfl
  have hsmall := h.small
  calc units * 2 ^ 17
    _ < 2 ^ (place + 20) * 2 ^ 17 := Nat.mul_lt_mul_of_pos_right h.high (Nat.two_pow_pos 17)
    _ = 2 ^ (place + 20 + 17) := (Nat.pow_add 2 _ _).symm
    _ ≤ infiniteUnits := (two_pow_lt_infiniteUnits (by omega)).le

theorem finite_rest (h : Placed units place rest) : 2 ^ (rest + 16) < infiniteUnits := by
  have hscale : unitScale = 1074 := rfl
  have hsmall := h.small
  have hsquare := h.square
  exact two_pow_lt_infiniteUnits (by omega)

/-- What the copies miss is at most the twentieth digit. -/
theorem missedUnits_le (h : Placed units place rest) (hk : k < 2 ^ 16) :
    nearestUnits (missedUnits units k) 1 ≤ 2 ^ place := by
  have hmissed := (missedUnits_mul_le units hk).trans_lt h.high
  rw [Nat.pow_add] at hmissed
  refine nearestUnits_le Nat.one_pos (significant_two_pow place) ?_
  rw [Nat.mul_one]
  exact (Nat.lt_of_mul_lt_mul_right hmissed).le

/-- What the copies miss is far from too small to be squared. -/
theorem le_missedUnits (h : Placed units place rest) (hsignificant : Significant units)
    (hmissed : missedUnits units k ≠ 0) :
    2 ^ 48 * one ≤ nearestUnits (missedUnits units k) 1 * nearestUnits (missedUnits units k) 1 := by
  have hscale : unitScale = 1074 := rfl
  have hlarge := h.large
  obtain ⟨significand, shift, hlt, rfl⟩ := hsignificant
  have hshift : place + 19 < 53 + shift := by
    refine (Nat.pow_lt_pow_iff_right (a := 2) (by decide)).mp (h.low.trans_lt ?_)
    rw [Nat.pow_add]
    exact Nat.mul_lt_mul_of_pos_right hlt (Nat.two_pow_pos shift)
  have hleast : 2 ^ shift ≤ nearestUnits (missedUnits (significand * 2 ^ shift) k) 1 := by
    refine le_nearestUnits Nat.one_pos (significant_two_pow shift) ?_
    rw [Nat.mul_one]
    exact UpSetProse.le_missedUnits hmissed
  calc 2 ^ 48 * one
    _ = 2 ^ (48 + unitScale) := by rw [one_eq, Nat.pow_add]
    _ ≤ 2 ^ (shift + shift) := Nat.pow_le_pow_right (by decide) (by omega)
    _ = 2 ^ shift * 2 ^ shift := Nat.pow_add 2 shift shift
    _ ≤ _ := Nat.mul_le_mul hleast hleast

end Placed

variable (negative : Bool) (h : Representable units)

/-- What copies add to the sum of squared differences. -/
theorem spread_finite (hk : k + 1 < 2 ^ 16) (hfinite : units * 2 ^ 17 < infiniteUnits) :
    spread (finite negative units h) k =
      ofUnits false (nearestUnits (missedUnits units (k + 1)) 1 *
        nearestUnits (missedUnits units (k + 1)) 1) one / ofNat ((k + 2) * (k + 1)) := by
  obtain ⟨sign, hmissed, hdifference⟩ := exists_product_sub_sum negative h hk hfinite
  unfold spread
  dsimp only
  rw [hdifference, weight_eq (by omega), mul_finite, bne_self_eq_false]

/-- Squared differences are bounded, not negative, and far from zero if the copies do not add up. -/
theorem spread_bounds (hplaced : Placed units place rest) (hk : k + 1 < 2 ^ 16) :
    (spread (finite negative units h) k).Within (2 ^ rest) ∧
      (spread (finite negative units h) k).AtLeast 0 ∧
      (missedUnits units (k + 1) ≠ 0 → (spread (finite negative units h) k).AtLeast (2 ^ 16)) := by
  have hmost := hplaced.missedUnits_le hk
  have hleast := hplaced.le_missedUnits (k := k + 1) h.significant
  rw [spread_finite negative h hk hplaced.finite]
  generalize nearestUnits (missedUnits units (k + 1)) 1 = difference at hmost hleast ⊢
  have hsquare : nearestUnits (difference * difference) one ≤ 2 ^ rest := by
    refine nearestUnits_le one_pos (significant_two_pow rest) ?_
    calc difference * difference
      _ ≤ 2 ^ place * 2 ^ place := Nat.mul_le_mul hmost hmost
      _ = 2 ^ (2 * place) := by rw [← Nat.pow_add, Nat.two_mul]
      _ = 2 ^ rest * one := by rw [hplaced.square, Nat.pow_add, one_eq]
  have hbound : 2 ^ rest < infiniteUnits :=
    (Nat.pow_le_pow_right (by decide) (Nat.le_add_right _ _)).trans_lt hplaced.finite_rest
  have hfinite := hsquare.trans_lt hbound
  have hweight : (k + 2) * (k + 1) ≤ 2 ^ 16 * 2 ^ 16 := Nat.mul_le_mul hk hk.le
  have hpos : 0 < (k + 2) * (k + 1) := Nat.mul_pos (Nat.succ_pos _) (Nat.succ_pos _)
  rw [ofUnits, dif_pos hfinite, div_ofNat false _ (hweight.trans (by decide)) hpos]
  refine ⟨within_ofUnits hpos (significant_two_pow rest) hbound ?_ false,
    atLeast_ofUnits hpos (significant_of_le (Nat.zero_le _)) (by omega), fun hmissed => ?_⟩
  · exact hsquare.trans (Nat.le_mul_of_pos_right _ hpos)
  · refine atLeast_ofUnits hpos (significant_two_pow 16) ?_
    calc 2 ^ 16 * ((k + 2) * (k + 1))
      _ ≤ 2 ^ 16 * (2 ^ 16 * 2 ^ 16) := Nat.mul_le_mul_left (2 ^ 16) hweight
      _ = 2 ^ 48 := by norm_num
      _ ≤ _ := le_nearestUnits one_pos (significant_two_pow 48) (hleast hmissed)

/-- The sum of the squared differences of copies that do not add up. -/
theorem exists_sum_spread (hplaced : Placed units place rest) {count : Nat}
    (hcount : count + 2 ≤ 2 ^ 16) (hnot : ¬ (finite negative units h).AddsUp (count + 2)) :
    ∃ squares, ∃ hsquares : Representable squares, 2 ^ 16 ≤ squares ∧ squares ≤ 2 ^ (rest + 16) ∧
      sum ((List.range (count + 1)).map (spread (finite negative units h))) =
        finite false squares hsquares := by
  obtain ⟨k, hk, hmissed⟩ := exists_missedUnits (hcount.trans (by decide)) hnot
  have hmem : k ∈ List.range (count + 1) := List.mem_range.mpr (Nat.lt_of_succ_lt_succ hk)
  have hspread (j : Nat) (hj : j ∈ List.range (count + 1)) :=
    spread_bounds negative h hplaced
      ((Nat.succ_lt_succ (List.mem_range.mp hj)).trans_le hcount)
  have hpower : (count + 1) * 2 ^ rest ≤ 2 ^ (rest + 16) := by
    rw [Nat.pow_add, Nat.mul_comm]
    exact Nat.mul_le_mul_left _ (by omega)
  have hlength : ((List.range (count + 1)).map (spread (finite negative units h))).length =
      count + 1 := by
    rw [List.length_map, List.length_range]
  have hwithin := within_sum (List.forall_mem_map.mpr fun j hj => (hspread j hj).1)
    (fun j hj => (significant_of_le ((hj.trans_eq hlength).trans (by omega))).mul_two_pow rest)
    (by rw [hlength]; exact hpower.trans_lt hplaced.finite_rest)
  have hzero : (0 : Double).AtLeast 0 := by
    rw [zero_eq]
    exact .finite le_rfl
  have hleast := atLeast_foldl_add (significant_two_pow 16)
    (List.forall_mem_map.mpr fun j hj => (hspread j hj).2.1) hzero
    (.inr ⟨_, List.mem_map_of_mem hmem, (hspread k hmem).2.2 hmissed⟩)
  obtain ⟨squares, hsquares, hlow, hhigh, hsum⟩ := hleast.exists_finite hwithin
  rw [hlength] at hhigh
  exact ⟨squares, hsquares, hlow, hhigh.trans hpower, hsum⟩

/-- The root of a mean that is neither zero nor large. -/
theorem exists_sqrt_mean (hplaced : Placed units place rest) {squares count : Nat}
    (hsquares : Representable squares) (hlow : 2 ^ 16 ≤ squares)
    (hhigh : squares ≤ 2 ^ (rest + 16)) (hpos : 0 < count) (hcount : count ≤ 2 ^ 16) :
    ∃ n, ∃ hn : Representable n, 0 < n ∧ n ≤ 2 ^ (place + 9) ∧
      (finite false squares hsquares / ofNat count).sqrt = finite false n hn := by
  have hscale : unitScale = 1074 := rfl
  have hsmall := hplaced.small
  have hsquare := hplaced.square
  have hfinite : 2 ^ (place + 9) < infiniteUnits := two_pow_lt_infiniteUnits (by omega)
  rw [div_ofNat false hsquares (hcount.trans (by decide)) hpos]
  have hleast : (ofUnits false squares count).AtLeast 1 :=
    atLeast_ofUnits hpos (significant_of_le (by decide)) (by omega)
  have hwithin := within_ofUnits hpos (significant_two_pow (rest + 16)) hplaced.finite_rest
    (hhigh.trans (Nat.le_mul_of_pos_right _ hpos)) false
  obtain ⟨variance, hvariance, hpositive, hmost, heq⟩ := hleast.exists_finite hwithin
  have hroot : nearestRootUnits (variance * one) ≤ 2 ^ (place + 9) := by
    have hexponent : rest + 16 + unitScale = place + 8 + (place + 8) := by omega
    refine nearestRootUnits_le ?_
    calc variance * one
      _ ≤ 2 ^ (rest + 16) * one := Nat.mul_le_mul_right one hmost
      _ = 2 ^ (rest + 16 + unitScale) := by rw [one_eq]; exact (pow_add 2 _ _).symm
      _ = 4 ^ (place + 8) := by rw [hexponent, four_pow]; exact pow_add 2 _ _
  have hroot' : (ofUnits false (nearestRootUnits (variance * one)) 1).AtLeast 1 :=
    atLeast_ofUnits Nat.one_pos (significant_of_le (by decide))
      (nearestRootUnits_pos (Nat.mul_pos hpositive one_pos))
  rw [heq, sqrt_finite hvariance hpositive]
  exact hroot'.exists_finite (within_ofUnits Nat.one_pos (significant_two_pow (place + 9))
    hfinite (hroot.trans_eq (Nat.mul_one _).symm) false)

/-- The deviation of copies that do not add up is positive, and small against the number. -/
theorem exists_sampleDeviation (hplaced : Placed units place rest) {count : Nat}
    (hcount : count + 2 ≤ 2 ^ 16) (hnot : ¬ (finite negative units h).AddsUp (count + 2)) :
    ∃ n, ∃ hn : Representable n, 0 < n ∧ n ≤ 2 ^ (place + 9) ∧
      sampleDeviation (List.replicate (count + 2) (finite negative units h)) =
        finite false n hn := by
  obtain ⟨squares, hsquares, hlow, hhigh, hsum⟩ :=
    exists_sum_spread negative h hplaced hcount hnot
  rw [sampleDeviation_replicate, hsum]
  exact exists_sqrt_mean hplaced hsquares hlow hhigh (Nat.succ_pos count) (Nat.le_of_lt hcount)

end Placed

/-- The mean of copies stays the number from the first copy on. -/
theorem runningMean_replicate (negative : Bool) {units : Nat} (h : Representable units)
    (hpos : 0 < units) (count : Nat) :
    runningMean (List.replicate (count + 1) (finite negative units h)) =
      finite negative units h := by
  have hfirst : (0 : Double) + (finite negative units h - 0) / ofNat 1 =
      finite negative units h := by
    have hdifference : finite negative units h - 0 = finite negative units h := by
      rw [zero_eq]
      exact (add_signedZero negative true h hpos).1
    rw [hdifference, div_ofNat negative h (by decide) Nat.one_pos, ofUnits_one h, zero_eq]
    exact (add_signedZero negative false h hpos).2
  have hnext {i : Nat} (hi : 0 < i) :
      finite negative units h + (finite negative units h - finite negative units h) / ofNat i =
        finite negative units h := by
    have hdifference : finite negative units h - finite negative units h = signedZero false := by
      have htotal : signedUnits negative units + signedUnits (!negative) units = 0 := by
        cases negative
        · exact Int.add_right_neg _
        · exact Int.add_left_neg _
      change finite negative units h + finite (!negative) units h = _
      rw [add_finite, if_pos htotal, Bool.and_not_self]
    rw [hdifference, signedZero_div_ofNat false hi]
    exact (add_signedZero negative false h hpos).1
  have hrest (i : Nat) (hi : 0 < i) : ((List.replicate count (finite negative units h)).foldl
      (fun state x => (state.1 + (x - state.1) / ofNat state.2, state.2 + 1))
      (finite negative units h, i)).1 = finite negative units h := by
    induction count generalizing i with
    | zero => rfl
    | succ count ih =>
      rw [List.replicate_succ, List.foldl_cons]
      dsimp only
      rw [hnext hi]
      exact ih (i + 1) (Nat.succ_pos i)
  rw [runningMean, List.replicate_succ, List.foldl_cons]
  dsimp only
  rw [hfirst]
  exact hrest 2 (by decide)

end Double

namespace Change

/-- Copies that add up do not change. -/
theorem ofSizes_of_addsUp {x : Double} {count : Nat} (h : x.AddsUp count) :
    ofSizes (List.replicate count x) = .constant := by
  match count with
  | 0 => rfl
  | 1 => rfl
  | count + 2 =>
    have hidle := (Double.idle_sampleDeviation count h).eq_true
    unfold ofSizes
    rw [List.length_replicate, if_neg (by omega)]
    dsimp only
    rw [hidle, Bool.true_or, if_pos rfl]

theorem drasticFrom_eq : ∃ n, ∃ h : Representable n,
    2 * n = Double.one ∧ drasticFrom = .finite false n h := by
  have hread : drasticFrom = .ofUnits false Double.one 2 := by decide +kernel
  have hfinite : nearestUnits Double.one 2 < infiniteUnits := by decide +kernel
  rw [hread, Double.ofUnits, dif_pos hfinite]
  exact ⟨_, representable_nearestUnits hfinite, by decide +kernel, rfl⟩

/-- A deviation of at most a quarter of the mean is not drastic. -/
theorem lt_drasticFrom {n units : Nat} (hn : Representable n) (h : Representable units)
    (hpos : 0 < units) (hle : 4 * n ≤ units) :
    (Double.finite false n hn / .finite false units h).lt drasticFrom = true := by
  obtain ⟨half, hhalf, hone, heq⟩ := drasticFrom_eq
  obtain ⟨k, hk⟩ : ∃ k, unitScale = k + 2 := ⟨1072, rfl⟩
  have hquarter : Double.one = 4 * 2 ^ k := by
    rw [Double.one_eq, hk, pow_add]
    ring
  have hpower := Nat.two_pow_pos k
  have hfinite : 2 ^ k < infiniteUnits := Double.two_pow_lt_infiniteUnits (by omega)
  have hbound : n * Double.one ≤ 2 ^ k * units := by
    rw [hquarter]
    calc n * (4 * 2 ^ k)
      _ = 2 ^ k * (4 * n) := by ring
      _ ≤ 2 ^ k * units := Nat.mul_le_mul_left _ hle
  have hle := nearestUnits_le hpos (significant_two_pow k) hbound
  rw [Double.div_finite _ _ _ _ hpos, bne_self_eq_false, Double.ofUnits,
    dif_pos (hle.trans_lt hfinite), heq, Double.lt_finite_iff]
  omega

/-- Copies that do not add up change gradually. -/
theorem ofSizes_of_not_addsUp {x : Double} (hx : x.isFinite = true)
    (hlow : Double.one ≤ x.value.natAbs * 2 ^ 200) (hhigh : x.value.natAbs ≤ Double.one * 2 ^ 200)
    {count : Nat} (hcount : count ≤ 2 ^ 16) (hnot : ¬ x.AddsUp count) :
    ofSizes (List.replicate count x) = .gradual := by
  obtain ⟨negative, units, h, hunits, rfl⟩ := Double.eq_finite_of_isFinite hx
  rw [hunits] at hlow hhigh
  obtain ⟨place, rest, hplaced⟩ := Double.exists_placed hlow hhigh
  have hpos : 0 < units := (Nat.two_pow_pos _).trans_le hplaced.low
  match count with
  | 0 => exact absurd (Double.addsUp_of_le_five hx (by decide)) hnot
  | 1 => exact absurd (Double.addsUp_of_le_five hx (by decide)) hnot
  | count + 2 =>
    obtain ⟨n, hn, hpositive, hmost, hdeviation⟩ :=
      Double.exists_sampleDeviation negative h hplaced hcount hnot
    have hmean := Double.runningMean_replicate negative h hpos (count + 1)
    have hquarter : 4 * n ≤ units := by
      have hfirst := hplaced.low
      rw [pow_add] at hmost hfirst
      omega
    have hjudged : (!(Double.finite false n hn).isFinite || (Double.finite false n hn).isZero ||
        (Double.finite negative units h).isZero) = false := by
      rw [Double.isFinite, Bool.not_true, Bool.false_or, Bool.or_eq_false_iff,
        ← Bool.not_eq_true, ← Bool.not_eq_true, Double.isZero_finite_iff, Double.isZero_finite_iff]
      exact ⟨hpositive.ne', hpos.ne'⟩
    unfold ofSizes
    rw [List.length_replicate, if_neg (by omega), hdeviation, hmean]
    dsimp only
    rw [hjudged, if_neg Bool.false_ne_true]
    exact if_pos (lt_drasticFrom hn h hpos hquarter)

/-- Copies of a finite number do not change as long as they add up, which up to five copies always
do, and more as long as their number leaves room for the digits of the number. Up to `2 ^ 16` copies
of a number that is neither huge nor tiny change gradually as soon as they do not add up, but never
drastically. -/
theorem ofSizes_replicate {x : Double} (hx : x.isFinite = true) (count : Nat) :
    (x.AddsUp count → ofSizes (List.replicate count x) = .constant) ∧
    (count ≤ 5 → x.AddsUp count) ∧
    (∀ significand shift, x.value.natAbs = significand * 2 ^ shift → count ≤ 2 ^ 53 →
      count * significand ≤ 2 ^ 53 → x.AddsUp count) ∧
    (Double.one ≤ x.value.natAbs * 2 ^ 200 → x.value.natAbs ≤ Double.one * 2 ^ 200 →
      count ≤ 2 ^ 16 → ¬ x.AddsUp count → ofSizes (List.replicate count x) = .gradual) :=
  ⟨ofSizes_of_addsUp, Double.addsUp_of_le_five hx,
    fun _ _ hdigits hcount hroom => Double.addsUp_of_short hx hdigits hcount hroom,
    fun hlow hhigh hcount hnot => ofSizes_of_not_addsUp hx hlow hhigh hcount hnot⟩

/-- The double next to a tenth. -/
def tenth : Double := Decimal.toDouble false ⟨1, -1⟩

/-- A sixth tenth does not add up to the others. -/
theorem not_addsUp_tenth : ¬ tenth.AddsUp 6 := by
  intro h
  exact absurd (h 5 (by decide)) (by decide +kernel)

/-- Five tenths do not change, but six do. -/
theorem ofSizes_replicate_tenth : tenth.isFinite = true ∧
    ofSizes (List.replicate 5 tenth) = .constant ∧
    ofSizes (List.replicate 6 tenth) = .gradual := by
  have hfinite : tenth.isFinite = true := by decide +kernel
  obtain ⟨hconstant, hfive, -, -⟩ := ofSizes_replicate hfinite 5
  obtain ⟨-, -, -, hgradual⟩ := ofSizes_replicate hfinite 6
  exact ⟨hfinite, hconstant (hfive le_rfl),
    hgradual (by decide +kernel) (by decide +kernel) (by decide) not_addsUp_tenth⟩

/-- Six tenths are the same number six times over, but their change is said to be gradual. -/
theorem not_forall_ofSizes_replicate_eq_constant : ¬ ∀ (x : Double) (count : Nat),
    x.isFinite = true → ofSizes (List.replicate count x) = .constant := by
  intro h
  have hfinite : tenth.isFinite = true := by decide +kernel
  have hconstant := h tenth 6 hfinite
  rw [ofSizes_of_not_addsUp hfinite (by decide +kernel) (by decide +kernel) (by decide)
    not_addsUp_tenth] at hconstant
  cases hconstant

end Change
end UpSetProse
