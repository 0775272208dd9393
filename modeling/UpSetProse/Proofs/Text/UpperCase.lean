import UpSetProse.Text.Sentence

/-!
# Upper case decides nothing about sentences

White space, stops and lower-case letters, which say where a sentence begins and what is capitalized
there, are tables of spans. No letter of one of them is in another one, and no upper case is in any
of them, since the spans of the mapping end where none of these spans is.
-/

namespace UpSetProse

namespace CodeSpan

/-- A span holds the code points between its ends that are whole steps from the first. -/
theorem contains_iff {s : CodeSpan} {code : Nat} : s.contains code = true ↔
    s.first ≤ code ∧ code ≤ s.last ∧ (code - s.first) % s.step = 0 := by
  simp only [contains, Bool.and_eq_true, decide_eq_true_eq, beq_iff_eq, and_assoc]

/-- Whether the span goes in steps of two or is a single code point. -/
def oneParity (s : CodeSpan) : Bool := s.step == 2 || s.last == s.first

/-- The code points of a span with an even step are all even or all odd. -/
theorem mod_eq_of_oneParity {s : CodeSpan} {code : Nat} (h : s.oneParity = true)
    (hs : s.contains code = true) : code % 2 = s.first % 2 := by
  obtain ⟨hfirst, hlast, hstep⟩ := contains_iff.mp hs
  simp only [oneParity, Bool.or_eq_true, beq_iff_eq] at h
  rcases h with h | h
  · rw [h] at hstep
    omega
  · omega

/-- Whether one span ends before the other one begins, or they differ in parity. -/
def apart (s t : CodeSpan) : Bool :=
  s.last.blt t.first || t.last.blt s.first ||
    (s.oneParity && t.oneParity && s.first % 2 != t.first % 2)

/-- Spans that are apart have no code point in common. -/
theorem not_contains_of_apart {s t : CodeSpan} {code : Nat} (h : s.apart t = true)
    (hs : s.contains code = true) : t.contains code = false := by
  rw [← Bool.not_eq_true]
  intro ht
  have hsBounds := contains_iff.mp hs
  have htBounds := contains_iff.mp ht
  simp only [apart, Bool.or_eq_true, Bool.and_eq_true, Nat.blt_eq, bne_iff_ne] at h
  rcases h with (h | h) | ⟨⟨hsParity, htParity⟩, hne⟩
  · omega
  · omega
  · exact hne ((mod_eq_of_oneParity hsParity hs).symm.trans (mod_eq_of_oneParity htParity ht))

theorem holds_eq_false_iff {table : List CodeSpan} {c : Char} :
    holds table c = false ↔ ∀ s ∈ table, s.contains c.toNat = false := by
  simp only [holds, List.any_eq_false, Bool.not_eq_true]

/-- Tables whose spans are apart have no character in common. -/
theorem holds_of_apart {left right : List CodeSpan}
    (h : left.all (fun s => right.all s.apart) = true) {c : Char} (hc : holds left c = true) :
    holds right c = false := by
  obtain ⟨s, hs, hcontains⟩ := List.any_eq_true.mp hc
  simp only [List.all_eq_true] at h
  exact holds_eq_false_iff.mpr fun t ht => not_contains_of_apart (h s hs t ht) hcontains

end CodeSpan

/-- The span that a shift leads to. -/
def CodeShift.image (s : CodeShift) : CodeSpan :=
  ⟨(s.first + s.shift).toNat, (s.last + s.shift).toNat, s.step⟩

/-- A code point of a shifted span is mapped into the image of the span. -/
theorem CodeShift.contains_image {s : CodeShift} {code : Nat} (hfirst : 0 ≤ s.first + s.shift)
    (h : s.contains code = true) : s.image.contains (code + s.shift).toNat = true := by
  rw [CodeSpan.contains_iff] at h ⊢
  obtain ⟨hfirst', hlast, hstep⟩ := h
  refine ⟨?_, ?_, ?_⟩
  · simp only [image]
    omega
  · simp only [image]
    omega
  · have hdistance : (code + s.shift).toNat - s.image.first = code - s.first := by
      simp only [image]
      omega
    rw [hdistance]
    exact hstep

namespace Text

/-! ### Neutral characters -/

/-- A character that neither is a lower-case letter nor has a part in the end of a sentence. -/
structure Neutral (c : Char) : Prop where
  isBlank : isBlank c = false
  isStop : isStop c = false
  isLowerLetter : isLowerLetter c = false

/-- The stops. -/
def stopSpans : List CodeSpan := [⟨0x21, 0x21, 1⟩, ⟨0x2E, 0x2E, 1⟩, ⟨0x3F, 0x3F, 1⟩]

/-- The characters that are not neutral. -/
def decidingSpans : List CodeSpan := stopSpans ++ blankSpans ++ lowerLetterSpans

/-- The stops at the end of a sentence are a table of spans, too. -/
theorem holds_stopSpans {c : Char} (h : isStop c = true) : CodeSpan.holds stopSpans c = true := by
  simp only [isStop, Bool.or_eq_true, decide_eq_true_eq] at h
  rcases h with (rfl | rfl) | rfl <;> decide

/-- A character outside all spans that matter decides nothing. -/
theorem neutral_of_not_holds {c : Char} (h : CodeSpan.holds decidingSpans c = false) :
    Neutral c := by
  simp only [CodeSpan.holds, decidingSpans, List.any_append, Bool.or_eq_false_iff] at h
  obtain ⟨⟨hstop, hblank⟩, hlower⟩ := h
  refine ⟨hblank, ?_, hlower⟩
  rw [← Bool.not_eq_true]
  intro hc
  exact Bool.false_ne_true (hstop.symm.trans (holds_stopSpans hc))

/-- If one class leaves out another, it is left out by the other. -/
theorem eq_false_of_excludes {a b : Bool} (h : a = true → b = false) (hb : b = true) : a = false :=
  Bool.eq_false_iff.mpr fun ha => Bool.false_ne_true ((h ha).symm.trans hb)

theorem isBlank_of_isStop {c : Char} (h : isStop c = true) : isBlank c = false :=
  CodeSpan.holds_of_apart (by decide) (holds_stopSpans h)

theorem isLowerLetter_of_isStop {c : Char} (h : isStop c = true) : isLowerLetter c = false :=
  CodeSpan.holds_of_apart (by decide +kernel) (holds_stopSpans h)

/-- White space is no lower-case letter. -/
theorem isLowerLetter_of_isBlank {c : Char} (h : isBlank c = true) : isLowerLetter c = false :=
  CodeSpan.holds_of_apart (show blankSpans.all (fun s => lowerLetterSpans.all s.apart) = true by
    decide +kernel) h

theorem isStop_of_isBlank {c : Char} (h : isBlank c = true) : isStop c = false :=
  eq_false_of_excludes isBlank_of_isStop h

theorem isStop_of_isLowerLetter {c : Char} (h : isLowerLetter c = true) : isStop c = false :=
  eq_false_of_excludes isLowerLetter_of_isStop h

theorem isBlank_of_isLowerLetter {c : Char} (h : isLowerLetter c = true) : isBlank c = false :=
  eq_false_of_excludes isLowerLetter_of_isBlank h

/-- A code point that is in none of the spans is that of a neutral character; one that is no
character stands for the null character, which is neutral too. -/
theorem neutral_ofNat {code : Nat} (h : ∀ s ∈ decidingSpans, s.contains code = false) :
    Neutral (Char.ofNat code) := by
  by_cases hvalid : code.isValidChar
  · have hcode : (Char.ofNat code).toNat = code := by
      rw [Char.ofNat, dif_pos hvalid]
      rfl
    exact neutral_of_not_holds (CodeSpan.holds_eq_false_iff.mpr (hcode.symm ▸ h))
  · rw [Char.ofNat, dif_neg hvalid]
    exact ⟨by decide, by decide, by decide +kernel⟩

/-! ### The mapping -/

/-- No shift leads to a character that is not neutral. -/
theorem neutral_of_find? {c d : Char} (h : CodeShift.find? upperCaseShifts c = some d) :
    Neutral d := by
  have hpositive : ∀ s ∈ upperCaseShifts, 0 ≤ s.first + s.shift := by decide +kernel
  have hapart : upperCaseShifts.all (fun s => decidingSpans.all s.image.apart) = true := by
    decide +kernel
  simp only [List.all_eq_true] at hapart
  obtain ⟨s, hfound, rfl⟩ := Option.map_eq_some_iff.mp h
  have hs := List.mem_of_find?_eq_some hfound
  have hcontains : s.contains c.toNat = true := by simpa using List.find?_some hfound
  have himage := CodeShift.contains_image (hpositive s hs) hcontains
  exact neutral_ofNat fun t ht => CodeSpan.not_contains_of_apart (hapart s hs t ht) himage

/-- A character stays as it is in upper case, or it becomes neutral characters. -/
theorem upperCase_eq_or_neutral (c : Char) :
    upperCase c = [c] ∨ upperCase c ≠ [] ∧ ∀ d ∈ upperCase c, Neutral d := by
  have hne : ∀ entry ∈ upperCaseSequences, entry.2 ≠ [] := by decide
  have hcodes : upperCaseSequences.all (fun entry => entry.2.all fun code =>
      decidingSpans.all fun s => !s.contains code) = true := by decide +kernel
  simp only [List.all_eq_true, Bool.not_eq_true'] at hcodes
  unfold upperCase
  split
  · rename_i codes hlookup
    obtain ⟨before, after, hsplit, _⟩ := List.lookup_eq_some_iff.mp hlookup
    have hentry : (c.toNat, codes) ∈ upperCaseSequences := by
      rw [hsplit]
      exact List.mem_append_right before List.mem_cons_self
    refine .inr ⟨mt List.map_eq_nil_iff.mp (hne _ hentry), ?_⟩
    rw [List.forall_mem_map]
    exact fun code hcode => neutral_ofNat (hcodes _ hentry code hcode)
  · cases hfound : CodeShift.find? upperCaseShifts c with
    | none => exact .inl rfl
    | some shifted =>
      refine .inr ⟨List.cons_ne_nil _ _, ?_⟩
      rw [Option.getD_some, List.forall_mem_singleton]
      exact neutral_of_find? hfound

end Text
end UpSetProse
