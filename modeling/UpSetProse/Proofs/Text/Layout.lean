import UpSetProse.Proofs.Text.Composed

/-!
# Sanitizing changes the layout only

Line breaks become spaces and the pairs of brackets are parted by spaces, so whatever else a text is
made of stays as it is: no such character is dropped, repeated or moved. A text that has neither
line breaks nor doubled brackets is not changed at all, and it is the only kind that is not.
-/

namespace UpSetProse.Text

/-- A text with every occurrence of the given characters taken out. -/
def without (gone : List Char) (text : String) : String :=
  String.ofList (text.toList.filter (· ∉ gone))

/-! ## What is kept -/

section kept

variable {keep : Char → Bool}

/-- Splitting the pairs of a bracket keeps everything but spaces. -/
theorem filter_splitPairs (hspace : keep ' ' = false) (bracket : Char) (text : List Char) :
    (splitPairs bracket text).filter keep = text.filter keep := by
  induction text using induction_by_pairs bracket with
  | nil => rfl
  | pair rest ih => simp [splitPairs_pair, List.filter_cons, hspace, ih]
  | single a rest hsingle ih => simp [splitPairs_single hsingle, List.filter_cons, ih]

/-- So do all rounds. -/
theorem filter_splitAll (hspace : keep ' ' = false) (brackets text : List Char) :
    (splitAll brackets text).filter keep = text.filter keep := by
  induction brackets generalizing text with
  | nil => rfl
  | cons bracket brackets ih => exact (ih _).trans (filter_splitPairs hspace bracket text)

end kept

/-- Where spaces are taken out, flattened line breaks are. -/
theorem filter_map_flattenBreak (text : List Char) :
    (text.map flattenBreak).filter (· ∉ [' ']) = text.filter (· ∉ ' ' :: breaks) := by
  induction text with
  | nil => rfl
  | cons c rest ih =>
    rw [List.map_cons, List.filter_cons, List.filter_cons, ih]
    by_cases hbreak : c = '\r' ∨ c = '\n'
    · rcases hbreak with rfl | rfl <;> rfl
    · have hkept : flattenBreak c = c := if_neg hbreak
      simp [hkept, breaks, hbreak]

/-! ## Texts that are not changed -/

/-- Without a pair of the bracket there is nothing to split. -/
theorem splitPairs_eq_self {bracket : Char} {text : List Char}
    (h : ¬ [bracket, bracket] <:+: text) : splitPairs bracket text = text := by
  induction text using induction_by_pairs bracket with
  | nil => rfl
  | pair rest ih => exact absurd (List.prefix_append [bracket, bracket] rest).isInfix h
  | single a rest hsingle ih =>
    rw [splitPairs_single hsingle, ih]
    exact fun hrest => h (hrest.trans (List.suffix_cons a rest).isInfix)

theorem splitAll_eq_self {brackets text : List Char}
    (h : ∀ bracket ∈ brackets, ¬ [bracket, bracket] <:+: text) : splitAll brackets text = text := by
  induction brackets with
  | nil => rfl
  | cons bracket brackets ih =>
    obtain ⟨hfirst, hothers⟩ := List.forall_mem_cons.mp h
    calc splitAll brackets (splitPairs bracket text)
      _ = splitAll brackets text := by rw [splitPairs_eq_self hfirst]
      _ = text := ih hothers

theorem map_flattenBreak_eq_self {text : List Char} (h : Unbroken text) :
    text.map flattenBreak = text := by
  refine (List.map_congr_left fun c hc => ?_).trans (List.map_id text)
  exact if_neg fun hbreak => h c hc (List.mem_pair.mpr hbreak)

/-- A text stays as it is exactly if it has neither line breaks nor doubled brackets. -/
theorem sanitizeChars_eq_self_iff {text : List Char} :
    sanitizeChars text = text ↔
      Unbroken text ∧ ∀ bracket ∈ markerBrackets, ¬ [bracket, bracket] <:+: text := by
  constructor
  · intro heq
    have hunbroken := unbroken_sanitizeChars text
    rw [heq] at hunbroken
    refine ⟨hunbroken, fun bracket hmem hpair => ?_⟩
    -- A pair that is left comes from three brackets, of which the first is not a space.
    have hspaced := spaced_sanitizeChars hmem text
    have htriple := infix_sanitizeChars_iff hmem text
    rw [heq] at hspaced htriple
    have hspace : bracket = ' ' := hspaced.inside (htriple.mp hpair)
    exact ne_of_mem_of_not_mem hmem (by decide) hspace
  · rintro ⟨hunbroken, hpairs⟩
    calc splitAll markerBrackets (text.map flattenBreak)
      _ = splitAll markerBrackets text := by rw [map_flattenBreak_eq_self hunbroken]
      _ = text := splitAll_eq_self hpairs

/-- Sanitizing touches nothing but spaces and line breaks, and a text only if it has a line break or
a doubled bracket. -/
theorem sanitize_changes_layout_only (text : String) :
    without [' '] (sanitize text) = without (' ' :: breaks) text ∧
    (sanitize text = text ↔ Unbroken text.toList ∧
      ∀ bracket ∈ markerBrackets, ¬ [bracket, bracket] <:+: text.toList) := by
  have hkept : (sanitizeChars text.toList).filter (· ∉ [' ']) =
      text.toList.filter (· ∉ ' ' :: breaks) :=
    (filter_splitAll rfl markerBrackets _).trans (filter_map_flattenBreak text.toList)
  constructor
  · rw [without, without, sanitize, String.toList_ofList, hkept]
  · rw [← sanitizeChars_eq_self_iff, sanitize, ← String.toList_inj, String.toList_ofList]

end UpSetProse.Text
