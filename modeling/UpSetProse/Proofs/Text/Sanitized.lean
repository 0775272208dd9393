import Mathlib.Data.List.Infix
import UpSetProse.Text.Prose

/-!
# What sanitizing leaves

Pairs of a bracket are split without overlap, so of three in a row two stay together: a doubled
bracket is left exactly where there were three. Wherever one is left, a space stands before it.
Splitting the pairs of one bracket does not bring those of another together or apart, so the four
rounds can be looked at one by one.
-/

namespace UpSetProse.Text

/-- A space stands before every doubled bracket. -/
structure Spaced (bracket : Char) (text : List Char) : Prop where
  start : ¬ [bracket, bracket] <+: text
  inside : ∀ {c : Char}, [c, bracket, bracket] <:+: text → c = ' '

/-- A text is read by pairs of a bracket: a pair is one step, and so is any other character. -/
@[elab_as_elim]
theorem induction_by_pairs (bracket : Char) {motive : List Char → Prop} (nil : motive [])
    (pair : ∀ rest, motive rest → motive (bracket :: bracket :: rest))
    (single : ∀ a rest, ¬ [bracket, bracket] <+: a :: rest → motive rest → motive (a :: rest))
    (text : List Char) : motive text := by
  fun_induction splitPairs bracket text with
  | case1 a b rest hpair ih =>
    obtain ⟨rfl, rfl⟩ := hpair
    exact pair rest ih
  | case2 a b rest hpair ih =>
    refine single a (b :: rest) (fun hstart => hpair ?_) ih
    simp only [List.cons_prefix_cons] at hstart
    exact ⟨hstart.1.symm, hstart.2.1.symm⟩
  | case3 rest hshort =>
    match rest with
    | [] => exact nil
    | [a] => exact single a [] (by simp [List.cons_prefix_cons]) nil
    | a :: b :: rest => exact absurd rfl (hshort a b rest)

@[simp] theorem splitPairs_nil (bracket : Char) : splitPairs bracket [] = [] := rfl

/-- A pair gets a space between its brackets. -/
theorem splitPairs_pair (bracket : Char) (rest : List Char) :
    splitPairs bracket (bracket :: bracket :: rest) =
      bracket :: ' ' :: bracket :: splitPairs bracket rest := by
  simp [splitPairs]

/-- A character that does not begin a pair is kept. -/
theorem splitPairs_single {bracket a : Char} {rest : List Char}
    (h : ¬ [bracket, bracket] <+: a :: rest) :
    splitPairs bracket (a :: rest) = a :: splitPairs bracket rest := by
  cases rest with
  | nil => rfl
  | cons b rest =>
    refine if_neg fun hpair => h ?_
    simp [List.cons_prefix_cons, hpair]

/-- Splitting keeps the first character. -/
theorem singleton_prefix_splitPairs_iff (bracket c : Char) (text : List Char) :
    [c] <+: splitPairs bracket text ↔ [c] <+: text := by
  cases text using induction_by_pairs bracket with
  | nil => rfl
  | pair rest => simp [splitPairs_pair, List.cons_prefix_cons]
  | single a rest hsingle => simp [splitPairs_single hsingle, List.cons_prefix_cons]

/-- A doubled bracket does not stand at the beginning. -/
theorem not_prefix_splitPairs {bracket : Char} (hspace : bracket ≠ ' ') (text : List Char) :
    ¬ [bracket, bracket] <+: splitPairs bracket text := by
  cases text using induction_by_pairs bracket with
  | nil => simp
  | pair rest => simp [splitPairs_pair, List.cons_prefix_cons, hspace]
  | single a rest hsingle =>
    rw [splitPairs_single hsingle, List.cons_prefix_cons, singleton_prefix_splitPairs_iff,
      ← List.cons_prefix_cons]
    exact hsingle

/-- A bracket stays doubled exactly where it stood three times. -/
theorem infix_splitPairs_iff {bracket : Char} (hspace : bracket ≠ ' ') (text : List Char) :
    [bracket, bracket] <:+: splitPairs bracket text ↔
      [bracket, bracket, bracket] <:+: text := by
  induction text using induction_by_pairs bracket with
  | nil => simp
  | pair rest ih =>
    have hfirst (h : [bracket, bracket] <+: rest) : [bracket] <+: rest :=
      (List.prefix_append [bracket] [bracket]).trans h
    rw [splitPairs_pair]
    simp only [List.infix_cons_iff, List.cons_prefix_cons, true_and, hspace, false_and, false_or,
      singleton_prefix_splitPairs_iff, ih]
    constructor
    · rintro (h | h)
      · exact .inl h
      · exact .inr (.inr h)
    · rintro (h | h | h)
      · exact .inl h
      · exact .inl (hfirst h)
      · exact .inr h
  | single a rest hsingle ih =>
    have hout := not_prefix_splitPairs hspace (a :: rest)
    rw [splitPairs_single hsingle] at hout ⊢
    rw [List.infix_cons_iff, List.infix_cons_iff, ih, or_iff_right hout, or_iff_right]
    exact fun h => hsingle ((List.prefix_append [bracket, bracket] [bracket]).trans h)

/-- After its pairs are split, a bracket is spaced. -/
theorem spaced_splitPairs {bracket : Char} (hspace : bracket ≠ ' ') (text : List Char) :
    Spaced bracket (splitPairs bracket text) := by
  refine ⟨not_prefix_splitPairs hspace text, fun {c} hfound => ?_⟩
  induction text using induction_by_pairs bracket with
  | nil => simp at hfound
  | pair rest ih =>
    have hrest := not_prefix_splitPairs hspace rest
    rw [splitPairs_pair] at hfound
    simp only [List.infix_cons_iff, List.cons_prefix_cons, hspace, hrest, false_and, and_false,
      false_or] at hfound
    rcases hfound with h | h
    · exact h.1
    · exact ih h
  | single a rest hsingle ih =>
    rw [splitPairs_single hsingle, List.infix_cons_iff, List.cons_prefix_cons] at hfound
    rcases hfound with h | h
    · exact absurd h.2 (not_prefix_splitPairs hspace rest)
    · exact ih h

/-- Splitting the pairs of one bracket leaves the beginning with another one as it is. -/
theorem replicate_prefix_splitPairs_iff {bracket other : Char} (h : other ≠ bracket)
    (n : Nat) (text : List Char) :
    List.replicate n other <+: splitPairs bracket text ↔ List.replicate n other <+: text := by
  induction text using induction_by_pairs bracket generalizing n with
  | nil => rfl
  | pair rest ih => cases n <;> simp [splitPairs_pair, List.replicate_succ, h]
  | single a rest hsingle ih =>
    rw [splitPairs_single hsingle]
    cases n with
    | zero => simp
    | succ n => simp [List.replicate_succ, List.cons_prefix_cons, ih]

/-- Splitting the pairs of one bracket neither joins nor parts a run of another one. -/
theorem replicate_infix_splitPairs_iff {bracket other : Char} (h : other ≠ bracket)
    (hspace : other ≠ ' ') (n : Nat) (text : List Char) :
    List.replicate n other <:+: splitPairs bracket text ↔ List.replicate n other <:+: text := by
  cases n with
  | zero => simp
  | succ n =>
    induction text using induction_by_pairs bracket with
    | nil => rfl
    | pair rest ih =>
      rw [splitPairs_pair]
      simp only [List.infix_cons_iff, List.replicate_succ, List.cons_prefix_cons, h, hspace,
        false_and, false_or] at ih ⊢
      exact ih
    | single a rest hsingle ih =>
      have hstart := replicate_prefix_splitPairs_iff h (n + 1) (a :: rest)
      rw [splitPairs_single hsingle] at hstart ⊢
      rw [List.infix_cons_iff, List.infix_cons_iff, hstart, ih]

/-- A doubled bracket is not moved behind another character by splitting the pairs of another. -/
theorem infix_of_infix_splitPairs {bracket other c : Char} (h : other ≠ bracket)
    (hspace : other ≠ ' ') {text : List Char}
    (hfound : [c, other, other] <:+: splitPairs bracket text) : [c, other, other] <:+: text := by
  have hbegins (a : Char) (rest : List Char)
      (hstart : [c, other, other] <+: a :: splitPairs bracket rest) :
      [c, other, other] <+: a :: rest := by
    rw [List.cons_prefix_cons] at hstart ⊢
    exact ⟨hstart.1, (replicate_prefix_splitPairs_iff h 2 rest).mp hstart.2⟩
  induction text using induction_by_pairs bracket with
  | nil => exact hfound
  | pair rest ih =>
    rw [splitPairs_pair] at hfound
    simp only [List.infix_cons_iff] at hfound
    rcases hfound with hstart | hstart | hstart | hfound
    · simp [List.cons_prefix_cons, hspace] at hstart
    · simp [List.cons_prefix_cons, h] at hstart
    · exact ((hbegins _ _ hstart).isInfix).trans (List.suffix_cons _ _).isInfix
    · exact (ih hfound).trans (List.suffix_append [bracket, bracket] rest).isInfix
  | single a rest hsingle ih =>
    rw [splitPairs_single hsingle, List.infix_cons_iff] at hfound
    rcases hfound with hstart | hfound
    · exact (hbegins _ _ hstart).isInfix
    · exact (ih hfound).trans (List.suffix_cons a rest).isInfix

/-- A spaced bracket stays spaced when the pairs of another one are split. -/
theorem Spaced.splitPairs {bracket other : Char} {text : List Char} (hspaced : Spaced other text)
    (h : other ≠ bracket) (hspace : other ≠ ' ') : Spaced other (splitPairs bracket text) :=
  ⟨fun hstart => hspaced.start ((replicate_prefix_splitPairs_iff h 2 text).mp hstart),
    fun hfound => hspaced.inside (infix_of_infix_splitPairs h hspace hfound)⟩

/-- Splitting adds nothing but spaces. -/
theorem mem_splitPairs {bracket c : Char} {text : List Char} (h : c ∈ splitPairs bracket text) :
    c = ' ' ∨ c ∈ text := by
  induction text using induction_by_pairs bracket with
  | nil => exact .inr h
  | pair rest ih =>
    simp only [splitPairs_pair, List.mem_cons] at h ⊢
    grind
  | single a rest hsingle ih =>
    simp only [splitPairs_single hsingle, List.mem_cons] at h ⊢
    grind

/-- Splits the pairs of several brackets, one after the other. -/
def splitAll (brackets text : List Char) : List Char :=
  brackets.foldl (fun t bracket => splitPairs bracket t) text

/-- Rounds for other brackets leave the runs of a bracket alone. -/
theorem replicate_infix_splitAll_iff {brackets : List Char} {other : Char}
    (h : other ∉ brackets) (hspace : other ≠ ' ') (n : Nat) (text : List Char) :
    List.replicate n other <:+: splitAll brackets text ↔ List.replicate n other <:+: text := by
  induction brackets generalizing text with
  | nil => rfl
  | cons bracket brackets ih =>
    rw [List.mem_cons, not_or] at h
    exact (ih h.2 _).trans (replicate_infix_splitPairs_iff h.1 hspace n text)

/-- Every bracket stays doubled exactly where it stood three times, however many are split. -/
theorem infix_splitAll_iff {brackets : List Char} (hnodup : brackets.Nodup)
    (hspace : ' ' ∉ brackets) {bracket : Char} (hmem : bracket ∈ brackets) (text : List Char) :
    [bracket, bracket] <:+: splitAll brackets text ↔
      [bracket, bracket, bracket] <:+: text := by
  have hne : bracket ≠ ' ' := ne_of_mem_of_not_mem hmem hspace
  induction brackets generalizing text with
  | nil => simp at hmem
  | cons first brackets ih =>
    rw [List.nodup_cons] at hnodup
    rw [List.mem_cons, not_or] at hspace
    by_cases heq : bracket = first
    · subst heq
      exact (replicate_infix_splitAll_iff hnodup.1 hne 2 _).trans (infix_splitPairs_iff hne text)
    · have hrest := (List.mem_cons.mp hmem).resolve_left heq
      exact (ih hnodup.2 hspace.2 hrest _).trans (replicate_infix_splitPairs_iff heq hne 3 text)

/-- Further rounds keep a bracket spaced. -/
theorem Spaced.splitAll {brackets : List Char} {bracket : Char} {text : List Char}
    (h : Spaced bracket text) (hmem : bracket ∉ brackets) (hspace : bracket ≠ ' ') :
    Spaced bracket (splitAll brackets text) := by
  induction brackets generalizing text with
  | nil => exact h
  | cons first brackets ih =>
    rw [List.mem_cons, not_or] at hmem
    exact ih (h.splitPairs hmem.1 hspace) hmem.2

/-- After all rounds, each bracket that was split is spaced. -/
theorem spaced_splitAll {brackets : List Char} (hnodup : brackets.Nodup)
    (hspace : ' ' ∉ brackets) {bracket : Char} (hmem : bracket ∈ brackets) (text : List Char) :
    Spaced bracket (splitAll brackets text) := by
  have hne : bracket ≠ ' ' := ne_of_mem_of_not_mem hmem hspace
  induction brackets generalizing text with
  | nil => simp at hmem
  | cons first brackets ih =>
    rw [List.nodup_cons] at hnodup
    rw [List.mem_cons, not_or] at hspace
    by_cases heq : bracket = first
    · subst heq
      exact (spaced_splitPairs hne text).splitAll hnodup.1 hne
    · exact ih hnodup.2 hspace.2 ((List.mem_cons.mp hmem).resolve_left heq) _

/-- The rounds add nothing but spaces. -/
theorem mem_splitAll {brackets : List Char} {c : Char} {text : List Char}
    (h : c ∈ splitAll brackets text) : c = ' ' ∨ c ∈ text := by
  induction brackets generalizing text with
  | nil => exact .inr h
  | cons first brackets ih =>
    rcases ih h with hblank | hmem
    · exact .inl hblank
    · exact mem_splitPairs hmem

/-- Line breaks are flattened to what is no bracket, and brackets are kept. -/
theorem flattenBreak_eq_iff {bracket : Char} (h : bracket ∈ markerBrackets) (c : Char) :
    flattenBreak c = bracket ↔ c = bracket := by
  unfold flattenBreak
  split
  · rename_i hbreak
    have hspace : ' ' ≠ bracket := (ne_of_mem_of_not_mem h (by decide)).symm
    have hreturn : '\r' ≠ bracket := (ne_of_mem_of_not_mem h (by decide)).symm
    have hfeed : '\n' ≠ bracket := (ne_of_mem_of_not_mem h (by decide)).symm
    rcases hbreak with rfl | rfl
    · exact iff_of_false hspace hreturn
    · exact iff_of_false hspace hfeed
  · rfl

/-- Flattening leaves the runs of a bracket alone. -/
theorem replicate_infix_map_flattenBreak_iff {bracket : Char} (h : bracket ∈ markerBrackets)
    (n : Nat) (text : List Char) :
    List.replicate n bracket <:+: text.map flattenBreak ↔ List.replicate n bracket <:+: text := by
  constructor
  · intro h'
    obtain ⟨run, hfound, hmap⟩ := List.infix_map_iff.mp h'
    have hrun : run = List.replicate n bracket := by
      refine List.eq_replicate_iff.mpr ⟨by simpa using (congrArg List.length hmap).symm, ?_⟩
      intro c hc
      have hflat : flattenBreak c ∈ List.replicate n bracket := hmap ▸ List.mem_map_of_mem hc
      exact (flattenBreak_eq_iff h c).mp (List.eq_of_mem_replicate hflat)
    exact hrun ▸ hfound
  · intro hfound
    have hmap := hfound.map flattenBreak
    rwa [List.map_replicate, (flattenBreak_eq_iff h bracket).mpr rfl] at hmap

/-- Each bracket is spaced in a sanitized text. -/
theorem spaced_sanitizeChars {bracket : Char} (h : bracket ∈ markerBrackets) (text : List Char) :
    Spaced bracket (sanitizeChars text) :=
  spaced_splitAll (by decide) (by decide) h _

/-- A sanitized text holds a doubled bracket exactly where the text held three. -/
theorem infix_sanitizeChars_iff {bracket : Char} (h : bracket ∈ markerBrackets)
    (text : List Char) :
    [bracket, bracket] <:+: sanitizeChars text ↔ [bracket, bracket, bracket] <:+: text :=
  (infix_splitAll_iff (by decide) (by decide) h _).trans
    (replicate_infix_map_flattenBreak_iff h 3 text)

/-- A sanitized text holds no line breaks. -/
theorem not_mem_sanitizeChars {c : Char} (h : c = '\r' ∨ c = '\n') (text : List Char) :
    c ∉ sanitizeChars text := by
  intro hmem
  rcases mem_splitAll hmem with rfl | hmap
  · simp at h
  · obtain ⟨original, _, hflat⟩ := List.mem_map.mp hmap
    unfold flattenBreak at hflat
    split at hflat
    · subst hflat
      simp at h
    · rename_i hkeep
      exact hkeep (hflat ▸ h)

/-- What sanitizing achieves: line breaks are gone, and a doubled bracket is left exactly for the
brackets of which the text had three in a row. -/
theorem sanitize_pair_iff_triple (text : String) :
    (∀ bracket ∈ markerBrackets, [bracket, bracket] <:+: (sanitize text).toList ↔
      [bracket, bracket, bracket] <:+: text.toList) ∧
    '\r' ∉ (sanitize text).toList ∧ '\n' ∉ (sanitize text).toList := by
  simp only [sanitize, String.toList_ofList]
  exact ⟨fun bracket h => infix_sanitizeChars_iff h text.toList,
    not_mem_sanitizeChars (.inl rfl) _, not_mem_sanitizeChars (.inr rfl) _⟩

/-- Three brackets in a row leave a marker in the sanitized text. -/
theorem sanitize_three_brackets : ¬ ∀ text : String,
    (∀ bracket ∈ markerBrackets, ¬ [bracket, bracket] <:+: (sanitize text).toList) ∧
    '\r' ∉ (sanitize text).toList ∧ '\n' ∉ (sanitize text).toList := by
  intro h
  have hopen : ['\x7b', '\x7b'] <:+: (sanitize "\x7b\x7b\x7b").toList := by decide +kernel
  exact (h "\x7b\x7b\x7b").1 _ (by decide) hopen

end UpSetProse.Text
