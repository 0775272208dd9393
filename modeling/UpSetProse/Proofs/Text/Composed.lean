import UpSetProse.Proofs.Text.Plain
import UpSetProse.Proofs.Text.Sanitized

/-!
# Texts composed of wording and quotations

Every text that is said about a plot consists of plain wording and of sanitized texts which the
wording sets apart. What sanitizing achieves for a single text thereby holds for the whole.
-/

namespace UpSetProse.Text

/-- A pair in two texts lies in one of them or is where they meet. -/
theorem pair_infix_append_iff {c : Char} {left right : List Char} :
    [c, c] <:+: left ++ right ↔
      [c, c] <:+: left ∨ [c, c] <:+: right ∨ [c] <:+ left ∧ [c] <+: right := by
  rw [List.infix_append_iff_ne_nil]
  refine or_congr_right (or_congr_right ⟨?_, fun h => ⟨[c], [c], by simp, by simp, rfl, h⟩⟩)
  rintro ⟨first, second, hfirst, hsecond, heq, hend, hstart⟩
  match first, second with
  | [_], [_] =>
    simp only [List.cons_append, List.nil_append, List.cons.injEq, and_true] at heq
    rw [← heq.1] at hend
    rw [← heq.2] at hstart
    exact ⟨hend, hstart⟩
  | _ :: _ :: _, _ :: _ => simp at heq
  | [_], _ :: _ :: _ => simp at heq

/-- The last character behind a text that is not empty belongs to that text. -/
theorem mem_of_singleton_suffix {c : Char} {left right : List Char} (hne : right ≠ [])
    (h : [c] <:+ left ++ right) : c ∈ right := by
  rw [List.singleton_suffix_iff_getLast?_eq_some, List.getLast?_append_of_ne_nil _ hne] at h
  exact List.mem_of_getLast? h

/-- A pair lies on one side of a text that separates. -/
theorem pair_infix_separated {c : Char} {left separator right : List Char}
    (hseparator : c ∉ separator) (hne : separator ≠ [])
    (h : [c, c] <:+: left ++ separator ++ right) :
    [c, c] <:+: left ∨ [c, c] <:+: right := by
  rcases pair_infix_append_iff.mp h with h | h | ⟨hend, _⟩
  · rcases pair_infix_append_iff.mp h with h | h | ⟨_, hstart⟩
    · exact .inl h
    · exact absurd (h.subset List.mem_cons_self) hseparator
    · exact absurd (hstart.subset List.mem_cons_self) hseparator
  · exact .inr h
  · exact absurd (mem_of_singleton_suffix hne hend) hseparator

/-- A text without the bracket is spaced. -/
theorem spaced_of_not_mem {bracket : Char} {text : List Char} (h : bracket ∉ text) :
    Spaced bracket text :=
  ⟨fun hstart => absurd (hstart.subset List.mem_cons_self) h,
    fun hfound => absurd (hfound.subset (by simp)) h⟩

/-- Texts that do not meet in a bracket are spaced together if each of them is. -/
theorem Spaced.append {bracket : Char} {left right : List Char} (hleft : Spaced bracket left)
    (hright : Spaced bracket right) (hmeet : [bracket] <:+ left → ¬ [bracket] <+: right) :
    Spaced bracket (left ++ right) := by
  constructor
  · intro hstart
    match left with
    | [] => exact hright.start hstart
    | [a] =>
      rw [List.singleton_append, List.cons_prefix_cons] at hstart
      exact hmeet (hstart.1 ▸ List.suffix_rfl) hstart.2
    | a :: b :: left =>
      refine hleft.start ?_
      simpa [List.cons_prefix_cons] using hstart
  · intro c hfound
    rcases List.infix_append_iff_ne_nil.mp hfound with h | h | h
    · exact hleft.inside h
    · exact hright.inside h
    · obtain ⟨first, second, hfirst, hsecond, heq, hend, hstart⟩ := h
      match first, second with
      | [_], [_, _] =>
        simp only [List.cons_append, List.nil_append, List.cons.injEq, and_true] at heq
        rw [← heq.2.1, ← heq.2.2] at hstart
        exact absurd hstart hright.start
      | [_, _], [_] =>
        simp only [List.cons_append, List.nil_append, List.cons.injEq, and_true] at heq
        rw [← heq.1, ← heq.2.1] at hend
        rw [← heq.2.2] at hstart
        exact absurd hstart (hmeet ((List.suffix_cons c [bracket]).trans hend))
      | _ :: _ :: _ :: _, _ :: _ => simp at heq
      | [_, _], _ :: _ :: _ => simp at heq
      | [_], [_] => simp at heq
      | [_], _ :: _ :: _ :: _ => simp at heq

/-- A sanitized text is without line breaks. -/
theorem unbroken_sanitizeChars (text : List Char) : Unbroken (sanitizeChars text) :=
  fun _ hc hbreak => not_mem_sanitizeChars (List.mem_pair.mp hbreak) text hc

/-- A text made up of plain wording and of sanitized texts set apart by it. -/
inductive Composed (texts : List String) : String → Prop where
  | plain {text : String} (h : Plain text) : Composed texts text
  | sanitized {text : String} (h : text ∈ texts) : Composed texts (sanitize text)
  | again {text : String} : Composed texts text → Composed texts (sanitize text)
  | append {left separator right : String} (hseparator : Plain separator) (hne : separator ≠ "") :
    Composed texts left → Composed texts right → Composed texts (left ++ separator ++ right)

namespace Composed

variable {texts : List String}

/-- More texts may be quoted than are. -/
theorem mono {others : List String} {text : String} (h : Composed texts text)
    (hsubset : texts ⊆ others) : Composed others text := by
  induction h with
  | plain hplain => exact .plain hplain
  | sanitized hmem => exact .sanitized (hsubset hmem)
  | again _ ih => exact ih.again
  | append hseparator hne _ _ ihleft ihright => exact .append hseparator hne ihleft ihright

/-- Wording can be put in front. -/
theorem after {before text : String} (hbefore : Plain before) (h : Composed texts text) :
    Composed texts (before ++ text) := by
  by_cases hne : before = ""
  · rwa [hne, String.empty_append]
  · have hempty : Composed texts "" := .plain (by decide)
    have happend := append hbefore hne hempty h
    rwa [String.empty_append] at happend

/-- Wording can be put behind. -/
theorem before {text after : String} (hafter : Plain after) (h : Composed texts text) :
    Composed texts (text ++ after) := by
  by_cases hne : after = ""
  · rwa [hne, String.append_empty]
  · have hempty : Composed texts "" := .plain (by decide)
    have happend := append hafter hne h hempty
    rwa [String.append_empty] at happend

theorem joinAfter {first : String} {rest : List String} (hfirst : Composed texts first)
    (hrest : ∀ item ∈ rest, Composed texts item) : Composed texts (Text.joinAfter first rest) := by
  fun_induction Text.joinAfter first rest with
  | case1 first => exact hfirst
  | case2 first last => exact append (by decide) (by decide) hfirst (hrest last (by simp))
  | case3 first second rest hlong ih =>
    refine append (by decide) (by decide) hfirst (ih (hrest second (by simp)) ?_)
    exact fun item hitem => hrest item (List.mem_cons_of_mem second hitem)

/-- A list of composed items is composed. -/
theorem joinList {items : List String} (h : ∀ item ∈ items, Composed texts item) :
    Composed texts (Text.joinList items) := by
  cases items with
  | nil => exact .plain (by decide)
  | cons first rest =>
    exact joinAfter (h first List.mem_cons_self) fun item hitem =>
      h item (List.mem_cons_of_mem first hitem)

/-- A composed text is without line breaks. -/
theorem unbroken {text : String} (h : Composed texts text) : Unbroken text.toList := by
  induction h with
  | plain hplain => exact hplain.unbroken
  | sanitized | again =>
    rw [sanitize, String.toList_ofList]
    exact unbroken_sanitizeChars _
  | append hseparator _ _ _ ihleft ihright =>
    rw [String.toList_append, String.toList_append, unbroken_append, unbroken_append]
    exact ⟨⟨ihleft, hseparator.unbroken⟩, ihright⟩

/-- Every kind of bracket is spaced in a composed text. -/
theorem spaced {bracket : Char} (hbracket : bracket ∈ markerBrackets) {text : String}
    (h : Composed texts text) : Spaced bracket text.toList := by
  induction h with
  | plain hplain => exact spaced_of_not_mem (hplain.not_mem_bracket hbracket)
  | sanitized | again =>
    rw [sanitize, String.toList_ofList]
    exact spaced_sanitizeChars hbracket _
  | @append left separator right hseparator hne _ _ ihleft ihright =>
    have hfree := hseparator.not_mem_bracket hbracket
    rw [String.toList_append, String.toList_append]
    refine (ihleft.append (spaced_of_not_mem hfree) fun _ hstart => ?_).append ihright
      fun hend _ => hfree (mem_of_singleton_suffix (mt String.toList_eq_nil_iff.mp hne) hend)
    exact hfree (hstart.subset List.mem_cons_self)

/-- A composed text holds no doubled bracket if the texts hold none three times in a row. -/
theorem free_of_pair {bracket : Char} (hbracket : bracket ∈ markerBrackets)
    (htexts : ∀ text ∈ texts, ¬ [bracket, bracket, bracket] <:+: text.toList) {text : String}
    (h : Composed texts text) : ¬ [bracket, bracket] <:+: text.toList := by
  induction h with
  | plain hplain =>
    exact fun hfound => hplain.not_mem_bracket hbracket (hfound.subset List.mem_cons_self)
  | sanitized hmem =>
    rw [sanitize, String.toList_ofList, infix_sanitizeChars_iff hbracket]
    exact htexts _ hmem
  | again _ ih =>
    rw [sanitize, String.toList_ofList, infix_sanitizeChars_iff hbracket]
    exact fun hfound => ih ((List.prefix_append [bracket, bracket] [bracket]).isInfix.trans hfound)
  | append hseparator hne _ _ ihleft ihright =>
    rw [String.toList_append, String.toList_append]
    intro hfound
    have hne' := mt String.toList_eq_nil_iff.mp hne
    rcases pair_infix_separated (hseparator.not_mem_bracket hbracket) hne' hfound with h | h
    · exact ihleft h
    · exact ihright h

end Composed
end UpSetProse.Text
