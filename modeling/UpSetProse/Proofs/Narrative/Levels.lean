import UpSetProse.Proofs.Narrative.Filling
import UpSetProse.Proofs.Text.Sentence

/-!
# Levels one after the other

Unfolding and filling work piece by piece, so the filling of a template in several parts is that of
its parts in a row. Each level consists of whole sentences, which are trimmed and capitalized on
their own as they are together. What is said on all levels is therefore what is said on each of
them, with spaces between.
-/

namespace UpSetProse

open Text

namespace Narrator

variable {n : Narrator} {plot : Plot} {presentation : Presentation}

theorem filling_append (n : Narrator) (first second : Phrase) :
    n.filling (first ++ second) = n.filling first ++ n.filling second := by
  rw [filling, Phrase.iterate_unfold_append, Phrase.fill_append, ← filling, ← filling]

/-- A template that is one part after another with a space between is filled in as its parts. -/
theorem toList_filling_append_space (n : Narrator) (first second : Phrase) :
    (n.filling (first ++ Phrase.space ++ second)).toList =
      (n.filling first).toList ++ ' ' :: (n.filling second).toList := by
  have hspace : n.filling Phrase.space = " " := rfl
  rw [filling_append, filling_append, hspace, String.toList_append, String.toList_append,
    List.append_assoc]
  rfl

/-- Whole sentences after whole sentences are the same prose as they are on their own. -/
theorem prose_append_space {first second : Phrase} (hfirst : Sentences (n.filling first).toList)
    (hsecond : Sentences (n.filling second).toList) :
    n.prose (first ++ Phrase.space ++ second) = n.prose first ++ " " ++ n.prose second := by
  have hspace : String.ofList [' '] = " " := rfl
  rw [prose, toList_filling_append_space, hfirst.capitalizeSentences_append_space hsecond,
    List.append_cons, String.ofList_append, String.ofList_append, hspace, ← prose, ← prose]

/-- The first level and the explanation before it are whole sentences. -/
theorem sentences_levelOne (n : Narrator) (explain : Explanation) (verbosity : Verbosity) :
    Sentences (n.filling (Template.explanation explain ++ Template.levelOne verbosity)).toList := by
  refine ⟨⟨'t', Phrase.head?_fill n.tokens ?_, by decide⟩, Phrase.getLast?_fill n.tokens ?_⟩
  · cases explain <;> cases verbosity <;> decide +kernel
  · cases explain <;> cases verbosity <;> decide +kernel

/-- The second level is whole sentences if the intersection that it begins with, when the rows are
sorted by deviation, has a visible name. -/
theorem sentences_levelTwo (n : Narrator) {sortBy : SortKey} (verbosity : Verbosity)
    (h : sortBy = .deviation → ∃ c,
      (n.tokens.resolve Token.maxDeviationMembership.name).toList.head? = some c ∧
      isBlank c = false) :
    Sentences (n.filling (Template.levelTwo sortBy verbosity)).toList := by
  constructor
  · cases sortBy with
    | size =>
      refine ⟨'t', Phrase.head?_fill n.tokens ?_, by decide⟩
      cases verbosity <;> decide +kernel
    | degree =>
      refine ⟨'t', Phrase.head?_fill n.tokens ?_, by decide⟩
      cases verbosity <;> decide +kernel
    | deviation =>
      have hfirst : (Phrase.unfold^[3] (Template.levelTwo .deviation verbosity)).head? =
          some (.token .maxDeviationMembership) := by
        cases verbosity <;> decide +kernel
      obtain ⟨rest, hrest⟩ := List.head?_eq_some_iff.mp hfirst
      obtain ⟨c, hhead, hvisible⟩ := h rfl
      refine ⟨c, ?_, hvisible⟩
      rw [filling, hrest, Phrase.fill_cons, String.toList_append, List.head?_append]
      exact Option.or_eq_some_iff.mpr (.inl hhead)
  · refine Phrase.getLast?_fill n.tokens ?_
    cases sortBy <;> cases verbosity <;> decide +kernel

/-- The trends are whole sentences. -/
theorem sentences_trends (n : Narrator) (verbosity : Verbosity) :
    Sentences (n.filling (Template.trends verbosity)).toList := by
  refine ⟨⟨'a', Phrase.head?_fill n.tokens ?_, by decide⟩, Phrase.getLast?_fill n.tokens ?_⟩
  · cases verbosity <;> decide +kernel
  · cases verbosity <;> decide +kernel

/-- The narrator when it is asked for a level and an explanation. -/
def asked (n : Narrator) (level : Level) (explain : Explanation) : Narrator :=
  { n with options := { n.options with level, explain } }

/-- The template for all levels is that for the first, that for the second and the trends. -/
theorem template_combined (n : Narrator) (explain : Explanation) :
    (n.asked .combined explain).template =
      (n.asked .one explain).template ++ Phrase.space ++
        ((n.asked .two .none).template ++ Phrase.space ++
          Template.trends n.options.verbosity) := by
  simp only [template, List.append_assoc]
  rfl

/-- All levels are the same prose together as they are on their own. -/
theorem prose_combined (n : Narrator) (explain : Explanation)
    (h : n.tokens.analysis.presentation.sortBy = .deviation → ∃ c,
      (n.tokens.resolve Token.maxDeviationMembership.name).toList.head? = some c ∧
      isBlank c = false) :
    n.prose (n.asked .combined explain).template =
      n.prose (n.asked .one explain).template ++ " " ++ n.prose (n.asked .two .none).template ++
        " " ++ n.prose (Template.trends n.options.verbosity) := by
  have hone : Sentences (n.filling (n.asked .one explain).template).toList :=
    n.sentences_levelOne explain n.options.verbosity
  have htwo : Sentences (n.filling (n.asked .two .none).template).toList :=
    n.sentences_levelTwo n.options.verbosity h
  have htrends := n.sentences_trends n.options.verbosity
  have hrest := htwo.append_space htrends
  rw [← toList_filling_append_space] at hrest
  rw [template_combined, prose_append_space hone hrest, prose_append_space htwo htrends,
    ← String.append_assoc, ← String.append_assoc]

/-- What is said on all levels is what is said on the first, on the second without an explanation,
and about the trends, with spaces between. -/
theorem text_combined (hphrases : n.phrases = .standard)
    (htokens : TokenMap.standard plot presentation = .ok n.tokens)
    (htexts : ∀ text ∈ plot.texts ++ presentation.texts,
      ¬ ['\x7b', '\x7b', '\x7b'] <:+: text.toList)
    (hdeviation : presentation.sortBy = .deviation → ∃ c,
      (n.tokens.resolve Token.maxDeviationMembership.name).toList.head? = some c ∧
      isBlank c = false) (explain : Explanation) :
    ∃ one two trends : String,
      (n.asked .one explain).text = .ok one ∧ (n.asked .two .none).text = .ok two ∧
      n.expand (Template.trends n.options.verbosity) = .ok trends ∧
      (n.asked .combined explain).text = .ok (one ++ " " ++ two ++ " " ++ trends) := by
  obtain ⟨-, rfl, -⟩ := TokenMap.standard_eq_ok htokens
  have htext (level : Level) (explain : Explanation) :
      (n.asked level explain).text = .ok (n.prose (n.asked level explain).template) :=
    expand_of_untripled hphrases htokens htexts (n.asked level explain).separated_template
  have htrends := expand_of_untripled hphrases htokens htexts
    (Template.separated_trends n.options.verbosity)
  refine ⟨_, _, _, htext .one explain, htext .two .none, htrends, ?_⟩
  rw [htext, prose_combined n explain hdeviation]

end Narrator

/-- A presentation whose rows are sorted by deviation. -/
def Presentation.deviating : Presentation := { Presentation.bracketed with sortBy := .deviation }

theorem TokenMap.exists_standard_deviating :
    ∃ tokens, TokenMap.standard .bracketed .deviating = .ok tokens ∧
      (tokens.resolve Token.maxDeviationMembership.name).toList.head? = some '\x7b' := by
  have hresolve : (TokenMap.standard .bracketed .deviating).toOption.map (fun tokens =>
      (tokens.resolve Token.maxDeviationMembership.name).toList.head?) = some (some '\x7b') := by
    decide +kernel
  obtain ⟨tokens, htokens, hhead⟩ := Option.map_eq_some_iff.mp hresolve
  refine ⟨tokens, ?_, hhead⟩
  cases hstandard : TokenMap.standard .bracketed .deviating with
  | ok map =>
    rw [hstandard] at htokens
    exact congrArg Except.ok (Option.some.inj htokens)
  | error e =>
    rw [hstandard] at htokens
    cases htokens

theorem Narrator.text_combined_deviating :
    ∃ n : Narrator, n.phrases = .standard ∧
      TokenMap.standard .bracketed .deviating = .ok n.tokens ∧
      ∃ one two trends : String,
        (n.asked .one .full).text = .ok one ∧ (n.asked .two .none).text = .ok two ∧
        n.expand (Template.trends n.options.verbosity) = .ok trends ∧
        (n.asked .combined .full).text = .ok (one ++ " " ++ two ++ " " ++ trends) := by
  obtain ⟨tokens, htokens, hhead⟩ := TokenMap.exists_standard_deviating
  have htexts : ∀ text ∈ Plot.bracketed.texts ++ Presentation.deviating.texts,
      ¬ ['\x7b', '\x7b', '\x7b'] <:+: text.toList := by decide +kernel
  have hvisible : ∃ c, (tokens.resolve Token.maxDeviationMembership.name).toList.head? = some c ∧
      isBlank c = false := ⟨'\x7b', hhead, by decide⟩
  exact ⟨⟨default, tokens, .standard⟩, rfl, htokens, Narrator.text_combined
    (n := ⟨default, tokens, .standard⟩) rfl htokens htexts (fun _ => hvisible) .full⟩

end UpSetProse
