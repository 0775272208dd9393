import UpSetProse.Proofs.Text.SentenceStart

/-!
# Capitalizing a capitalized text

What is written for a lower-case letter at the start of a sentence is the letter again or consists
of neutral characters. Reading either of them leads to the same place as the letter has led to, and
writes it as it is. Since no white space comes about at the ends of a trimmed text, there is nothing
left to trim either.
-/

namespace UpSetProse.Text

namespace SentencePlace

variable {c : Char}

theorem foldl_next_of_neutral {text : List Char} (hne : text ≠ []) (h : ∀ c ∈ text, Neutral c)
    (place : SentencePlace) : text.foldl next place = inside := by
  induction text generalizing place with
  | nil => exact absurd rfl hne
  | cons c rest ih =>
    obtain ⟨hc, hrest⟩ := List.forall_mem_cons.mp h
    rw [List.foldl_cons, next_of_others hc.isStop hc.isBlank]
    cases rest with
    | nil => rfl
    | cons d rest => exact ih (List.cons_ne_nil d rest) hrest inside

/-- A character is written as it is, or it is a letter for which neutral characters are written. -/
theorem write_eq_or_neutral (place : SentencePlace) (c : Char) :
    place.write c = [c] ∨
      isLowerLetter c = true ∧ place.write c ≠ [] ∧ ∀ d ∈ place.write c, Neutral d := by
  rw [write]
  split
  · rename_i hletter
    rw [Bool.and_eq_true] at hletter
    rcases upperCase_eq_or_neutral c with heq | hneutral
    · exact .inl heq
    · exact .inr ⟨hletter.2, hneutral⟩
  · exact .inl rfl

/-- A visible character is written as visible characters. -/
theorem write_visible (h : isBlank c = false) (place : SentencePlace) :
    place.write c ≠ [] ∧ ∀ d ∈ place.write c, isBlank d = false := by
  rcases place.write_eq_or_neutral c with heq | ⟨-, hne, hneutral⟩
  · rw [heq]
    exact ⟨List.cons_ne_nil c [], List.forall_mem_singleton.mpr h⟩
  · exact ⟨hne, fun d hd => (hneutral d hd).isBlank⟩

end SentencePlace

/-! ### Reading what has been written -/

/-- What is written for a character stays when it is read in its place, and the text behind it is
read as behind the character. -/
theorem capitalizeFrom_write_append (place : SentencePlace) (c : Char) (rest : List Char) :
    capitalizeFrom place (place.write c ++ rest) =
      place.write c ++ capitalizeFrom (place.next c) rest := by
  rcases place.write_eq_or_neutral c with heq | ⟨hletter, hne, hneutral⟩
  · rw [heq, List.singleton_append, capitalizeFrom, heq]
  · rw [capitalizeFrom_append, SentencePlace.foldl_next_of_neutral hne hneutral,
      capitalizeFrom_of_forall fun d hd => (hneutral d hd).isLowerLetter,
      SentencePlace.next_of_isLowerLetter hletter]

theorem capitalizeFrom_capitalizeFrom (place : SentencePlace) (text : List Char) :
    capitalizeFrom place (capitalizeFrom place text) = capitalizeFrom place text := by
  induction text generalizing place with
  | nil => rfl
  | cons c rest ih => rw [capitalizeFrom, capitalizeFrom_write_append, ih]

/-! ### The ends of a text -/

/-- A text without white space at its ends. -/
structure Trimmed (text : List Char) : Prop where
  first : ∀ c, text.head? = some c → isBlank c = false
  last : ∀ c, text.getLast? = some c → isBlank c = false

theorem trimmed_trim (text : List Char) : Trimmed (trim text) := by
  rw [trim_eq]
  constructor
  · intro c hc
    obtain ⟨rest, hrest⟩ := List.head?_eq_some_iff.mp hc
    obtain ⟨_, hkept⟩ := List.rdropWhile_prefix isBlank (text.dropWhile isBlank)
    have hfirst := List.head?_dropWhile_not isBlank text
    rw [← hkept, hrest] at hfirst
    exact hfirst
  · intro c hc
    have hne := List.ne_nil_of_mem (List.mem_of_getLast? hc)
    rw [List.getLast?_eq_some_getLast hne, Option.some.injEq] at hc
    rw [← hc]
    exact Bool.eq_false_iff.mpr (List.rdropWhile_last_not isBlank _ hne)

namespace Trimmed

variable {text : List Char}

theorem trim_eq (h : Trimmed text) : trim text = text := by
  cases text with
  | nil => rfl
  | cons c rest =>
    have hlast := List.getLast?_eq_some_getLast (List.cons_ne_nil c rest)
    exact trim_eq_self rfl (h.first c rfl) hlast (h.last _ hlast)

/-- Capitals bring no white space to the ends of a text. -/
theorem capitalizeFrom (h : Trimmed text) (place : SentencePlace) :
    Trimmed (Text.capitalizeFrom place text) := by
  constructor
  · intro d hd
    cases text with
    | nil => cases hd
    | cons c rest =>
      obtain ⟨hne, hvisible⟩ := place.write_visible (h.first c rfl)
      rw [Text.capitalizeFrom, List.head?_append_of_ne_nil _ hne] at hd
      exact hvisible d (List.mem_of_head? hd)
  · intro d hd
    cases text using List.reverseRecOn with
    | nil => cases hd
    | append_singleton front c =>
      rw [capitalizeFrom_append, Text.capitalizeFrom, Text.capitalizeFrom, List.append_nil] at hd
      obtain ⟨hne, hvisible⟩ :=
        SentencePlace.write_visible (h.last c List.getLast?_concat) (front.foldl _ place)
      rw [List.getLast?_append_of_ne_nil _ hne] at hd
      exact hvisible d (List.mem_of_getLast? hd)

end Trimmed

/-- Capitals are set once and for all, and no white space is at the ends then. -/
theorem capitalizeSentences_settled (text : List Char) :
    capitalizeSentences (capitalizeSentences text) = capitalizeSentences text ∧
      Trimmed (capitalizeSentences text) := by
  have htrimmed : Trimmed (capitalizeSentences text) := (trimmed_trim text).capitalizeFrom .start
  refine ⟨?_, htrimmed⟩
  calc capitalizeSentences (capitalizeSentences text)
      = capitalizeFrom .start (capitalizeSentences text) := by
        rw [capitalizeSentences, htrimmed.trim_eq]
    _ = capitalizeSentences text := capitalizeFrom_capitalizeFrom .start (trim text)

end UpSetProse.Text
