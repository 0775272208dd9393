import Mathlib.Data.List.DropRight
import UpSetProse.Proofs.Text.Plain
import UpSetProse.Proofs.Text.UpperCase

/-!
# What capitals leave as it is

Trimming cuts at the ends only, and capitals are written one character at a time, each from what was
read before it. Neither brings a line break about, the first visible character stays in front, and
sentences that follow each other after a space are capitalized as they are on their own.
-/

namespace UpSetProse.Text

/-! ### Trimming -/

theorem trim_eq (text : List Char) : trim text = (text.dropWhile isBlank).rdropWhile isBlank := rfl

/-- A trimmed text is a part of the text. -/
theorem trim_isInfix (text : List Char) : trim text <:+: text :=
  (List.rdropWhile_prefix isBlank _).isInfix.trans (List.dropWhile_suffix isBlank).isInfix

/-- A visible character at the beginning stays there. -/
theorem head?_trim {text : List Char} {c : Char} (hhead : text.head? = some c)
    (hvisible : isBlank c = false) : (trim text).head? = some c := by
  obtain ⟨rest, rfl⟩ := List.head?_eq_some_iff.mp hhead
  have hstart : (c :: rest).dropWhile isBlank = c :: rest := by
    rw [List.dropWhile_cons, hvisible, if_neg Bool.false_ne_true]
  have hstarts := List.rdropWhile_prefix isBlank (c :: rest)
  rw [trim_eq, hstart]
  cases hrest : (c :: rest).rdropWhile isBlank with
  | nil =>
    have hblank := List.rdropWhile_eq_nil_iff.mp hrest c List.mem_cons_self
    rw [hvisible] at hblank
    cases hblank
  | cons d kept =>
    rw [hrest, List.cons_prefix_cons] at hstarts
    rw [hstarts.1, List.head?_cons]

/-- A text between visible characters is trimmed already. -/
theorem trim_eq_self {text : List Char} {first last : Char} (hhead : text.head? = some first)
    (hfirst : isBlank first = false) (hlast? : text.getLast? = some last)
    (hlast : isBlank last = false) : trim text = text := by
  obtain ⟨rest, rfl⟩ := List.head?_eq_some_iff.mp hhead
  have hstart : (first :: rest).dropWhile isBlank = first :: rest := by
    rw [List.dropWhile_cons, hfirst, if_neg Bool.false_ne_true]
  rw [trim_eq, hstart, List.rdropWhile_eq_self_iff]
  intro hne
  rw [List.getLast?_eq_some_getLast hne, Option.some.injEq] at hlast?
  rw [hlast?, hlast]
  exact Bool.false_ne_true

/-! ### Capitals -/

/-- No upper case brings a line break about. -/
theorem eq_of_mem_upperCase {c d : Char} (h : d ∈ upperCase c) (hbreak : d ∈ breaks) : d = c := by
  rcases upperCase_eq_or_neutral c with heq | ⟨-, hneutral⟩
  · rw [heq, List.mem_singleton] at h
    exact h
  · have hvisible := (hneutral d h).isBlank
    rcases List.mem_pair.mp hbreak with rfl | rfl <;> exact absurd hvisible (by decide)

/-- What is written for a character is that character or its upper case. -/
theorem SentencePlace.mem_write {place : SentencePlace} {c d : Char} (h : d ∈ place.write c) :
    d = c ∨ d ∈ upperCase c := by
  unfold SentencePlace.write at h
  split at h
  · exact .inr h
  · exact .inl (List.mem_singleton.mp h)

theorem Unbroken.capitalizeFrom {text : List Char} (h : Unbroken text) (place : SentencePlace) :
    Unbroken (Text.capitalizeFrom place text) := by
  induction text generalizing place with
  | nil => exact h
  | cons c rest ih =>
    obtain ⟨hc, hrest⟩ := List.forall_mem_cons.mp h
    refine unbroken_append.mpr ⟨fun d hd hbreak => ?_, ih hrest (place.next c)⟩
    rcases SentencePlace.mem_write hd with rfl | hupper
    · exact hc hbreak
    · exact hc (eq_of_mem_upperCase hupper hbreak ▸ hbreak)

/-- Capitals bring no line breaks about. -/
theorem Unbroken.capitalizeSentences {text : List Char} (h : Unbroken text) :
    Unbroken (Text.capitalizeSentences text) :=
  Unbroken.capitalizeFrom (fun c hc => h c ((trim_isInfix text).subset hc)) .start

/-- A visible character at the beginning is written as the first letter of a sentence. -/
theorem write_prefix_capitalizeSentences {text : List Char} {c : Char}
    (hhead : text.head? = some c) (hvisible : isBlank c = false) :
    SentencePlace.start.write c <+: capitalizeSentences text := by
  obtain ⟨rest, htrim⟩ := List.head?_eq_some_iff.mp (head?_trim hhead hvisible)
  rw [capitalizeSentences, htrim]
  exact List.prefix_append _ _

/-- Capitals go on from where the text before leaves off. -/
theorem capitalizeFrom_append (place : SentencePlace) (left right : List Char) :
    capitalizeFrom place (left ++ right) =
      capitalizeFrom place left ++ capitalizeFrom (left.foldl SentencePlace.next place) right := by
  induction left generalizing place with
  | nil => rfl
  | cons c left ih =>
    rw [List.cons_append, capitalizeFrom, ih, ← List.append_assoc]
    rfl

/-- Visible text is capitalized after the end of a sentence as it is at the beginning. -/
theorem capitalizeFrom_opened {text : List Char} {c : Char} (hhead : text.head? = some c)
    (hvisible : isBlank c = false) : capitalizeFrom .opened text = capitalizeFrom .start text := by
  obtain ⟨rest, rfl⟩ := List.head?_eq_some_iff.mp hhead
  have hnext : SentencePlace.opened.next c = SentencePlace.start.next c := by
    simp only [SentencePlace.next, hvisible, Bool.false_eq_true, if_false]
  rw [capitalizeFrom, capitalizeFrom, hnext]
  rfl

/-! ### Whole sentences -/

/-- A text of whole sentences begins with a visible character and ends with a full stop. -/
structure Sentences (text : List Char) : Prop where
  opens : ∃ c, text.head? = some c ∧ isBlank c = false
  closes : text.getLast? = some '.'

namespace Sentences

variable {left right : List Char}

theorem trim_eq (h : Sentences left) : trim left = left := by
  obtain ⟨c, hhead, hvisible⟩ := h.opens
  exact trim_eq_self hhead hvisible h.closes (by decide)

/-- Whole sentences can follow each other after a space. -/
theorem append_space (hleft : Sentences left) (hright : Sentences right) :
    Sentences (left ++ ' ' :: right) := by
  obtain ⟨c, hhead, hvisible⟩ := hleft.opens
  refine ⟨⟨c, ?_, hvisible⟩, ?_⟩
  · rw [List.head?_append, hhead, Option.some_or]
  · rw [List.getLast?_append_cons, List.getLast?_cons, hright.closes, Option.getD_some]

/-- Behind whole sentences and a space, a new sentence begins. -/
theorem foldl_next (h : Sentences left) (place : SentencePlace) :
    (left ++ [' ']).foldl SentencePlace.next place = .opened := by
  obtain ⟨before, rfl⟩ := List.getLast?_eq_some_iff.mp h.closes
  simp only [List.foldl_append, List.foldl_cons, List.foldl_nil]
  -- Whatever place the full stop is read in, it is left behind.
  generalize before.foldl SentencePlace.next place = place
  cases place <;> decide

/-- Whole sentences are capitalized one after the other as they are on their own. -/
theorem capitalizeSentences_append_space (hleft : Sentences left) (hright : Sentences right) :
    capitalizeSentences (left ++ ' ' :: right) =
      capitalizeSentences left ++ ' ' :: capitalizeSentences right := by
  obtain ⟨c, hhead, hvisible⟩ := hright.opens
  have hspace (place : SentencePlace) : capitalizeFrom place [' '] = [' '] := by
    cases place <;> decide
  rw [capitalizeSentences, capitalizeSentences, capitalizeSentences, hleft.trim_eq, hright.trim_eq,
    (hleft.append_space hright).trim_eq, List.append_cons, capitalizeFrom_append, hleft.foldl_next,
    capitalizeFrom_opened hhead hvisible, capitalizeFrom_append, hspace, ← List.append_cons]

end Sentences
end UpSetProse.Text
