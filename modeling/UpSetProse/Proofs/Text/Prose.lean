import UpSetProse.Proofs.Text.Numeral
import UpSetProse.Text.Prose

/-!
# Enumerations of counts

A counted noun begins with a digit, and so does an enumeration of such clauses. It is thereby told
apart from any sentence that begins with a word.
-/

namespace UpSetProse.Text

/-- The first character is a decimal digit. -/
def LeadsWithDigit (text : String) : Prop := ∃ c, text.toList.head? = some c ∧ isDigit c = true

/-- A number is written with a digit first. -/
theorem leadsWithDigit_toString (n : Nat) : LeadsWithDigit (toString n) := by
  rw [Nat.toString_eq_repr, LeadsWithDigit, Nat.toList_repr]
  cases hdigits : Nat.toDigits 10 n with
  | nil => exact absurd hdigits Nat.toDigits_ne_nil
  | cons c rest =>
    refine ⟨c, rfl, isDigit_of_mem_toDigits (n := n) ?_⟩
    rw [hdigits]
    exact List.mem_cons_self

namespace LeadsWithDigit

variable {text : String}

/-- What is written behind a text does not change how it begins. -/
theorem append (h : LeadsWithDigit text) (tail : String) : LeadsWithDigit (text ++ tail) := by
  obtain ⟨c, hc, hdigit⟩ := h
  refine ⟨c, ?_, hdigit⟩
  rw [String.toList_append, List.head?_append, hc]
  rfl

theorem countNoun (count : Nat) (singular plural : String) :
    LeadsWithDigit (countNoun count singular plural) :=
  ((leadsWithDigit_toString count).append _).append _

theorem joinAfter (h : LeadsWithDigit text) (items : List String) :
    LeadsWithDigit (joinAfter text items) := by
  rcases items with _ | ⟨last, _ | ⟨next, rest⟩⟩
  · exact h
  · exact (h.append _).append _
  · exact (h.append _).append _

/-- An enumeration begins with its first item. -/
theorem joinList {items : List String} (hnil : items ≠ [])
    (h : ∀ item ∈ items, LeadsWithDigit item) : LeadsWithDigit (joinList items) := by
  cases items with
  | nil => exact absurd rfl hnil
  | cons first rest => exact (h first List.mem_cons_self).joinAfter rest

/-- Such a text differs from one that begins otherwise. -/
theorem ne_of_head? (h : LeadsWithDigit text) {other : String} {c : Char}
    (hother : other.toList.head? = some c) (hc : isDigit c = false) : text ≠ other := by
  rintro rfl
  obtain ⟨d, hd, hdigit⟩ := h
  obtain rfl := Option.some.inj (hother.symm.trans hd)
  cases hc.symm.trans hdigit

end LeadsWithDigit
end UpSetProse.Text
