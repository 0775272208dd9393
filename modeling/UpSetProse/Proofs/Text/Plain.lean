import UpSetProse.Text.Prose

/-!
# Plain texts

A text without any bracket and without line breaks is plain. Numerals are, digit by digit, and so is
whatever is put together from plain texts.
-/

namespace UpSetProse

namespace Text

/-- The characters that break lines. -/
def breaks : List Char := ['\r', '\n']

/-- A text without line breaks. -/
def Unbroken (text : List Char) : Prop := ∀ c ∈ text, c ∉ breaks

instance (text : List Char) : Decidable (Unbroken text) := List.decidableBAll _ text

/-- Texts are without line breaks together exactly if each of them is. -/
@[simp] theorem unbroken_append {left right : List Char} :
    Unbroken (left ++ right) ↔ Unbroken left ∧ Unbroken right :=
  List.forall_mem_append

/-- The brackets that mark symbols, and the characters that break lines. -/
def reservedChars : List Char := markerBrackets ++ breaks

/-- A text without any of the brackets that mark symbols and without line breaks. -/
def Plain (text : String) : Prop := ∀ c ∈ reservedChars, c ∉ text.toList

instance (text : String) : Decidable (Plain text) := List.decidableBAll _ reservedChars

/-- Characters none of which is reserved. -/
def Unreserved (chars : List Char) : Prop := ∀ c ∈ chars, c ∉ reservedChars

instance (chars : List Char) : Decidable (Unreserved chars) := List.decidableBAll _ chars

theorem Plain.not_mem_bracket {text : String} (h : Plain text) {bracket : Char}
    (hbracket : bracket ∈ markerBrackets) : bracket ∉ text.toList :=
  h bracket (List.mem_append_left _ hbracket)

theorem Plain.unbroken {text : String} (h : Plain text) : Unbroken text.toList :=
  fun c hc hbreak => h c (List.mem_append_right _ hbreak) hc

/-- Texts are plain together exactly if each of them is. -/
@[simp] theorem plain_append {left right : String} :
    Plain (left ++ right) ↔ Plain left ∧ Plain right := by
  simp only [Plain, String.toList_append, List.mem_append, not_or]
  exact ⟨fun h => ⟨fun c hc => (h c hc).1, fun c hc => (h c hc).2⟩,
    fun h c hc => ⟨h.1 c hc, h.2 c hc⟩⟩

theorem Plain.append {left right : String} (hl : Plain left) (hr : Plain right) :
    Plain (left ++ right) :=
  plain_append.mpr ⟨hl, hr⟩

/-- A text is plain if it is spelled without reserved characters. -/
theorem plain_ofList {chars : List Char} (h : Unreserved chars) :
    Plain (String.ofList chars) := by
  intro c hc hmem
  rw [String.toList_ofList] at hmem
  exact h c hmem hc

/-- A digit is not reserved. -/
theorem not_mem_reservedChars_of_isDigit {c : Char} (h : c.isDigit) : c ∉ reservedChars := by
  intro hmem
  simp only [reservedChars, markerBrackets, breaks, List.mem_append, List.mem_cons,
    List.not_mem_nil, or_false] at hmem
  rcases hmem with (rfl | rfl | rfl | rfl) | rfl | rfl <;> cases h

theorem plain_toString_nat (n : Nat) : Plain (toString n) := by
  intro c hc hmem
  rw [Nat.toString_eq_repr, Nat.toList_repr] at hmem
  exact not_mem_reservedChars_of_isDigit
    (Nat.isDigit_of_mem_toDigits (by decide) (by decide) hmem) hc

theorem plain_toString_int (n : Int) : Plain (toString n) := by
  rw [Int.toString_eq_repr, Int.repr_eq_if]
  split
  · exact plain_toString_nat n.toNat
  · exact .append (by decide) (plain_toString_nat (-n).toNat)

end Text

open Text

/-- A numeral that is written out consists of digits and at most a point. -/
theorem Decimal.plain_positional (d : Decimal) : Plain (String.ofList d.positional) := by
  have hzeros (places : Nat) : ∀ c ∈ List.replicate places '0', c.isDigit := by
    intro c hc
    rw [List.eq_of_mem_replicate hc]
    decide
  have hwritten : ∀ c ∈ Nat.toDigits 10 d.digits, c.isDigit := fun c hc =>
    Nat.isDigit_of_mem_toDigits (by decide) (by decide) hc
  have hpadded (places : Nat) : ∀ c ∈ List.replicate places '0' ++ Nat.toDigits 10 d.digits,
      c.isDigit := fun c hc => (List.mem_append.mp hc).elim (hzeros places c) (hwritten c)
  refine plain_ofList fun c hc => ?_
  unfold positional at hc
  split at hc
  · refine not_mem_reservedChars_of_isDigit ?_
    exact (List.mem_append.mp hc).elim (hwritten c) (hzeros _ c)
  · rcases List.mem_append.mp hc with hc | hc
    · exact not_mem_reservedChars_of_isDigit (hpadded _ c (List.mem_of_mem_take hc))
    · rcases List.mem_cons.mp hc with rfl | hc
      · decide
      · exact not_mem_reservedChars_of_isDigit (hpadded _ c (List.mem_of_mem_drop hc))

namespace Double

theorem plain_signText (negative : Bool) : Plain (signText negative) := by
  cases negative <;> decide

/-- A number is written without brackets. -/
theorem plain_toText (x : Double) : Plain x.toText := by
  cases x with
  | nan => decide
  | infinity negative => exact (plain_signText negative).append (by decide)
  | finite negative units _ =>
    refine (plain_signText negative).append ?_
    split
    · decide
    · exact (Decimal.shortest units).plain_positional

end Double

namespace Text

/-- A figure is written without brackets. -/
theorem plain_figure (x : Double) : Plain (figure x) := by
  unfold figure plainFigure
  split
  · split
    · exact ((Double.plain_signText _).append (plain_toString_nat _)).append (by decide)
    · exact Double.plain_toText _
  · exact Double.plain_toText _

theorem plain_percent (part whole : Double) : Plain (percent part whole) :=
  (plain_figure _).append (by decide)

/-- A counted noun is plain if the noun is. -/
theorem plain_countNoun (count : Nat) {singular plural : String} (hs : Plain singular)
    (hp : Plain plural) : Plain (countNoun count singular plural) := by
  refine ((plain_toString_nat count).append (by decide)).append ?_
  split
  · exact hs
  · exact hp

/-- Plain items separated by a plain text make up a plain text. -/
theorem plain_intercalate {separator : String} (hseparator : Plain separator)
    {items : List String} (h : ∀ item ∈ items, Plain item) :
    Plain (separator.intercalate items) := by
  induction items with
  | nil => simp only [String.intercalate_nil]; decide
  | cons first rest ih =>
    have hrest := ih fun item hitem => h item (List.mem_cons_of_mem _ hitem)
    cases rest with
    | nil => simpa using h first List.mem_cons_self
    | cons second rest =>
      rw [String.intercalate_cons_cons]
      exact ((h first List.mem_cons_self).append hseparator).append hrest

theorem plain_joinAfter {first : String} {rest : List String} (hfirst : Plain first)
    (hrest : ∀ item ∈ rest, Plain item) : Plain (joinAfter first rest) := by
  fun_induction joinAfter first rest with
  | case1 first => exact hfirst
  | case2 first last => exact (hfirst.append (by decide)).append (hrest last List.mem_cons_self)
  | case3 first second rest hlong ih =>
    refine (hfirst.append (by decide)).append (ih (hrest second List.mem_cons_self) ?_)
    exact fun item hitem => hrest item (List.mem_cons_of_mem second hitem)

/-- A list of plain items is plain. -/
theorem plain_joinList {items : List String} (h : ∀ item ∈ items, Plain item) :
    Plain (joinList items) := by
  cases items with
  | nil => decide
  | cons first rest =>
    exact plain_joinAfter (h first List.mem_cons_self) fun item hitem =>
      h item (List.mem_cons_of_mem first hitem)

end Text
end UpSetProse
