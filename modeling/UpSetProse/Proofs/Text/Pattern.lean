import Mathlib.Data.List.TakeWhile

/-!
# Patterns and what replacing their matches makes of a text

A pattern can match a text in several ways, which are tried in a fixed order of preference: the
first choice before the second one, and a longer run before a shorter one. A rule rewrites the
matches of a pattern in two parts. It searches a text from the left, takes the preferred match at
the first place where there is one, and goes on behind it. The matches are exactly the pieces that
the pattern describes, and a rule passes over a character only where nothing described begins.
-/

namespace UpSetProse.Text

/-- What a piece of text can look like. -/
inductive Pattern where
  /-- Nothing, at the beginning of the text. -/
  | start
  /-- One character of a class. -/
  | one (allowed : Char → Bool)
  /-- One or more characters of a class, rather more of them than fewer. -/
  | run (allowed : Char → Bool)
  /-- Two pieces, one behind the other. -/
  | seq (first second : Pattern)
  /-- One of two pieces, rather the first. -/
  | either (first second : Pattern)

namespace Pattern

/-- The lengths of the matches that a text begins with, in order of preference. -/
def lengths : (pattern : Pattern) → (atStart : Bool) → (text : List Char) → List Nat
  | start, atStart, _ => if atStart then [0] else []
  | one allowed, _, text => if text.head?.any allowed then [1] else []
  | run allowed, _, text => ((List.range (text.takeWhile allowed).length).map (· + 1)).reverse
  | seq first second, atStart, text =>
    (first.lengths atStart text).flatMap fun n =>
      (second.lengths (atStart && n == 0) (text.drop n)).map (n + ·)
  | either first second, atStart, text => first.lengths atStart text ++ second.lengths atStart text

/-- The pieces that match. -/
def Describes : (pattern : Pattern) → (atStart : Bool) → (piece : List Char) → Prop
  | start, atStart, piece => atStart = true ∧ piece = []
  | one allowed, _, piece => ∃ c, piece = [c] ∧ allowed c = true
  | run allowed, _, piece => piece ≠ [] ∧ ∀ c ∈ piece, allowed c = true
  | seq first second, atStart, piece => ∃ left right, piece = left ++ right ∧
      first.Describes atStart left ∧ second.Describes (atStart && left.isEmpty) right
  | either first second, atStart, piece =>
    first.Describes atStart piece ∨ second.Describes atStart piece

theorem length_beq_zero (piece : List Char) : (piece.length == 0) = piece.isEmpty := by
  cases piece <;> rfl

theorem mem_lengths_one {allowed : Char → Bool} {atStart : Bool} {text : List Char} {n : Nat} :
    n ∈ (one allowed).lengths atStart text ↔ ∃ piece rest, text = piece ++ rest ∧
      piece.length = n ∧ (one allowed).Describes atStart piece := by
  constructor
  · intro hn
    cases text with
    | nil => cases hn
    | cons c rest =>
      rw [lengths, List.head?_cons, Option.any_some] at hn
      split at hn
      · rename_i hc
        obtain rfl : n = 1 := List.mem_singleton.mp hn
        exact ⟨[c], rest, rfl, rfl, c, rfl, hc⟩
      · cases hn
  · rintro ⟨_, rest, rfl, rfl, c, rfl, hc⟩
    simp [lengths, hc]

/-- A run can be cut off anywhere behind its first character. -/
theorem mem_lengths_run {allowed : Char → Bool} {atStart : Bool} {text : List Char} {n : Nat} :
    n ∈ (run allowed).lengths atStart text ↔ ∃ piece rest, text = piece ++ rest ∧
      piece.length = n ∧ (run allowed).Describes atStart piece := by
  have hbounds : n ∈ (run allowed).lengths atStart text ↔
      0 < n ∧ n ≤ (text.takeWhile allowed).length := by
    simp only [lengths, List.mem_reverse, List.mem_map, List.mem_range]
    constructor
    · rintro ⟨k, hk, rfl⟩
      omega
    · rintro ⟨hpos, hle⟩
      exact ⟨n - 1, by omega, by omega⟩
  rw [hbounds]
  constructor
  · rintro ⟨hpos, hle⟩
    have hlength : ((text.takeWhile allowed).take n).length = n := List.length_take_of_le hle
    refine ⟨(text.takeWhile allowed).take n, (text.takeWhile allowed).drop n ++
      text.dropWhile allowed, ?_, hlength, ?_, fun c hc => ?_⟩
    · rw [← List.append_assoc, List.take_append_drop, List.takeWhile_append_dropWhile]
    · exact List.length_pos_iff.mp (hlength.symm ▸ hpos)
    · exact List.mem_takeWhile_imp (List.mem_of_mem_take hc)
  · rintro ⟨piece, rest, rfl, rfl, hne, hall⟩
    rw [List.takeWhile_append_of_pos hall, List.length_append]
    exact ⟨List.length_pos_iff.mpr hne, Nat.le_add_right _ _⟩

/-- A text begins with a match of some length exactly if the piece of that length is described. -/
theorem mem_lengths_iff {pattern : Pattern} {atStart : Bool} {text : List Char} {n : Nat} :
    n ∈ pattern.lengths atStart text ↔ ∃ piece rest, text = piece ++ rest ∧ piece.length = n ∧
      pattern.Describes atStart piece := by
  induction pattern generalizing atStart text n with
  | start =>
    cases atStart with
    | false => simp [lengths, Describes]
    | true =>
      constructor
      · intro hn
        obtain rfl : n = 0 := List.mem_singleton.mp hn
        exact ⟨[], text, rfl, rfl, rfl, rfl⟩
      · rintro ⟨piece, rest, rfl, rfl, -, rfl⟩
        exact List.mem_singleton_self 0
  | one allowed => exact mem_lengths_one
  | run allowed => exact mem_lengths_run
  | seq first second ihFirst ihSecond =>
    simp only [lengths, List.mem_flatMap, List.mem_map, ihFirst, ihSecond]
    constructor
    · rintro ⟨_, ⟨left, others, rfl, rfl, hleft⟩, _, ⟨right, rest, hrest, rfl, hright⟩, rfl⟩
      rw [List.drop_left] at hrest
      rw [length_beq_zero] at hright
      exact ⟨left ++ right, rest, by rw [hrest, List.append_assoc], List.length_append,
        left, right, rfl, hleft, hright⟩
    · rintro ⟨_, rest, rfl, rfl, left, right, rfl, hleft, hright⟩
      rw [← length_beq_zero] at hright
      refine ⟨left.length, ⟨left, right ++ rest, List.append_assoc .., rfl, hleft⟩, right.length,
        ⟨right, rest, ?_, rfl, hright⟩, List.length_append.symm⟩
      rw [List.append_assoc, List.drop_left]
  | either first second ihFirst ihSecond =>
    simp only [lengths, List.mem_append, ihFirst, ihSecond]
    constructor
    · rintro (⟨piece, rest, htext, hlength, hpiece⟩ | ⟨piece, rest, htext, hlength, hpiece⟩)
      · exact ⟨piece, rest, htext, hlength, .inl hpiece⟩
      · exact ⟨piece, rest, htext, hlength, .inr hpiece⟩
    · rintro ⟨piece, rest, htext, hlength, hpiece | hpiece⟩
      · exact .inl ⟨piece, rest, htext, hlength, hpiece⟩
      · exact .inr ⟨piece, rest, htext, hlength, hpiece⟩

end Pattern

/-- A rule by which every match of a pattern in two parts is rewritten. -/
structure Rule where
  lead : Pattern
  body : Pattern
  write : (lead body : List Char) → List Char

namespace Rule

/-- The lengths of both parts of the matches that a text begins with, in order of preference. -/
def lengths (rule : Rule) (atStart : Bool) (text : List Char) : List (Nat × Nat) :=
  (rule.lead.lengths atStart text).flatMap fun n =>
    (rule.body.lengths (atStart && n == 0) (text.drop n)).map (n, ·)

/-- Rewrites the matches from some place of a text on, the first characters of which have been
matched already. No match may be empty. -/
def applyFrom (rule : Rule) : (atStart : Bool) → (matched : Nat) → (text : List Char) → List Char
  | _, _, [] => []
  | _, matched + 1, _ :: rest => rule.applyFrom false matched rest
  | atStart, 0, c :: rest =>
    match (rule.lengths atStart (c :: rest)).head? with
    | none => c :: rule.applyFrom false 0 rest
    | some (n, m) =>
      rule.write ((c :: rest).take n) (((c :: rest).drop n).take m) ++
        rule.applyFrom false (n + m - 1) rest

/-- The text with all matches rewritten. -/
def apply (rule : Rule) (text : List Char) : List Char := rule.applyFrom true 0 text

/-- The rule rewrites a piece of text with these two parts. -/
def Describes (rule : Rule) (atStart : Bool) (lead body : List Char) : Prop :=
  rule.lead.Describes atStart lead ∧ rule.body.Describes (atStart && lead.isEmpty) body

variable {rule : Rule} {atStart : Bool} {text lead body rest : List Char}

theorem mem_lengths_iff {n m : Nat} : (n, m) ∈ rule.lengths atStart text ↔
    ∃ lead body rest, text = lead ++ (body ++ rest) ∧ lead.length = n ∧ body.length = m ∧
      rule.Describes atStart lead body := by
  simp only [lengths, List.mem_flatMap, List.mem_map, Prod.mk.injEq, Pattern.mem_lengths_iff]
  constructor
  · rintro ⟨_, ⟨lead, others, rfl, rfl, hlead⟩, _, ⟨body, rest, hrest, rfl, hbody⟩, rfl, rfl⟩
    rw [List.drop_left] at hrest
    rw [Pattern.length_beq_zero] at hbody
    exact ⟨lead, body, rest, by rw [hrest], rfl, rfl, hlead, hbody⟩
  · rintro ⟨lead, body, rest, rfl, rfl, rfl, hlead, hbody⟩
    rw [← Pattern.length_beq_zero] at hbody
    exact ⟨_, ⟨lead, body ++ rest, rfl, rfl, hlead⟩, _,
      ⟨body, rest, List.drop_left, rfl, hbody⟩, rfl, rfl⟩

/-- What has been matched is passed over. -/
theorem applyFrom_drop (rule : Rule) (matched : Nat) (text : List Char) :
    rule.applyFrom false matched text = rule.applyFrom false 0 (text.drop matched) := by
  induction text generalizing matched with
  | nil => rw [List.drop_nil, applyFrom, applyFrom]
  | cons c rest ih =>
    cases matched with
    | zero => rfl
    | succ matched => exact ih matched

/-- At the beginning of a text, either nothing is described and a character is passed over, or
something is, and the search goes on behind it. -/
theorem applyFrom_cases (atStart : Bool) (c : Char) (rest : List Char) :
    ((∀ lead body rest', c :: rest = lead ++ (body ++ rest') →
        ¬ rule.Describes atStart lead body) ∧
      rule.applyFrom atStart 0 (c :: rest) = c :: rule.applyFrom false 0 rest) ∨
    ∃ lead body rest', c :: rest = lead ++ (body ++ rest') ∧ rule.Describes atStart lead body ∧
      (lead ++ body ≠ [] → rule.applyFrom atStart 0 (c :: rest) =
        rule.write lead body ++ rule.applyFrom false 0 rest') := by
  cases hhead : (rule.lengths atStart (c :: rest)).head? with
  | none =>
    refine .inl ⟨fun lead body rest' htext hdescribes => ?_, ?_⟩
    · have hmem := mem_lengths_iff.mpr ⟨lead, body, rest', htext, rfl, rfl, hdescribes⟩
      rw [List.head?_eq_none_iff.mp hhead] at hmem
      cases hmem
    · rw [applyFrom, hhead]
  | some lengths =>
    obtain ⟨lead, body, rest', htext, hlead, hbody, hdescribes⟩ :=
      mem_lengths_iff.mp (List.mem_of_head? hhead)
    refine .inr ⟨lead, body, rest', htext, hdescribes, fun hne => ?_⟩
    have hdrop : rest.drop (lead.length + body.length - 1) = rest' := by
      obtain ⟨first, piece, hpiece⟩ := List.exists_cons_of_ne_nil hne
      rw [← List.append_assoc, hpiece, List.cons_append, List.cons.injEq] at htext
      rw [← List.length_append, hpiece, htext.2, List.length_cons, Nat.add_sub_cancel,
        List.drop_left]
    rw [applyFrom, hhead]
    dsimp only
    rw [applyFrom_drop, ← hlead, ← hbody, hdrop, htext, List.take_left, List.drop_left,
      List.take_left]

end Rule
end UpSetProse.Text
