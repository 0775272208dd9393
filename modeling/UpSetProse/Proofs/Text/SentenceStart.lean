import Mathlib.Data.List.Infix
import UpSetProse.Proofs.Text.Pattern
import UpSetProse.Proofs.Text.Sentence

/-!
# Where sentences start

A sentence starts at the beginning of a text and behind every stop with white space after it. The
pass from the left knows at each character whether the text before it ends like that. Searching for
such starts with a pattern finds the same ones: a match ends with a letter, so none of the stops
behind it has been passed over, and white space after a stop is not passed over alone if a
lower-case letter follows.
-/

namespace UpSetProse.Text

/-- A stop and white space behind it. -/
def Pause (text : List Char) : Prop :=
  ∃ stop blanks, text = stop :: blanks ∧ isStop stop = true ∧ blanks ≠ [] ∧
    ∀ c ∈ blanks, isBlank c = true

/-- A sentence starts behind this text. -/
def StartsSentence (before : List Char) : Prop :=
  before = [] ∨ ∃ front pause, before = front ++ pause ∧ Pause pause

/-- At the beginning or behind a pause, a lower-case letter is written in upper case. -/
def sentenceStart : Rule where
  lead := .either .start (.seq (.one isStop) (.run isBlank))
  body := .one isLowerLetter
  write lead body := lead ++ body.flatMap upperCase

/-- The pattern describes a lower-case letter that begins the text or comes after a pause. -/
theorem describes_sentenceStart_iff {atStart : Bool} {lead body : List Char} :
    sentenceStart.Describes atStart lead body ↔
      (atStart = true ∧ lead = [] ∨ Pause lead) ∧ ∃ c, body = [c] ∧ isLowerLetter c = true := by
  refine and_congr (or_congr Iff.rfl ⟨?_, ?_⟩) Iff.rfl
  · rintro ⟨_, blanks, rfl, ⟨stop, rfl, hstop⟩, hne, hblank⟩
    exact ⟨stop, blanks, rfl, hstop, hne, hblank⟩
  · rintro ⟨stop, blanks, rfl, hstop, hne, hblank⟩
    exact ⟨[stop], blanks, rfl, ⟨stop, rfl, hstop⟩, hne, hblank⟩

/-! ### Places behind a text -/

namespace SentencePlace

variable {place : SentencePlace} {c : Char} {text : List Char}

/-- A stop may end the sentence. -/
theorem next_of_isStop (h : isStop c = true) : place.next c = stopped := by
  unfold next
  rw [if_pos h]

/-- White space goes on with what stops have begun, and with nothing else. -/
theorem next_of_isBlank (h : isBlank c = true) :
    place.next c = if place = stopped ∨ place = opened then opened else inside := by
  unfold next
  rw [isStop_of_isBlank h, h]
  cases place <;> rfl

/-- Other characters are inside the sentence. -/
theorem next_of_others (hstop : isStop c = false) (hblank : isBlank c = false) :
    place.next c = inside := by
  unfold next
  rw [hstop, hblank]
  rfl

theorem next_of_isLowerLetter (h : isLowerLetter c = true) : place.next c = inside :=
  next_of_others (isStop_of_isLowerLetter h) (isBlank_of_isLowerLetter h)

theorem next_ne_start : place.next c ≠ start := by
  unfold next
  split_ifs
  · exact nofun
  · cases place <;> exact nofun
  · exact nofun

/-- White space leads away neither from where a sentence has been opened nor from inside one. -/
theorem foldl_next_eq_self (hplace : place = inside ∨ place = opened)
    (h : ∀ c ∈ text, isBlank c = true) : text.foldl next place = place := by
  induction text with
  | nil => rfl
  | cons c rest ih =>
    obtain ⟨hc, hrest⟩ := List.forall_mem_cons.mp h
    have hnext : place.next c = place := by
      rw [next_of_isBlank hc]
      rcases hplace with rfl | rfl <;> rfl
    rw [List.foldl_cons, hnext, ih hrest]

end SentencePlace

namespace Pause

variable {pause : List Char}

/-- A pause opens a sentence wherever it stands. -/
theorem foldl_next (h : Pause pause) (place : SentencePlace) :
    pause.foldl SentencePlace.next place = .opened := by
  obtain ⟨stop, blanks, rfl, hstop, hne, hblank⟩ := h
  cases blanks with
  | nil => exact absurd rfl hne
  | cons c rest =>
    obtain ⟨hc, hrest⟩ := List.forall_mem_cons.mp hblank
    rw [List.foldl_cons, SentencePlace.next_of_isStop hstop, List.foldl_cons,
      SentencePlace.next_of_isBlank hc]
    exact SentencePlace.foldl_next_eq_self (.inr rfl) hrest

/-- A pause has no letters. -/
theorem isLowerLetter (h : Pause pause) : ∀ c ∈ pause, isLowerLetter c = false := by
  obtain ⟨stop, blanks, rfl, hstop, -, hblank⟩ := h
  rw [List.forall_mem_cons]
  exact ⟨isLowerLetter_of_isStop hstop, fun c hc => isLowerLetter_of_isBlank (hblank c hc)⟩

end Pause

/-- What a text that has been read up to a place looks like. -/
def SentencePlace.Ends : (place : SentencePlace) → (before : List Char) → Prop
  | .start, before => before = []
  | .inside, _ => True
  | .stopped, before => ∃ front stop, before = front ++ [stop] ∧ isStop stop = true
  | .opened, before => ∃ front pause, before = front ++ pause ∧ Pause pause

/-- A blank completes a pause behind a stop, and it makes a pause longer. -/
theorem SentencePlace.Ends.next {place : SentencePlace} {before : List Char}
    (h : place.Ends before) (c : Char) : (place.next c).Ends (before ++ [c]) := by
  cases hstop : isStop c with
  | true =>
    rw [next_of_isStop hstop]
    exact ⟨before, c, rfl, hstop⟩
  | false =>
    cases hblank : isBlank c with
    | false =>
      rw [next_of_others hstop hblank]
      trivial
    | true =>
      rw [next_of_isBlank hblank]
      cases place with
      | start => trivial
      | inside => trivial
      | stopped =>
        obtain ⟨front, stop, rfl, hstop'⟩ := h
        exact ⟨front, [stop, c], List.append_assoc .., stop, [c], rfl, hstop',
          List.cons_ne_nil _ _, List.forall_mem_singleton.mpr hblank⟩
      | opened =>
        obtain ⟨front, _, rfl, stop, blanks, rfl, hstop', hne, hblanks⟩ := h
        exact ⟨front, stop :: blanks ++ [c], List.append_assoc .., stop, blanks ++ [c], rfl, hstop',
          List.append_ne_nil_of_left_ne_nil hne _,
          List.forall_mem_append.mpr ⟨hblanks, List.forall_mem_singleton.mpr hblank⟩⟩

/-- The place that is reached says how the text before it ends. -/
theorem SentencePlace.ends_foldl_next (before : List Char) :
    (before.foldl next start).Ends before := by
  induction before using List.reverseRecOn with
  | nil => rfl
  | append_singleton before c ih =>
    rw [List.foldl_append]
    exact ih.next c

/-- The pass is in a place where a sentence starts exactly behind such texts. -/
theorem begins_foldl_next_iff (before : List Char) :
    (before.foldl SentencePlace.next .start).begins = true ↔ StartsSentence before := by
  constructor
  · intro hbegins
    have hends := SentencePlace.ends_foldl_next before
    cases hplace : before.foldl SentencePlace.next .start with
    | start =>
      rw [hplace] at hends
      exact .inl hends
    | opened =>
      rw [hplace] at hends
      exact .inr hends
    | inside | stopped =>
      rw [hplace] at hbegins
      cases hbegins
  · rintro (rfl | ⟨front, pause, rfl, hpause⟩)
    · rfl
    · rw [List.foldl_append, hpause.foldl_next]
      rfl

instance (before : List Char) : Decidable (StartsSentence before) :=
  decidable_of_iff _ (begins_foldl_next_iff before)

/-! ### The pass -/

/-- A text without lower-case letters is left alone. -/
theorem capitalizeFrom_of_forall {text : List Char} (h : ∀ c ∈ text, isLowerLetter c = false)
    (place : SentencePlace) : capitalizeFrom place text = text := by
  induction text generalizing place with
  | nil => rfl
  | cons c rest ih =>
    obtain ⟨hc, hrest⟩ := List.forall_mem_cons.mp h
    rw [capitalizeFrom, ih hrest, SentencePlace.write, hc, Bool.and_false]
    rfl

/-- A letter that begins a sentence is written as a capital. -/
theorem capitalizeFrom_letter {place : SentencePlace} {letter : Char}
    (hplace : place.begins = true) (hletter : isLowerLetter letter = true) (rest : List Char) :
    capitalizeFrom place (letter :: rest) = upperCase letter ++ capitalizeFrom .inside rest := by
  rw [capitalizeFrom, SentencePlace.write, hplace, hletter,
    SentencePlace.next_of_isLowerLetter hletter]
  rfl

/-- The pass rewrites what a match is made of, and it is inside a sentence then. -/
theorem capitalizeFrom_match {place : SentencePlace} {lead body : List Char}
    (h : sentenceStart.Describes (place == .start) lead body) (rest : List Char) :
    capitalizeFrom place (lead ++ (body ++ rest)) =
      sentenceStart.write lead body ++ capitalizeFrom .inside rest := by
  obtain ⟨hlead, letter, rfl, hletter⟩ := describes_sentenceStart_iff.mp h
  have hletters : sentenceStart.write lead [letter] = lead ++ upperCase letter := by
    simp only [sentenceStart, List.flatMap_cons, List.flatMap_nil, List.append_nil]
  rw [hletters, List.append_assoc, List.singleton_append, capitalizeFrom_append]
  rcases hlead with ⟨hstart, rfl⟩ | hpause
  · rw [beq_iff_eq] at hstart
    subst hstart
    rw [List.foldl_nil, capitalizeFrom_letter rfl hletter]
    rfl
  · rw [hpause.foldl_next, capitalizeFrom_letter rfl hletter,
      capitalizeFrom_of_forall hpause.isLowerLetter]

/-- The search is behind a stop, and the white space and the letter that it would match with it are
still to come. -/
def Missed (place : SentencePlace) (text : List Char) : Prop :=
  ∃ blanks letter rest, text = blanks ++ letter :: rest ∧ (∀ c ∈ blanks, isBlank c = true) ∧
    isLowerLetter letter = true ∧ blanks.foldl SentencePlace.next place = .opened

/-- Inside a sentence, nothing has been read that a match could begin with. -/
theorem not_missed_inside (text : List Char) : ¬ Missed .inside text := by
  rintro ⟨blanks, letter, rest, -, hblank, -, hopened⟩
  rw [SentencePlace.foldl_next_eq_self (.inl rfl) hblank] at hopened
  cases hopened

/-- Nothing is missed at the beginning of the text. -/
theorem not_missed_start (text : List Char) : ¬ Missed .start text := by
  rintro ⟨blanks, letter, rest, -, hblank, -, hopened⟩
  cases blanks with
  | nil => cases hopened
  | cons c blanks =>
    obtain ⟨hc, hrest⟩ := List.forall_mem_cons.mp hblank
    rw [List.foldl_cons, SentencePlace.next_of_isBlank hc] at hopened
    have hinside := SentencePlace.foldl_next_eq_self (.inl rfl) hrest
    cases hinside.symm.trans hopened

/-- Passing over a character that begins no match does not miss a start. -/
theorem not_missed_next {place : SentencePlace} {c : Char} {rest : List Char}
    (h : ¬ Missed place (c :: rest))
    (hpause : ∀ pause letter rest', c :: rest = pause ++ letter :: rest' → Pause pause →
      isLowerLetter letter = false) : ¬ Missed (place.next c) rest := by
  rintro ⟨blanks, letter, rest', rfl, hblank, hletter, hopened⟩
  by_cases hc : isBlank c = true
  · exact h ⟨c :: blanks, letter, rest', rfl, List.forall_mem_cons.mpr ⟨hc, hblank⟩, hletter,
      hopened⟩
  · rw [Bool.not_eq_true] at hc
    cases hstop : isStop c with
    | true =>
      have hne : blanks ≠ [] := by
        rintro rfl
        rw [SentencePlace.next_of_isStop hstop] at hopened
        cases hopened
      have hlower := hpause (c :: blanks) letter rest' rfl ⟨c, blanks, rfl, hstop, hne, hblank⟩
      exact Bool.false_ne_true (hlower.symm.trans hletter)
    | false =>
      rw [SentencePlace.next_of_others hstop hc,
        SentencePlace.foldl_next_eq_self (.inl rfl) hblank] at hopened
      cases hopened

/-- The pass rewrites no character that the search passes over. -/
theorem write_eq_self {place : SentencePlace} {c : Char} {rest : List Char}
    (hstart : place = .start → isLowerLetter c = false) (h : ¬ Missed place (c :: rest)) :
    place.write c = [c] := by
  rw [SentencePlace.write, if_neg]
  rw [Bool.and_eq_true]
  rintro ⟨hbegins, hletter⟩
  cases place with
  | start => exact Bool.false_ne_true ((hstart rfl).symm.trans hletter)
  | opened => exact h ⟨[], c, rest, rfl, List.forall_mem_nil _, hletter, rfl⟩
  | inside | stopped => cases hbegins

/-- Searching for sentence starts from the left and rewriting each of them is the pass. -/
theorem applyFrom_sentenceStart {place : SentencePlace} {text : List Char}
    (h : ¬ Missed place text) :
    sentenceStart.applyFrom (place == .start) 0 text = capitalizeFrom place text := by
  -- A whole match is passed in one step, so the induction is on the length.
  induction hlength : text.length using Nat.strong_induction_on generalizing place text with
  | _ n ih =>
    subst hlength
    cases text with
    | nil => rw [Rule.applyFrom, capitalizeFrom]
    | cons c rest =>
      have hsearch := sentenceStart.applyFrom_cases (place == .start) c rest
      rcases hsearch with ⟨hnone, happly⟩ | ⟨lead, body, rest', htext, hdescribes, happly⟩
      · have hpause : ∀ pause letter rest', c :: rest = pause ++ letter :: rest' → Pause pause →
            isLowerLetter letter = false := by
          intro pause letter rest' htext hpause
          refine Bool.eq_false_iff.mpr fun hletter => hnone pause [letter] rest' htext ?_
          exact describes_sentenceStart_iff.mpr ⟨.inr hpause, letter, rfl, hletter⟩
        have hstart : place = .start → isLowerLetter c = false := by
          rintro rfl
          refine Bool.eq_false_iff.mpr fun hletter => hnone [] [c] rest rfl ?_
          exact describes_sentenceStart_iff.mpr ⟨.inl ⟨rfl, rfl⟩, c, rfl, hletter⟩
        have hrest := ih rest.length (Nat.lt_succ_self _) (not_missed_next h hpause) rfl
        rw [beq_false_of_ne SentencePlace.next_ne_start] at hrest
        rw [happly, hrest, capitalizeFrom, write_eq_self hstart h]
        rfl
      · have hne : lead ++ body ≠ [] := by
          obtain ⟨-, letter, rfl, -⟩ := describes_sentenceStart_iff.mp hdescribes
          exact List.append_ne_nil_of_right_ne_nil lead (List.cons_ne_nil letter [])
        have hshorter : rest'.length < (c :: rest).length := by
          have hpos := List.length_pos_iff.mpr hne
          rw [htext, ← List.append_assoc, List.length_append]
          omega
        have hrest := ih rest'.length hshorter (not_missed_inside rest') rfl
        rw [happly hne, htext, capitalizeFrom_match hdescribes, ← hrest]
        rfl

/-! ### Every character by itself -/

/-- What becomes of a character behind the text before it: its upper case, if it is a lower-case
letter with which a sentence starts. -/
def capitalized (before : List Char) (c : Char) : List Char :=
  if isLowerLetter c = true ∧ StartsSentence before then upperCase c else [c]

/-- A character is written as the text before it asks. -/
theorem write_foldl_next (before : List Char) (c : Char) :
    (before.foldl SentencePlace.next .start).write c = capitalized before c := by
  simp only [SentencePlace.write, capitalized, Bool.and_eq_true, begins_foldl_next_iff, and_comm]

/-- The pass goes on behind a text as if it looked back at all of it for each character. -/
theorem capitalizeFrom_eq_flatMap (before text : List Char) :
    capitalizeFrom (before.foldl SentencePlace.next .start) text =
      (text.zipIdx before.length).flatMap fun entry =>
        capitalized ((before ++ text).take entry.2) entry.1 := by
  induction text generalizing before with
  | nil => rfl
  | cons c rest ih =>
    have hrest := ih (before ++ [c])
    rw [List.foldl_append, List.length_append, List.append_assoc] at hrest
    rw [capitalizeFrom, write_foldl_next, List.zipIdx_cons, List.flatMap_cons, List.take_left]
    exact congrArg _ hrest

/-- A lower-case letter becomes its upper case at the beginning and where white space with a stop
before it precedes the letter, and all else stays. That is also what a search for sentence starts
makes of the text. -/
theorem capitalizeSentences_by_place (text : List Char) :
    capitalizeSentences text = ((trim text).zipIdx.flatMap fun entry =>
        capitalized ((trim text).take entry.2) entry.1) ∧
      sentenceStart.apply (trim text) = capitalizeSentences text :=
  ⟨capitalizeFrom_eq_flatMap [] (trim text), applyFrom_sentenceStart (not_missed_start _)⟩

/-- A point inside a number opens no sentence, and a letter can become two. -/
example : sentenceStart.apply "over 2.5 rows. wide?  ßs".toList =
    "Over 2.5 rows. Wide?  SSs".toList := by
  decide +kernel

end UpSetProse.Text
