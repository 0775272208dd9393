import UpSetProse.Proofs.Template.Marked

/-!
# The reading of a text

A text can be cut into segments in many ways, but only one of them is its reading: the literals are
as few as possible, an opening pair begins a symbol as early as it can, and the symbol ends at the
first closing pair. The scan finds this reading for every text, whatever the brackets in it.
-/

namespace UpSetProse

/-- With a pair of the character behind it, the text holds no earlier one: the first pair is the one
behind. -/
def FoundBehind (c : Char) (text : List Char) : Prop :=
  ∀ before after, text ++ [c, c] = before ++ [c, c] ++ after → text.length ≤ before.length

/-- A cut is made at the first of all pairs. -/
theorem length_le_of_cutPair {c : Char} {text before after left right : List Char}
    (h : cutPair c text = some (before, after)) (hfound : text = left ++ c :: c :: right) :
    before.length ≤ left.length := by
  induction text generalizing before left with
  | nil => simp [cutPair] at h
  | cons a text ih =>
    cases text with
    | nil => simp [cutPair] at h
    | cons b rest =>
      unfold cutPair at h
      split at h
      · cases h
        exact Nat.zero_le _
      · rename_i hpair
        obtain ⟨⟨before', after'⟩, hcut, hmap⟩ := Option.map_eq_some_iff.mp h
        cases hmap
        cases left with
        | nil =>
          simp only [List.nil_append, List.cons.injEq] at hfound
          exact absurd ⟨hfound.1, hfound.2.1⟩ hpair
        | cons l left =>
          rw [List.cons_append, List.cons.injEq] at hfound
          exact Nat.succ_le_succ (ih hcut hfound.2)

/-- In front of a cut, the pair is not found earlier. -/
theorem foundBehind_of_cutPair {c : Char} {text before after : List Char}
    (h : cutPair c text = some (before, after)) : FoundBehind c before := by
  intro left right heq
  have hshape : text = left ++ c :: c :: (right ++ after) := by
    calc text = before ++ [c, c] ++ after := by rw [eq_of_cutPair h]; simp
      _ = left ++ [c, c] ++ right ++ after := by rw [heq]
      _ = left ++ c :: c :: (right ++ after) := by simp
  exact length_le_of_cutPair h hshape

/-- A text behind which the pair is found is cut off in front of it. -/
theorem cutPair_of_foundBehind {c : Char} {before : List Char} (h : FoundBehind c before)
    (after : List Char) : cutPair c (before ++ c :: c :: after) = some (before, after) := by
  have hsome : cutPair c (before ++ c :: c :: after) ≠ none := by
    rw [Ne, cutPair_eq_none_iff, not_not]
    exact ⟨before, after, by simp⟩
  obtain ⟨⟨left, right⟩, hcut⟩ := Option.ne_none_iff_exists'.mp hsome
  have hshape := eq_of_cutPair hcut
  have hle : left.length ≤ before.length := length_le_of_cutPair hcut rfl
  -- The cut is not later than the pair behind the text, so it lies in the text with that pair.
  have hcutAt : left ++ [c, c] <+: before ++ c :: c :: after := ⟨right, by simp [hshape]⟩
  have hbehind : before ++ [c, c] <+: before ++ c :: c :: after := ⟨after, by simp⟩
  obtain ⟨between, hbetween⟩ : left ++ [c, c] <+: before ++ [c, c] :=
    List.prefix_of_prefix_length_le hcutAt hbehind (by simpa using hle)
  have heq : left.length = before.length := Nat.le_antisymm hle (h left between hbetween.symm)
  obtain ⟨rfl, hrest⟩ := List.append_inj hshape heq.symm
  rw [hcut, (List.cons.inj (List.cons.inj hrest).2).2]

theorem foundBehind_nil (c : Char) : FoundBehind c [] := fun _ _ _ => Nat.zero_le _

namespace Segment

variable {markers : Markers} {text : List Char}

/-- Up to a marker that is opened and closed as early as possible, a text is read as a literal and
a symbol. -/
theorem ofText_append_mark {before name : List Char} (hbefore : FoundBehind markers.opener before)
    (hname : FoundBehind markers.closer name) (rest : List Char) :
    ofText markers (before ++ (markers.mark name ++ rest)) =
      literals before ++ .symbol name :: ofText markers rest := by
  have hopen := cutPair_of_foundBehind hbefore
    (name ++ markers.closer :: markers.closer :: rest)
  rw [← ofText_of_marker hopen (cutPair_of_foundBehind hname rest)]
  simp [Markers.mark]

/-- A text that holds an opening and behind it a closing pair has a first symbol. -/
theorem exists_cut_of_infix_mark {name : List Char} (h : markers.mark name <:+: text) :
    ∃ before inside first rest, cutPair markers.opener text = some (before, inside) ∧
      cutPair markers.closer inside = some (first, rest) := by
  obtain ⟨left, right, hshape⟩ := h
  simp only [Markers.mark, List.cons_append, List.append_assoc, List.nil_append] at hshape
  have hopened : cutPair markers.opener text ≠ none := by
    rw [Ne, cutPair_eq_none_iff, not_not]
    exact ⟨left, name ++ markers.closer :: markers.closer :: right, by simp [← hshape]⟩
  obtain ⟨⟨before, inside⟩, hopen⟩ := Option.ne_none_iff_exists'.mp hopened
  -- The first opening pair is not behind the one in front of the name, so what closes the name is
  -- inside.
  have hle := length_le_of_cutPair hopen hshape.symm
  have hlength := congrArg List.length (hshape.trans (eq_of_cutPair hopen))
  simp only [List.length_append, List.length_cons] at hlength
  have hnamed : name ++ markers.closer :: markers.closer :: right <:+ text :=
    ⟨left ++ [markers.opener, markers.opener], by simp [← hshape]⟩
  have hinside : inside <:+ text :=
    ⟨before ++ [markers.opener, markers.opener], by simp [eq_of_cutPair hopen]⟩
  have hbehind : name ++ markers.closer :: markers.closer :: right <:+ inside := by
    refine List.suffix_of_suffix_length_le hnamed hinside ?_
    simp only [List.length_append, List.length_cons]
    omega
  have hclosed : cutPair markers.closer inside ≠ none := by
    rw [Ne, cutPair_eq_none_iff, not_not]
    exact List.IsInfix.trans ⟨name, right, by simp⟩ hbehind.isInfix
  obtain ⟨⟨first, rest⟩, hclose⟩ := Option.ne_none_iff_exists'.mp hclosed
  exact ⟨before, inside, first, rest, hopen, hclose⟩

/-- A text is literal if no opening pair in it is followed by a closing one. -/
theorem ofText_of_not_infix_mark (h : ∀ name, ¬ markers.mark name <:+: text) :
    ofText markers text = literals text := by
  cases hopen : cutPair markers.opener text with
  | none => exact ofText_of_not_opened hopen
  | some parts =>
    obtain ⟨before, inside⟩ := parts
    cases hclose : cutPair markers.closer inside with
    | none => exact ofText_of_not_closed hopen hclose
    | some parts =>
      obtain ⟨name, rest⟩ := parts
      refine absurd ⟨before, rest, ?_⟩ (h name)
      simp [eq_of_cutPair hopen, eq_of_cutPair hclose, Markers.mark]

/-- The segments are the reading of the text. -/
structure Reading (markers : Markers) (text : List Char) (parts : List Segment) : Prop where
  /-- The segments are written as the text. -/
  written : parts.flatMap (write markers) = text
  nonempty : .literal [] ∉ parts
  /-- Of two neighbours one is a symbol. -/
  apart : ∀ left right, ¬ [.literal left, .literal right] <:+: parts
  /-- A symbol ends at the first closing pair. -/
  closed : ∀ name, .symbol name ∈ parts → FoundBehind markers.closer name
  /-- A literal in front of a symbol ends at the first opening pair. -/
  opened : ∀ before name, [.literal before, .symbol name] <:+: parts →
    FoundBehind markers.opener before
  /-- In a literal at the end, no opening pair is followed by a closing one. -/
  ended : ∀ last, [.literal last] <:+ parts → ∀ name, ¬ markers.mark name <:+: last

namespace Reading

variable {parts : List Segment}

theorem nil : Reading markers [] [] where
  written := rfl
  nonempty := List.not_mem_nil
  apart := by simp
  closed := by simp
  opened := by simp
  ended := by simp

/-- A text in which no symbol is marked is read as itself. -/
theorem singleton_literal (hne : text ≠ []) (h : ∀ name, ¬ markers.mark name <:+: text) :
    Reading markers text [.literal text] where
  written := by simp [write]
  nonempty := by simpa using hne.symm
  apart := fun left right hfound => by simpa using hfound.length_le
  closed := by simp
  opened := fun before name hfound => by simpa using hfound.length_le
  ended := by
    intro last hlast
    obtain rfl : last = text := by simpa using hlast.eq_of_length rfl
    exact h

/-- A marker in front of a text is read first. -/
theorem symbol_cons {name : List Char} (hname : FoundBehind markers.closer name)
    (h : Reading markers text parts) :
    Reading markers (markers.mark name ++ text) (.symbol name :: parts) where
  written := by rw [List.flatMap_cons, h.written, write]
  nonempty := by simpa using h.nonempty
  apart := fun left right hfound => by
    rcases List.infix_cons_iff.mp hfound with hstart | hfound
    · simp [List.cons_prefix_cons] at hstart
    · exact h.apart left right hfound
  closed := fun other hother => by
    rcases List.mem_cons.mp hother with heq | hother
    · cases heq
      exact hname
    · exact h.closed other hother
  opened := fun before other hfound => by
    rcases List.infix_cons_iff.mp hfound with hstart | hfound
    · simp [List.cons_prefix_cons] at hstart
    · exact h.opened before other hfound
  ended := fun last hlast => by
    rcases List.suffix_cons_iff.mp hlast with heq | hlast
    · simp at heq
    · exact h.ended last hlast

/-- Text up to the first opening pair is read before the symbol behind it. -/
theorem literal_cons {before name : List Char} (hne : before ≠ [])
    (hbefore : FoundBehind markers.opener before)
    (h : Reading markers text (.symbol name :: parts)) :
    Reading markers (before ++ text) (.literal before :: .symbol name :: parts) where
  written := by rw [List.flatMap_cons, h.written, write]
  nonempty := by simpa using ⟨hne, by simpa using h.nonempty⟩
  apart := fun left right hfound => by
    rcases List.infix_cons_iff.mp hfound with hstart | hfound
    · simp [List.cons_prefix_cons] at hstart
    · exact h.apart left right hfound
  closed := fun other hother => h.closed other ((List.mem_cons.mp hother).resolve_left nofun)
  opened := fun other symbol hfound => by
    rcases List.infix_cons_iff.mp hfound with hstart | hfound
    · obtain ⟨heq, _⟩ := List.cons_prefix_cons.mp hstart
      cases heq
      exact hbefore
    · exact h.opened other symbol hfound
  ended := fun last hlast => by
    rcases List.suffix_cons_iff.mp hlast with heq | hlast
    · simp at heq
    · exact h.ended last hlast

/-- Without its first segment, a reading is one of the text without that segment. -/
theorem tail {part : Segment} (h : Reading markers text (part :: parts)) :
    Reading markers (parts.flatMap (write markers)) parts where
  written := rfl
  nonempty := fun hmem => h.nonempty (List.mem_cons_of_mem part hmem)
  apart := fun left right hfound =>
    h.apart left right (hfound.trans (List.suffix_cons part parts).isInfix)
  closed := fun name hmem => h.closed name (List.mem_cons_of_mem part hmem)
  opened := fun before name hfound =>
    h.opened before name (hfound.trans (List.suffix_cons part parts).isInfix)
  ended := fun last hlast => h.ended last (hlast.trans (List.suffix_cons part parts))

/-- The scan finds a reading. -/
theorem ofText (markers : Markers) (text : List Char) :
    Reading markers text (ofText markers text) := by
  induction hlength : text.length using Nat.strongRecOn generalizing text with
  | ind length ih =>
    by_cases hmark : ∃ name, markers.mark name <:+: text
    · obtain ⟨_, hfound⟩ := hmark
      obtain ⟨before, inside, name, rest, hopen, hclose⟩ := exists_cut_of_infix_mark hfound
      have hopened := length_lt_of_cutPair hopen
      have hclosed := length_lt_of_cutPair hclose
      have hsymbol := (ih rest.length (by omega) rest rfl).symbol_cons
        (foundBehind_of_cutPair hclose)
      have hshape : text = before ++ (markers.mark name ++ rest) := by
        simp [eq_of_cutPair hopen, eq_of_cutPair hclose, Markers.mark]
      rw [ofText_of_marker hopen hclose, hshape]
      cases before with
      | nil => exact hsymbol
      | cons c before =>
        exact hsymbol.literal_cons (List.cons_ne_nil c before) (foundBehind_of_cutPair hopen)
    · rw [not_exists] at hmark
      rw [ofText_of_not_infix_mark hmark]
      cases text with
      | nil => exact .nil
      | cons c text => exact singleton_literal (List.cons_ne_nil c text) hmark

/-- No other segments are a reading: the first one is forced by the text, and so is the rest. -/
theorem eq_ofText (h : Reading markers text parts) : parts = Segment.ofText markers text := by
  induction parts generalizing text with
  | nil =>
    obtain rfl : [] = text := h.written
    rw [ofText_of_not_opened (cutPair_eq_none_iff.mpr (by simp))]
    rfl
  | cons part parts ih =>
    have hrest := ih h.tail
    have hwritten := h.written
    rw [List.flatMap_cons] at hwritten
    cases part with
    | symbol name =>
      have hname := h.closed name List.mem_cons_self
      have hread := ofText_append_mark (foundBehind_nil markers.opener) hname
        (parts.flatMap (write markers))
      rw [← hrest, List.nil_append] at hread
      rw [← hwritten]
      exact hread.symm
    | literal before =>
      cases parts with
      | nil =>
        obtain rfl : before = text := by simpa [write] using hwritten
        have hne : before ≠ [] := fun heq => h.nonempty (heq ▸ List.mem_cons_self)
        rw [ofText_of_not_infix_mark (h.ended before List.suffix_rfl), literals,
          if_neg (mt List.isEmpty_iff.mp hne)]
      | cons next parts =>
        have hneighbours : [.literal before, next] <:+: .literal before :: next :: parts :=
          (List.prefix_append [_, _] parts).isInfix
        cases next with
        | literal after => exact absurd hneighbours (h.apart before after)
        | symbol name =>
          have hname := h.closed name (by simp)
          have hread := ofText_append_mark (h.opened before name hneighbours) hname
            (parts.flatMap (write markers))
          -- Behind the literal, the text is read as it would be on its own.
          have hbehind := ofText_append_mark (foundBehind_nil markers.opener) hname
            (parts.flatMap (write markers))
          have hne : before ≠ [] := fun heq => h.nonempty (heq ▸ List.mem_cons_self)
          rw [← hwritten, List.flatMap_cons]
          refine Eq.trans ?_ hread.symm
          rw [literals, if_neg (mt List.isEmpty_iff.mp hne)]
          exact congrArg _ (hrest.trans hbehind)

end Reading

/-- Every text has exactly one reading, which the scan finds, and a symbol is read in it exactly if
some opening pair has a closing pair behind it. -/
theorem reading_iff_eq_ofText (markers : Markers) (text : List Char) :
    (∀ parts, Reading markers text parts ↔ parts = ofText markers text) ∧
      ((∃ name, .symbol name ∈ ofText markers text) ↔ ∃ name, markers.mark name <:+: text) := by
  refine ⟨fun parts => ⟨Reading.eq_ofText, fun h => h ▸ .ofText markers text⟩, ?_, ?_⟩
  · rintro ⟨name, hname⟩
    obtain ⟨before, after, hsplit⟩ := List.append_of_mem hname
    refine ⟨name, before.flatMap (write markers), after.flatMap (write markers), ?_⟩
    rw [← (Reading.ofText markers text).written, hsplit]
    simp [write]
  · rintro ⟨_, hfound⟩
    obtain ⟨before, inside, name, rest, hopen, hclose⟩ := exists_cut_of_infix_mark hfound
    exact ⟨name, by simp [ofText_of_marker hopen hclose]⟩

end Segment
end UpSetProse
