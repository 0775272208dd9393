import Mathlib.Data.List.Infix
import UpSetProse.Template.Expansion

/-!
# Marked texts and how they are read

A text is marked for one kind of brackets when each of them belongs to a marker around a name
without brackets. The scan of a template is opened once, by one equation for each way in which a
text can begin; from these equations follow the names that a marked text mentions and what one
replacement of its markers leaves.
-/

namespace UpSetProse

/-- Cutting passes over a character that cannot begin the pair. -/
theorem cutPair_cons_of_ne {c a : Char} (h : a ≠ c) (text : List Char) :
    cutPair c (a :: text) = (cutPair c text).map fun (before, after) => (a :: before, after) := by
  cases text with
  | nil => rfl
  | cons b rest => simp only [cutPair, h, false_and, ite_false]

/-- A text without the character before a pair is all that is cut off in front of it. -/
theorem cutPair_append {c : Char} {before : List Char} (h : c ∉ before) (after : List Char) :
    cutPair c (before ++ c :: c :: after) = some (before, after) := by
  induction before with
  | nil => simp [cutPair]
  | cons a before ih =>
    simp only [List.mem_cons, not_or] at h
    rw [List.cons_append, cutPair_cons_of_ne (Ne.symm h.1), ih h.2]
    rfl

/-- Where a cut is made, no pair begins before it. -/
theorem not_infix_of_cutPair {c : Char} {text before after : List Char}
    (h : cutPair c text = some (before, after)) : ¬ [c, c] <:+: before := by
  induction text generalizing before with
  | nil => simp [cutPair] at h
  | cons a text ih =>
    cases text with
    | nil => simp [cutPair] at h
    | cons b rest =>
      unfold cutPair at h
      split at h
      · cases h
        simp
      · rename_i hpair
        obtain ⟨⟨before', after'⟩, hcut, hmap⟩ := Option.map_eq_some_iff.mp h
        cases hmap
        intro hfound
        rcases List.infix_cons_iff.mp hfound with hstart | hfound
        · obtain ⟨rfl, hhead⟩ := List.cons_prefix_cons.mp hstart
          obtain ⟨tail, rfl⟩ := hhead
          have hshape := eq_of_cutPair hcut
          simp only [List.cons_append, List.cons.injEq] at hshape
          exact hpair ⟨rfl, hshape.1⟩
        · exact ih hcut hfound

/-- No cut is made exactly where there is no pair. -/
theorem cutPair_eq_none_iff {c : Char} {text : List Char} :
    cutPair c text = none ↔ ¬ [c, c] <:+: text := by
  constructor
  · intro h hfound
    induction text with
    | nil => simp at hfound
    | cons a text ih =>
      cases text with
      | nil => simp [List.infix_cons_iff] at hfound
      | cons b rest =>
        unfold cutPair at h
        split at h
        · cases h
        · rename_i hpair
          rcases List.infix_cons_iff.mp hfound with hstart | hfound
          · simp only [List.cons_prefix_cons] at hstart
            exact hpair ⟨hstart.1.symm, hstart.2.1.symm⟩
          · exact ih (Option.map_eq_none_iff.mp h) hfound
  · intro h
    cases hcut : cutPair c text with
    | none => rfl
    | some parts =>
      rw [eq_of_cutPair hcut] at h
      exact absurd ⟨parts.1, parts.2, by simp⟩ h

namespace Segment

/-- A text without an opening pair is literal. -/
theorem ofText_of_not_opened {markers : Markers} {text : List Char}
    (h : cutPair markers.opener text = none) : ofText markers text = literals text := by
  rw [ofText.eq_def]
  split
  · rfl
  · rename_i hopen
    rw [h] at hopen
    cases hopen

/-- A text whose first opening pair is never closed is literal. -/
theorem ofText_of_not_closed {markers : Markers} {text before inside : List Char}
    (hopen : cutPair markers.opener text = some (before, inside))
    (hclose : cutPair markers.closer inside = none) : ofText markers text = literals text := by
  rw [ofText.eq_def]
  split
  · rfl
  · rename_i hopen'
    rw [hopen] at hopen'
    cases hopen'
    split
    · rfl
    · rename_i hclose'
      rw [hclose] at hclose'
      cases hclose'

/-- A closed opening pair is read as a symbol, and reading goes on behind it. -/
theorem ofText_of_marker {markers : Markers} {text before inside name rest : List Char}
    (hopen : cutPair markers.opener text = some (before, inside))
    (hclose : cutPair markers.closer inside = some (name, rest)) :
    ofText markers text = literals before ++ .symbol name :: ofText markers rest := by
  rw [ofText.eq_def]
  split
  · rename_i hopen'
    rw [hopen] at hopen'
    cases hopen'
  · rename_i hopen'
    rw [hopen] at hopen'
    cases hopen'
    split
    · rename_i hclose'
      rw [hclose] at hclose'
      cases hclose'
    · rename_i hclose'
      rw [hclose] at hclose'
      cases hclose'
      rfl

/-- The names of the symbols of a text, in order. -/
def names (markers : Markers) (text : List Char) : List (List Char) :=
  (ofText markers text).filterMap name?

@[simp] theorem filterMap_name?_literals (text : List Char) :
    (literals text).filterMap name? = [] := by
  unfold literals
  split <;> rfl

@[simp] theorem flatMap_replaceWith_literals (replace : List Char → List Char)
    (text : List Char) : (literals text).flatMap (replaceWith replace) = text := by
  unfold literals
  split
  · rename_i h
    simpa using h.symm
  · simp [replaceWith]

@[simp] theorem names_nil (markers : Markers) : names markers [] = [] := by
  unfold names
  rw [ofText_of_not_opened rfl]
  rfl

/-- A text without an opening pair holds no names. -/
theorem names_eq_nil_of_not_infix {markers : Markers} {text : List Char}
    (h : ¬ [markers.opener, markers.opener] <:+: text) : names markers text = [] := by
  rw [names, ofText_of_not_opened (cutPair_eq_none_iff.mpr h), filterMap_name?_literals]

/-- A character that opens no marker is passed over. -/
theorem names_cons {markers : Markers} {c : Char} (h : c ≠ markers.opener) (text : List Char) :
    names markers (c :: text) = names markers text := by
  have hcut := cutPair_cons_of_ne h text
  unfold names
  cases hopen : cutPair markers.opener text with
  | none =>
    rw [hopen] at hcut
    rw [ofText_of_not_opened hcut, ofText_of_not_opened hopen]
    simp
  | some parts =>
    obtain ⟨before, inside⟩ := parts
    rw [hopen] at hcut
    cases hclose : cutPair markers.closer inside with
    | none =>
      rw [ofText_of_not_closed hcut hclose, ofText_of_not_closed hopen hclose]
      simp
    | some parts =>
      rw [ofText_of_marker hcut hclose, ofText_of_marker hopen hclose]
      simp

/-- A marker at the beginning is read as the symbol that it marks. -/
theorem ofText_mark {markers : Markers} {name : List Char} (h : markers.closer ∉ name)
    (rest : List Char) :
    ofText markers (markers.mark name ++ rest) = .symbol name :: ofText markers rest := by
  have hopen : cutPair markers.opener (markers.mark name ++ rest) =
      some ([], name ++ markers.closer :: markers.closer :: rest) := by
    simp [Markers.mark, cutPair]
  rw [ofText_of_marker hopen (cutPair_append h rest)]
  rfl

/-- The name in a marker at the beginning is the first one read. -/
theorem names_mark {markers : Markers} {name : List Char} (h : markers.closer ∉ name)
    (rest : List Char) :
    names markers (markers.mark name ++ rest) = name :: names markers rest := by
  simp only [names, ofText_mark h, List.filterMap_cons, name?]

end Segment

open Segment (names)

@[simp] theorem replaceOnce_nil (markers : Markers) (replace : List Char → List Char) :
    replaceOnce markers replace [] = [] := by
  unfold replaceOnce
  rw [Segment.ofText_of_not_opened rfl]
  rfl

/-- A character that opens no marker is kept. -/
theorem replaceOnce_cons {markers : Markers} {c : Char} (h : c ≠ markers.opener)
    (replace : List Char → List Char) (text : List Char) :
    replaceOnce markers replace (c :: text) = c :: replaceOnce markers replace text := by
  have hcut := cutPair_cons_of_ne h text
  unfold replaceOnce
  cases hopen : cutPair markers.opener text with
  | none =>
    rw [hopen] at hcut
    rw [Segment.ofText_of_not_opened hcut, Segment.ofText_of_not_opened hopen]
    simp
  | some parts =>
    obtain ⟨before, inside⟩ := parts
    rw [hopen] at hcut
    cases hclose : cutPair markers.closer inside with
    | none =>
      rw [Segment.ofText_of_not_closed hcut hclose, Segment.ofText_of_not_closed hopen hclose]
      simp
    | some parts =>
      rw [Segment.ofText_of_marker hcut hclose, Segment.ofText_of_marker hopen hclose]
      simp

/-- A marker at the beginning gives way to what its name stands for. -/
theorem replaceOnce_mark {markers : Markers} {name : List Char} (h : markers.closer ∉ name)
    (replace : List Char → List Char) (rest : List Char) :
    replaceOnce markers replace (markers.mark name ++ rest) =
      replace name ++ replaceOnce markers replace rest := by
  simp only [replaceOnce, Segment.ofText_mark h, List.flatMap_cons, Segment.replaceWith]

/-- A text in which nothing is read as a symbol is left as it is. -/
theorem replaceOnce_of_names_eq_nil {markers : Markers} {text : List Char}
    (h : names markers text = []) (replace : List Char → List Char) :
    replaceOnce markers replace text = text := by
  unfold replaceOnce
  cases hopen : cutPair markers.opener text with
  | none => rw [Segment.ofText_of_not_opened hopen, Segment.flatMap_replaceWith_literals]
  | some parts =>
    cases hclose : cutPair markers.closer parts.2 with
    | none =>
      rw [Segment.ofText_of_not_closed hopen hclose, Segment.flatMap_replaceWith_literals]
    | some tail => simp [names, Segment.ofText_of_marker hopen hclose, Segment.name?] at h

namespace Markers

/-- A text in which neither bracket occurs. -/
def Free (markers : Markers) (text : List Char) : Prop :=
  markers.opener ∉ text ∧ markers.closer ∉ text

instance (markers : Markers) (text : List Char) : Decidable (markers.Free text) :=
  inferInstanceAs (Decidable (_ ∧ _))

/-- A text in which every bracket belongs to a marker around a name without brackets. -/
inductive Marked (markers : Markers) : List Char → Prop where
  | nil : Marked markers []
  | char {c : Char} {rest : List Char} (hc : markers.Free [c]) :
    Marked markers rest → Marked markers (c :: rest)
  | marker {name rest : List Char} (hname : markers.Free name) :
    Marked markers rest → Marked markers (markers.mark name ++ rest)

/-- The text holds a marker around a name without brackets. -/
def Mentions (markers : Markers) (text name : List Char) : Prop :=
  markers.Free name ∧ markers.mark name <:+: text

instance (markers : Markers) (text name : List Char) : Decidable (markers.Mentions text name) :=
  inferInstanceAs (Decidable (_ ∧ _))

theorem Free.ne_opener {markers : Markers} {c : Char} (h : markers.Free [c]) :
    c ≠ markers.opener := fun he => h.1 (List.mem_singleton.mpr he.symm)

theorem Free.append {markers : Markers} {left right : List Char} (hl : markers.Free left)
    (hr : markers.Free right) : markers.Free (left ++ right) := by
  constructor
  · simp [hl.1, hr.1]
  · simp [hl.2, hr.2]

/-- A text without brackets is marked. -/
theorem Marked.of_free {markers : Markers} {text : List Char} (h : markers.Free text) :
    markers.Marked text := by
  induction text with
  | nil => exact .nil
  | cons c text ih =>
    simp only [Free, List.mem_cons, not_or] at h
    refine .char ?_ (ih ⟨h.1.2, h.2.2⟩)
    simp [Free, h.1.1, h.2.1]

theorem Marked.append {markers : Markers} {left right : List Char} (hl : markers.Marked left)
    (hr : markers.Marked right) : markers.Marked (left ++ right) := by
  induction hl with
  | nil => exact hr
  | char hc _ ih => exact .char hc ih
  | marker hname _ ih =>
    rw [List.append_assoc]
    exact .marker hname ih

/-- A pattern that begins with a bracket begins at no other character. -/
theorem infix_append_of_head_not_mem {c : Char} {pattern skipped rest : List Char}
    (hc : c ∉ skipped) (h : c :: pattern <:+: skipped ++ rest) : c :: pattern <:+: rest := by
  induction skipped with
  | nil => exact h
  | cons a skipped ih =>
    simp only [List.mem_cons, not_or] at hc
    rcases List.infix_cons_iff.mp h with hstart | hfound
    · exact absurd (List.cons_prefix_cons.mp hstart).1 hc.1
    · exact ih hc.2 hfound

/-- Two names without brackets that are closed in one text are the same. -/
theorem eq_of_closed_prefix {c : Char} {name other rest : List Char} (hname : c ∉ name)
    (hother : c ∉ other) (h : name ++ [c] <+: other ++ c :: rest) : name = other := by
  induction name generalizing other with
  | nil =>
    cases other with
    | nil => rfl
    | cons a other => simp_all
  | cons a name ih =>
    cases other with
    | nil => simp_all
    | cons b other =>
      simp only [List.mem_cons, not_or] at hname hother
      obtain ⟨rfl, htail⟩ := List.cons_prefix_cons.mp h
      rw [ih hname.2 hother.2 htail]

/-- Texts that begin with markers agree in the names and in what follows. -/
theorem eq_of_mark_append {markers : Markers} {name other rest rest' : List Char}
    (hname : markers.Free name) (hother : markers.Free other)
    (h : markers.mark name ++ rest = markers.mark other ++ rest') :
    name = other ∧ rest = rest' := by
  have hstart : name ++ [markers.closer] <+: other ++ markers.closer :: markers.closer :: rest' :=
    ⟨markers.closer :: rest, by simpa [mark] using h⟩
  obtain rfl := eq_of_closed_prefix hname.2 hother.2 hstart
  exact ⟨rfl, List.append_cancel_left h⟩

/-- A marker found in front of a rest is the one in front or lies within the rest. -/
theorem infix_mark_append {markers : Markers} {name other rest : List Char}
    (hother : markers.Free other) (hname : markers.Free name)
    (h : markers.mark name <:+: markers.mark other ++ rest) :
    name = other ∨ markers.mark name <:+: rest := by
  have hne : markers.opener ≠ markers.closer := by cases markers <;> decide
  simp only [mark, List.cons_append, List.append_assoc] at h ⊢
  rcases List.infix_cons_iff.mp h with hstart | hfound
  · left
    simp only [List.cons_prefix_cons, true_and] at hstart
    refine eq_of_closed_prefix hname.2 hother.2 (List.IsPrefix.trans ?_ hstart)
    exact ⟨[markers.closer], by simp⟩
  · right
    rcases List.infix_cons_iff.mp hfound with hstart | hfound
    · have hsecond := (List.cons_prefix_cons.mp hstart).2
      cases other with
      | nil =>
        simp only [List.nil_append, List.cons_prefix_cons] at hsecond
        exact absurd hsecond.1 hne
      | cons a other =>
        simp only [List.cons_append, List.cons_prefix_cons] at hsecond
        exact absurd hsecond.1 (fun he => hother.1 (by simp [he]))
    · have hskipped : markers.opener ∉ other ++ [markers.closer, markers.closer] := by
        simp [hother.1, hne]
      exact infix_append_of_head_not_mem hskipped (by simpa using hfound)

end Markers

/-- Behind a marked text, reading begins anew. -/
theorem Markers.Marked.names_append {markers : Markers} {left : List Char}
    (h : markers.Marked left) (right : List Char) :
    names markers (left ++ right) = names markers left ++ names markers right := by
  induction h with
  | nil => simp
  | char hc _ ih => rw [List.cons_append, Segment.names_cons hc.ne_opener, ih,
      Segment.names_cons hc.ne_opener]
  | marker hname _ ih => rw [List.append_assoc, Segment.names_mark hname.2, ih,
      Segment.names_mark hname.2, List.cons_append]

/-- Behind a marked text, replacement begins anew. -/
theorem Markers.Marked.replaceOnce_append {markers : Markers} {left : List Char}
    (h : markers.Marked left) (replace : List Char → List Char) (right : List Char) :
    replaceOnce markers replace (left ++ right) =
      replaceOnce markers replace left ++ replaceOnce markers replace right := by
  induction h with
  | nil => simp
  | char hc _ ih => rw [List.cons_append, replaceOnce_cons hc.ne_opener, ih,
      replaceOnce_cons hc.ne_opener, List.cons_append]
  | marker hname _ ih => rw [List.append_assoc, replaceOnce_mark hname.2, ih,
      replaceOnce_mark hname.2, List.append_assoc]

/-- One pass over a marked text leaves a marked text, if only marked texts are put in. -/
theorem Markers.Marked.replaced {markers : Markers} {text : List Char}
    (h : markers.Marked text) {replace : List Char → List Char}
    (hreplace : ∀ name, markers.Marked (replace name)) :
    markers.Marked (replaceOnce markers replace text) := by
  induction h with
  | nil =>
    rw [replaceOnce_nil]
    exact .nil
  | char hc _ ih =>
    rw [replaceOnce_cons hc.ne_opener]
    exact .char hc ih
  | @marker name _ hname _ ih =>
    rw [replaceOnce_mark hname.2]
    exact (hreplace name).append ih

/-- After one pass, the names are those in what the earlier names stood for. -/
theorem Markers.Marked.names_replaceOnce {markers : Markers} {text : List Char}
    (h : markers.Marked text) {replace : List Char → List Char}
    (hreplace : ∀ name, markers.Marked (replace name)) :
    names markers (replaceOnce markers replace text) =
      (names markers text).flatMap fun name => names markers (replace name) := by
  induction h with
  | nil => simp
  | char hc _ ih => rw [replaceOnce_cons hc.ne_opener, Segment.names_cons hc.ne_opener, ih,
      Segment.names_cons hc.ne_opener]
  | @marker name _ hname _ ih => rw [replaceOnce_mark hname.2, (hreplace name).names_append, ih,
      Segment.names_mark hname.2, List.flatMap_cons]

namespace Segment

/-- The text or the name of a segment has no brackets. -/
def Free (markers : Markers) : Segment → Prop
  | literal text => markers.Free text
  | symbol name => markers.Free name

instance (markers : Markers) : (part : Segment) → Decidable (part.Free markers)
  | literal text => inferInstanceAs (Decidable (markers.Free text))
  | symbol name => inferInstanceAs (Decidable (markers.Free name))

/-- A written segment without brackets of its own is a marked text. -/
theorem Free.marked_write {markers : Markers} {part : Segment} (h : part.Free markers) :
    markers.Marked (part.write markers) := by
  cases part with
  | literal text => exact .of_free h
  | symbol name =>
    rw [write, ← List.append_nil (markers.mark name)]
    exact .marker h .nil

/-- Segments without brackets of their own are written as a marked text. -/
theorem marked_flatMap_write {markers : Markers} {parts : List Segment}
    (h : ∀ part ∈ parts, part.Free markers) : markers.Marked (parts.flatMap (write markers)) := by
  induction parts with
  | nil => exact .nil
  | cons part parts ih =>
    rw [List.flatMap_cons]
    exact (h part List.mem_cons_self).marked_write.append
      (ih fun other hother => h other (List.mem_cons_of_mem part hother))

/-- Reading loses nothing: the segments of a text are written as that text. -/
theorem flatMap_write_ofText (markers : Markers) (text : List Char) :
    (ofText markers text).flatMap (write markers) = text := by
  have hliterals (part : List Char) : (literals part).flatMap (write markers) = part := by
    cases part <;> simp [literals, write]
  induction hlength : text.length using Nat.strongRecOn generalizing text with
  | ind length ih =>
    cases hopen : cutPair markers.opener text with
    | none => rw [ofText_of_not_opened hopen, hliterals]
    | some parts =>
      obtain ⟨before, inside⟩ := parts
      cases hclose : cutPair markers.closer inside with
      | none => rw [ofText_of_not_closed hopen hclose, hliterals]
      | some tail =>
        obtain ⟨name, rest⟩ := tail
        have hopened := length_lt_of_cutPair hopen
        have hclosed := length_lt_of_cutPair hclose
        rw [ofText_of_marker hopen hclose, List.flatMap_append, hliterals, List.flatMap_cons,
          ih rest.length (by omega) rest rfl, eq_of_cutPair hopen, eq_of_cutPair hclose]
        simp [write, Markers.mark]

/-- A text is marked if it is read as segments without brackets of their own. -/
theorem marked_of_ofText {markers : Markers} {text : List Char}
    (h : ∀ part ∈ ofText markers text, part.Free markers) : markers.Marked text := by
  rw [← flatMap_write_ofText markers text]
  exact marked_flatMap_write h

/-- A written segment is read as the symbol that it is, if it is one. -/
theorem Free.names_write {markers : Markers} {part : Segment} (h : part.Free markers) :
    names markers (part.write markers) = part.name?.toList := by
  cases part with
  | literal text =>
    have hcut := cutPair_eq_none_iff.mpr fun hfound : [markers.opener, markers.opener] <:+: text =>
      h.1 (hfound.subset List.mem_cons_self)
    simp [names, write, ofText_of_not_opened hcut, name?]
  | symbol name =>
    rw [write, ← List.append_nil (markers.mark name), names_mark h.2, names_nil]
    rfl

/-- The names of written segments are the names of their symbols. -/
theorem names_flatMap_write {markers : Markers} {parts : List Segment}
    (h : ∀ part ∈ parts, part.Free markers) :
    names markers (parts.flatMap (write markers)) = parts.filterMap name? := by
  induction parts with
  | nil => simp
  | cons part parts ih =>
    have hpart := h part List.mem_cons_self
    rw [List.flatMap_cons, hpart.marked_write.names_append, hpart.names_write,
      ih fun other hother => h other (List.mem_cons_of_mem part hother), List.filterMap_cons]
    cases part.name? <;> rfl

/-- Replacement in written segments replaces their symbols. -/
theorem replaceOnce_flatMap_write {markers : Markers} {parts : List Segment}
    (h : ∀ part ∈ parts, part.Free markers) (replace : List Char → List Char) :
    replaceOnce markers replace (parts.flatMap (write markers)) =
      parts.flatMap (replaceWith replace) := by
  induction parts with
  | nil => simp
  | cons part parts ih =>
    have hpart := h part List.mem_cons_self
    rw [List.flatMap_cons, hpart.marked_write.replaceOnce_append,
      ih fun other hother => h other (List.mem_cons_of_mem part hother), List.flatMap_cons]
    congr 1
    cases part with
    | literal text => exact replaceOnce_of_names_eq_nil hpart.names_write replace
    | symbol name =>
      rw [write, ← List.append_nil (markers.mark name), replaceOnce_mark hpart.2,
        replaceOnce_nil, List.append_nil]
      rfl

end Segment

/-- The markers that can be pointed out in a marked text are the symbols read in it. -/
theorem Markers.Marked.mentions_iff {markers : Markers} {text : List Char}
    (h : markers.Marked text) (name : List Char) :
    markers.Mentions text name ↔ name ∈ names markers text := by
  constructor
  · rintro ⟨hname, hfound⟩
    induction h with
    | nil => simp [Markers.mark] at hfound
    | @char c rest hc _ ih =>
      rw [Segment.names_cons hc.ne_opener]
      rcases List.infix_cons_iff.mp hfound with hstart | hfound
      · exact absurd (List.cons_prefix_cons.mp hstart).1.symm hc.ne_opener
      · exact ih hfound
    | @marker other rest hother _ ih =>
      rw [Segment.names_mark hother.2, List.mem_cons]
      rcases infix_mark_append hother hname hfound with heq | hfound
      · exact .inl heq
      · exact .inr (ih hfound)
  · intro hmem
    induction h with
    | nil => simp at hmem
    | @char c rest hc _ ih =>
      rw [Segment.names_cons hc.ne_opener] at hmem
      obtain ⟨hname, hfound⟩ := ih hmem
      exact ⟨hname, hfound.trans (List.suffix_cons c rest).isInfix⟩
    | @marker other rest hother _ ih =>
      rw [Segment.names_mark hother.2, List.mem_cons] at hmem
      rcases hmem with rfl | hmem
      · exact ⟨hother, (List.prefix_append _ rest).isInfix⟩
      · obtain ⟨hname, hfound⟩ := ih hmem
        exact ⟨hname, hfound.trans (List.suffix_append _ rest).isInfix⟩

end UpSetProse
