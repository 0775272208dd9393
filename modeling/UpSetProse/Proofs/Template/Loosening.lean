import UpSetProse.Proofs.Template.Nesting
import UpSetProse.Proofs.Template.Passes
import UpSetProse.Proofs.Text.Composed

/-!
# Passes over texts with stray markers

In a text whose doubled brackets have spaces before them, a marker can only be read around a name
that ends in a space. If such names stand for themselves in single brackets, a pass takes out the
innermost pairs of doubled brackets and leaves the text spaced, so it takes as many passes to get
rid of all markers as the pairs nest deep.
-/

namespace UpSetProse

open Segment (names)

namespace Markers

/-- The doubled brackets of a text, in order. -/
def doubled (markers : Markers) : List Char → List Doubled
  | a :: b :: rest =>
    if a = markers.opener ∧ b = markers.opener then .opening :: doubled markers rest
    else if a = markers.closer ∧ b = markers.closer then .closing :: doubled markers rest
    else doubled markers (b :: rest)
  | _ => []

theorem opener_ne_closer (markers : Markers) : markers.opener ≠ markers.closer := by
  cases markers <;> decide

theorem opener_ne_space (markers : Markers) : markers.opener ≠ ' ' := by
  cases markers <;> decide

theorem closer_ne_space (markers : Markers) : markers.closer ≠ ' ' := by
  cases markers <;> decide

variable {markers : Markers}

theorem doubled_opening (rest : List Char) :
    markers.doubled (markers.opener :: markers.opener :: rest) =
      .opening :: markers.doubled rest := by
  simp [doubled]

theorem doubled_closing (rest : List Char) :
    markers.doubled (markers.closer :: markers.closer :: rest) =
      .closing :: markers.doubled rest := by
  simp [doubled, markers.opener_ne_closer.symm]

/-- A character that begins no doubled bracket is passed over. -/
theorem doubled_cons {a : Char} {rest : List Char}
    (hopener : a = markers.opener → ¬ [markers.opener] <+: rest)
    (hcloser : a = markers.closer → ¬ [markers.closer] <+: rest) :
    markers.doubled (a :: rest) = markers.doubled rest := by
  cases rest with
  | nil => rfl
  | cons b rest =>
    rw [doubled, if_neg, if_neg]
    · rintro ⟨ha, rfl⟩
      exact hcloser ha (List.prefix_append [_] rest)
    · rintro ⟨ha, rfl⟩
      exact hopener ha (List.prefix_append [_] rest)

/-- Where texts do not meet in a bracket, their doubled brackets are read one after the other. -/
theorem doubled_append_of_meet {left right : List Char}
    (hopener : [markers.opener] <:+ left → ¬ [markers.opener] <+: right)
    (hcloser : [markers.closer] <:+ left → ¬ [markers.closer] <+: right) :
    markers.doubled (left ++ right) = markers.doubled left ++ markers.doubled right := by
  fun_induction markers.doubled left with
  | case1 a b rest hpair ih =>
    obtain ⟨rfl, rfl⟩ := hpair
    have hends := List.suffix_append [markers.opener, markers.opener] rest
    exact (doubled_opening _).trans (congrArg (Doubled.opening :: ·)
      (ih (fun hend => hopener (hend.trans hends)) fun hend => hcloser (hend.trans hends)))
  | case2 a b rest _ hpair ih =>
    obtain ⟨rfl, rfl⟩ := hpair
    have hends := List.suffix_append [markers.closer, markers.closer] rest
    exact (doubled_closing _).trans (congrArg (Doubled.closing :: ·)
      (ih (fun hend => hopener (hend.trans hends)) fun hend => hcloser (hend.trans hends)))
  | case3 a b rest hopening hclosing ih =>
    have hends := List.suffix_cons a (b :: rest)
    rw [← ih (fun hend => hopener (hend.trans hends)) fun hend => hcloser (hend.trans hends)]
    exact (if_neg hopening).trans (if_neg hclosing)
  | case4 text hshort =>
    match text with
    | [] => rfl
    | [a] =>
      refine doubled_cons ?_ ?_
      · rintro rfl
        exact hopener List.suffix_rfl
      · rintro rfl
        exact hcloser List.suffix_rfl
    | a :: b :: rest => exact absurd rfl (hshort a b rest)

/-- Behind a space, doubled brackets are read afresh. -/
theorem doubled_append {left : List Char} (h : left.getLast? = some ' ') (right : List Char) :
    markers.doubled (left ++ right) = markers.doubled left ++ markers.doubled right := by
  refine doubled_append_of_meet ?_ ?_
  · rw [List.singleton_suffix_iff_getLast?_eq_some, h, Option.some.injEq]
    exact fun he => absurd he.symm markers.opener_ne_space
  · rw [List.singleton_suffix_iff_getLast?_eq_some, h, Option.some.injEq]
    exact fun he => absurd he.symm markers.closer_ne_space

/-- A text without a pair of openers opens nothing. -/
theorem opening_not_mem_doubled {text : List Char}
    (h : ¬ [markers.opener, markers.opener] <:+: text) : .opening ∉ markers.doubled text := by
  fun_induction markers.doubled text with
  | case1 a b rest hpair =>
    obtain ⟨rfl, rfl⟩ := hpair
    exact absurd (List.prefix_append [_, _] rest).isInfix h
  | case2 a b rest _ _ ih =>
    have hrest := ih fun hfound => h (hfound.trans (List.suffix_append [a, b] rest).isInfix)
    simpa using hrest
  | case3 a b rest _ _ ih =>
    exact ih fun hfound => h (hfound.trans (List.suffix_cons a (b :: rest)).isInfix)
  | case4 => exact List.not_mem_nil

/-- A text without a pair of closers closes nothing. -/
theorem closing_not_mem_doubled {text : List Char}
    (h : ¬ [markers.closer, markers.closer] <:+: text) : .closing ∉ markers.doubled text := by
  fun_induction markers.doubled text with
  | case1 a b rest _ ih =>
    have hrest := ih fun hfound => h (hfound.trans (List.suffix_append [a, b] rest).isInfix)
    simpa using hrest
  | case2 a b rest _ hpair =>
    obtain ⟨rfl, rfl⟩ := hpair
    exact absurd (List.prefix_append [_, _] rest).isInfix h
  | case3 a b rest _ _ ih =>
    exact ih fun hfound => h (hfound.trans (List.suffix_cons a (b :: rest)).isInfix)
  | case4 => exact List.not_mem_nil

end Markers

namespace Text

variable {bracket : Char} {before rest : List Char}

/-- A doubled bracket of a spaced text has a space before it. -/
theorem Spaced.getLast?_eq (h : Spaced bracket (before ++ bracket :: bracket :: rest)) :
    before.getLast? = some ' ' := by
  rcases List.eq_nil_or_concat before with rfl | ⟨initial, c, rfl⟩
  · exact absurd (List.prefix_append [_, _] rest) h.start
  · have hfound : [c, bracket, bracket] <:+: initial ++ [c] ++ bracket :: bracket :: rest :=
      ⟨initial, rest, by simp⟩
    have hspace : c = ' ' := h.inside (by simpa using hfound)
    simp [hspace]

/-- A doubled bracket of a spaced text is not tripled. -/
theorem Spaced.not_prefix (h : Spaced bracket (before ++ bracket :: bracket :: rest))
    (hspace : bracket ≠ ' ') : ¬ [bracket] <+: rest := by
  rintro ⟨tail, rfl⟩
  exact hspace (h.inside ⟨before, tail, by simp⟩)

/-- What follows anything but a space in a spaced text is spaced. -/
theorem Spaced.drop {c : Char} (h : Spaced bracket (before ++ c :: rest)) (hc : c ≠ ' ') :
    Spaced bracket rest := by
  constructor
  · rintro ⟨tail, rfl⟩
    exact hc (h.inside ⟨before, tail, by simp⟩)
  · intro c' hfound
    have hsuffix : rest <:+ before ++ c :: rest := ⟨before ++ [c], by simp⟩
    exact h.inside (hfound.trans hsuffix.isInfix)

theorem Spaced.left {right : List Char} (h : Spaced bracket (before ++ right)) :
    Spaced bracket before :=
  ⟨fun hstart => h.start (hstart.trans (List.prefix_append before right)),
    fun hfound => h.inside (hfound.trans (List.prefix_append before right).isInfix)⟩

/-- A single character doubles nothing. -/
theorem spaced_singleton (bracket c : Char) : Spaced bracket [c] :=
  ⟨fun hstart => by simpa using hstart.length_le, fun hfound => by simpa using hfound.length_le⟩

/-- A text that ends in a space does not meet another one in a bracket. -/
theorem Spaced.append_of_space {right : List Char} (h : Spaced bracket before)
    (hlast : before.getLast? = some ' ') (hspace : bracket ≠ ' ') (hright : Spaced bracket right) :
    Spaced bracket (before ++ right) := by
  refine h.append hright fun hend => ?_
  rw [List.singleton_suffix_iff_getLast?_eq_some, hlast, Option.some.injEq] at hend
  exact absurd hend.symm hspace

/-- A text with a space at its end may be put in single brackets. -/
theorem Spaced.bracketed {name rest : List Char} {first last : Char}
    (hname : Spaced bracket name) (hlast : name.getLast? = some ' ') (hspace : bracket ≠ ' ')
    (hrest : Spaced bracket rest) (hfirst : [bracket] <+: name → bracket ≠ first)
    (hmeet : [bracket] <+: rest → bracket ≠ last) :
    Spaced bracket (first :: (name ++ last :: rest)) := by
  have hbehind : Spaced bracket (last :: rest) := by
    refine (spaced_singleton bracket last).append hrest fun hend hstart => hmeet hstart ?_
    exact List.mem_singleton.mp (hend.subset List.mem_cons_self)
  refine (spaced_singleton bracket first).append
    (hname.append_of_space hlast hspace hbehind) fun hend hstart => hfirst ?_ ?_
  · cases name with
    | nil => cases hlast
    | cons a name => simpa [List.cons_prefix_cons] using hstart
  · exact List.mem_singleton.mp (hend.subset List.mem_cons_self)

end Text

namespace Markers

/-- Both brackets are spaced. -/
structure Spaced (markers : Markers) (text : List Char) : Prop where
  opener : Text.Spaced markers.opener text
  closer : Text.Spaced markers.closer text

/-- A text that is read as markers around names which end in spaces. -/
inductive Loose (markers : Markers) : List Char → Prop where
  | unopened {text : List Char} (hopen : cutPair markers.opener text = none) : Loose markers text
  | unclosed {text before inside : List Char}
    (hopen : cutPair markers.opener text = some (before, inside))
    (hclose : cutPair markers.closer inside = none) (hbefore : before.getLast? = some ' ') :
    Loose markers text
  | marker {text before inside name rest : List Char}
    (hopen : cutPair markers.opener text = some (before, inside))
    (hclose : cutPair markers.closer inside = some (name, rest))
    (hbefore : before.getLast? = some ' ') (hname : name.getLast? = some ' ')
    (hfirst : ¬ [markers.opener] <+: name) (hrest : ¬ [markers.closer] <+: rest) :
    Loose markers rest → Loose markers text

variable {markers : Markers}

/-- What follows a marker in a spaced text is spaced. -/
theorem Spaced.behind {text before inside name rest : List Char} (h : markers.Spaced text)
    (hopen : cutPair markers.opener text = some (before, inside))
    (hclose : cutPair markers.closer inside = some (name, rest)) : markers.Spaced rest := by
  have hsplit : text = (before ++ markers.opener :: markers.opener :: (name ++ [markers.closer])) ++
      markers.closer :: rest := by
    rw [eq_of_cutPair hopen, eq_of_cutPair hclose]
    simp
  rw [hsplit] at h
  exact ⟨h.opener.drop markers.closer_ne_space, h.closer.drop markers.closer_ne_space⟩

/-- A spaced text is read in that way. -/
theorem Spaced.loose {text : List Char} (h : markers.Spaced text) : markers.Loose text := by
  induction hlength : text.length using Nat.strongRecOn generalizing text with
  | ind length ih =>
    cases hopen : cutPair markers.opener text with
    | none => exact .unopened hopen
    | some parts =>
      obtain ⟨before, inside⟩ := parts
      have hopened := length_lt_of_cutPair hopen
      have htext := eq_of_cutPair hopen
      have hopener := h.opener
      rw [htext] at hopener
      cases hclose : cutPair markers.closer inside with
      | none => exact .unclosed hopen hclose hopener.getLast?_eq
      | some parts =>
        obtain ⟨name, rest⟩ := parts
        have hclosed := length_lt_of_cutPair hclose
        have hinside := eq_of_cutPair hclose
        have hsplit : text = (before ++ [markers.opener, markers.opener] ++ name) ++
            markers.closer :: markers.closer :: rest := by
          rw [htext, hinside]
          simp
        have hcloser := h.closer
        rw [hsplit] at hcloser
        refine .marker hopen hclose hopener.getLast?_eq ?_ (fun hstart => ?_)
          (hcloser.not_prefix markers.closer_ne_space) (ih _ (by omega) (h.behind hopen hclose) rfl)
        · have hlast := hcloser.getLast?_eq
          cases name with
          | nil => simp [markers.opener_ne_space] at hlast
          | cons a name => rwa [List.getLast?_append_of_ne_nil _ (List.cons_ne_nil a name)] at hlast
        · refine hopener.not_prefix markers.opener_ne_space ?_
          rw [hinside]
          exact hstart.trans (List.prefix_append name _)

/-- Names that end in spaces stand for themselves in single brackets. -/
def Keeps (markers : Markers) (replace : List Char → List Char) : Prop :=
  ∀ name : List Char, name.getLast? = some ' ' →
    replace name = markers.opener :: name ++ [markers.closer]

namespace Loose

variable {replace : List Char → List Char} {text : List Char}

/-- How a text around its first marker changes in a pass. -/
theorem replaceOnce_marker {before inside name rest : List Char}
    (hopen : cutPair markers.opener text = some (before, inside))
    (hclose : cutPair markers.closer inside = some (name, rest)) :
    replaceOnce markers replace text =
      before ++ (replace name ++ replaceOnce markers replace rest) := by
  rw [replaceOnce, Segment.ofText_of_marker hopen hclose, List.flatMap_append,
    Segment.flatMap_replaceWith_literals, List.flatMap_cons]
  rfl

/-- A pass keeps the beginning of a text. -/
theorem singleton_prefix_replaceOnce_iff (h : markers.Loose text) (c : Char) :
    [c] <+: replaceOnce markers replace text ↔ [c] <+: text := by
  cases h with
  | unopened hopen =>
    rw [replaceOnce, Segment.ofText_of_not_opened hopen, Segment.flatMap_replaceWith_literals]
  | unclosed hopen hclose =>
    rw [replaceOnce, Segment.ofText_of_not_closed hopen hclose,
      Segment.flatMap_replaceWith_literals]
  | @marker _ before inside name rest hopen hclose hbefore =>
    rw [replaceOnce_marker hopen hclose, eq_of_cutPair hopen]
    cases before with
    | nil => cases hbefore
    | cons a before => simp [List.cons_prefix_cons]

/-- The doubled brackets around the first marker. -/
theorem doubled_marker {before inside name rest : List Char}
    (hopen : cutPair markers.opener text = some (before, inside))
    (hclose : cutPair markers.closer inside = some (name, rest))
    (hbefore : before.getLast? = some ' ') (hname : name.getLast? = some ' ') :
    markers.doubled text = markers.doubled before ++
      .opening :: (markers.doubled name ++ .closing :: markers.doubled rest) := by
  rw [eq_of_cutPair hopen, doubled_append hbefore, doubled_opening, eq_of_cutPair hclose,
    doubled_append hname, doubled_closing]

/-- A pass takes out the innermost pairs of doubled brackets. -/
theorem doubled_replaceOnce (h : markers.Loose text) (hreplace : markers.Keeps replace) :
    markers.doubled (replaceOnce markers replace text) = Doubled.strip (markers.doubled text) := by
  induction h with
  | unopened hopen =>
    rw [replaceOnce, Segment.ofText_of_not_opened hopen, Segment.flatMap_replaceWith_literals]
    have hopening := opening_not_mem_doubled (cutPair_eq_none_iff.mp hopen)
    rw [← List.append_nil (markers.doubled _), Doubled.strip_append hopening]
    rfl
  | unclosed hopen hclose hbefore =>
    rw [replaceOnce, Segment.ofText_of_not_closed hopen hclose,
      Segment.flatMap_replaceWith_literals, eq_of_cutPair hopen, doubled_append hbefore,
      doubled_opening, Doubled.strip_append (opening_not_mem_doubled (not_infix_of_cutPair hopen)),
      Doubled.strip_eq_self]
    simpa using closing_not_mem_doubled (cutPair_eq_none_iff.mp hclose)
  | @marker text before inside name rest hopen hclose hbefore hname hfirst hrest hloose ih =>
    have hkept : markers.doubled (markers.opener ::
        (name ++ markers.closer :: replaceOnce markers replace rest)) =
          markers.doubled name ++ markers.doubled (replaceOnce markers replace rest) := by
      rw [doubled_cons, doubled_append hname, doubled_cons]
      · exact fun he => absurd he.symm markers.opener_ne_closer
      · exact fun _ => (hloose.singleton_prefix_replaceOnce_iff _).not.mpr hrest
      · intro _
        cases name with
        | nil => cases hname
        | cons a name => simpa [List.cons_prefix_cons] using hfirst
      · exact fun he => absurd he markers.opener_ne_closer
    rw [replaceOnce_marker hopen hclose, hreplace name hname, doubled_append hbefore,
      List.cons_append, List.cons_append, List.append_assoc, List.singleton_append, hkept, ih,
      doubled_marker hopen hclose hbefore hname,
      Doubled.strip_append (opening_not_mem_doubled (not_infix_of_cutPair hopen)),
      Doubled.strip_opening_append (closing_not_mem_doubled (not_infix_of_cutPair hclose))]

/-- A text holds a name exactly if its doubled brackets nest. -/
theorem names_eq_nil_iff (h : markers.Loose text) :
    names markers text = [] ↔ Doubled.nesting (markers.doubled text) = 0 := by
  constructor
  · intro hnil
    have hkeeps : markers.Keeps fun name => markers.opener :: name ++ [markers.closer] :=
      fun _ _ => rfl
    have hfixed := h.doubled_replaceOnce hkeeps
    rw [replaceOnce_of_names_eq_nil hnil] at hfixed
    have hless := Doubled.nesting_strip (markers.doubled text)
    rw [← hfixed] at hless
    omega
  · intro hzero
    cases h with
    | unopened hopen =>
      rw [names, Segment.ofText_of_not_opened hopen, Segment.filterMap_name?_literals]
    | unclosed hopen hclose =>
      rw [names, Segment.ofText_of_not_closed hopen hclose, Segment.filterMap_name?_literals]
    | marker hopen hclose hbefore hname =>
      rw [doubled_marker hopen hclose hbefore hname] at hzero
      exact absurd hzero (Doubled.nesting_pos (List.mem_append_right _ List.mem_cons_self)).ne'

end Loose

/-- A pass leaves a spaced text spaced. -/
theorem Spaced.replaceOnce {text : List Char} {replace : List Char → List Char}
    (h : markers.Spaced text) (hreplace : markers.Keeps replace) :
    markers.Spaced (replaceOnce markers replace text) := by
  have hloose := h.loose
  induction hloose with
  | unopened hopen =>
    rwa [UpSetProse.replaceOnce, Segment.ofText_of_not_opened hopen,
      Segment.flatMap_replaceWith_literals]
  | unclosed hopen hclose =>
    rwa [UpSetProse.replaceOnce, Segment.ofText_of_not_closed hopen hclose,
      Segment.flatMap_replaceWith_literals]
  | @marker text before inside name rest hopen hclose hbefore hname hfirst hrest hloose ih =>
    have hkept := ih (h.behind hopen hclose)
    have hwithin : name <:+: text := ⟨before ++ [markers.opener, markers.opener],
      markers.closer :: markers.closer :: rest, by
        rw [eq_of_cutPair hopen, eq_of_cutPair hclose]; simp⟩
    have hmeet : ¬ [markers.closer] <+: UpSetProse.replaceOnce markers replace rest :=
      (hloose.singleton_prefix_replaceOnce_iff _).not.mpr hrest
    rw [Loose.replaceOnce_marker hopen hclose, hreplace name hname, List.append_assoc,
      List.cons_append, List.singleton_append]
    have hbounds := eq_of_cutPair hopen ▸ h
    constructor
    · have hinner : Text.Spaced markers.opener name :=
        ⟨fun hstart => hfirst ((List.prefix_append [_] [_]).trans hstart),
          fun hfound => h.opener.inside (hfound.trans hwithin)⟩
      exact hbounds.opener.left.append_of_space hbefore markers.opener_ne_space
        (hinner.bracketed hname markers.opener_ne_space hkept.opener
          (fun hstart => absurd hstart hfirst) fun _ => markers.opener_ne_closer)
    · have hinner : Text.Spaced markers.closer name :=
        ⟨fun hstart => not_infix_of_cutPair hclose hstart.isInfix,
          fun hfound => h.closer.inside (hfound.trans hwithin)⟩
      exact hbounds.closer.left.append_of_space hbefore markers.closer_ne_space
        (hinner.bracketed hname markers.closer_ne_space hkept.closer
          (fun _ => markers.opener_ne_closer.symm) fun hstart => absurd hstart hmeet)

end Markers

namespace Substitution

variable {substitution : Substitution} {phase : Phase} {text : List Char}

/-- Every pass makes the nesting of a spaced text less by one. -/
theorem nesting_after (hkeeps : phase.markers.Keeps substitution.replaceChars)
    (h : phase.markers.Spaced text) (passes : Nat) :
    phase.markers.Spaced (substitution.after phase passes text) ∧
      Doubled.nesting (phase.markers.doubled (substitution.after phase passes text)) =
        Doubled.nesting (phase.markers.doubled text) - passes := by
  induction passes with
  | zero => exact ⟨h, rfl⟩
  | succ passes ih =>
    rw [after_succ]
    refine ⟨ih.1.replaceOnce hkeeps, ?_⟩
    rw [ih.1.loose.doubled_replaceOnce hkeeps, Doubled.nesting_strip, ih.2]
    omega

/-- A spaced text takes as many passes as its doubled brackets nest deep. -/
theorem names_after_eq_nil_iff (hkeeps : phase.markers.Keeps substitution.replaceChars)
    (h : phase.markers.Spaced text) (passes : Nat) :
    names phase.markers (substitution.after phase passes text) = [] ↔
      Doubled.nesting (phase.markers.doubled text) ≤ passes := by
  obtain ⟨hspaced, hnesting⟩ := nesting_after hkeeps h passes
  rw [hspaced.loose.names_eq_nil_iff, hnesting]
  omega

end Substitution
end UpSetProse
