/-!
# Segments of a template

A template is text with marked symbols: a name between two doubled brackets. It is read from the
left; a symbol reaches from an opening pair to the first closing pair after it, and an opening pair
without a closing one is ordinary text.
-/

namespace UpSetProse

/-- The two kinds of brackets that mark symbols when doubled. -/
inductive Markers where
  | square | curly
  deriving DecidableEq, Repr

namespace Markers

/-- The bracket of which two open a symbol. -/
def opener : Markers → Char
  | square => '['
  | curly => '\x7b'

/-- The bracket of which two close a symbol. -/
def closer : Markers → Char
  | square => ']'
  | curly => '\x7d'

/-- A name with its markers around it. -/
def mark (markers : Markers) (name : List Char) : List Char :=
  markers.opener :: markers.opener :: name ++ [markers.closer, markers.closer]

end Markers

/-- A piece of a template. -/
inductive Segment where
  | literal (text : List Char)
  | symbol (name : List Char)
  deriving DecidableEq, Repr

/-- The text before and the text after the first pair of a character. -/
def cutPair (c : Char) : List Char → Option (List Char × List Char)
  | a :: b :: rest =>
    if a = c ∧ b = c then some ([], rest)
    else (cutPair c (b :: rest)).map fun (before, after) => (a :: before, after)
  | _ => none

/-- Cutting takes out the pair and nothing else. -/
theorem eq_of_cutPair {c : Char} {text before after : List Char}
    (h : cutPair c text = some (before, after)) : text = before ++ c :: c :: after := by
  induction text generalizing before with
  | nil => simp [cutPair] at h
  | cons a rest ih =>
    cases rest with
    | nil => simp [cutPair] at h
    | cons b rest =>
      unfold cutPair at h
      split at h
      · rename_i hpair
        obtain ⟨rfl, rfl⟩ := hpair
        cases h
        rfl
      · obtain ⟨⟨before', after'⟩, hcut, hmap⟩ := Option.map_eq_some_iff.1 h
        cases hmap
        rw [ih hcut]
        rfl

theorem length_lt_of_cutPair {c : Char} {text before after : List Char}
    (h : cutPair c text = some (before, after)) : after.length < text.length := by
  rw [eq_of_cutPair h]
  simp
  omega

namespace Segment

/-- A text as a literal, unless it is empty. -/
def literals (text : List Char) : List Segment := if text.isEmpty then [] else [.literal text]

/-- The segments of a text for one kind of markers. -/
def ofText (markers : Markers) (text : List Char) : List Segment :=
  match _opened : cutPair markers.opener text with
  | none => literals text
  | some (before, inside) =>
    match _closed : cutPair markers.closer inside with
    | none => literals text
    | some (name, rest) => literals before ++ .symbol name :: ofText markers rest
termination_by text.length
decreasing_by
  have := length_lt_of_cutPair _opened
  have := length_lt_of_cutPair _closed
  omega

/-- A segment as it stands in the text. -/
def write (markers : Markers) : Segment → List Char
  | literal text => text
  | symbol name => markers.mark name

/-- The name of a symbol. -/
def name? : Segment → Option (List Char)
  | literal _ => none
  | symbol name => some name

/-- A segment with a symbol replaced. -/
def replaceWith (replace : List Char → List Char) : Segment → List Char
  | literal text => text
  | symbol name => replace name

end Segment
end UpSetProse
