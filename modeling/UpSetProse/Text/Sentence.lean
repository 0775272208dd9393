import UpSetProse.Text.Characters
import UpSetProse.Text.UpperCase

/-!
# Sentence capitals

A text is trimmed, and every lower-case letter at its start or after the end of a sentence (a full
stop, exclamation or question mark followed by white space) becomes upper case. One pass from the
left remembers only where it stands relative to the last sentence end.
-/

namespace UpSetProse.Text

/-- What the characters read so far say about the next one. -/
inductive SentencePlace where
  /-- Nothing has been read. -/
  | start
  /-- The last character neither ended a sentence nor was white space after such an end. -/
  | inside
  /-- The last character was a stop. -/
  | stopped
  /-- A stop and then only white space were read last. -/
  | opened
  deriving DecidableEq, Repr

/-- The characters that end a sentence. -/
def isStop (c : Char) : Bool := c = '.' || c = '!' || c = '?'

namespace SentencePlace

def next (place : SentencePlace) (c : Char) : SentencePlace :=
  if isStop c then stopped
  else if isBlank c then
    match place with
    | stopped | opened => opened
    | start | inside => inside
  else inside

/-- Whether a letter in this place begins a sentence. -/
def begins : SentencePlace → Bool
  | start | opened => true
  | inside | stopped => false

/-- What is written for a character in this place. -/
def write (place : SentencePlace) (c : Char) : List Char :=
  if place.begins && isLowerLetter c then upperCase c else [c]

end SentencePlace

/-- Capitalizes the sentence starts of a text that continues from the given place. -/
def capitalizeFrom : SentencePlace → List Char → List Char
  | _, [] => []
  | place, c :: rest => place.write c ++ capitalizeFrom (place.next c) rest

/-- Trims a text and capitalizes the first letter of every sentence. -/
def capitalizeSentences (text : List Char) : List Char := capitalizeFrom .start (trim text)

end UpSetProse.Text
