import UpSetProse.Text.Characters

/-!
# Documents in Markdown

A document is a title, sections, and a glossary of the terms that a long description uses. Titles
come from the author of a plot; written as a heading, a title is one line in which no further
heading can begin.
-/

namespace UpSetProse

/-- The terms with their definitions, in the order in which they are listed. -/
def Glossary.entries : List (String × String) :=
  [("Elements",
    "elements are discrete entities, such as people, movies, or countries. They are often " ++
    "the rows in tables, and we record attributes about them."),
   ("Set",
    "a set is an attribute of an element that expresses a \"part-of\", \"is-a\" or \"has-a\" " ++
    "relationship. For example, a person can be in a club (a part-of relationship), or a " ++
    "car can be of a type, such as a convertible (an is-a relationship). Sets are often " ++
    "columns in a table."),
   ("Set sizes",
    "set sizes count how many elements are in a certain set. For example, if a dataset has " ++
    "100 cars as elements, and 30 of the cars are convertibles, the size of the set " ++
    "\"convertibles\" is 30."),
   ("Intersections",
    "sets of attributes commonly intersect. For example, a car can be in both the " ++
    "\"electric\" set and the \"convertible\" set."),
   ("Intersection size", "the number of elements that are in a particular intersection."),
   ("All-set intersection", "a special intersection of all sets in the dataset."),
   ("No-set intersection",
    "a special intersection that contains the elements that are in no set in the dataset."),
   ("Individual-set intersection",
    "a special intersection that contains elements that are only in one set and in no other."),
   ("Low-degree intersections", "intersections between only a few sets."),
   ("High-degree intersections", "intersections between many sets.")]

/-- A titled document with sections. -/
structure Document where
  title : String
  /-- Headings with the text below them. -/
  sections : List (String × String)
  deriving DecidableEq, Repr

namespace Document

/-- A number sign, which could begin a heading, is escaped. -/
def escapeNumberSign (c : Char) : List Char := if c = '#' then ['\\', '#'] else [c]

/-- A text as a heading: words with single spaces between them, number signs escaped. -/
def headingText (raw : String) : String :=
  String.ofList (([' '].intercalate (Text.words raw.toList)).flatMap escapeNumberSign)

/-- A trimmed text below its heading. -/
def renderSection (part : String × String) : String :=
  "## " ++ headingText part.1 ++ "\n\n" ++ String.ofList (Text.trim part.2.toList) ++ "\n\n"

def renderEntry (entry : String × String) : String :=
  "- **" ++ entry.1 ++ "**: " ++ entry.2 ++ "\n"

/-- The glossary below its heading. -/
def renderGlossary : String :=
  "## Glossary\n\n" ++ String.join (Glossary.entries.map renderEntry)

/-- The Markdown text of a document. -/
def render (document : Document) : String :=
  "# " ++ headingText document.title ++ "\n\n" ++
    String.join (document.sections.map renderSection) ++ renderGlossary

end Document
end UpSetProse
