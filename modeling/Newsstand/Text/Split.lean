/-!
# Splitting text

A text cut at every occurrence of a character. There is always one part more than there are cuts,
so an empty text has one empty part.
-/

namespace Newsstand.Text

/-- The parts of what is left of a text; `part` holds the part begun, its last character first. -/
def splitFrom (sep : Char) (part : List Char) : List Char → List (List Char)
  | [] => [part.reverse]
  | c :: rest =>
    if c = sep then part.reverse :: splitFrom sep [] rest else splitFrom sep (c :: part) rest

/-- The parts of a text between the occurrences of `sep`. -/
def splitAtChar (sep : Char) (cs : List Char) : List (List Char) :=
  splitFrom sep [] cs

/-- The parts with `sep` between each two of them. -/
def joinWith (sep : Char) : List (List Char) → List Char
  | [] => []
  | [part] => part
  | part :: parts => part ++ sep :: joinWith sep parts

theorem splitFrom_ne_nil (sep : Char) (part cs : List Char) : splitFrom sep part cs ≠ [] := by
  induction cs generalizing part with
  | nil => simp [splitFrom]
  | cons c cs ih =>
    simp only [splitFrom]
    split
    · simp
    · exact ih _

theorem joinWith_splitFrom (sep : Char) (part cs : List Char) :
    joinWith sep (splitFrom sep part cs) = part.reverse ++ cs := by
  induction cs generalizing part with
  | nil => simp [splitFrom, joinWith]
  | cons c cs ih =>
    simp only [splitFrom]
    split
    · next h =>
      have hne := splitFrom_ne_nil sep [] cs
      cases hs : splitFrom sep [] cs with
      | nil => exact absurd hs hne
      | cons p ps => rw [joinWith, ← hs, ih] <;> simp [h]
    · rw [ih]; simp

/-- The parts with the separator between them make up the text again. -/
theorem joinWith_splitAtChar (sep : Char) (cs : List Char) :
    joinWith sep (splitAtChar sep cs) = cs := by
  simp [splitAtChar, joinWith_splitFrom]

end Newsstand.Text
