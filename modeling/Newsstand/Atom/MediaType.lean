import Newsstand.Text.Blank
import Newsstand.Text.Split

/-!
# Media types

The name of a kind of content: a type, a slash, a subtype and parameters behind semicolons.
-/

namespace Newsstand.MediaType

open Newsstand.Text

/-- Whether a character may stand in a name. -/
def inName (c : Char) : Bool :=
  c.isAlphanum || "!#$&-^_.+".toList.contains c

/-- Whether a text is a name; a name starts with a letter or a digit. -/
def isName (cs : List Char) : Bool :=
  cs.head?.any Char.isAlphanum && cs.all inName

/-- Whether a text is the value of a parameter: a name, or any text in quotes. -/
def isValue (cs : List Char) : Bool :=
  isName cs || (2 ≤ cs.length && cs.head? == some '"' && cs.getLast? == some '"')

/-- Whether a text is a parameter. -/
def isParameter (cs : List Char) : Bool :=
  let cs := trimChars cs
  isName (cs.takeWhile (· != '=')) && cs.contains '='
    && isValue ((cs.dropWhile (· != '=')).drop 1)

/-- Whether a text names a media type. -/
def isMediaType (text : String) : Bool :=
  match splitAtChar ';' text.toList with
  | [] => false
  | essence :: parameters =>
    (match splitAtChar '/' essence with
      | [type, subtype] => isName type && isName subtype
      | _ => false)
      && parameters.all isParameter

end Newsstand.MediaType
