import Newsstand.Text.Charset.Chinese
import Newsstand.Text.Charset.Japanese
import Newsstand.Text.Charset.Korean
import Newsstand.Text.Charset.Octets
import Newsstand.Text.Charset.Units
import Newsstand.Text.Utf8

/-!
# The character sets that documents may name

All sets with their labels. A label is read without regard to the case of its letters and to blanks
around it.
-/

namespace Newsstand.Text

/-- The set of all characters. -/
def utf8Charset : Charset where
  name := "UTF-8"
  labels := [
    "unicode-1-1-utf-8", "unicode11utf8", "unicode20utf8", "utf-8", "utf8", "x-unicode20utf8"]
  decode? octets := (Utf8.decode? octets).map String.toList

/-- The set that stands for the sets that are not safe to read: it reads nothing. -/
def replacementCharset : Charset where
  name := "replacement"
  labels := [
    "csiso2022kr", "hz-gb-2312", "iso-2022-cn", "iso-2022-cn-ext", "iso-2022-kr", "replacement"]
  decode? octets := if octets = [] then some [] else none

/-- The known sets. -/
def charsets : List Charset :=
  [utf8Charset, replacementCharset] ++ octetCharsets ++ unitCharsets ++ [eucKr] ++ japaneseCharsets
    ++ chineseCharsets

/-- Whether a character may stand around a label. -/
def isLabelBlank (c : Char) : Bool :=
  c == '\t' || c == '\n' || c == '\x0C' || c == '\r' || c == ' '

/-- The set that a label names. -/
def Charset.ofLabel? (label : String) : Option Charset :=
  let cs := dropEndWhile isLabelBlank (label.toList.dropWhile isLabelBlank)
  let label := String.ofList (cs.map Char.toLower)
  charsets.find? (·.labels.contains label)

end Newsstand.Text
