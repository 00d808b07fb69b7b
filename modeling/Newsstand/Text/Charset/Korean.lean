import Newsstand.Text.Charset.Basic
import Newsstand.Text.Charset.KoreanTable

/-!
# The Korean character set

Pairs from the upper half of octets are places of the grid; all other pairs are the syllables that
the grid lacks.
-/

namespace Newsstand.Text

/-- The column of the second octet of a syllable that is not in the grid. -/
def syllableColumn? (b : UInt8) : Option Nat :=
  if between 0x41 0x5A b then some (distance b 0x41)
  else if between 0x61 0x7A b then some (26 + distance b 0x61)
  else if between 0x81 0xFE b then some (52 + distance b 0x81)
  else none

/-- The number of a pair among the syllables that are not in the grid. The first 32 rows have 178
columns, and those that share their row with the grid have 84. -/
def syllableNumber? (lead trail : UInt8) : Option Nat :=
  (syllableColumn? trail).bind fun column =>
    if between 0x81 0xA0 lead then some (distance lead 0x81 * 178 + column)
    else if between 0xA1 0xC6 lead && column < 84 then
      some (32 * 178 + distance lead 0xA1 * 84 + column)
    else none

/-- The character of two octets. -/
def koreanPair? (lead trail : UInt8) : Option (List Char) :=
  if between 0xA1 0xFE lead && between 0xA1 0xFE trail then
    (ks1001.at? (distance lead 0xA1 * 94 + distance trail 0xA1)).map ([·])
  else ((syllableNumber? lead trail).bind (otherSyllables[·]?)).map ([·])

/-- The Korean set. -/
def eucKr : Charset where
  name := "EUC-KR"
  labels := [
    "cseuckr", "csksc56011987", "euc-kr", "iso-ir-149", "korean", "ks_c_5601-1987",
    "ks_c_5601-1989", "ksc5601", "ksc_5601", "windows-949"]
  decode? := decodeEach (withAscii (pairReading koreanPair?)) []

end Newsstand.Text
