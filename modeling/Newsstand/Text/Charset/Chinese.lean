import Newsstand.Text.Charset.Basic
import Newsstand.Text.Charset.Big5Table
import Newsstand.Text.Charset.GuobiaoTable

/-!
# Chinese character sets

The national grid has places for pairs of octets; four octets write every other character. The
other grid, of the Big Five makers, is one of pairs alone.
-/

namespace Newsstand.Text

/-- The column of the second octet of a pair in the national grid. -/
def guobiaoColumn? (b : UInt8) : Option Nat :=
  if between 0x40 0x7E b then some (distance b 0x40)
  else if between 0x80 0xFE b then some (distance b 0x41)
  else none

/-- The character of two octets. -/
def guobiaoPair? (lead trail : UInt8) : Option (List Char) :=
  (guobiaoColumn? trail).bind fun column =>
    (guobiao.at? (distance lead 0x81 * 190 + column)).map ([·])

/-- The character that four octets number: one of the basic plane, or one of the planes behind it.
One number is that of a place for private use. -/
def numberedChar? (n : Nat) : Option Char :=
  if n = 7457 then some '\uE7C7'
  else if n < 189000 then guobiaoOthers[n]?
  else if n < 189000 + 0x100000 then some (Char.ofNat (0x10000 + (n - 189000)))
  else none

/-- Reads one character beyond ASCII. -/
def guobiaoReading : OctetReading := fun b rest =>
  if b = 0x80 then some (['€'], 0)
  else if b = 0xFF then none
  else
    match rest with
    | c :: d :: e :: _ =>
      if between 0x30 0x39 c then
        if between 0x81 0xFE d && between 0x30 0x39 e then
          let number :=
            ((distance b 0x81 * 10 + distance c 0x30) * 126 + distance d 0x81) * 10
              + distance e 0x30
          (numberedChar? number).map fun c => ([c], 3)
        else none
      else (guobiaoPair? b c).map fun cs => (cs, 1)
    | c :: _ => (guobiaoPair? b c).map fun cs => (cs, 1)
    | [] => none

/-- The national set. -/
def gb18030 : Charset where
  name := "gb18030"
  labels := ["gb18030"]
  decode? := decodeEach (withAscii guobiaoReading) []

/-- The older name of the national set, which is read alike. -/
def gbk : Charset where
  name := "GBK"
  labels := [
    "chinese", "csgb2312", "csiso58gb231280", "gb2312", "gb_2312", "gb_2312-80", "gbk",
    "iso-ir-58", "x-gbk"]
  decode? := decodeEach (withAscii guobiaoReading) []

/-- The column of the second octet of a pair. -/
def big5Column? (b : UInt8) : Option Nat :=
  if between 0x40 0x7E b then some (distance b 0x40)
  else if between 0xA1 0xFE b then some (distance b 0x62)
  else none

/-- The characters of a place; four places have a letter with a mark. -/
def big5Chars? (place : Nat) : Option (List Char) :=
  match place with
  | 1133 => some ['Ê', '\u0304']
  | 1135 => some ['Ê', '\u030C']
  | 1164 => some ['ê', '\u0304']
  | 1166 => some ['ê', '\u030C']
  | place => (big5.at? place).map ([·])

/-- The characters of two octets. -/
def big5Pair? (lead trail : UInt8) : Option (List Char) :=
  if between 0x81 0xFE lead then
    (big5Column? trail).bind fun column => big5Chars? (distance lead 0x81 * 157 + column)
  else none

/-- The set of the Big Five makers. -/
def big5Charset : Charset where
  name := "Big5"
  labels := ["big5", "big5-hkscs", "cn-big5", "csbig5", "x-x-big5"]
  decode? := decodeEach (withAscii (pairReading big5Pair?)) []

/-- The Chinese sets. -/
def chineseCharsets : List Charset :=
  [gbk, gb18030, big5Charset]

end Newsstand.Text
