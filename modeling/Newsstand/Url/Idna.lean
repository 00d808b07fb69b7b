import Newsstand.Unicode.Composition
import Newsstand.Unicode.Direction
import Newsstand.Unicode.Joining
import Newsstand.Url.Idna.Mapping
import Newsstand.Url.Punycode

/-!
# International host names

A host name is mapped character by character, composed, and cut at its dots; each label beyond ASCII
is then written in ASCII behind `xn--`. A label that comes in this form already has to stand for a
label that could be written in it. Labels with marks or joiners out of place, and names of mixed
direction that could be misread, are refused.
-/

namespace Newsstand.Idna

open Newsstand.Text Newsstand.Unicode

/-- Whether a character is an ASCII character. -/
def isAscii (c : Char) : Bool :=
  c.toNat < 128

/-- The ASCII characters that no host name may hold. -/
def isForbidden (c : Char) : Bool :=
  c.toNat ≤ 0x20 || c.toNat == 0x7F || "%#/:<>?@[\\]^|".toList.contains c

/-- The text that takes a character's place, if the character is allowed. -/
def mapChar? (c : Char) : Option (List Char) :=
  if isAscii c then some [c.toLower]
  else
    match status c.toNat with
    | .valid => some [c]
    | .mapped text => some text
    | .ignored => some []
    | .disallowed => none

/-- The text that takes the place of a whole name; none if a character is not allowed. -/
def mapName? (cs : List Char) : Option (List Char) :=
  match cs.mapM mapChar? with
  | none => none
  | some parts => if parts.flatten.any isForbidden then none else some parts.flatten

/-- The composed form of a text. -/
def composed (cs : List Char) : List Char :=
  if cs.all isAscii then cs else (compose (cs.map Char.toNat)).map Char.ofNat

/-! ### Labels -/

/-- Whether a joiner is allowed between two parts of a label, of which the first is reversed: behind
a virama, or, if it only keeps letters apart, between letters that would join. -/
def joinerAllowed (before : List Nat) (joiner : Nat) (after : List Nat) : Bool :=
  let afterVirama := before.head?.any isVirama
  let leftJoins := (before.dropWhile (joining · == .transparent)).head?.any fun code =>
    joining code == .left || joining code == .dual
  let rightJoins := (after.dropWhile (joining · == .transparent)).head?.any fun code =>
    joining code == .right || joining code == .dual
  afterVirama || (joiner == 0x200C && leftJoins && rightJoins)

/-- Whether every joiner of a label is allowed; `before` holds what is passed, reversed. -/
def joinersAllowed (before : List Nat) : List Nat → Bool
  | [] => true
  | code :: after =>
    (if code = 0x200C ∨ code = 0x200D then joinerAllowed before code after else true)
      && joinersAllowed (code :: before) after

/-- Whether a label beyond ASCII may stand in a name. -/
def labelAllowed (label : List Char) : Bool :=
  let codes := label.map Char.toNat
  !(codes.head?.any isMark) && joinersAllowed [] codes

/-- Whether a character stands as it is in a label that has been read from its written form. -/
def standsAsIs (c : Char) : Bool :=
  if isAscii c then c.toLower == c && !isForbidden c else status c.toNat == .valid

/-- The largest number of characters of a label that is written in ASCII. -/
def maxLabelLength : Nat := 1000

/-- The largest number of characters of a written label, without its `xn--`. -/
def maxWrittenLength : Nat := 2000

/-- Reads a written label, without its `xn--`; only the label's own written form is accepted. -/
def readLabel? (written : List Char) : Option (List Char) :=
  match if maxWrittenLength < written.length then none else Punycode.decode? written with
  | none => none
  | some label =>
    if !label.all isAscii && label.all standsAsIs && composed label == label
        && labelAllowed label && !label.contains '.' then some label
    else none

/-- A label as it stands in the mapped name and as its readers see it. -/
structure Label where
  ascii : List Char
  text : List Char

/-- The two forms of a label; none if it is refused. -/
def label? (cs : List Char) : Option Label :=
  if cs.take 4 = "xn--".toList then
    if cs.all isAscii then (readLabel? (cs.drop 4)).map fun text => ⟨cs, text⟩ else none
  else if cs.all isAscii then some ⟨cs, cs⟩
  else if labelAllowed cs && cs.length ≤ maxLabelLength then
    some ⟨"xn--".toList ++ Punycode.encode cs, cs⟩
  else none

/-! ### Mixed direction -/

/-- Whether a character makes its name one of mixed direction. -/
def isRightToLeft (code : Nat) : Bool :=
  let d := direction code
  d == .rightToLeft || d == .arabicLetter || d == .arabicNumber

/-- Whether a label of a name of mixed direction keeps to one direction. -/
def directionAllowed (label : List Nat) : Bool :=
  let classes := label.map direction
  let neutral : List Direction :=
    [.europeanNumber, .europeanSeparator, .commonSeparator, .europeanTerminator, .otherNeutral,
      .boundaryNeutral, .nonspacingMark]
  let last := (classes.reverse.dropWhile (· == .nonspacingMark)).head?
  match classes.head? with
  | none => true
  | some .leftToRight =>
    classes.all (fun d => d == .leftToRight || neutral.contains d)
      && (last == some .leftToRight || last == some .europeanNumber)
  | some first =>
    (first == .rightToLeft || first == .arabicLetter)
      && classes.all (fun d =>
        d == .rightToLeft || d == .arabicLetter || d == .arabicNumber || neutral.contains d)
      && (last == some .rightToLeft || last == some .arabicLetter || last == some .arabicNumber
        || last == some .europeanNumber)
      && !(classes.contains .europeanNumber && classes.contains .arabicNumber)

/-- Whether the labels of a name may stand together. -/
def directionsAllowed (labels : List Label) : Bool :=
  let texts := labels.map (·.text.map Char.toNat)
  if texts.any (·.any isRightToLeft) then texts.all directionAllowed else true

/-- The ASCII form of a name; none if it is refused. -/
def toAscii? (cs : List Char) : Option (List Char) :=
  match mapName? cs with
  | none => none
  | some mapped =>
    match (splitAtChar '.' (composed mapped)).mapM label? with
    | none => none
    | some labels =>
      if directionsAllowed labels then some (joinWith '.' (labels.map (·.ascii))) else none

end Newsstand.Idna
