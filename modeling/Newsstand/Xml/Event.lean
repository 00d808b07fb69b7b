import Newsstand.Text.Blank
import Newsstand.Xml.Fault

/-!
# Markup as a sequence of events

A document is read from left to right into events: text up to the next `<`, and the markup that
`<` begins, told apart by the character behind it. The reader checks that markup is closed and that
each end tag closes the innermost open element; it checks nothing else, so text may stand anywhere
and a document may end with elements still open. A `Transcript` holds the events up to the first
fault, and the fault.
-/

namespace Newsstand.Xml

open Newsstand.Text

/-- The characters that separate the parts of a tag. -/
def isSpace (c : Char) : Bool :=
  c == ' ' || c == '\t' || c == '\r' || c == '\n'

/-- What stands in a start tag or a self-closing tag, without its brackets and its slash. -/
structure Tag where
  content : List Char
  deriving DecidableEq, Repr

namespace Tag

/-- The tag's qualified name: all up to the first space. -/
def name (tag : Tag) : List Char :=
  tag.content.takeWhile (!isSpace ·)

/-- The tag's content behind its name. -/
def attributeText (tag : Tag) : List Char :=
  tag.content.dropWhile (!isSpace ·)

/-- What follows the first colon of a name, or the whole name if it has none. -/
def localPart (name : List Char) : List Char :=
  match name.dropWhile (· != ':') with
  | _ :: rest => rest
  | [] => name

/-- The tag's name without its namespace prefix. -/
def localName (tag : Tag) : List Char :=
  localPart tag.name

end Tag

/-- One piece of a document. -/
inductive Event where
  | opened (tag : Tag)
  | single (tag : Tag)
  | closed (name : List Char)
  | text (raw : List Char)
  | cdata (body : List Char)
  | doctype (body : List Char)
  | comment
  | instruction (content : List Char)
  deriving DecidableEq, Repr

/-- Splits behind the `>` that ends a tag; a `>` in quotes ends none. `quote` is the quote that
stands open, `done` what has been passed, the last character first. -/
def splitTag (quote : Option Char) (done : List Char) : List Char → Option (List Char × List Char)
  | [] => none
  | c :: rest =>
    match quote with
    | none =>
      if c = '>' then some (done.reverse, rest)
      else if c = '"' ∨ c = '\'' then splitTag (some c) (c :: done) rest
      else splitTag none (c :: done) rest
    | some q =>
      if c = q then splitTag none (c :: done) rest else splitTag (some q) (c :: done) rest

/-- Splits behind the first `>` whose passed characters satisfy `ends`; these are given the last
one first, with their number. -/
def splitAtBracket (ends : Nat → List Char → Bool) (count : Nat) (done : List Char) :
    List Char → Option (List Char × List Char)
  | [] => none
  | c :: rest =>
    if c = '>' ∧ ends count done = true then some (done.reverse, rest)
    else splitAtBracket ends (count + 1) (c :: done) rest

/-- A comment ends at `-->`, not before its sixth character. -/
def endsComment (count : Nat) (done : List Char) : Bool :=
  match done with
  | '-' :: '-' :: _ => decide (5 ≤ count)
  | _ => false

/-- A character data section ends at `]]>`. -/
def endsCData (_ : Nat) (done : List Char) : Bool :=
  match done with
  | ']' :: ']' :: _ => true
  | _ => false

/-- An instruction ends at `?>`. -/
def endsInstruction (_ : Nat) (done : List Char) : Bool :=
  match done with
  | '?' :: _ => true
  | _ => false

/-- Splits behind the `>` that ends a document type declaration: the first one before which as many
brackets have closed as opened. -/
def splitDoctype (depth : Int) (done : List Char) : List Char → Option (List Char × List Char)
  | [] => none
  | c :: rest =>
    if c = '>' then
      if depth = 0 then some (done.reverse, rest) else splitDoctype (depth - 1) (c :: done) rest
    else splitDoctype (if c = '<' then depth + 1 else depth) (c :: done) rest

/-- An ASCII letter as a lower-case letter. -/
def lowered (cs : List Char) : List Char :=
  cs.map Char.toLower

/-- What one piece of markup is: an event or a fault, and the rest of the input. -/
abbrev Piece := Except Fault (Event × List Char)

/-- Reads a comment; `cs` starts at the exclamation mark. -/
def readComment (cs : List Char) : Piece :=
  match splitAtBracket endsComment 0 [] cs with
  | some ('!' :: '-' :: '-' :: _, rest) => .ok (.comment, rest)
  | _ => .error .unclosedComment

/-- Reads a character data section; `cs` starts at the exclamation mark. -/
def readCData (cs : List Char) : Piece :=
  match splitAtBracket endsCData 0 [] cs with
  | some (body, rest) =>
    if body.take 8 = "![CDATA[".toList then .ok (.cdata ((body.drop 8).dropLast.dropLast), rest)
    else .error .unclosedCData
  | none => .error .unclosedCData

/-- Reads a document type declaration; `cs` starts at the exclamation mark. -/
def readDoctype (cs : List Char) : Piece :=
  match splitDoctype 0 [] cs with
  | some (body, rest) =>
    if lowered (body.take 8) = "!doctype".toList then
      match (body.drop 8).dropWhile isSpace with
      | [] => .error .missingDoctypeName
      | body => .ok (.doctype body, rest)
    else .error .unclosedDoctype
  | none => .error .unclosedDoctype

/-- Reads an instruction or a declaration; `cs` starts at the question mark. -/
def readInstruction (cs : List Char) : Piece :=
  match splitAtBracket endsInstruction 0 [] cs with
  | some ('?' :: c :: content, rest) => .ok (.instruction (c :: content).dropLast, rest)
  | _ => .error .unclosedInstruction

/-- The name in an end tag: its content behind the slash, without the spaces at its end unless it
holds nothing else. -/
def endTagName (content : List Char) : List Char :=
  let name := content.drop 1
  if name.all isSpace then name else dropEndWhile isSpace name

/-- Reads an end tag that should close `open?`; `cs` starts at the slash. -/
def readEndTag (open? : Option (List Char)) (cs : List Char) : Piece :=
  match splitTag none [] cs with
  | none => .error .unclosedTag
  | some (content, rest) =>
    match open? with
    | none => .error (.unmatchedEnd (String.ofList (endTagName content)))
    | some expected =>
      if endTagName content = expected then .ok (.closed expected, rest)
      else .error (.mismatchedEnd (String.ofList expected) (String.ofList (endTagName content)))

/-- Reads a start tag or a self-closing tag; `cs` starts behind the bracket. -/
def readStartTag (cs : List Char) : Piece :=
  match splitTag none [] cs with
  | none => .error .unclosedTag
  | some (content, rest) =>
    if content.getLast? = some '/' then .ok (.single ⟨content.dropLast⟩, rest)
    else .ok (.opened ⟨content⟩, rest)

/-- Reads one piece of markup; `cs` starts behind its `<`, and `open?` is the name of the innermost
open element. -/
def readMarkup (open? : Option (List Char)) (cs : List Char) : Piece :=
  match cs with
  | [] => .error .unclosedTag
  | '!' :: '-' :: _ => readComment cs
  | '!' :: '[' :: _ => readCData cs
  | '!' :: 'D' :: _ => readDoctype cs
  | '!' :: 'd' :: _ => readDoctype cs
  | '!' :: _ => .error .unknownMarkup
  | '/' :: _ => readEndTag open? cs
  | '?' :: _ => readInstruction cs
  | _ => readStartTag cs

/-- The names of the open elements after an event, the innermost first. -/
def Event.openAfter (event : Event) (openNames : List (List Char)) : List (List Char) :=
  match event with
  | .opened tag => tag.name :: openNames
  | .closed _ => openNames.tail
  | _ => openNames

/-! ### Every piece of markup shortens the input -/

theorem splitTag_length {quote : Option Char} {done cs body rest : List Char}
    (h : splitTag quote done cs = some (body, rest)) : rest.length < cs.length := by
  induction cs generalizing quote done with
  | nil => simp [splitTag] at h
  | cons c cs ih =>
    simp only [splitTag] at h
    split at h
    · split at h
      · obtain ⟨-, rfl⟩ := by simpa using h
        simp
      · split at h <;> exact Nat.lt_succ_of_lt (ih h)
    · split at h <;> exact Nat.lt_succ_of_lt (ih h)

theorem splitAtBracket_length {ends : Nat → List Char → Bool} {count : Nat}
    {done cs body rest : List Char}
    (h : splitAtBracket ends count done cs = some (body, rest)) : rest.length < cs.length := by
  induction cs generalizing count done with
  | nil => simp [splitAtBracket] at h
  | cons c cs ih =>
    simp only [splitAtBracket] at h
    split at h
    · obtain ⟨-, rfl⟩ := by simpa using h
      simp
    · exact Nat.lt_succ_of_lt (ih h)

theorem splitDoctype_length {depth : Int} {done cs body rest : List Char}
    (h : splitDoctype depth done cs = some (body, rest)) : rest.length < cs.length := by
  induction cs generalizing depth done with
  | nil => simp [splitDoctype] at h
  | cons c cs ih =>
    simp only [splitDoctype] at h
    split at h
    · split at h
      · obtain ⟨-, rfl⟩ := by simpa using h
        simp
      · exact Nat.lt_succ_of_lt (ih h)
    · exact Nat.lt_succ_of_lt (ih h)

theorem readMarkup_length {open? : Option (List Char)} {cs rest : List Char} {event : Event}
    (h : readMarkup open? cs = .ok (event, rest)) : rest.length < cs.length := by
  unfold readMarkup at h
  split at h
  · simp at h
  · unfold readComment at h
    split at h <;> simp at h
    obtain ⟨-, rfl⟩ := h
    exact splitAtBracket_length (by assumption)
  · unfold readCData at h
    split at h
    · split at h <;> simp at h
      obtain ⟨-, rfl⟩ := h
      exact splitAtBracket_length (by assumption)
    · simp at h
  · unfold readDoctype at h
    split at h
    · split at h
      · split at h <;> simp at h
        obtain ⟨-, rfl⟩ := h
        exact splitDoctype_length (by assumption)
      · simp at h
    · simp at h
  · unfold readDoctype at h
    split at h
    · split at h
      · split at h <;> simp at h
        obtain ⟨-, rfl⟩ := h
        exact splitDoctype_length (by assumption)
      · simp at h
    · simp at h
  · simp at h
  · unfold readEndTag at h
    split at h
    · simp at h
    · split at h
      · simp at h
      · split at h <;> simp at h
        obtain ⟨-, rfl⟩ := h
        exact splitTag_length (by assumption)
  · unfold readInstruction at h
    split at h <;> simp at h
    obtain ⟨-, rfl⟩ := h
    exact splitAtBracket_length (by assumption)
  · unfold readStartTag at h
    split at h
    · simp at h
    · split at h <;> simp at h <;> obtain ⟨-, rfl⟩ := h <;> exact splitTag_length (by assumption)

/-! ### Whole documents -/

/-- The events of a document up to its first fault, and that fault. -/
structure Transcript where
  events : List Event
  fault : Option Fault
  deriving Repr

/-- Reads what is left of a document; `openNames` are the open elements and `done` the events read,
the last one first. -/
def readFrom (openNames : List (List Char)) (done : List Event) (cs : List Char) : Transcript :=
  match cs with
  | [] => ⟨done.reverse, none⟩
  | c :: rest =>
    if c = '<' then
      match _h : readMarkup openNames.head? rest with
      | .error fault => ⟨done.reverse, some fault⟩
      | .ok (event, rest') => readFrom (event.openAfter openNames) (event :: done) rest'
    else
      readFrom openNames (.text (c :: rest.takeWhile (· != '<')) :: done)
        (rest.dropWhile (· != '<'))
termination_by cs.length
decreasing_by
  · have := readMarkup_length _h
    simp only [List.length_cons]
    omega
  · have := length_dropWhile_le (· != '<') rest
    simp only [List.length_cons]
    omega

/-- Reads a document; one byte order mark at its start is skipped. -/
def read (cs : List Char) : Transcript :=
  match cs with
  | '\uFEFF' :: rest => readFrom [] [] rest
  | cs => readFrom [] [] cs

end Newsstand.Xml
