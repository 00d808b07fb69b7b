/-!
# Faults of markup

What makes a text unreadable as markup: markup that is never closed, end tags that close nothing or
the wrong element, and references that name nothing. Each fault has one wording, in `message`.
-/

namespace Newsstand.Xml

/-- Why a numeric character reference names no character. -/
inductive NumberFault where
  | sign
  | noDigits
  | badDigit
  | tooLarge
  | null
  | notCharacter (code : Nat)
  deriving DecidableEq, Repr

/-- The wording of a faulty numeric reference. -/
def NumberFault.message : NumberFault → String
  | .sign => "unexpected number sign"
  | .noDigits => "cannot parse integer from empty string"
  | .badDigit => "invalid digit found in string"
  | .tooLarge => "number too large to fit in target type"
  | .null => "0x0 character is not permitted in XML"
  | .notCharacter code => s!"`{code}` is not a valid codepoint"

/-- Why a text with references cannot be resolved; positions count octets from the text's start. -/
inductive ReferenceFault where
  /-- A reference to an entity without a meaning, with the range of its name. -/
  | unrecognized (start stop : Nat) (name : String)
  /-- An ampersand that starts no terminated reference, with the range up to the text's end. -/
  | unterminated (start stop : Nat)
  | number (fault : NumberFault)
  deriving DecidableEq, Repr

/-- The wording of a faulty reference. -/
def ReferenceFault.message : ReferenceFault → String
  | .unrecognized start stop name => s!"at {start}..{stop}: unrecognized entity `{name}`"
  | .unterminated start stop =>
    s!"Error while escaping character at range {start}..{stop}: Cannot find ';' after '&'"
  | .number fault => s!"invalid character reference: {fault.message}"

/-- Why a text is not well-formed markup. -/
inductive Fault where
  | unclosedTag
  | unclosedComment
  | unclosedCData
  | unclosedDoctype
  | unclosedInstruction
  | unknownMarkup
  | missingDoctypeName
  | mismatchedEnd (expected found : String)
  | unmatchedEnd (found : String)
  | reference (fault : ReferenceFault)
  deriving DecidableEq, Repr

/-- The wording of a fault of markup. -/
def Fault.message : Fault → String
  | .unclosedTag => "syntax error: tag not closed: `>` not found before end of input"
  | .unclosedComment => "syntax error: comment not closed: `-->` not found before end of input"
  | .unclosedCData => "syntax error: CDATA not closed: `]]>` not found before end of input"
  | .unclosedDoctype => "syntax error: DOCTYPE not closed: `>` not found before end of input"
  | .unclosedInstruction =>
    "syntax error: processing instruction or xml declaration not closed: `?>` not found before end "
      ++ "of input"
  | .unknownMarkup => "syntax error: unknown or missed symbol in markup"
  | .missingDoctypeName =>
    "ill-formed document: `<!DOCTYPE>` declaration does not contain a name of a document type"
  | .mismatchedEnd expected found =>
    s!"ill-formed document: expected `</{expected}>`, but `</{found}>` was found"
  | .unmatchedEnd found =>
    s!"ill-formed document: close tag `</{found}>` does not match any open tag"
  | .reference fault => fault.message

end Newsstand.Xml
