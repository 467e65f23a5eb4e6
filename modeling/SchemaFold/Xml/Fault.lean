import SchemaFold.Text.Position
import SchemaFold.Text.Quoted
/-!
What can be wrong with the text of a document.

* `Fault`: the causes, most with the position they are found at;
* `Fault.position`: that position, or the start of the text for a fault of the whole;
* `Fault.message`: the wording.
-/

namespace SchemaFold.Xml

open Text (Position)

/-- Why a text is not a document. -/
inductive Fault
  | xmlPrefixUri (found : Position)
  | xmlUri (found : Position)
  | xmlnsUri (found : Position)
  | xmlnsPrefix (found : Position)
  | repeatedNamespace (pfx : String) (found : Position)
  | repeatedAttribute (name : String) (found : Position)
  | unknownPrefix (pfx : String) (found : Position)
  | closeTag (expected actual : String) (found : Position)
  | entityCloseTag (found : Position)
  | unknownEntity (name : String) (found : Position)
  | malformedReference (found : Position)
  | referenceLoop (found : Position)
  | escapedLess (found : Position)
  | declaration (found : Position)
  | invalidName (found : Position)
  | nonXmlChar (c : Char) (found : Position)
  | unexpected (expected : String) (actual : Char) (found : Position)
  | missing (expected : String) (found : Position)
  | dashesInComment (found : Position)
  | sectionEnd (found : Position)
  | unknownToken (found : Position)
  | externalId (found : Position)
  | noRoot
  | unclosedRoot
  | typeDeclaration
  | endOfText
  deriving DecidableEq, Repr

namespace Fault

/-- Where the fault is, the start of the text for a fault without a place. -/
def position : Fault → Position
  | .xmlPrefixUri p | .xmlUri p | .xmlnsUri p | .xmlnsPrefix p | .repeatedNamespace _ p
  | .repeatedAttribute _ p | .unknownPrefix _ p | .closeTag _ _ p | .entityCloseTag p
  | .unknownEntity _ p | .malformedReference p | .referenceLoop p | .escapedLess p
  | .declaration p | .invalidName p | .nonXmlChar _ p | .unexpected _ _ p | .missing _ p
  | .dashesInComment p | .sectionEnd p | .unknownToken p | .externalId p => p
  | .noRoot | .unclosedRoot | .typeDeclaration | .endOfText => Position.start

/-- The wording of a fault. -/
def message : Fault → String
  | .xmlPrefixUri p => "'xml' namespace prefix mapped to wrong URI at " ++ p.text
  | .xmlUri p => "the 'xml' namespace URI is used for not 'xml' prefix at " ++ p.text
  | .xmlnsUri p => "the 'xmlns' URI is used at " ++ p.text ++ ", but it must not be declared"
  | .xmlnsPrefix p => "the 'xmlns' prefix is used at " ++ p.text ++ ", but it must not be"
  | .repeatedNamespace pfx p => "namespace '" ++ pfx ++ "' at " ++ p.text ++ " is already defined"
  | .repeatedAttribute name p => "attribute '" ++ name ++ "' at " ++ p.text ++ " is already defined"
  | .unknownPrefix pfx p => "an unknown namespace prefix '" ++ pfx ++ "' at " ++ p.text
  | .closeTag expected actual p =>
    "expected '" ++ expected ++ "' tag, not '" ++ actual ++ "' at " ++ p.text
  | .entityCloseTag p => "unexpected close tag at " ++ p.text
  | .unknownEntity name p => "unknown entity reference '" ++ name ++ "' at " ++ p.text
  | .malformedReference p => "malformed entity reference at " ++ p.text
  | .referenceLoop p => "a possible entity reference loop is detected at " ++ p.text
  | .escapedLess p => "unescaped '<' found at " ++ p.text
  | .declaration p => "unexpected XML declaration at " ++ p.text
  | .invalidName p => "invalid name token at " ++ p.text
  | .nonXmlChar c p => "a non-XML character " ++ Text.quoteChar c ++ " found at " ++ p.text
  | .unexpected expected actual p =>
    "expected " ++ expected ++ " not '" ++ actual.toString ++ "' at " ++ p.text
  | .missing expected p => "expected '" ++ expected ++ "' at " ++ p.text
  | .dashesInComment p => "comment at " ++ p.text ++ " contains '--'"
  | .sectionEnd p => "']]>' at " ++ p.text ++ " is not allowed inside a character data"
  | .unknownToken p => "unknown token at " ++ p.text
  | .externalId p => "invalid ExternalID at " ++ p.text
  | .noRoot => "the document does not have a root node"
  | .unclosedRoot => "the root node was opened but never closed"
  | .typeDeclaration => "XML with DTD detected"
  | .endOfText => "unexpected end of stream"

end Fault

end SchemaFold.Xml
