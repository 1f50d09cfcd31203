import Gamebook.Data.Yaml.Mark
/- The tokens of a YAML text: stream and document markers, block and flow collection
   indicators, keys and values, anchors, aliases, tags and scalars, each with the marks where it
   starts and stops. Error messages name a token by its indicator or by a word in angle
   brackets. -/
namespace Gamebook.Yaml

/-- How a scalar is written. -/
inductive ScalarStyle where
  | plain
  | single
  | double
  | literal
  | folded
  deriving DecidableEq, Repr, Inhabited

/-- What a directive says. -/
inductive Directive where
  /-- `%YAML major.minor` -/
  | version (major minor : Nat)
  /-- `%TAG handle prefix` -/
  | tagShorthand (handle pre : String)
  /-- any other directive, which is read and ignored -/
  | other
  deriving DecidableEq, Repr, Inhabited

/-- The kinds of token. -/
inductive TokenKind where
  | streamStart
  | streamEnd
  | directive (name : String) (value : Directive)
  | documentStart
  | documentEnd
  | blockSequenceStart
  | blockMappingStart
  | blockEnd
  | flowSequenceStart
  | flowMappingStart
  | flowSequenceEnd
  | flowMappingEnd
  | key
  | value
  | blockEntry
  | flowEntry
  | reference (name : String)
  | anchor (name : String)
  | tag (handle : Option String) (suffix : String)
  | scalar (text : List Nat) (plain : Bool) (style : ScalarStyle)
  deriving DecidableEq, Repr, Inhabited

/-- A token with the marks where it starts and stops. -/
structure Token where
  kind : TokenKind
  start : Mark
  stop : Mark
  deriving DecidableEq, Repr, Inhabited

namespace TokenKind

/-- The name of a token kind in error messages. -/
def name : TokenKind → String
  | streamStart => "<stream start>"
  | streamEnd => "<stream end>"
  | directive _ _ => "<directive>"
  | documentStart => "<document start>"
  | documentEnd => "<document end>"
  | blockSequenceStart => "<block sequence start>"
  | blockMappingStart => "<block mapping start>"
  | blockEnd => "<block end>"
  | flowSequenceStart => "["
  | flowMappingStart => "\x7b"
  | flowSequenceEnd => "]"
  | flowMappingEnd => "\x7d"
  | key => "?"
  | value => ":"
  | blockEntry => "-"
  | flowEntry => ","
  | reference _ => "<alias>"
  | anchor _ => "<anchor>"
  | tag _ _ => "<tag>"
  | scalar _ _ _ => "<scalar>"

def isBlockEntry : TokenKind → Bool
  | blockEntry => true
  | _ => false

def isBlockEnd : TokenKind → Bool
  | blockEnd => true
  | _ => false

def isKey : TokenKind → Bool
  | key => true
  | _ => false

def isValue : TokenKind → Bool
  | value => true
  | _ => false

def isFlowEntry : TokenKind → Bool
  | flowEntry => true
  | _ => false

def isFlowSequenceEnd : TokenKind → Bool
  | flowSequenceEnd => true
  | _ => false

def isFlowMappingEnd : TokenKind → Bool
  | flowMappingEnd => true
  | _ => false

def isDocumentEnd : TokenKind → Bool
  | documentEnd => true
  | _ => false

def isStreamEnd : TokenKind → Bool
  | streamEnd => true
  | _ => false

def isDirective : TokenKind → Bool
  | directive _ _ => true
  | _ => false

def isDocumentStart : TokenKind → Bool
  | documentStart => true
  | _ => false

end TokenKind

end Gamebook.Yaml
