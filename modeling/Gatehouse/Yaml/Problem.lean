import Gatehouse.Yaml.Cursor

namespace Gatehouse.Yaml

/-!
# Problems of a text

* `Problem` — what is wrong with the form of a text, and `Problem.text`, its wording;
* `Task` — what was being read, and `Task.text`;
* `Fault`, `Fault.message` — a problem with its place and, where it helps, the task with the place
  where it began.
-/

/-- What is wrong with the form of a text. -/
inductive Problem where
  | controlCharacter
  | missingColon
  | sequenceEntryNotAllowed
  | mappingKeyNotAllowed
  | mappingValueNotAllowed
  | noToken
  | unknownDirective
  | directiveTail
  | directiveName
  | directiveNameCharacter
  | versionDot
  | versionTooLong
  | versionNumber
  | whitespace
  | whitespaceOrBreak
  | nameCharacter
  | closingAngle
  | exclamationMark
  | tagUri
  | uriOctet
  | uriLeadingOctet
  | uriTrailingOctet
  | zeroIndentation
  | commentOrBreak
  | tabInIndentation
  | tabInPlainScalar
  | documentMarker
  | endOfStream
  | unknownEscape
  | hexNumber
  | invalidCodePoint
  | unexpectedColon
  | documentStart
  | duplicateVersion
  | incompatibleVersion
  | duplicateTagDirective
  | undefinedHandle
  | nodeContent
  | dashIndicator
  | key
  | commaOrBracket
  | commaOrBrace
  deriving DecidableEq, Repr

/-- The wording of a problem. -/
def Problem.text : Problem → String
  | .controlCharacter => "control characters are not allowed"
  | .missingColon => "could not find expected ':'"
  | .sequenceEntryNotAllowed => "block sequence entries are not allowed in this context"
  | .mappingKeyNotAllowed => "mapping keys are not allowed in this context"
  | .mappingValueNotAllowed => "mapping values are not allowed in this context"
  | .noToken => "found character that cannot start any token"
  | .unknownDirective => "found unknown directive name"
  | .directiveTail => "did not find expected comment or line break"
  | .directiveName => "could not find expected directive name"
  | .directiveNameCharacter => "found unexpected non-alphabetical character"
  | .versionDot => "did not find expected digit or '.' character"
  | .versionTooLong => "found extremely long version number"
  | .versionNumber => "did not find expected version number"
  | .whitespace => "did not find expected whitespace"
  | .whitespaceOrBreak => "did not find expected whitespace or line break"
  | .nameCharacter => "did not find expected alphabetic or numeric character"
  | .closingAngle => "did not find the expected '>'"
  | .exclamationMark => "did not find expected '!'"
  | .tagUri => "did not find expected tag URI"
  | .uriOctet => "did not find URI escaped octet"
  | .uriLeadingOctet => "found an incorrect leading UTF-8 octet"
  | .uriTrailingOctet => "found an incorrect trailing UTF-8 octet"
  | .zeroIndentation => "found an indentation indicator equal to 0"
  | .commentOrBreak => "did not find expected comment or line break"
  | .tabInIndentation => "found a tab character where an indentation space is expected"
  | .tabInPlainScalar => "found a tab character that violates indentation"
  | .documentMarker => "found unexpected document indicator"
  | .endOfStream => "found unexpected end of stream"
  | .unknownEscape => "found unknown escape character"
  | .hexNumber => "did not find expected hexdecimal number"
  | .invalidCodePoint => "found invalid Unicode character escape code"
  | .unexpectedColon => "found unexpected ':'"
  | .documentStart => "did not find expected <document start>"
  | .duplicateVersion => "found duplicate %YAML directive"
  | .incompatibleVersion => "found incompatible YAML document"
  | .duplicateTagDirective => "found duplicate %TAG directive"
  | .undefinedHandle => "found undefined tag handle"
  | .nodeContent => "did not find expected node content"
  | .dashIndicator => "did not find expected '-' indicator"
  | .key => "did not find expected key"
  | .commaOrBracket => "did not find expected ',' or ']'"
  | .commaOrBrace => "did not find expected ',' or '\x7d'"

/-- What was being read when a problem was met. -/
inductive Task where
  | simpleKey
  | nextToken
  | directive
  | versionDirective
  | tagDirective
  | tagDirectiveUri
  | anchor
  | alias
  | tag
  | tagUri
  | blockScalar
  | quotedScalar
  | quotedEscape
  | plainScalar
  | node
  | blockNode
  | flowNode
  | blockCollection
  | blockMapping
  | flowSequence
  | flowMapping
  deriving DecidableEq, Repr

/-- The wording of a task. -/
def Task.text : Task → String
  | .simpleKey => "while scanning a simple key"
  | .nextToken => "while scanning for the next token"
  | .directive => "while scanning a directive"
  | .versionDirective => "while scanning a %YAML directive"
  | .tagDirective => "while scanning a %TAG directive"
  | .tagDirectiveUri => "while parsing a %TAG directive"
  | .anchor => "while scanning an anchor"
  | .alias => "while scanning an alias"
  | .tag => "while scanning a tag"
  | .tagUri => "while parsing a tag"
  | .blockScalar => "while scanning a block scalar"
  | .quotedScalar => "while scanning a quoted scalar"
  | .quotedEscape => "while parsing a quoted scalar"
  | .plainScalar => "while scanning a plain scalar"
  | .node => "while parsing a node"
  | .blockNode => "while parsing a block node"
  | .flowNode => "while parsing a flow node"
  | .blockCollection => "while parsing a block collection"
  | .blockMapping => "while parsing a block mapping"
  | .flowSequence => "while parsing a flow sequence"
  | .flowMapping => "while parsing a flow mapping"

/-- A problem with its place. A problem of the bytes themselves is placed by an offset. -/
structure Fault where
  problem : Problem
  mark : Mark
  offset : Nat
  task : Option (Task × Mark)
  deriving DecidableEq, Repr

namespace Fault

/-- A problem met at a place. -/
def plain (problem : Problem) (mark : Mark) : Fault := ⟨problem, mark, 0, none⟩

/-- A problem met at a place during a task that began at another. -/
def during (task : Task) (began : Mark) (problem : Problem) (mark : Mark) : Fault :=
  ⟨problem, mark, 0, some (task, began)⟩

/-- A problem at an offset in bytes. -/
def atOffset (problem : Problem) (offset : Nat) : Fault := ⟨problem, .origin, offset, none⟩

/-- Where the problem is. -/
def placeText (f : Fault) : String :=
  if !f.mark.isOrigin then " at " ++ f.mark.text
  else if f.offset ≠ 0 then " at position " ++ toString f.offset
  else ""

/-- The wording: the problem with its place, then the task, with its place if that is another. -/
def message (f : Fault) : String :=
  let tail := match f.task with
    | none => ""
    | some (task, began) =>
      ", " ++ task.text ++
        if !began.isOrigin && (began.line, began.column) != (f.mark.line, f.mark.column) then
          " at " ++ began.text
        else ""
  f.problem.text ++ f.placeText ++ tail

end Fault

end Gatehouse.Yaml
