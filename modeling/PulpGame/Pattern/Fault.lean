import PulpGame.Pattern.Syntax
import PulpGame.Text.Basic

namespace PulpGame.Pattern

inductive Cause where
  | groupUnclosed
  | groupUnopened
  | groupNameUnfinished
  | groupNameInvalid
  | groupNameEmpty
  | groupNameDuplicate
  | lookAround
  | flagsUnfinished
  | flagUnrecognized
  | flagDuplicate
  | negationRepeated
  | negationDangling
  | operandMissing
  | countUnclosed
  | countEmpty
  | countTooLarge
  | countsReversed
  | escapeUnfinished
  | escapeUnrecognized
  | backreference
  | hexDigitInvalid
  | hexEmpty
  | hexInvalid
  | propertyInvalid
  | boundaryUnfinished
  | boundaryUnclosed
  | boundaryUnrecognized
  | classUnclosed
  | classEscapeInvalid
  | rangeEndInvalid
  | rangeReversed
  | tooDeep (limit : Nat)
  | unicodeNotAllowed
  | notText
  | propertyUnknown
  | propertyValueUnknown
  | shorthandUnknown
  | caseUnknown
deriving DecidableEq, Repr

def Cause.message : Cause → String
  | .groupUnclosed => "unclosed group"
  | .groupUnopened => "unopened group"
  | .groupNameUnfinished => "unclosed capture group name"
  | .groupNameInvalid => "invalid capture group character"
  | .groupNameEmpty => "empty capture group name"
  | .groupNameDuplicate => "duplicate capture group name"
  | .lookAround => "look-around, including look-ahead and look-behind, is not supported"
  | .flagsUnfinished => "expected flag but got end of regex"
  | .flagUnrecognized => "unrecognized flag"
  | .flagDuplicate => "duplicate flag"
  | .negationRepeated => "flag negation operator repeated"
  | .negationDangling => "dangling flag negation operator"
  | .operandMissing => "repetition operator missing expression"
  | .countUnclosed => "unclosed counted repetition"
  | .countEmpty => "repetition quantifier expects a valid decimal"
  | .countTooLarge => "decimal literal invalid"
  | .countsReversed => "invalid repetition count range, the start must be <= the end"
  | .escapeUnfinished => "incomplete escape sequence, reached end of pattern prematurely"
  | .escapeUnrecognized => "unrecognized escape sequence"
  | .backreference => "backreferences are not supported"
  | .hexDigitInvalid => "invalid hexadecimal digit"
  | .hexEmpty => "hexadecimal literal empty"
  | .hexInvalid => "hexadecimal literal is not a Unicode scalar value"
  | .propertyInvalid => "invalid Unicode character class"
  | .boundaryUnfinished =>
    "found either the beginning of a special word boundary or a bounded repetition on a \\b " ++
      "with an opening brace, but no closing brace"
  | .boundaryUnclosed =>
    "special word boundary assertion is either unclosed or contains an invalid character"
  | .boundaryUnrecognized =>
    "unrecognized special word boundary assertion, valid choices are: start, end, start-half or " ++
      "end-half"
  | .classUnclosed => "unclosed character class"
  | .classEscapeInvalid => "invalid escape sequence found in character class"
  | .rangeEndInvalid => "invalid range boundary, must be a literal"
  | .rangeReversed => "invalid character class range, the start must be <= the end"
  | .tooDeep limit => s!"exceed the maximum number of nested parentheses/brackets ({limit})"
  | .unicodeNotAllowed => "Unicode not allowed here"
  | .notText => "pattern can match invalid UTF-8"
  | .propertyUnknown => "Unicode property not found"
  | .propertyValueUnknown => "Unicode property value not found"
  | .shorthandUnknown =>
    "Unicode-aware Perl class not found (make sure the unicode-perl feature is enabled)"
  | .caseUnknown =>
    "Unicode-aware case folding is not available (make sure the unicode-case feature is enabled)"

structure Fault where
  cause : Cause
  span : Span
  first : Option Span := none
deriving DecidableEq, Repr

namespace Fault

def spans (f : Fault) : List Span := f.span :: f.first.toList

def marks (margin : Nat) (spans : List Span) : String :=
  let (line, _) := (spans.mergeSort Span.upTo).foldl (fun (line, column) s =>
    let gap := s.start.column - column
    let length := max 1 (s.stop.column - s.start.column)
    (line ++ List.replicate gap ' ' ++ List.replicate length '^', column + gap + length))
    (List.replicate margin ' ', 1)
  String.ofList line

def padded (width n : Nat) : String :=
  let digits := toString n
  String.ofList (List.replicate (width - digits.length) ' ') ++ digits

def marked (pattern : String) (f : Fault) : List String :=
  let severalLines := pattern.toList.contains '\n'
  let lines := Text.lines pattern
  let count := lines.length + if pattern.toList.getLast? == some '\n' then 1 else 0
  let width := (toString count).length
  lines.zipIdx.flatMap fun (line, i) =>
    let spans := f.spans.filter fun s => s.isOneLine && s.start.line == i + 1
    let text := if severalLines then s!"{padded width (i + 1)}: {line}" else "    " ++ line
    if spans.isEmpty then [text]
    else [text, marks (if severalLines then width + 2 else 4) spans]

def divider : String := String.ofList (List.replicate 79 '~')

def extent (s : Span) : String :=
  s!"on line {s.start.line} (column {s.start.column}) through line {s.stop.line} " ++
    s!"(column {s.stop.column - 1})"

def report (pattern : String) (f : Fault) : String :=
  let body :=
    if pattern.toList.contains '\n' then
      [divider] ++ f.marked pattern ++ [divider] ++
        ((f.spans.filter (!·.isOneLine)).mergeSort Span.upTo).map extent
    else f.marked pattern
  "\n".intercalate (["regex parse error:"] ++ body ++ ["error: " ++ f.cause.message])

end Fault

end PulpGame.Pattern
