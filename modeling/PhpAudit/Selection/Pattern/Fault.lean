import PhpAudit.Text.Quoted

/-!
What can be wrong with the text of a regular expression, and how it is reported.
-/

namespace PhpAudit

inductive PatternFault where
  | danglingEscape
  | badEscape (text : String)
  | incompleteEscape (text : String)
  | octalTooLarge (text : String)
  | missingBrace
  | unknownCharacter (name : String)
  | unterminatedSet
  | badRange (first last : String)
  | unterminatedGroup
  | unterminatedComment
  | unbalancedParenthesis
  | unexpectedEnd
  | unknownExtension (text : String)
  | missingName (what : String)
  | unterminatedName (terminator : Char)
  | badName (name : String)
  | unknownName (name : String)
  | nameTaken (name : String) (group earlier : Nat)
  | groupZero
  | unknownGroup (group : Nat)
  | openGroup
  | groupInLookBehind
  | thirdBranch
  | misplacedFlags
  | badFlags (why : String)
  /-- A character that is no flag, where what is named could stand. -/
  | notFlag (isLetter : Bool) (expected : String)
  | missingAfterFlags (expected : String)
  | nothingToRepeat
  | multipleRepeat
  | repeatBounds
  /-- Reported without a position, like the next two. -/
  | variableLookBehind
  | farLookBehind
  | repeatInTemplate (operator : String)
  /-- A number of rounds that is out of range, which is no fault of form. -/
  | tooManyRounds
  | boundTooLong (digits : Nat)
  | clashingFlags (first second : String)
  deriving DecidableEq, Repr

namespace PatternFault

def message : PatternFault → String
  | .danglingEscape => "bad escape (end of pattern)"
  | .badEscape text => "bad escape " ++ text
  | .incompleteEscape text => "incomplete escape " ++ text
  | .octalTooLarge text => "octal escape value " ++ text ++ " outside of range 0-0o377"
  | .missingBrace => "missing \x7b"
  | .unknownCharacter name => "undefined character name " ++ Text.quoted name
  | .unterminatedSet => "unterminated character set"
  | .badRange first last => "bad character range " ++ first ++ "-" ++ last
  | .unterminatedGroup => "missing ), unterminated subpattern"
  | .unterminatedComment => "missing ), unterminated comment"
  | .unbalancedParenthesis => "unbalanced parenthesis"
  | .unexpectedEnd => "unexpected end of pattern"
  | .unknownExtension text => "unknown extension ?" ++ text
  | .missingName what => "missing " ++ what
  | .unterminatedName terminator => "missing " ++ String.singleton terminator ++ ", unterminated name"
  | .badName name => "bad character in group name " ++ Text.quoted name
  | .unknownName name => "unknown group name " ++ Text.quoted name
  | .nameTaken name group earlier => "redefinition of group name " ++ Text.quoted name ++
      " as group " ++ toString group ++ "; was group " ++ toString earlier
  | .groupZero => "bad group number"
  | .unknownGroup group => "invalid group reference " ++ toString group
  | .openGroup => "cannot refer to an open group"
  | .groupInLookBehind => "cannot refer to group defined in the same lookbehind subpattern"
  | .thirdBranch => "conditional backref with more than two branches"
  | .misplacedFlags => "global flags not at the start of the expression"
  | .badFlags why => "bad inline flags: " ++ why
  | .notFlag isLetter expected => if isLetter then "unknown flag" else "missing " ++ expected
  | .missingAfterFlags expected => "missing " ++ expected
  | .nothingToRepeat => "nothing to repeat"
  | .multipleRepeat => "multiple repeat"
  | .repeatBounds => "min repeat greater than max repeat"
  | .variableLookBehind => "look-behind requires fixed-width pattern"
  | .farLookBehind => "looks too much behind"
  | .repeatInTemplate operator => "internal: unsupported template operator " ++ operator
  | .tooManyRounds => "the repetition number is too large"
  | .boundTooLong digits => "Exceeds the limit (4300 digits) for integer string conversion: " ++
      "value has " ++ toString digits ++
      " digits; use sys.set_int_max_str_digits() to increase the limit"
  | .clashingFlags first second => first ++ " and " ++ second ++ " flags are incompatible"

/-- Faults that are no faults of form but of a value, under the name that reports show. -/
def valueFailure? : PatternFault → Option String
  | .tooManyRounds => some "OverflowError"
  | .boundTooLong _ => some "ValueError"
  | .clashingFlags _ _ => some "ValueError"
  | _ => none

end PatternFault

structure PatternError where
  fault : PatternFault
  position : Option Nat
  deriving DecidableEq, Repr

namespace PatternError

/-- Fault and position; in a pattern of several lines also line and column. -/
def text (source : List Char) (e : PatternError) : String :=
  match e.position with
  | none => e.fault.message
  | some position =>
      let place := e.fault.message ++ " at position " ++ toString position
      if source.contains '\n' then
        let before := source.take position
        let column := (before.reverse.takeWhile (· != '\n')).length + 1
        place ++ " (line " ++ toString (before.count '\n' + 1) ++ ", column " ++ toString column ++ ")"
      else place

end PatternError

end PhpAudit
