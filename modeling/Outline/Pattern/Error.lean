import Outline.Number.Read
import Outline.Text.Quoted

namespace Outline.Pattern

inductive Reason
  | danglingEscape
  | badEscape (text : String)
  | incompleteEscape (text : String)
  | octalRange (text : String)
  | missing (what : String)
  | unterminatedName (stop : String)
  | unknownCharacter (name : String)
  | openGroup
  | lookbehindGroup
  | noGroup (group : Nat)
  | unterminatedSet
  | badRange (low high : String)
  | repeatOrder
  | nothingToRepeat
  | multipleRepeat
  | unexpectedEnd
  | badName (name : String)
  | unknownName (name : String)
  | unknownExtension (text : String)
  | unterminatedComment
  | unterminatedGroup
  | badGroupNumber
  | thirdBranch
  | lateFlags
  | nameTaken (name : String) (group earlier : Nat)
  | localeFlag
  | typeFlags
  | unknownFlag
  | globalFlagOn
  | typeFlagOff
  | globalFlagOff
  | flagOnAndOff
  | unbalanced
  | variableLookbehind
  | longLookbehind
  | template (operator : String)
  deriving DecidableEq, Repr

namespace Reason

def message : Reason → String
  | danglingEscape         => "bad escape (end of pattern)"
  | badEscape text         => "bad escape " ++ text
  | incompleteEscape text  => "incomplete escape " ++ text
  | octalRange text        => "octal escape value " ++ text ++ " outside of range 0-0o377"
  | missing what           => "missing " ++ what
  | unterminatedName stop  => "missing " ++ stop ++ ", unterminated name"
  | unknownCharacter name  => "undefined character name " ++ Text.quoted name
  | openGroup              => "cannot refer to an open group"
  | lookbehindGroup        => "cannot refer to group defined in the same lookbehind subpattern"
  | noGroup group          => s!"invalid group reference {group}"
  | unterminatedSet        => "unterminated character set"
  | badRange low high      => "bad character range " ++ low ++ "-" ++ high
  | repeatOrder            => "min repeat greater than max repeat"
  | nothingToRepeat        => "nothing to repeat"
  | multipleRepeat         => "multiple repeat"
  | unexpectedEnd          => "unexpected end of pattern"
  | badName name           => "bad character in group name " ++ Text.quoted name
  | unknownName name       => "unknown group name " ++ Text.quoted name
  | unknownExtension text  => "unknown extension " ++ text
  | unterminatedComment    => "missing ), unterminated comment"
  | unterminatedGroup      => "missing ), unterminated subpattern"
  | badGroupNumber         => "bad group number"
  | thirdBranch            => "conditional backref with more than two branches"
  | lateFlags              => "global flags not at the start of the expression"
  | nameTaken name group earlier =>
    "redefinition of group name " ++ Text.quoted name ++ s!" as group {group}; was group {earlier}"
  | localeFlag             => "bad inline flags: cannot use 'L' flag with a str pattern"
  | typeFlags              => "bad inline flags: flags 'a', 'u' and 'L' are incompatible"
  | unknownFlag            => "unknown flag"
  | globalFlagOn           => "bad inline flags: cannot turn on global flag"
  | typeFlagOff            => "bad inline flags: cannot turn off flags 'a', 'u' and 'L'"
  | globalFlagOff          => "bad inline flags: cannot turn off global flag"
  | flagOnAndOff           => "bad inline flags: flag turned on and off"
  | unbalanced             => "unbalanced parenthesis"
  | variableLookbehind     => "look-behind requires fixed-width pattern"
  | longLookbehind         => "looks too much behind"
  | template operator      => "internal: unsupported template operator " ++ operator

end Reason

inductive Error
  | malformed (reason : Reason) (position? : Option Nat)
  | repeatTooLarge
  -- An escape whose number is no machine word.
  | codePointSize
  | flagConflict
  | number (e : Number.Error)
  deriving DecidableEq, Repr

namespace Error

-- The line and the column of a position, from one.
private def place (pattern : String) (position : Nat) : Nat × Nat :=
  (pattern.toList.take position).foldl (fun (line, column) c =>
    if c == '\n' then (line + 1, 1) else (line, column + 1)) (1, 1)

def message (pattern : String) : Error → String
  | malformed reason none => reason.message
  | malformed reason (some position) =>
    let at' := reason.message ++ s!" at position {position}"
    if pattern.toList.contains '\n' then
      let (line, column) := place pattern position
      at' ++ s!" (line {line}, column {column})"
    else at'
  | repeatTooLarge => "the repetition number is too large"
  | codePointSize  => "Python int too large to convert to C int"
  | flagConflict   => "ASCII and UNICODE flags are incompatible"
  | number e       => e.message

end Error
end Outline.Pattern
