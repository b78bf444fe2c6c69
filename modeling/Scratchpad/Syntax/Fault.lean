import Scratchpad.Text.Quoted

/-!
# Faults of source code

Why a source text is refused, with the line to which the refusal points.
-/

namespace Scratchpad

/-- The kinds of faults that a reader of the message tells apart. -/
inductive FaultKind where
  | grammar
  | indentation
  | tabs
deriving DecidableEq, Repr

/-- Why a source text is refused. -/
inductive Cause where
  /-- A token that cannot continue what stands before it. -/
  | invalid
  -- brackets
  | neverClosed (opening : Char)
  | unmatched (closing : Char)
  | mismatched (closing opening : Char) (openedOn : Option Nat)
  | nestedTooDeep
  -- tokens
  | openString (detectedOn : Nat)
  | openTripleString (detectedOn : Nat)
  | badLiteral (base : String)
  | badDigit (digit : Char) (base : String)
  | leadingZeros
  | integerTooLong (digits : Nat)
  | badCharacter (c : Char)
  | afterContinuation
  | endAfterContinuation
  -- indentation
  | expectedBlock (header : String) (line : Nat)
  | unexpectedIndent
  | unexpectedDedent
  | inconsistentDedent
  | inconsistentTabs
  | indentedTooDeep
  -- statements
  | expected (what : String)
  | expectedElse
  | expectedHandler
  | missingCallParentheses (name : String)
  | forgottenComma
  | comparisonMeant
  | cannotAssign (what : String)
  | cannotAssignHere (what : String)
  | cannotDelete (what : String)
  | cannotAugment (what : String)
  | cannotWalrus (what : String)
  | singleTarget (what : String)
  | annotationTarget
  | multipleExceptionTypes
  | trailingComma
  | starredHere
  | doubleStarredHere
  | unpackInComprehension
  | dictUnpackInComprehension
  | comprehensionParentheses
  | generatorParentheses
  | keywordAssignment
  | positionalAfterKeyword
  | positionalAfterUnpack
  | unpackAfterUnpack
  | keyWithoutColon
  | keyWithoutValue
  | starredValue
  | defaultOrder
  | duplicateParameter (name : String)
  | bareStar
  -- literals
  | bytesNotAscii
  | mixedBytes
  | badEscape (start stop : Nat) (what : String)
  | badByteEscape (position : Nat)
  | formatted (what : String)
  /-- Something that no field of a formatted string may hold. -/
  | formattedPart (what : String)
  -- placement
  | outside (what place : String)
  | misplacedContinue
  | handlerOrder
  | starredAssignment
  | starredTarget
  | multipleStars
  | repeatedKeyword (name : String)
  /-- A scope declaration behind a use of the name; `use` is "used prior to" or
  "assigned to before". -/
  | scopeAfterUse (name use scope : String)
  | parameterAndScope (name scope : String)
  | localAndGlobal (name : String)
  | topLevelNonlocal
  | unboundNonlocal (name : String)
  | importStarInside
  | futureFeature (name : String)
  | lateFuture
deriving DecidableEq, Repr

/-- What a fault is called. -/
def Cause.kind : Cause → FaultKind
  | .expectedBlock .. | .unexpectedIndent | .unexpectedDedent | .inconsistentDedent
  | .indentedTooDeep => .indentation
  | .inconsistentTabs => .tabs
  | _ => .grammar

/-- A code point as `U+` and at least four digits. -/
def codePointText (c : Char) : String :=
  "U+" ++ (String.ofList (hexText 4 c.toNat)).map Char.toUpper

/-- Wording of a fault, without its place. -/
def Cause.message : Cause → String
  | .invalid => "invalid syntax"
  | .neverClosed b => s!"'{b}' was never closed"
  | .unmatched b => s!"unmatched '{b}'"
  | .mismatched c o none =>
    s!"closing parenthesis '{c}' does not match opening parenthesis '{o}'"
  | .mismatched c o (some line) =>
    s!"closing parenthesis '{c}' does not match opening parenthesis '{o}' on line {line}"
  | .nestedTooDeep => "too many nested parentheses"
  | .openString n => s!"unterminated string literal (detected at line {n})"
  | .openTripleString n => s!"unterminated triple-quoted string literal (detected at line {n})"
  | .badLiteral base => s!"invalid {base} literal"
  | .badDigit d base => s!"invalid digit '{d}' in {base} literal"
  | .leadingZeros =>
    "leading zeros in decimal integer literals are not permitted; " ++
    "use an 0o prefix for octal integers"
  | .integerTooLong n =>
    s!"Exceeds the limit (4300 digits) for integer string conversion: value has {n} digits; " ++
    "use sys.set_int_max_str_digits() to increase the limit - Consider hexadecimal for huge " ++
    "integer literals to avoid decimal conversion limits."
  | .badCharacter c =>
    if isPrintable c then s!"invalid character '{c}' ({codePointText c})"
    else s!"invalid non-printable character {codePointText c}"
  | .afterContinuation => "unexpected character after line continuation character"
  | .endAfterContinuation => "unexpected EOF while parsing"
  | .expectedBlock header line => s!"expected an indented block after {header} on line {line}"
  | .unexpectedIndent => "unexpected indent"
  | .unexpectedDedent => "unexpected unindent"
  | .inconsistentDedent => "unindent does not match any outer indentation level"
  | .inconsistentTabs => "inconsistent use of tabs and spaces in indentation"
  | .indentedTooDeep => "too many levels of indentation"
  | .expected what => s!"expected {what}"
  | .expectedElse => "expected 'else' after 'if' expression"
  | .expectedHandler => "expected 'except' or 'finally' block"
  | .missingCallParentheses f =>
    s!"Missing parentheses in call to '{f}'. Did you mean {f}(...)?"
  | .forgottenComma => "invalid syntax. Perhaps you forgot a comma?"
  | .comparisonMeant => "invalid syntax. Maybe you meant '==' or ':=' instead of '='?"
  | .cannotAssign what => s!"cannot assign to {what}"
  | .cannotAssignHere what =>
    s!"cannot assign to {what} here. Maybe you meant '==' instead of '='?"
  | .cannotDelete what => s!"cannot delete {what}"
  | .cannotAugment what => s!"'{what}' is an illegal expression for augmented assignment"
  | .cannotWalrus what => s!"cannot use assignment expressions with {what}"
  | .singleTarget what => s!"only single target (not {what}) can be annotated"
  | .annotationTarget => "illegal target for annotation"
  | .multipleExceptionTypes => "multiple exception types must be parenthesized"
  | .trailingComma => "trailing comma not allowed without surrounding parentheses"
  | .starredHere => "cannot use starred expression here"
  | .doubleStarredHere => "cannot use double starred expression here"
  | .unpackInComprehension => "iterable unpacking cannot be used in comprehension"
  | .dictUnpackInComprehension => "dict unpacking cannot be used in dict comprehension"
  | .comprehensionParentheses =>
    "did you forget parentheses around the comprehension target?"
  | .generatorParentheses => "Generator expression must be parenthesized"
  | .keywordAssignment => "expression cannot contain assignment, perhaps you meant \"==\"?"
  | .positionalAfterKeyword => "positional argument follows keyword argument"
  | .positionalAfterUnpack => "positional argument follows keyword argument unpacking"
  | .unpackAfterUnpack => "iterable argument unpacking follows keyword argument unpacking"
  | .keyWithoutColon => "':' expected after dictionary key"
  | .keyWithoutValue => "expression expected after dictionary key and ':'"
  | .starredValue => "cannot use a starred expression in a dictionary value"
  | .defaultOrder => "non-default argument follows default argument"
  | .duplicateParameter name => s!"duplicate argument '{name}' in function definition"
  | .bareStar => "named arguments must follow bare *"
  | .bytesNotAscii => "bytes can only contain ASCII literal characters"
  | .mixedBytes => "cannot mix bytes and nonbytes literals"
  | .badEscape start stop what =>
    "(unicode error) 'unicodeescape' codec can't decode bytes in position " ++
    s!"{start}-{stop}: {what}"
  | .badByteEscape n => s!"(value error) invalid \\x escape at position {n}"
  | .formatted what => s!"f-string: {what}"
  | .formattedPart what => s!"f-string expression part cannot include {what}"
  | .outside what place => s!"'{what}' outside {place}"
  | .misplacedContinue => "'continue' not properly in loop"
  | .handlerOrder => "default 'except:' must be last"
  | .starredAssignment => "starred assignment target must be in a list or tuple"
  | .starredTarget => "can't use starred expression here"
  | .multipleStars => "multiple starred expressions in assignment"
  | .repeatedKeyword name => s!"keyword argument repeated: {name}"
  | .scopeAfterUse name use scope => s!"name '{name}' is {use} {scope} declaration"
  | .parameterAndScope name scope => s!"name '{name}' is parameter and {scope}"
  | .localAndGlobal name => s!"name '{name}' is nonlocal and global"
  | .topLevelNonlocal => "nonlocal declaration not allowed at module level"
  | .unboundNonlocal name => s!"no binding for nonlocal '{name}' found"
  | .importStarInside => "import * only allowed at module level"
  | .futureFeature name => s!"future feature {name} is not defined"
  | .lateFuture => "from __future__ imports must occur at the beginning of the file"

/-- A refusal of a source text. -/
inductive SourceFault where
  /-- The text holds a null character. -/
  | nullCharacter
  | at (cause : Cause) (line : Nat)
deriving DecidableEq, Repr

/-- Wording of a refusal; `file` is what the text is called. -/
def SourceFault.message (file : String) : SourceFault → String
  | .nullCharacter => "source code string cannot contain null bytes"
  | .at cause line => s!"{cause.message} ({file}, line {line})"

/-- The name under which the refusal is reported. -/
def SourceFault.name : SourceFault → String
  | .nullCharacter => "ValueError"
  | .at cause _ => match cause.kind with
    | .grammar => "SyntaxError"
    | .indentation => "IndentationError"
    | .tabs => "TabError"

/-- Name and wording together. -/
def SourceFault.describe (file : String) (f : SourceFault) : String :=
  s!"{f.name}: {f.message file}"

end Scratchpad
