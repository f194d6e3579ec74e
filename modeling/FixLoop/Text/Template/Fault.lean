import FixLoop.Text.Quoted

/-!
Why a message template cannot be filled in, and the messages that say so.
-/

namespace FixLoop

/-- Why a template cannot be filled in. -/
inductive TemplateFault where
  | unknownName (name : String)
  | position (index : Nat)
  | noAttribute (kind name : String)
  | noAttributeOfKind (kind name : String)
  | notIndexed (kind : String)
  | kindNotIndexed (kind : String)
  | namedItem (kind : String)
  | pastEnd (kind : String)
  | missingKey (shown : String)
  | afterIndex
  | noLayout (kind : String)
  | loneOpen
  | loneClose
  | openName
  | unclosedName
  | unclosedLayout
  | missingConversion
  | afterConversion
  | unknownConversion (conversion : Char)
  | emptyAttribute
  | tooDeep
  | tooManyDigits
  | missingPrecision
  | badLayout (layout kind : String)
  | unknownCode (code : Char) (kind : String)
  | grouping (mark code : Char)
  | bothGroupings
  | signInText (sign : Char)
  | zeroInText
  | alternateInText
  | innerAlignmentInText
  | precisionInNumber
  | zeroInNumber
  | signInCharacter
  | alternateInCharacter
  | notACharacter
  | beyondCharacters
  | beyondReals
  | precisionTooBig
  /-- The filled template would not fit into the memory. -/
  | tooLong
  deriving Repr, DecidableEq

namespace TemplateFault

/-- A character as a message names it, by itself if it lies between white space and a bound. -/
def shown (bound : Nat) (c : Char) : String :=
  if 32 < c.toNat && c.toNat < bound then String.ofList [c]
  else String.ofList (['\\', 'x'] ++ Nat.toDigits 16 c.toNat)

def message : TemplateFault → String
  | unknownName name => quoted name
  | position index =>
    "Replacement index " ++ toString index ++ " out of range for positional args tuple"
  | noAttribute kind name => "'" ++ kind ++ "' object has no attribute '" ++ name ++ "'"
  | noAttributeOfKind kind name =>
    "type object '" ++ kind ++ "' has no attribute '" ++ name ++ "'"
  | notIndexed kind => "'" ++ kind ++ "' object is not subscriptable"
  | kindNotIndexed kind => "type '" ++ kind ++ "' is not subscriptable"
  | namedItem kind =>
    if kind = "str" then "string indices must be integers, not 'str'"
    else kind ++ " indices must be integers or slices, not str"
  | pastEnd kind => (if kind = "str" then "string" else kind) ++ " index out of range"
  | missingKey shown => shown
  | afterIndex => "Only '.' or '[' may follow ']' in format field specifier"
  | noLayout kind => "unsupported format string passed to " ++ kind ++ ".__format__"
  | loneOpen => "Single '\x7b' encountered in format string"
  | loneClose => "Single '\x7d' encountered in format string"
  | openName => "unexpected '\x7b' in field name"
  | unclosedName => "expected '\x7d' before end of string"
  | unclosedLayout => "unmatched '\x7b' in format spec"
  | missingConversion => "end of string while looking for conversion specifier"
  | afterConversion => "expected ':' after conversion specifier"
  | unknownConversion c => "Unknown conversion specifier " ++ shown 127 c
  | emptyAttribute => "Empty attribute in format string"
  | tooDeep => "Max string recursion exceeded"
  | tooManyDigits => "Too many decimal digits in format string"
  | missingPrecision => "Format specifier missing precision"
  | badLayout layout kind =>
    "Invalid format specifier '" ++ layout ++ "' for object of type '" ++ kind ++ "'"
  | unknownCode code kind =>
    "Unknown format code '" ++ shown 128 code ++ "' for object of type '" ++ kind ++ "'"
  | grouping mark code =>
    "Cannot specify '" ++ String.ofList [mark] ++ "' with '" ++ shown 128 code ++ "'."
  | bothGroupings => "Cannot specify both ',' and '_'."
  | signInText sign =>
    (if sign = ' ' then "Space" else "Sign") ++ " not allowed in string format specifier"
  | zeroInText => "Negative zero coercion (z) not allowed in string format specifier"
  | alternateInText => "Alternate form (#) not allowed in string format specifier"
  | innerAlignmentInText => "'=' alignment not allowed in string format specifier"
  | precisionInNumber => "Precision not allowed in integer format specifier"
  | zeroInNumber => "Negative zero coercion (z) not allowed in integer format specifier"
  | signInCharacter => "Sign not allowed with integer format specifier 'c'"
  | alternateInCharacter => "Alternate form (#) not allowed with integer format specifier 'c'"
  | notACharacter => "%c arg not in range(0x110000)"
  | beyondCharacters => "Python int too large to convert to C long"
  | beyondReals => "int too large to convert to float"
  | precisionTooBig => "precision too big"
  | tooLong => ""

end TemplateFault

end FixLoop
