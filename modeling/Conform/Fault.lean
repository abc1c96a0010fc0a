import Conform.Pointer.Basic
import Conform.Value.Kind

/-!
Why an operation did not answer. Each cause has a label, under which reports name it, and a
message.
-/
namespace Conform

/-- Why a pointer addresses nothing. -/
inductive Dangling where
  | noMember (name : String)
  | noElement (token : String)
  | scalar
  deriving DecidableEq, Repr

structure Issue where
  path : String
  message : String
  deriving DecidableEq, Repr

/-- Everything that can go wrong. -/
inductive Fault where
  /-- A number that no document holds. -/
  | nonFinite (x : Real)
  | notDocument (typeName : String)
  | digitLimit (digits : Nat)
  /-- An integer with more digits than are written. -/
  | unwritable
  | pointerStart (text : String)
  | pointerEscape (token : String)
  | tokenType (typeName : String)
  | dangling (pointer reached : Pointer) (reason : Dangling)
  | typeNameShape (typeName : String)
  | typeNameUnknown (name : String)
  | severity (value : Value)
  | schemaShape (location : Option Location) (typeName : String)
  /-- A keyword value that its builder rejects. -/
  | malformed (keyword message : String)
  | absent (keyword : String)
  | notChecker (typeName : String)
  | notBuilt (keyword typeName : String)
  | notVerdict (keyword typeName : String)
  | notDiagnostic (typeName : String)
  | notVocabulary (typeName : String)
  | notPath (typeName : String)
  | referenceShape (typeName : String)
  | noDocument (uri : String)
  | fragment (fragment : String) (cause : Fault)
  | badValue (message : String)
  | pattern (message : String)
  | repetition
  /-- A pattern that is well formed and yet cannot be worked with. -/
  | unusablePattern
  /-- A match in which a group ends before it begins. -/
  | tangledGroup
  | position (token : String)
  /-- A position that a value of a type does not have. -/
  | outOfRange (typeName : String)
  /-- A point in time that the clock cannot hold. -/
  | timeRange
  /-- A point in time whose year has no number. -/
  | yearRange
  | unhashable (typeName : String)
  /-- A setting, named by its path, that has no valid value. -/
  | setting (path message : String)
  /-- A field that options do not have. -/
  | unknownField (name : String)
  | frozenVocabulary
  | vocabularyInUse
  | unserializable (typeName : String)
  | configLoad (message : String)
  /-- Octets that are no text, by the first of them and the places of the first and the last. -/
  | undecodable (octet first last : Nat) (reason : String)
  /-- A path that is too long, or that has too long a name. -/
  | longName (path : String)
  | configInvalid (issues : List Issue)
  | noHome
  | template (isValueFault : Bool) (message : String)
  /-- A number beyond what can be written or converted. -/
  | tooLarge (message : String)
  /-- A field of a log record that is named like something the record itself knows. -/
  | reservedField (name : String)
  /-- What a builder from outside fails with, under a label of its own. -/
  | raised (label message : String)
  /-- A value that has no number of elements. -/
  | unsized (typeName : String)
  | uniterable (typeName : String)
  | notNumeric
  /-- Values of two types that no order sets against each other. -/
  | unordered (left right : String)
  /-- A value in which no name can be looked for. -/
  | unsearchable (typeName : String)
  | notText (typeName : String)
  /-- A value in a list of names that is none. -/
  | notName (typeName : String)
  /-- A chain of references that returned to where it had been, where that is not reported. -/
  | referenceLoop
  /-- An evaluation that used up the steps it was given. -/
  | outOfSteps
  deriving Repr

namespace Fault

def label : Fault → String
  | .nonFinite _ | .notDocument _ | .tokenType _ | .notChecker _ | .notBuilt _ _
  | .notVerdict _ _ | .notDiagnostic _ | .notVocabulary _ | .notPath _
  | .unserializable _ | .unsized _ | .uniterable _ | .unordered _ _ | .unhashable _
  | .unsearchable _ | .notText _ | .notName _ | .unknownField _ => "TypeError"
  | .digitLimit _ | .unwritable | .pointerStart _ | .pointerEscape _ | .typeNameShape _ | .typeNameUnknown _
  | .severity _ | .badValue _ | .position _ | .setting _ _ => "ValueError"
  | .dangling _ _ _ => "PointerResolutionError"
  | .schemaShape _ _ => "SchemaTypeError"
  | .malformed _ _ => "KeywordConstructionError"
  | .absent _ | .reservedField _ => "KeyError"
  | .referenceShape _ | .noDocument _ | .fragment _ _ => "RefResolutionError"
  | .pattern _ => "error"
  | .repetition | .timeRange | .tooLarge _ => "OverflowError"
  | .yearRange | .longName _ => "OSError"
  | .outOfRange _ => "IndexError"
  | .tangledGroup => "SystemError"
  | .frozenVocabulary | .vocabularyInUse => "RegistryFrozenError"
  | .undecodable _ _ _ _ => "UnicodeDecodeError"
  | .configLoad _ => "ConfigLoadError"
  | .configInvalid _ => "ConfigValidationError"
  | .noHome | .unusablePattern => "RuntimeError"
  | .template isValueFault _ => if isValueFault then "ValueError" else "TypeError"
  | .raised label _ => label
  | .notNumeric => "InvalidOperation"
  | .referenceLoop | .outOfSteps => "RecursionError"

def danglingText : Dangling → String
  | .noMember name => "member " ++ Text.quoted name ++ " not found"
  | .noElement token => "index " ++ Text.quoted token ++ " out of range"
  | .scalar => "cannot descend into a scalar"

def issuesText (issues : List Issue) : String :=
  if issues.isEmpty then "unknown validation failure"
  else String.intercalate "\n" (issues.map fun i => "- " ++ i.path ++ ": " ++ i.message)

/-- The literal of a text, cut off behind 200 characters. -/
def shortened (s : String) : String := String.ofList ((Text.quotedChars s.toList).take 200)

def message : Fault → String
  | .nonFinite x => "non-finite number " ++ x.text ++ " is not a JSON value"
  | .notDocument t => t ++ " is not a JSON value"
  | .digitLimit n =>
    "Exceeds the limit (4300 digits) for integer string conversion: value has " ++ toString n ++
      " digits; use sys.set_int_max_str_digits() to increase the limit"
  | .unwritable =>
    "Exceeds the limit (4300 digits) for integer string conversion; use " ++
      "sys.set_int_max_str_digits() to increase the limit"
  | .pointerStart s =>
    "invalid JSON pointer " ++ Text.quoted s ++ ": must be empty or start with '/'"
  | .pointerEscape t => "invalid escape sequence in pointer token " ++ Text.quoted t
  | .tokenType t => "pointer tokens must be strings, got " ++ t
  | .dangling p q r => p.text ++ ": " ++ danglingText r ++ " at " ++ q.text
  | .typeNameShape t => "type name must be a string, got " ++ t
  | .typeNameUnknown s =>
    "unknown type name " ++ Text.quoted s ++ "; expected one of: " ++ Kind.allNames
  | .severity v =>
    "invalid log level " ++ v.literal ++ "; expected one of: DEBUG, INFO, WARNING, ERROR, FATAL"
  | .schemaShape none t => "schema must be an object, got " ++ t
  | .schemaShape (some l) t => l.text ++ ": schema must be an object, got " ++ t
  | .malformed k m => k ++ ": " ++ m
  | .absent k => Text.quoted k
  | .notChecker t => t ++ " is not a checker"
  | .notBuilt k t =>
    "builder for keyword " ++ Text.quoted k ++ " returned " ++ t ++
      ", expected a checker or keyword logic"
  | .notVerdict k t => "keyword " ++ Text.quoted k ++ " logic returned " ++ t ++ ", expected bool"
  | .notDiagnostic t => "expected Diagnostic, got " ++ t
  | .notVocabulary t => "expected a keyword registry, got " ++ t
  | .notPath t => t ++ " does not support ancestor comparison"
  | .referenceShape t => "reference must be a string, got " ++ t
  | .noDocument u => "no document registered for " ++ Text.quoted u
  | .fragment f cause => "invalid fragment " ++ Text.quoted f ++ ": " ++ cause.message
  | .badValue m => m
  | .pattern m => m
  | .repetition => "the repetition number is too large"
  | .unusablePattern => "invalid SRE code"
  | .position t => "invalid literal for int() with base 10: " ++ shortened t
  | .outOfRange t => (if t = "list" then "list " else "") ++ "index out of range"
  | .tangledGroup =>
    "The span of capturing group is wrong, please report a bug for the re module."
  | .timeRange => "timestamp out of range for platform time_t"
  | .yearRange => "[Errno 75] Value too large for defined data type"
  | .unhashable t => "unhashable type: '" ++ t ++ "'"
  | .setting p m => p ++ ": " ++ m
  | .unknownField name =>
    "EngineOptions.__init__() got an unexpected keyword argument '" ++ name ++ "'"
  | .frozenVocabulary => "keyword registry is frozen; register keywords before freezing"
  | .vocabularyInUse =>
    "default keyword registry is already in use; register keywords during setup"
  | .unserializable t => "Object of type " ++ t ++ " is not JSON serializable"
  | .configLoad m => m
  | .undecodable octet first last reason =>
    "'utf-8' codec can't decode " ++
      (if first = last then
        "byte 0x" ++ String.ofList (Text.hexDigits 2 octet) ++ " in position " ++ toString first
      else "bytes in position " ++ toString first ++ "-" ++ toString last) ++ ": " ++ reason
  | .longName p => "[Errno 36] File name too long: " ++ Text.quoted p
  | .configInvalid issues => "invalid config:\n" ++ issuesText issues
  | .noHome => "Could not determine home directory."
  | .template _ m => m
  | .tooLarge m => m
  | .reservedField name =>
    Text.quoted ("Attempt to overwrite " ++ Text.quoted name ++ " in LogRecord")
  | .raised label m => if label = "KeyError" then Text.quoted m else m
  | .unsized t => "object of type '" ++ t ++ "' has no len()"
  | .uniterable t => "'" ++ t ++ "' object is not iterable"
  | .unordered a b =>
    "'<' not supported between instances of '" ++ a ++ "' and '" ++ b ++ "'"
  | .unsearchable t => "argument of type '" ++ t ++ "' is not iterable"
  | .notText t => "expected string or bytes-like object, got '" ++ t ++ "'"
  | .notName t => "sequence item 0: expected str instance, " ++ t ++ " found"
  | .notNumeric => "[<class 'decimal.ConversionSyntax'>]"
  | .referenceLoop | .outOfSteps => "maximum recursion depth exceeded"

end Fault

end Conform
