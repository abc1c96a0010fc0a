import Conform.Format.Moment
import Conform.Pattern.Basic
import Conform.Uri.Basic
import Conform.Value.Kind

/-!
The formats that a string or a number can be asked to have. A value that is not a string is
checked by its text.
-/
namespace Conform

inductive Format where
  | dateTime | date | time | utcMillisec | regex | color | style | phone | uri | email
  | ipAddress | ipv6 | hostName
  deriving DecidableEq, Repr

namespace Format

def all : List Format :=
  [.dateTime, .date, .time, .utcMillisec, .regex, .color, .style, .phone, .uri, .email,
    .ipAddress, .ipv6, .hostName]

def name : Format → String
  | .dateTime => "date-time"
  | .date => "date"
  | .time => "time"
  | .utcMillisec => "utc-millisec"
  | .regex => "regex"
  | .color => "color"
  | .style => "style"
  | .phone => "phone"
  | .uri => "uri"
  | .email => "email"
  | .ipAddress => "ip-address"
  | .ipv6 => "ipv6"
  | .hostName => "host-name"

def ofName? (s : String) : Option Format := all.find? (·.name == s)

/-- The kinds of values that are checked at all. -/
def kinds : Format → List Kind
  | .utcMillisec => [.integer, .number]
  | _ => [.string]

/-- The text without one line end behind it. -/
def withoutLineEnd (cs : List Char) : List Char :=
  if cs.getLast? = some '\n' then cs.dropLast else cs

def colorNames : List String :=
  ["aqua", "black", "blue", "fuchsia", "gray", "green", "lime", "maroon", "navy", "olive", "orange",
    "purple", "red", "silver", "teal", "white", "yellow"]

def isHexColor (cs : List Char) : Bool :=
  match withoutLineEnd cs with
  | '#' :: ds => (ds.length == 3 || ds.length == 6) && ds.all Address.isHexDigit
  | _ => false

def isColor (s : String) : Bool := colorNames.contains (Text.lower s) || isHexColor s.toList

/-- A property name, a colon, and something behind it. -/
def isDeclaration (cs : List Char) : Bool :=
  let cs := cs.dropWhile Text.isBlank
  let name := cs.takeWhile fun c => c.isAlpha || c == '-'
  let rest := (cs.dropWhile fun c => c.isAlpha || c == '-').dropWhile Text.isBlank
  !name.isEmpty && rest.head? == some ':' && 1 < rest.length

def isStyle (cs : List Char) : Bool :=
  let declarations := (Text.pieces ';' cs).filter fun p => !p.all Text.isBlank
  !declarations.isEmpty && declarations.all isDeclaration

def isPhoneChar (c : Char) : Bool :=
  c.isDigit || c == ' ' || c == '(' || c == ')' || c == '.' || c == '-'

def isPhone (cs : List Char) : Bool :=
  let cs := withoutLineEnd cs
  let cs := if cs.head? = some '+' then cs.drop 1 else cs
  6 ≤ cs.length && cs.all isPhoneChar && (cs.head?.map Char.isDigit).getD false &&
    (cs.getLast?.map Char.isDigit).getD false

def isMailPart (cs : List Char) : Bool := !cs.isEmpty && !cs.any Text.isBlank

def isMail (cs : List Char) : Bool :=
  match Text.pieces '@' (withoutLineEnd cs) with
  | [a, b] => isMailPart a && isMailPart b
  | _ => false

def isHostLabel (cs : List Char) : Bool :=
  let cs := withoutLineEnd cs
  !cs.isEmpty && cs.length ≤ 63 && (cs.all fun c => c.isAlphanum || c == '-') &&
    cs.head? != some '-' && cs.getLast? != some '-'

/-- Labels between points; points at the end are ignored. -/
def isHostName (cs : List Char) : Bool :=
  !cs.isEmpty && cs.length ≤ 255 &&
    (Text.pieces '.' (cs.reverse.dropWhile (· == '.')).reverse).all isHostLabel

/-- A reference with a scheme and without blanks. -/
def isUri (cs : List Char) : Bool :=
  !cs.isEmpty && !cs.any Text.isBlank &&
    match Uri.split [] cs with
    | .ok u => !u.scheme.isEmpty
    | .error _ => false

/-- Whether a text is a regular expression. A repetition beyond every limit is no answer. -/
def isRegex (s : String) : Except Fault Bool :=
  match Pattern.compile s with
  | .ok _ => .ok true
  | .error (.pattern _) => .ok false
  | .error f => .error f

def isMoment : Value → Bool
  | .int n => 0 ≤ n
  | .real x => x.isNonNegative
  | _ => false

def check (f : Format) (v : Value) : Except Fault Bool :=
  match f with
  | .dateTime => .ok (Moment.isDateTime v.text.toList)
  | .date => .ok (Moment.isDate v.text.toList)
  | .time => .ok (Moment.isTime v.text.toList)
  | .utcMillisec => .ok (isMoment v)
  | .regex => isRegex v.text
  | .color => .ok (isColor v.text)
  | .style => .ok (isStyle v.text.toList)
  | .phone => .ok (isPhone v.text.toList)
  | .uri => .ok (isUri v.text.toList)
  | .email => .ok (isMail v.text.toList)
  | .ipAddress => .ok (Address.isVersion4 v.text.toList)
  | .ipv6 => .ok (Address.isVersion6 v.text.toList)
  | .hostName => .ok (isHostName v.text.toList)

end Format

end Conform
