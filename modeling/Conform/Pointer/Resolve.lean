import Conform.Fault
import Conform.Text.Integer

/-!
Reading pointer texts and walking documents along pointers.
-/
namespace Conform.Pointer

def unescapeAll : List (List Char) → Except Fault (List String)
  | [] => .ok []
  | p :: ps =>
    match unescape p with
    | none => .error (.pointerEscape (String.ofList p))
    | some t => (unescapeAll ps).map (String.ofList t :: ·)

/-- The pointer of a text, which is empty or starts with a slash. -/
def parse (s : String) : Except Fault Pointer :=
  match s.toList with
  | [] => .ok root
  | '/' :: r => (unescapeAll (Text.pieces '/' r)).map fun ts => ⟨ts⟩
  | _ => .error (.pointerStart s)

/-- The position that a token names: plain digits without a leading zero. -/
def index? (token : String) : Except Fault (Option Nat) :=
  let cs := token.toList
  if cs.isEmpty || !cs.all Char.isDigit then .ok none
  else if 1 < cs.length && cs.head? == some '0' then .ok none
  else if Text.maxIntegerDigits < cs.length then .error (.digitLimit cs.length)
  else .ok (some (Real.digitsValue cs))

/-- Walks `cursor` along `rest`, having taken the first `depth` tokens of `p`. -/
def walk (p : Pointer) : Nat → List String → Value → Except Fault Value
  | _, [], cursor => .ok cursor
  | depth, t :: ts, cursor =>
    let missing (reason : Dangling) : Except Fault Value :=
      .error (.dangling p ⟨p.tokens.take (depth + 1)⟩ reason)
    match cursor.members?, cursor.elements? with
    | some ms, _ =>
      match ms.get? t with
      | some v => walk p (depth + 1) ts v
      | none => missing (.noMember t)
    | none, some xs =>
      match index? t with
      | .error f => .error f
      | .ok none => missing (.noElement t)
      | .ok (some i) =>
        match xs[i]? with
        | some v => walk p (depth + 1) ts v
        | none => missing (.noElement t)
    | none, none => missing .scalar

/-- The node of a document that a pointer addresses. -/
def resolve (p : Pointer) (document : Value) : Except Fault Value := walk p 0 p.tokens document

end Conform.Pointer
