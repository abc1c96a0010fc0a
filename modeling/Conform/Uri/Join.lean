import Conform.Uri.Basic

/-!
Relative references resolved against a base, and fragments taken off.
-/
namespace Conform.Uri

/-- Resolves the segments `.` and `..`; going above the top is ignored. -/
def resolveSegments : List (List Char) → List (List Char) → List (List Char)
  | done, [] => done.reverse
  | done, seg :: segs =>
    if seg = ['.', '.'] then resolveSegments done.tail segs
    else if seg = ['.'] then resolveSegments done segs
    else resolveSegments (seg :: done) segs

/-- Drops the empty segments between the first and the last. -/
def withoutInnerEmpty : List (List Char) → List (List Char)
  | [] => []
  | first :: rest =>
    match rest.getLast? with
    | none => [first]
    | some last => first :: rest.dropLast.filter (!·.isEmpty) ++ [last]

def joinedWith (mark : Char) : List (List Char) → List Char
  | [] => []
  | [p] => p
  | p :: ps => p ++ mark :: joinedWith mark ps

/-- The path of a reference seen from the path of its base. -/
def mergePath (base path : List Char) : List Char :=
  let segments :=
    if path.head? = some '/' then Text.pieces '/' path
    else
      let parts := Text.pieces '/' base
      let parts := if parts.getLast? = some [] then parts else parts.dropLast
      withoutInnerEmpty (parts ++ Text.pieces '/' path)
  let resolved := resolveSegments [] segments
  let resolved :=
    match segments.getLast? with
    | some last => if last = ['.'] || last = ['.', '.'] then resolved ++ [[]] else resolved
    | none => resolved
  let merged := joinedWith '/' resolved
  if merged.isEmpty then ['/'] else merged

/-- The reference `r` seen from `b`, whose scheme it has by default. -/
def resolveAgainst (b r : Uri) : Option Uri :=
  if r.scheme != b.scheme || !isIn relativeSchemes r.scheme then none
  else if isIn authoritySchemes r.scheme && !r.authority.isEmpty then some r
  else
    let authority := if isIn authoritySchemes r.scheme then b.authority else r.authority
    if r.path.isEmpty && r.parameters.isEmpty then
      some { r with
        authority, path := b.path, parameters := b.parameters,
        query := if r.query.isEmpty then b.query else r.query }
    else some { r with authority, path := mergePath b.path r.path }

/-- The text that `reference` stands for in a document at `base`. -/
def join (base reference : String) : Except Fault String :=
  if base.isEmpty then .ok reference
  else if reference.isEmpty then .ok base
  else do
    let b ← parse [] base.toList
    let r ← parse b.scheme reference.toList
    return match resolveAgainst b r with
      | some u => String.ofList u.text
      | none => reference

/-- A reference without its fragment, and the fragment. -/
def defragment (s : String) : Except Fault (String × String) :=
  if s.toList.contains '#' then do
    let u ← parse [] s.toList
    return (String.ofList ({ u with fragment := [] } : Uri).text, String.ofList u.fragment)
  else .ok (s, "")

end Conform.Uri
