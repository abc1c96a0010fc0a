import Conform.Pointer.Resolve
import Conform.Uri.Join
import Conform.Uri.Percent

/-!
The documents that references may lead to: a root document and a store, each under its address
without fragment.
-/
namespace Conform

structure Documents where
  baseUri : String := ""
  entries : Members := []
  deriving Repr

namespace Documents

def address (uri : String) : Except Fault String := (Uri.defragment uri).map (·.1)

def storeAll : Members → Members → Except Fault Members
  | [], entries => .ok entries
  | (uri, document) :: store, entries => do
    let key ← address uri
    storeAll store (Members.put entries key document)

/-- The root document wins over a stored one at its address. -/
def make (root : Value) (baseUri : String) (store : Members) : Except Fault Documents := do
  let entries ← storeAll store []
  let base ← address baseUri
  return ⟨base, Members.put entries base root⟩

/-- The same store with another root document. -/
def withRoot (d : Documents) (root : Value) : Except Fault Documents :=
  make root d.baseUri (d.entries.filter (·.1 != d.baseUri))

def uris (d : Documents) : List String := d.entries.sorted.keys

/-- Where a fragment leads inside a document. -/
def fragmentPointer (fragment : String) : Except Fault Pointer :=
  match Pointer.parse (Uri.percentDecoded fragment) with
  | .ok p => .ok p
  | .error f => .error (.fragment fragment f)

/-- The location and the node that a reference found at `base` leads to. -/
def resolve (d : Documents) (reference : Value) (base : Location) :
    Except Fault (Location × Value) :=
  match reference with
  | .str ref => do
    let target ← Uri.join base.uri ref
    let (uri, fragment) ← Uri.defragment target
    let uri ← if uri.isEmpty then pure base.uri else address uri
    match d.entries.get? uri with
    | none => throw (.noDocument uri)
    | some document =>
      let pointer ← fragmentPointer fragment
      let node ← pointer.resolve document
      return (⟨uri, pointer⟩, node)
  | v => .error (.referenceShape v.typeName)

end Documents

/-- Whether a fault says that a reference leads nowhere. -/
def Fault.isReference : Fault → Bool
  | .referenceShape _ | .noDocument _ | .fragment _ _ | .dangling _ _ _ => true
  | _ => false

end Conform
