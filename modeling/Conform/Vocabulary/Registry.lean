import Conform.Keyword.Basic

/-!
Registries: open ones take registrations, frozen ones refuse them. The default vocabulary of a
process is open until it is first used.
-/
namespace Conform

/-- What an open registry keeps: its entries by name, and the place of the next new name. -/
structure Roll where
  entries : List Entry := []
  next : Nat := 0

/-- A vocabulary as a roll that goes on after its last entry. -/
instance : Coe Vocabulary Roll := ⟨fun v => ⟨v.entries, v.entries.length⟩⟩

namespace Roll

def lookup (r : Roll) (name : String) : Option Entry := r.entries.find? (·.name == name)

/-- The place of a name: the one that it has, or else the next one. -/
def place (name : String) : StateM Roll Nat := do
  let r ← get
  match r.lookup name with
  | some e => return e.order
  | none =>
    set { r with next := r.next + 1 }
    return r.next

/-- Enters a registration, over that of the same name if there is one. -/
def enter (g : Registration) : StateM Roll Entry := do
  let e : Entry := ⟨g.name, g.kinds, g.builder, ← place g.name⟩
  modify fun r => { r with entries := Vocabulary.put r.entries e.name e.kinds e.builder e.order }
  return e

def register (q : Request) : ExceptT Fault (StateM Roll) Entry := do
  enter (← q.read)

/-- What a request leaves behind, and the entry if it is granted. -/
def submit (r : Roll) (q : Request) : Roll × Except Fault Entry := ((register q).run.run r).swap

/-- What requests leave behind one after the other, and how each was answered. -/
def run (r : Roll) : List Request → Roll × List (Except Fault Entry)
  | [] => (r, [])
  | q :: qs =>
    let (s, answer) := r.submit q
    let (t, answers) := s.run qs
    (t, answer :: answers)

/-- Enters the known keywords, or those of them that `only` lists. -/
def insertKnown (r : Roll) (only : Option (List String)) : Roll :=
  (Vocabulary.insertKnown {} only).entries.foldl (fun r e => ((enter e.registration).run r).2) r

/-- The roll of the known keywords. -/
def known : Roll := insertKnown {} none

end Roll

inductive Registry where
  | open_ (r : Roll)
  | frozen (v : Vocabulary)

namespace Registry

/-- The entries by their places. -/
def ordered : Registry → List Entry
  | .open_ r => r.entries.mergeSort fun a b => decide (a.order ≤ b.order)
  | .frozen v => v.entries

/-- The vocabulary that a validator is bound to. -/
def vocabulary (r : Registry) : Vocabulary := ⟨r.ordered⟩

def names (r : Registry) : List String := r.ordered.map (·.name)

/-- A frozen registry finds the last of its entries with a name. -/
def lookup : Registry → String → Option Entry
  | .open_ r, name => r.lookup name
  | .frozen v, name => v.entries.reverse.find? (·.name == name)

def contains (r : Registry) (name : String) : Bool := (r.lookup name).isSome

/-- How many names can be looked up. -/
def size : Registry → Nat
  | .open_ r => r.entries.length
  | .frozen v => v.names.eraseDups.length

/-- The registered names among `keys` that apply to values of a kind. -/
def applicable (r : Registry) (keys : List String) (kind : Kind) : List String :=
  (r.vocabulary.applicable keys kind).map (·.name)

def freeze (r : Registry) : Registry := .frozen r.vocabulary

/-- An open copy, into which every entry is registered anew. -/
def thaw (r : Registry) : Registry := .open_ (Roll.run {} (r.ordered.map Entry.request)).1

/-- What a request leaves behind, and the entry if it is granted. -/
def submit (r : Registry) (q : Request) : Registry × Except Fault Entry :=
  match r with
  | .open_ roll =>
    let (left, answer) := roll.submit q
    (.open_ left, answer)
  | .frozen v => (.frozen v, .error .frozenVocabulary)

def register (r : Registry) (name types : Value) (builder : Option Builder) :
    Except Fault (Registry × Entry) :=
  let (left, answer) := r.submit ⟨name, types, builder⟩
  answer.map fun e => (left, e)

/-- Registers the known keywords, or those of them that are named. A frozen registry refuses the
first one, so it takes none. -/
def insertKnown (r : Registry) (only : Option (List String)) : Except Fault Registry :=
  match r with
  | .open_ roll => .ok (.open_ (roll.insertKnown only))
  | .frozen v =>
    if (Vocabulary.insertKnown {} only).entries.isEmpty then .ok (.frozen v)
    else .error .frozenVocabulary

end Registry

/-- The default vocabulary: the known keywords and what is registered before its first use. -/
inductive DefaultVocabulary where
  | unbuilt
  | building (r : Roll)
  | inUse (v : Vocabulary)

namespace DefaultVocabulary

/-- The registry that registrations go to. -/
def registry : DefaultVocabulary → Registry
  | .unbuilt => .open_ .known
  | .building r => .open_ r
  | .inUse v => .frozen v

/-- The vocabulary that use would begin with. -/
def current (d : DefaultVocabulary) : Vocabulary := d.registry.vocabulary

def use (d : DefaultVocabulary) : DefaultVocabulary × Vocabulary := (.inUse d.current, d.current)

/-- What a registration leaves behind, and the entry if it is granted. -/
def register (d : DefaultVocabulary) (name types : Value) (builder : Option Builder) :
    DefaultVocabulary × Except Fault Entry :=
  let submit (r : Roll) : DefaultVocabulary × Except Fault Entry :=
    let (left, answer) := r.submit ⟨name, types, builder⟩
    (.building left, answer)
  match d with
  | .unbuilt => submit .known
  | .building r => submit r
  | .inUse v => (.inUse v, .error .vocabularyInUse)

end DefaultVocabulary

end Conform
