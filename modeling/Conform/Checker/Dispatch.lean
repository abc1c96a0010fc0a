import Conform.Vocabulary.Basic

/-!
From a site to its checker. Keywords are built in registration order; the first that cannot be
built makes the whole node fail with one diagnostic.
-/
namespace Conform

namespace Checker

/-- The checker of a node that cannot be used, with a note that says so. -/
def unusable (s : Site) (keyword : Option String) (f : Fault) : Checker × Note :=
  let subject := match keyword with
    | some k => "keyword " ++ k
    | none => "schema node"
  let d := s.diagnostic ("cannot instantiate validator for " ++ subject ++ ": " ++ f.label)
    keyword [("error_class", .str f.label), ("error", .str f.message)] .error .construction
  (.never (some d),
    ⟨"dispatch", .warning, "keyword construction failed",
      [("keyword", Diagnostic.optional keyword), ("error_class", .str f.label),
        ("instance_path", .str s.path.text), ("schema_location", .str s.location.text)]⟩)

/-- Builds entries in turn, up to the first that fails. -/
def build (s : Site) : List Entry → List Note × Except (String × Fault) (List Checker)
  | [] => ([], .ok [])
  | e :: es =>
    let (notes, built) := e.builder s
    match built.bind (ofBuilt e.name s) with
    | .error f => (notes, .error (e.name, f))
    | .ok c =>
      let (later, rest) := build s es
      (notes ++ later, rest.map (c :: ·))

/-- Elements and members are judged after their container. -/
def wrap (s : Site) (kind : Kind) (node : Checker) : Checker :=
  match kind with
  | .array | .object => .container kind node s
  | _ => node

def dispatchNote (s : Site) (kind : Kind) (names : List String) : Note :=
  ⟨"dispatch", .debug, "dispatching schema node",
    [("instance_path", .str s.path.text), ("schema_location", .str s.location.text),
      ("instance_type", .str kind.name), ("keywords", .arr (names.map .str))]⟩

/-- The checker of a site. Only a value that no document holds has none. -/
def forSite (v : Vocabulary) (s : Site) : List Note × Except Fault Checker :=
  match s.schema with
  | .obj [] => ([], .ok .always)
  | .obj node =>
    match s.kind with
    | .error f => ([], .error f)
    | .ok kind =>
      let entries := v.applicable (Members.keys node) kind
      let opening := dispatchNote s kind (entries.map (·.name))
      match build s entries with
      | (notes, .ok checkers) => (opening :: notes, .ok (wrap s kind (allOf checkers)))
      | (notes, .error (keyword, f)) =>
        let (c, n) := unusable s (some keyword) f
        (opening :: notes ++ [n], .ok c)
  | schema =>
    let (c, n) := unusable s none (.schemaShape none schema.typeName)
    ([n], .ok c)

end Checker

end Conform
