import Conform.Json.Writer

/-!
Configurations: members grouped in sections. A layer laid over another one wins wherever the two
disagree, and sections are joined member by member.
-/
namespace Conform.Config

/-- The version of the sections and keys described here. -/
def version : Int := 1

def defaults : Members :=
  [("meta", .obj [("schema_version", .int version)]),
    ("engine", .obj [("max_workers", .int 1), ("parallel_min_children", .int 8),
      ("suppress_repeated_schema_faults", .bool false), ("report_log_level", .str "INFO")]),
    ("observability", .obj [("log_level", .str "WARNING"), ("log_format", .str "json"),
      ("log_file", .str ""), ("log_to_stderr", .bool true)])]

mutual

/-- A value with its sections, but no list, in the order of their names. -/
def orderedValue : Value → Value
  | .obj ms => .obj (orderedMembers ms).sorted
  | v => v

def orderedMembers : List (String × Value) → Members
  | [] => []
  | (k, v) :: ms => (k, orderedValue v) :: orderedMembers ms

end

def ordered (c : Members) : Members := (orderedMembers c).sorted

def sectionOf : Option Value → Members
  | some (.obj ms) => ms
  | _ => []

mutual

/-- What a member becomes when a value is laid over it. -/
def overlaid (old : Option Value) : Value → Value
  | .obj ms => .obj (overlay (sectionOf old) ms)
  | v => v

def overlay (base : Members) : List (String × Value) → Members
  | [] => base
  | (k, v) :: ms => overlay (base.put k (overlaid (base.get? k) v)) ms

end

/-- One configuration laid over another; members that only the upper one has come last. -/
def merge (base upper : Members) : Members := overlay (ordered base) (ordered upper)

/-- Sets what a path names, making sections of what is in the way. -/
def setAt : List String → Value → Members → Members
  | [], _, c => c
  | [k], v, c => c.put k v
  | k :: ks, v, c => c.put k (.obj (setAt ks v (sectionOf (c.get? k))))

/-- A configuration as one line. -/
def dump (c : Members) : Except Fault String := Json.text (.obj c)

end Conform.Config
