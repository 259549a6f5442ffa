import CredentialPolicy.Document
import CredentialPolicy.Json.Reader
import CredentialPolicy.Yaml.Plain
import CredentialPolicy.Yaml.Reader

namespace CredentialPolicy

def Leaf.json? : Leaf → Option Json
  | .null => some .null
  | .bool b => some (.bool b)
  | .int n => some (.int n)
  | .decimal d => some (.decimal d)
  | .text s => some (.text s)
  | .plain s => some (.text s)
  | .valueless => none

namespace Shape

/-- The name that a key gives to a member. Where the members are not known, a plain key has to be
a text by itself. -/
def name? (shape : Shape) (key : Leaf) : Option String :=
  match shape, key with
  | .any, .plain s => if Yaml.resolvePlain s = .text s then some s else none
  | _, .text s => some s
  | _, .plain s => some s
  | _, _ => none

/-- What a plain scalar is where a shape is expected. An empty one is also an empty list or
record. -/
def plain? (value : String) : Shape → Option Json
  | .text => some (.text value)
  | .optional shape => if Yaml.isNull value then some .null else shape.plain? value
  | .list _ => if value.isEmpty then some (.list []) else (Yaml.resolvePlain value).json?
  | .record _ _ => if value.isEmpty then some (.object []) else (Yaml.resolvePlain value).json?
  | _ => (Yaml.resolvePlain value).json?

def leaf? (shape : Shape) : Leaf → Option Json
  | .plain value => shape.plain? value
  | leaf => leaf.json?

end Shape

structure Format where
  depth : Nat
  /-- Whether records are always objects and names always scalars. -/
  strict : Bool
deriving DecidableEq, Repr

def Format.json : Format :=
  ⟨127, false⟩

def Format.yaml : Format :=
  ⟨128, true⟩

def Shape.readFrom? (strict : Bool) (depth : Nat) (shape : Shape) (node : Node) : Option Json :=
  match shape, depth, node with
  | .ignored, _, _ => some .null
  | shape, _, .leaf leaf => shape.leaf? leaf
  | _, 0, _ => none
  | shape, depth + 1, .list items =>
    if strict && shape.isRecord then none
    else (items.zipIdx.mapM fun (item, i) => readFrom? strict depth (shape.itemAt i) item).map .list
  | shape, depth + 1, .object members =>
    if strict && shape.isText then none
    else
      (members.mapM fun (key, value) =>
        (shape.name? key).bind fun name =>
          (readFrom? strict depth (shape.member name) value).map fun json =>
            (name, json)).map .object

def Format.read? (format : Format) (shape : Shape) (node : Node) : Option Json :=
  shape.readFrom? format.strict format.depth node

/-- YAML is read without anchors, aliases, tags and directives. -/
instance : TextReader where
  json? shape text := (Json.node? text).bind (Format.json.read? shape)
  yaml? shape text := (Yaml.node? text).bind (Format.yaml.read? shape)

end CredentialPolicy
