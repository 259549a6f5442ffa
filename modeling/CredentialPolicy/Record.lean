import CredentialPolicy.Json
import CredentialPolicy.Shape

namespace CredentialPolicy

abbrev Fields := List (List String × Shape)

abbrev Entries := List (String × Json)

namespace Entries

def valuesOf (entries : Entries) (spellings : List String) : List Json :=
  (entries.filter fun e => spellings.contains e.1).map (·.2)

def without (entries : Entries) (spellings : List String) : Entries :=
  entries.filter fun e => !spellings.contains e.1

def required? {α : Type} (entries : Entries) (spellings : List String)
    (decode : Json → Option α) : Option α :=
  match entries.valuesOf spellings with
  | [value] => decode value
  | _ => none

def withDefault? {α : Type} (entries : Entries) (spellings : List String) (default : α)
    (decode : Json → Option α) : Option α :=
  match entries.valuesOf spellings with
  | [] => some default
  | [value] => decode value
  | _ => none

def optional? {α : Type} (entries : Entries) (spellings : List String)
    (decode : Json → Option α) : Option (Option α) :=
  match entries.valuesOf spellings with
  | [] => some none
  | [.null] => some none
  | [value] => (decode value).map some
  | _ => none

end Entries

def spellingOf (field : List String × Shape) : String :=
  field.1.headD ""

/-- The entries of a record, which may also list the values of its fields in their order; the
fields behind the first `least` may be left out of such a list. -/
def Json.entries? (fields : Fields) (least : Nat) : Json → Option Entries
  | .object members => some members
  | .list items =>
    if least ≤ items.length ∧ items.length ≤ fields.length then
      some ((fields.map spellingOf).zip items)
    else none
  | _ => none

/-- Reads one of several names: the name itself, or an object that has nothing but a null under
it. -/
def Json.ofNames? {α : Type} (ofName? : String → Option α) : Json → Option α
  | .text value => ofName? value
  | .object [(name, .null)] => ofName? name
  | _ => none

def Json.listOf? {α : Type} (decode : Json → Option α) : Json → Option (List α)
  | .list items => items.mapM decode
  | _ => none

def Json.flag? : Json → Option Bool
  | .bool value => some value
  | _ => none

def optionalEntry {α : Type} (name : String) (encode : α → Json) : Option α → Entries
  | none => []
  | some value => [(name, encode value)]

end CredentialPolicy
