import CredentialPolicy.Text.CaseTable

namespace CredentialPolicy.Text

open CaseTable (ShiftedRun)

def inRanges (ranges : List (Nat × Nat)) (c : Char) : Bool :=
  ranges.any fun (first, last) => first ≤ c.toNat && c.toNat ≤ last

def mapCase (runs : List ShiftedRun) (expanded : List (Nat × List Nat)) (c : Char) : List Char :=
  match expanded.lookup c.toNat with
  | some image => image.map Char.ofNat
  | none =>
    match runs.find? (·.covers c.toNat) with
    | some run => [Char.ofNat (c.toNat + run.shift).toNat]
    | none => [c]

def upperChar (c : Char) : List Char :=
  mapCase CaseTable.toUpper CaseTable.toUpperExpanded c

def lowerChar (c : Char) : List Char :=
  mapCase CaseTable.toLower CaseTable.toLowerExpanded c

def upperFirst : List Char → List Char
  | [] => []
  | c :: rest => upperChar c ++ rest

def meetsCased (text : List Char) : Bool :=
  ((text.dropWhile (inRanges CaseTable.caseIgnorable)).head?).any (inRanges CaseTable.cased)

/-- Lower case of a text given what stands before it, nearest character first. A capital sigma at
the end of a word becomes the final form. -/
def lowerFrom (before : List Char) : List Char → List Char
  | [] => []
  | c :: rest =>
    let image :=
      if c = 'Σ' then
        if meetsCased before && !meetsCased rest then ['ς'] else ['σ']
      else lowerChar c
    image ++ lowerFrom (c :: before) rest

def lower (text : String) : String :=
  String.ofList (lowerFrom [] text.toList)

end CredentialPolicy.Text
