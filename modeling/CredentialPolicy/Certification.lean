namespace CredentialPolicy

inductive Certification
  | iso9001
  | iso14001
  | iso27001
  | iso45001
  | iso50001
  | iatf16949
  | tisax
deriving DecidableEq, Repr

namespace Certification

def all : List Certification :=
  [iso9001, iso14001, iso27001, iso45001, iso50001, iatf16949, tisax]

def name : Certification → String
  | iso9001 => "ISO9001"
  | iso14001 => "ISO14001"
  | iso27001 => "ISO27001"
  | iso45001 => "ISO45001"
  | iso50001 => "ISO50001"
  | iatf16949 => "IATF16949"
  | tisax => "TISAX"

def ofName? (value : String) : Option Certification :=
  all.find? (·.name = value)

end Certification

end CredentialPolicy
