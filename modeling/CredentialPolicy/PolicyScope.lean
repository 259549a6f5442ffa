namespace CredentialPolicy

inductive PolicyScope
  | catalog
  | contractNegotiation
  | transferProcess
  | requestCatalog
  | requestContractNegotiation
  | requestTransferProcess
deriving DecidableEq, Repr

namespace PolicyScope

def ascending : List PolicyScope :=
  [catalog, contractNegotiation, transferProcess, requestCatalog, requestContractNegotiation,
    requestTransferProcess]

def all : List PolicyScope :=
  [requestCatalog, requestContractNegotiation, requestTransferProcess, catalog,
    contractNegotiation, transferProcess]

def functionScopes : List PolicyScope :=
  [catalog, contractNegotiation, transferProcess]

def name : PolicyScope → String
  | catalog => "catalog"
  | contractNegotiation => "contract.negotiation"
  | transferProcess => "transfer.process"
  | requestCatalog => "request.catalog"
  | requestContractNegotiation => "request.contract.negotiation"
  | requestTransferProcess => "request.transfer.process"

def ofName? (value : String) : Option PolicyScope :=
  all.find? (·.name = value)

def isRequest : PolicyScope → Bool
  | requestCatalog | requestContractNegotiation | requestTransferProcess => true
  | _ => false

theorem mem_ascending (scope : PolicyScope) : scope ∈ ascending := by
  cases scope <;> decide

theorem ofName?_eq_some_iff (value : String) (scope : PolicyScope) :
    ofName? value = some scope ↔ scope.name = value := by
  constructor
  · intro h
    simpa using List.find?_some h
  · rintro rfl
    cases scope <;> decide

end PolicyScope

end CredentialPolicy
