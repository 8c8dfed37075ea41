import AzureProvider.Driver.Create

/-! # The mock driver

Package `mock`'s `PluginSPIImpl` answers `CreateMachine` from the decoded
provider spec alone: it calls no client, and names the machine by a provider ID
built from the spec's location and the machine's name.
-/

namespace AzureProvider

/-- `driver.CreateMachineResponse`. -/
structure CreateMachineResponse where
  providerID : String
  nodeName : String
  deriving DecidableEq, Repr

/-- `CreateMachine` of the mock, given what `decodeProviderSpecAndSecret`
returns for the request. -/
def createMachine (decoded : Except DriverError AzureProviderSpec) (req : CreateMachineRequest) :
    Except DriverError CreateMachineResponse :=
  match decoded with
  | .error err => .error (.status "Internal" err.text)
  | .ok providerSpec =>
    let providerID := "azure:///" ++ providerSpec.location ++ "/" ++ req.machineName
    .ok { providerID := providerID, nodeName := req.machineName }

/-- The mock's provider ID identifies the machine: two machines created in
locations without `/` get the same provider ID only if they have the same
location and the same name. -/
theorem createMachine_providerID_injective {providerSpec providerSpec' : AzureProviderSpec}
    {req req' : CreateMachineRequest} {response response' : CreateMachineResponse}
    (created : createMachine (.ok providerSpec) req = .ok response)
    (created' : createMachine (.ok providerSpec') req' = .ok response')
    (plain : '/' ∉ providerSpec.location.data) (plain' : '/' ∉ providerSpec'.location.data)
    (same : response.providerID = response'.providerID) :
    providerSpec.location = providerSpec'.location ∧ req.machineName = req'.machineName := by
  cases Except.ok.inj created
  cases Except.ok.inj created'
  have texts := congrArg String.data same
  simp only [String.data_append, List.append_assoc, List.append_cancel_left_eq] at texts
  rcases append_cons_eq_append_cons texts with ⟨location, name⟩ | ⟨extra, longer, -⟩ |
    ⟨extra, longer, -⟩
  · exact ⟨String.ext location, String.ext name⟩
  · exact absurd (by simp [longer]) plain'
  · exact absurd (by simp [longer]) plain

theorem createMachine_providerID_injective_westeurope :
    let req : CreateMachineRequest := ⟨"machine", "class"⟩
    let response : CreateMachineResponse := ⟨"azure:///westeurope/machine", "machine"⟩
    createMachine (.ok sampleProviderSpec) req = .ok response ∧
      '/' ∉ sampleProviderSpec.location.data ∧
      sampleProviderSpec.location = sampleProviderSpec.location ∧
      req.machineName = req.machineName :=
  ⟨rfl, by decide, createMachine_providerID_injective rfl rfl (by decide) (by decide) rfl⟩

end AzureProvider
