import AzureProvider.Foundation.Decimal

/-! # The driver's data

The fields of `api.AzureProviderSpec` that the driver reads, the parts of the
SDK's `compute` and `network` objects that it builds or reads back, and the
errors it handles. Go pointers the code tests for `nil` are `Option`s; a slice
the code tests for `nil` is an `Option` of a list.
-/

namespace AzureProvider

/-! ## Provider spec -/

/-- `api.AzureDataDisk`: one extra volume of the machine class. -/
structure AzureDataDisk where
  name : String
  lun : Option Int32
  caching : String
  storageAccountType : String
  diskSizeGB : Int32
  deriving DecidableEq, Repr

/-- `api.AzureImageReference`: an image ID, or a `publisher:offer:sku:version` URN. -/
structure AzureImageReference where
  id : String
  urn : Option String
  deriving DecidableEq, Repr

/-- `api.AzureOSDisk`, with the storage account type of its managed disk. -/
structure AzureOSDisk where
  caching : String
  storageAccountType : String
  diskSizeGB : Int32
  createOption : String
  deriving DecidableEq, Repr

structure AzureStorageProfile where
  imageReference : AzureImageReference
  osDisk : AzureOSDisk
  dataDisks : List AzureDataDisk
  deriving DecidableEq, Repr

/-- `api.AzureOSProfile`, with its Linux configuration and SSH public key. -/
structure AzureOSProfile where
  adminUsername : String
  disablePasswordAuthentication : Bool
  sshPublicKeyPath : String
  sshPublicKeyData : String
  deriving DecidableEq, Repr

/-- `api.AzureVirtualMachineProperties`; `availabilitySetID` is the ID of
`AvailabilitySet` when that is set. -/
structure AzureVirtualMachineProperties where
  vmSize : String
  storageProfile : AzureStorageProfile
  osProfile : AzureOSProfile
  acceleratedNetworking : Option Bool
  zone : Option Int
  availabilitySetID : Option String
  identityID : Option String
  deriving DecidableEq, Repr

structure AzureSubnetInfo where
  vnetName : String
  vnetResourceGroup : Option String
  subnetName : String
  deriving DecidableEq, Repr

structure AzureProviderSpec where
  location : String
  tags : List (String × String)
  properties : AzureVirtualMachineProperties
  resourceGroup : String
  subnetInfo : AzureSubnetInfo
  deriving DecidableEq, Repr

/-- A `corev1.Secret`; the driver reads its `userData` bytes. -/
structure Secret where
  userData : List UInt8
  deriving DecidableEq, Repr

/-! ## Compute and network objects -/

/-- `compute.DataDisk` as `generateDataDisks` fills it. -/
structure DataDisk where
  lun : Int32
  name : String
  caching : String
  storageAccountType : String
  diskSizeGB : Int32
  createOption : String
  deriving DecidableEq, Repr

structure OSDisk where
  name : String
  caching : String
  storageAccountType : String
  diskSizeGB : Int32
  createOption : String
  deriving DecidableEq, Repr

/-- `compute.ImageReference` in the two shapes `getImageReference` builds. -/
inductive ImageReference where
  | id (id : String)
  | urn (publisher offer sku version : String)
  deriving DecidableEq, Repr

structure StorageProfile where
  imageReference : ImageReference
  osDisk : OSDisk
  dataDisks : Option (List DataDisk)
  deriving DecidableEq, Repr

structure OSProfile where
  computerName : String
  adminUsername : String
  customData : String
  disablePasswordAuthentication : Bool
  sshPublicKeyPath : String
  sshPublicKeyData : String
  deriving DecidableEq, Repr

/-- `compute.Plan`, also the shape of an image's `compute.PurchasePlan`: three
string pointers, which the driver copies into the VM definition and dereferences
to ask for the plan's marketplace terms. -/
structure Plan where
  name : Option String
  product : Option String
  publisher : Option String
  deriving DecidableEq, Repr

structure NetworkInterfaceReference where
  id : String
  primary : Bool
  deriving DecidableEq, Repr

/-- `compute.VirtualMachine` as `getVMParameters` fills it; `identity` is the
user-assigned identity, the only kind the driver attaches. -/
structure VirtualMachine where
  name : String
  plan : Option Plan
  location : String
  vmSize : String
  storageProfile : StorageProfile
  osProfile : OSProfile
  networkInterfaces : List NetworkInterfaceReference
  zones : Option (List String)
  availabilitySetID : Option String
  identity : Option String
  tags : List (String × String)
  deriving DecidableEq, Repr

/-- `compute.VirtualMachineImageProperties`; the driver reads only the plan. -/
structure VirtualMachineImageProperties where
  plan : Option Plan
  deriving DecidableEq, Repr

/-- `compute.VirtualMachineImage`, which embeds its properties by pointer: reading
`vmImage.Plan` dereferences them. -/
structure VirtualMachineImage where
  properties : Option VirtualMachineImageProperties
  deriving DecidableEq, Repr

/-- `marketplaceordering.AgreementProperties`; the driver reads and sets only
`Accepted`. -/
structure AgreementProperties where
  accepted : Option Bool
  deriving DecidableEq, Repr

/-- `marketplaceordering.AgreementTerms`, which embeds its properties by pointer:
reading or setting `agreement.Accepted` dereferences them. -/
structure Agreement where
  properties : Option AgreementProperties
  deriving DecidableEq, Repr

structure Subnet where
  id : String
  deriving DecidableEq, Repr

structure InterfaceIPConfiguration where
  name : String
  privateIPAllocationMethod : String
  subnet : Subnet
  deriving DecidableEq, Repr

/-- `network.Interface` as `getNICParameters` fills it. -/
structure Interface where
  name : String
  location : String
  ipConfigurations : List InterfaceIPConfiguration
  enableIPForwarding : Bool
  enableAcceleratedNetworking : Option Bool
  tags : List (String × String)
  deriving DecidableEq, Repr

/-! ## Errors -/

/-- The errors the driver meets: those of the resource manager API, carrying an
HTTP status; those `spi.OnARMAPIErrorFail` wraps; those of `fmt.Errorf`; the
combined error of `spi.RunInParallel`; and the gRPC errors of `status.Error`. -/
inductive DriverError where
  | detailed (statusCode : Nat) (message : String)
  | armAPIFailure (service : String) (cause : DriverError) (message : String)
  | formatted (message : String)
  | parallel (messages : List String)
  | status (code : String) (message : String)
  deriving DecidableEq, Repr

namespace DriverError

/-- `err.Error()`. Modelled from the spec: the text of a wrapped error is its
own message, that of the combined error lists every failure, and a gRPC error
reads as `status.Error` formats it. -/
def text : DriverError → String
  | .detailed _ message => message
  | .armAPIFailure _ _ message => message
  | .formatted message => message
  | .parallel messages => String.intercalate "; " messages
  | .status code message => "rpc error: code = " ++ code ++ " desc = " ++ message

end DriverError

/-- `spi.NotFound`. Modelled from the spec: an error of the API with status 404. -/
def notFound : DriverError → Bool
  | .detailed statusCode _ => statusCode == 404
  | _ => false

/-- `spi.OnARMAPIErrorFail(service, err, message)`. Modelled from the spec: the
error it returns records the metric label, the cause and the formatted message. -/
def onARMAPIErrorFail (service : String) (err : DriverError) (message : String) : DriverError :=
  .armAPIFailure service err message

/-- `spi.RunInParallel`'s result once every deleter has returned. Modelled from
the spec: `nil` when every deleter returned `nil`, else one error listing the
failures. -/
def runInParallel (results : List (Option DriverError)) : Option DriverError :=
  if results.all Option.isNone then none
  else some (.parallel ((results.filterMap id).map DriverError.text))

theorem runInParallel_eq_none {results : List (Option DriverError)} :
    runInParallel results = none ↔ ∀ result ∈ results, result = none := by
  simp [runInParallel, List.all_eq_true, Option.isNone_iff_eq_none]

def prometheusServiceSubnet : String := "subnet"
def prometheusServiceVM : String := "virtual_machine"
def prometheusServiceNIC : String := "network_interfaces"

/-! ## `base64.StdEncoding.EncodeToString` -/

private def base64Alphabet : List Char :=
  "ABCDEFGHIJKLMNOPQRSTUVWXYZabcdefghijklmnopqrstuvwxyz0123456789+/".data

private def base64Digit (group : Nat) (shift : Nat) : Char :=
  base64Alphabet.getD (group / 2 ^ shift % 64) '='

/-- Standard base64 with padding, three bytes to four characters. -/
def encodeToString : List UInt8 → String
  | [] => ""
  | [first] =>
      let group := first.toNat * 65536
      ⟨[base64Digit group 18, base64Digit group 12, '=', '=']⟩
  | [first, second] =>
      let group := first.toNat * 65536 + second.toNat * 256
      ⟨[base64Digit group 18, base64Digit group 12, base64Digit group 6, '=']⟩
  | first :: second :: third :: rest =>
      let group := first.toNat * 65536 + second.toNat * 256 + third.toNat
      ⟨[base64Digit group 18, base64Digit group 12, base64Digit group 6, base64Digit group 0]⟩ ++
        encodeToString rest

example : encodeToString [77, 97, 110] = "TWFu" := by decide
example : encodeToString [77] = "TQ==" := by decide

/-! ## A sample machine class -/

/-- A machine class of the shape the driver's users write: a Linux VM in
`westeurope`, its image named by ID, no data disk, zone or availability set, in
the subnet `subnet` of the virtual network `vnet` of resource group `rg`. The
concrete runs of later modules vary only the fields they need. -/
def sampleProviderSpec : AzureProviderSpec :=
  { location := "westeurope"
    tags := []
    properties :=
      { vmSize := "Standard_A1"
        storageProfile :=
          { imageReference := ⟨"image-id", none⟩
            osDisk := ⟨"None", "Standard_LRS", 50, "FromImage"⟩
            dataDisks := [] }
        osProfile := ⟨"core", true, "/home/core/.ssh/authorized_keys", "ssh-rsa"⟩
        acceleratedNetworking := none
        zone := none
        availabilitySetID := none
        identityID := none }
    resourceGroup := "rg"
    subnetInfo := ⟨"vnet", none, "subnet"⟩ }

/-- The sample machine class with its image named by a marketplace URN instead. -/
def sampleURNSpec : AzureProviderSpec :=
  { sampleProviderSpec with
    properties.storageProfile.imageReference :=
      ⟨"", some "Canonical:UbuntuServer:18.04-LTS:latest"⟩ }

end AzureProvider
