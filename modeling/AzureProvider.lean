import AzureProvider.Foundation.Program
import AzureProvider.Foundation.Decimal
import AzureProvider.Types
import AzureProvider.Driver.Naming
import AzureProvider.Driver.Parameters
import AzureProvider.Semantics.Backend
import AzureProvider.Driver.Teardown
import AzureProvider.Contracts.Teardown
import AzureProvider.Driver.Create
import AzureProvider.Contracts.Create
import AzureProvider.Contracts.Requests
import AzureProvider.Semantics.Workflow
import AzureProvider.Contracts.Workflow
import AzureProvider.Driver.Mock
import AzureProvider.Contracts.Provisioning
import AzureProvider.Contracts.Failures
import AzureProvider.Contracts.Realized
