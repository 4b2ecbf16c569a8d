import ServerlessX.Contract.Shared
import ServerlessX.Contract.Replay
import ServerlessX.Workload.Header
import ServerlessX.Py.Socket
import ServerlessX.Workload.Framing
import ServerlessX.Workload.Event
import ServerlessX.Workload.Export
import ServerlessX.Workload.Roles
import ServerlessX.Workload.Gate
import ServerlessX.Py.Rounding
import ServerlessX.Py.Sha256
import ServerlessX.Workload.Split
import ServerlessX.Contract.Parse
import ServerlessX.Cli.Verify
import ServerlessX.Cli.Simulation
import ServerlessX.Rfork.Runtime
import ServerlessX.Rfork.Exits
import ServerlessX.Rfork.Ownership
import ServerlessX.Rfork.Specification
import ServerlessX.Gdr.Handshake
import ServerlessX.Gdr.Agreement
import ServerlessX.Gdr.Endpoint
import ServerlessX.Gdr.Lifecycle
import ServerlessX.Gdr.Handles
import ServerlessX.Contract.Exact
import ServerlessX.Workload.Untrusted
import ServerlessX.Workload.Strict
import ServerlessX.Machine.Loop
import ServerlessX.Rfork.RoleFile
import ServerlessX.Rfork.Evidence
import ServerlessX.Gdr.RoundTrip
import ServerlessX.Machine.Fold
import ServerlessX.Rfork.Corruption
import ServerlessX.Gdr.ContractEndpoint
import ServerlessX.Gdr.Ranges
import ServerlessX.Gdr.Mooncake
import ServerlessX.Gdr.Staging
import ServerlessX.Cli.Plan
import ServerlessX.Gdr.Closing
import ServerlessX.Workload.Execute
