import InternalTransfers.Models.Errors
import InternalTransfers.Models.Records
import InternalTransfers.Store.Database
import InternalTransfers.Service.Transfer
import InternalTransfers.Service.Execute
import InternalTransfers.Service.Engine
import InternalTransfers.Service.Listing
import InternalTransfers.Concurrent.Serial
import InternalTransfers.Concurrent.System
import InternalTransfers.Concurrent.Invariant
import InternalTransfers.Concurrent.Serializable
import InternalTransfers.Concurrent.Deadlock
import InternalTransfers.Concurrent.Accounts
import InternalTransfers.Concurrent.Termination
import InternalTransfers.Concurrent.Solo
import InternalTransfers.Concurrent.Records
import InternalTransfers.Concurrent.Constraints
import InternalTransfers.Concurrent.Isolation
import InternalTransfers.Handler.Responses
import InternalTransfers.Handler.Outcomes
