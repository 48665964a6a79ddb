import BatchedGateway.Files.Tree
import BatchedGateway.Main
import BatchedGateway.Proofs.Build.Endpoints
import BatchedGateway.Proofs.Build.Roles
import BatchedGateway.Proofs.Build.Serving
import BatchedGateway.Proofs.Build.Strict
import BatchedGateway.Proofs.Cli.Decode
import BatchedGateway.Proofs.Cli.DryRun
import BatchedGateway.Proofs.Operation.Cut
import BatchedGateway.Proofs.Operation.Fault
import BatchedGateway.Proofs.Operation.Order
import BatchedGateway.Proofs.Router.ColdStart
import BatchedGateway.Proofs.Router.Headers
import BatchedGateway.Proofs.Router.Loading
import BatchedGateway.Proofs.Router.Site
import BatchedGateway.Proofs.Schema.Agreement
import BatchedGateway.Proofs.Schema.Edits
import BatchedGateway.Proofs.Surface.Chain
import BatchedGateway.Proofs.Surface.History
import BatchedGateway.Proofs.Surface.Resolver
