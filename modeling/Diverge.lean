import Diverge.Auth.Attenuation
import Diverge.Auth.Unforgeability
import Diverge.Auth.Narrowing
import Diverge.Auth.Composition
import Diverge.Auth.Limits
import Diverge.Tasks.Terminal
import Diverge.Tasks.Concurrency
import Diverge.Tasks.Pause
import Diverge.Tasks.TokenStability
import Diverge.Tasks.Grammar
import Diverge.Environments.Commands
import Diverge.Environments.Edits
import Diverge.Environments.Pinning
import Diverge.Environments.Migrations
import Diverge.Environments.Testing
import Diverge.Environments.Admission
import Diverge.Previews.Reconcile
import Diverge.Baseline.Drift
import Diverge.Deployer.Leftovers
import Diverge.Async.Queues
import Diverge.Async.Resp
import Diverge.Async.Storage
import Diverge.Database.SchemaUndo
import Diverge.Sandbox.Names
import Diverge.Topology.Validation
import Diverge.Topology.IngressPaths
import Diverge.Topology.Merging
import Diverge.DevSession.Locks
import Diverge.Tunnel.Leases
import Diverge.Webhook.Deliveries
import Diverge.Cli.Supervisor
import Diverge.Replay.Payloads
import Diverge.Sdk.Keys
import Diverge.Sdk.Decoders
import Diverge.Tunnel.Collection
import Diverge.Tunnel.Chunks
import Diverge.Server.Broadcaster
import Diverge.Server.StreamLimiter
import Diverge.Webhook.Replays
import Diverge.Proxy.Toolbar
import Diverge.Features.ConfigMap
import Diverge.Features.Unleash
