import TickScript.FileTree
import TickScript.Main
import TickScript.Proofs.Accounting
import TickScript.Proofs.Atomicity
import TickScript.Proofs.Bindings
import TickScript.Proofs.Budget
import TickScript.Proofs.CallStack
import TickScript.Proofs.Columns
import TickScript.Proofs.Coordinates
import TickScript.Proofs.ExactArithmetic
import TickScript.Proofs.Heroes
import TickScript.Proofs.HiddenSlots
import TickScript.Proofs.Inventories
import TickScript.Proofs.Json.Documents
import TickScript.Proofs.Metadata
import TickScript.Proofs.NpcUids
import TickScript.Proofs.Operands
import TickScript.Proofs.Persistence
import TickScript.Proofs.Playing
import TickScript.Proofs.Protection
import TickScript.Proofs.RandomDraws
import TickScript.Proofs.Registries
import TickScript.Proofs.Relay
import TickScript.Proofs.Replay
import TickScript.Proofs.Restart
import TickScript.Proofs.Restoration
import TickScript.Proofs.Roots
import TickScript.Proofs.Searches
import TickScript.Proofs.Suspension
import TickScript.Proofs.TextSearch
import TickScript.Proofs.Triggers
import TickScript.Proofs.Waiting
import TickScript.TestCase
