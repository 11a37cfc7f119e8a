import Gomessenger.Consumer.BatchGenerations
import Gomessenger.Identifiers
import Gomessenger.Inbox.Equivalence
import Gomessenger.Inbox.Migrations
import Gomessenger.Inbox.Namespace
import Gomessenger.Inbox.Pruning
import Gomessenger.Inbox.ResultBuilder
import Gomessenger.Kafka.BatchProgress
import Gomessenger.Kafka.NoLoss
import Gomessenger.Kafka.Readiness
import Gomessenger.Kafka.RebalanceBudget
import Gomessenger.Kafka.RetryAgreement
import Gomessenger.Kafka.TopologyFamilies
import Gomessenger.Kafka.Transport
import Gomessenger.Kafka.Wire.FailureText
import Gomessenger.Kafka.Wire.Replay
import Gomessenger.Messenger.Lineage
import Gomessenger.Messenger.RuntimeFailures
import Gomessenger.Nats.SubjectPattern
import Gomessenger.Nats.WireModes
import Gomessenger.Tools.SchemaRelease
