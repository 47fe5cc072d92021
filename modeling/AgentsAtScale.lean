import AgentsAtScale.Program.Basic
import AgentsAtScale.Program.Transition
import AgentsAtScale.Transaction.Locking
import AgentsAtScale.Transaction.Table
import AgentsAtScale.Transaction.Serializability
import AgentsAtScale.Airline.Schema
import AgentsAtScale.Airline.Validation
import AgentsAtScale.Airline.Statements
import AgentsAtScale.Airline.Execute
import AgentsAtScale.Airline.Rebooking
import AgentsAtScale.Airline.ExecuteLaws
import AgentsAtScale.Airline.Seats
import AgentsAtScale.Airline.Ledger
import AgentsAtScale.Airline.Serial
import AgentsAtScale.Transaction.RelyGuarantee
import AgentsAtScale.Airline.OrmTotals
import AgentsAtScale.Jobs.Request
import AgentsAtScale.Jobs.Service
import AgentsAtScale.Jobs.Discipline
import AgentsAtScale.Jobs.System
import AgentsAtScale.Jobs.SystemLaws
import AgentsAtScale.Jobs.PythonService
import AgentsAtScale.Jobs.Locks
import AgentsAtScale.Jobs.Conversations
import AgentsAtScale.Jobs.Finality
import AgentsAtScale.Jobs.Delivery
import AgentsAtScale.Jobs.Lifecycle
import AgentsAtScale.Jobs.Copies
import AgentsAtScale.Jobs.Lives
import AgentsAtScale.Jobs.Attempts
import AgentsAtScale.Jobs.Idempotency
import AgentsAtScale.Airline.History
import AgentsAtScale.Runtime.Retries
import AgentsAtScale.Airline.Service
import AgentsAtScale.Agent.Contracts
import AgentsAtScale.Agent.Workflow
import AgentsAtScale.Agent.Graph
import AgentsAtScale.Agent.GraphLaws
import AgentsAtScale.Agent.Invocations
import AgentsAtScale.Agent.Outcomes
import AgentsAtScale.Agent.Budget
import AgentsAtScale.Agent.Threads
import AgentsAtScale.Airline.Options
import AgentsAtScale.Airline.Updates
import AgentsAtScale.Airline.Variants
import AgentsAtScale.Transaction.Yields
import AgentsAtScale.Transaction.Deadlock
import AgentsAtScale.Airline.OrmDeadlock
import AgentsAtScale.Airline.SqlDeadlock
import AgentsAtScale.Jobs.Settlement
import AgentsAtScale.Jobs.Reopening
import AgentsAtScale.Runtime.Lookups
import AgentsAtScale.Jobs.Marks
import AgentsAtScale.Jobs.Records
import AgentsAtScale.Airline.Grouping
import AgentsAtScale.Airline.Offers
import AgentsAtScale.Jobs.Mirroring
import AgentsAtScale.Jobs.Dispatch
import AgentsAtScale.Jobs.Intake
import AgentsAtScale.Bench.LoadGenerator
import AgentsAtScale.Data.OrderStatistics
import AgentsAtScale.Bench.Percentile
import AgentsAtScale.Jobs.Backoff
import AgentsAtScale.Airline.Admits
import AgentsAtScale.Airline.Mixed
import AgentsAtScale.Jobs.Draining
import AgentsAtScale.Jobs.Runtimes
import AgentsAtScale.Data.Expiring
import AgentsAtScale.Jobs.Envelope
import AgentsAtScale.Jobs.Queues
import AgentsAtScale.Jobs.Redis
import AgentsAtScale.Agent.Deployment
import AgentsAtScale.Jobs.Timings
import AgentsAtScale.Runtime.Dialogues
import AgentsAtScale.Airline.Independent
import AgentsAtScale.Bench.Conversations
