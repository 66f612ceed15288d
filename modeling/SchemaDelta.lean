import SchemaDelta.Draft
import SchemaDelta.Expr.Stack
import SchemaDelta.Main
import SchemaDelta.Migration.History
import SchemaDelta.Proofs.Convergence
import SchemaDelta.Proofs.Losses
import SchemaDelta.Proofs.Paths
import SchemaDelta.Proofs.Policies.Replay
import SchemaDelta.Proofs.Policies.Convergence
import SchemaDelta.Proofs.Equivalence
import SchemaDelta.Proofs.Patch
import SchemaDelta.Proofs.Schedule
import SchemaDelta.Proofs.Schedule.Planner
import SchemaDelta.Proofs.Schedule.Occasion
import SchemaDelta.Proofs.Progress
import SchemaDelta.Proofs.Schedule.Underway
import SchemaDelta.Proofs.ForeignKeys.Added
import SchemaDelta.Proofs.ForeignKeys.Dropped
import SchemaDelta.Proofs.Rows
import SchemaDelta.Proofs.Rows.Carried
import SchemaDelta.Proofs.Rows.Planner
import SchemaDelta.Proofs.Rows.Rebuilds
import SchemaDelta.Proofs.Rows.Preserved
import SchemaDelta.Proofs.Expressions.Compiled
import SchemaDelta.Proofs.Script
import SchemaDelta.Proofs.Bootstrap
import SchemaDelta.Proofs.Expressions.Sources
import SchemaDelta.Proofs.Expressions.Texts
import SchemaDelta.Proofs.Policies.Persistence
import SchemaDelta.Proofs.Policies.Readers
import SchemaDelta.Proofs.Names
import SchemaDelta.Proofs.Faults
import SchemaDelta.Proofs.Minimality
import SchemaDelta.Proofs.Mirror
import SchemaDelta.Proofs.Reordering
import SchemaDelta.Proofs.Reordering.Removals
import SchemaDelta.Proofs.Expressions.Agreement
import SchemaDelta.Proofs.Requests
import SchemaDelta.Proofs.Bystanders
import SchemaDelta.Proofs.Codec.Canonical
import SchemaDelta.Proofs.Codec.Expressions
import SchemaDelta.Proofs.Codec.Snapshots
import SchemaDelta.Proofs.Violations
import SchemaDelta.Proofs.FirstFault
import SchemaDelta.Proofs.Expressions.Nodes
import SchemaDelta.Proofs.Expressions.WellFormed
import SchemaDelta.Proofs.Checks
import SchemaDelta.Proofs.Script.Operands
import SchemaDelta.Proofs.Script.Places
import SchemaDelta.Proofs.Expressions.Operands
import SchemaDelta.Proofs.PrimaryKeys
import SchemaDelta.Proofs.PrimaryKeys.NotNull
import SchemaDelta.Proofs.Expressions.Spelling
import SchemaDelta.Proofs.CommandLine.Attention
import SchemaDelta.Proofs.CommandLine.Output
import SchemaDelta.Proofs.Number.Rounding
import SchemaDelta.Proofs.Number.Spelling
import SchemaDelta.Proofs.Json.Printed
import SchemaDelta.Proofs.Codec.Diffs
import SchemaDelta.Proofs.Quoting.Statements
import SchemaDelta.Proofs.TemporaryNames
import SchemaDelta.Proofs.Index
