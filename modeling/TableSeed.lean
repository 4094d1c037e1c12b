import TableSeed.Main
import TableSeed.Store.Memory
import TableSeed.Proofs.FanOut.Permits
import TableSeed.Proofs.FanOut.Schedule
import TableSeed.Proofs.FanOut.Completion
import TableSeed.Proofs.FanOut.Turns
import TableSeed.Proofs.FanOut.TwoStores
import TableSeed.Proofs.Store.Calls
import TableSeed.Proofs.Seeding.Steps
import TableSeed.Proofs.Seeding.Groups
import TableSeed.Proofs.Seeding.Failures
import TableSeed.Proofs.Seeding.Interleaving
import TableSeed.Proofs.Store.MemoryTables
import TableSeed.Proofs.Store.Agreement
import TableSeed.Proofs.Store.Kept
import TableSeed.Proofs.Seeding.Courses
import TableSeed.Proofs.Seeding.Tables
import TableSeed.Proofs.Commits.Records
import TableSeed.Proofs.Seeding.Runs
import TableSeed.Proofs.Seeding.Success
import TableSeed.Proofs.Seeding.Stops
import TableSeed.Proofs.Seeding.Survival
import TableSeed.Proofs.Commits.Log
import TableSeed.Proofs.Commits.Qualified
import TableSeed.Proofs.Commits.Order
import TableSeed.Proofs.Json.Members
import TableSeed.Proofs.Json.Numerals
import TableSeed.Proofs.Number.Shortest
import TableSeed.Proofs.Number.Rounding
import TableSeed.Proofs.Json.NumberTexts
import TableSeed.Proofs.Json.Scanning
import TableSeed.Proofs.Json.ReadBack
import TableSeed.Proofs.Json.Injectivity
import TableSeed.Proofs.Json.Equality
import TableSeed.Proofs.Store.Taken
import TableSeed.Proofs.Store.Duplicates
import TableSeed.Proofs.Store.Keys
import TableSeed.Proofs.Document.Names
import TableSeed.Proofs.Item
import TableSeed.Proofs.Resolution.Leaves
import TableSeed.Proofs.Resolution.Substitution
import TableSeed.Proofs.Seeding.References
import TableSeed.Proofs.Seeding.FreshTables
import TableSeed.Proofs.Seeding.FreeKeys
import TableSeed.Proofs.Seeding.EntryOrder
import TableSeed.Proofs.Lua.Independence
import TableSeed.Proofs.Lua.Steps
import TableSeed.Proofs.Lua.Loops
import TableSeed.Proofs.Lua.KeyOrder
import TableSeed.Proofs.Lua.Entries
import TableSeed.Proofs.Lua.Reach
import TableSeed.Proofs.Lua.Borders
import TableSeed.Proofs.Lua.Counts
import TableSeed.Proofs.Lua.Updates
import TableSeed.Proofs.Lua.ActionReach
import TableSeed.Proofs.Lua.LibraryReach
import TableSeed.Proofs.Lua.Confinement
import TableSeed.Proofs.Lua.MachineReach
import TableSeed.Proofs.Expression.Runs
import TableSeed.Proofs.Expression.Budget
import TableSeed.Proofs.Expression.Furnishing
import TableSeed.Proofs.Expression.Isolation
import TableSeed.Proofs.Expression.Freshness
import TableSeed.Proofs.Expression.Forms
import TableSeed.Proofs.Lua.Calm
import TableSeed.Proofs.Expression.Calm
import TableSeed.Proofs.Expression.GoingOn
import TableSeed.Proofs.Expression.OwnTables
import TableSeed.Proofs.Expression.Layers
import TableSeed.Proofs.Expression.FirstWriter
import TableSeed.Proofs.Lua.Strings
import TableSeed.Proofs.Lua.Takes
import TableSeed.Proofs.Lua.Letters
import TableSeed.Proofs.Lua.Pieces
import TableSeed.Proofs.Expression.Marking
import TableSeed.Proofs.Expression.SelfReferences
import TableSeed.Proofs.Expression.Unfolding
import TableSeed.Proofs.Json.Arrangement
import TableSeed.Proofs.Expression.RoundTrip
import TableSeed.Proofs.Expression.Record
import TableSeed.Proofs.Text.ByteOrder
import TableSeed.Proofs.Store.Listing
import TableSeed.Proofs.Traversal
import TableSeed.Proofs.Document.Shape
import TableSeed.Proofs.Document.Classification
import TableSeed.Proofs.Expression.Occurrences
import TableSeed.Proofs.Calendar.Days
import TableSeed.Proofs.Calendar.Layout
import TableSeed.Proofs.Calendar.Soundness
import TableSeed.Proofs.Calendar.NormalForm
import TableSeed.Proofs.Lua.Library.Dates
import TableSeed.Proofs.Schema.Fields
import TableSeed.Proofs.Schema.Edits
import TableSeed.Proofs.Store.Identifiers
