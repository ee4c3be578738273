import TableQuery.Engine.Session
import TableQuery.LogSettings
import TableQuery.Main
import TableQuery.Proofs.Console.Dialogue
import TableQuery.Proofs.Delimited.Appending
import TableQuery.Proofs.Delimited.LineOrder
import TableQuery.Proofs.Delimited.Location
import TableQuery.Proofs.Delimited.Reading
import TableQuery.Proofs.Delimited.UniformTable
import TableQuery.Proofs.Delimited.Unquoted
import TableQuery.Proofs.Engine.Agreement
import TableQuery.Proofs.Engine.Confinement
import TableQuery.Proofs.Engine.MemorySession
import TableQuery.Proofs.Engine.Trace
import TableQuery.Proofs.Query.CanonicalReading
import TableQuery.Proofs.Query.CombinedCount
import TableQuery.Proofs.Query.Counting
import TableQuery.Proofs.Query.FilteredCount
import TableQuery.Proofs.Query.LiteralReading
import TableQuery.Proofs.Query.Meaning
import TableQuery.Proofs.Query.Outcome
import TableQuery.Proofs.Query.Projecting
import TableQuery.Proofs.Query.SlicedRecognition
import TableQuery.Proofs.Query.TextComparisons
import TableQuery.Proofs.Row
import TableQuery.Proofs.Shipping
import TableQuery.Shipping
