import PlanCompiler.Api.Handler
import PlanCompiler.Log.Line
import PlanCompiler.Settings.Logging
import PlanCompiler.Proofs.Browse.Organization
import PlanCompiler.Proofs.Report.Assembly
import PlanCompiler.Proofs.Report.Dependence
import PlanCompiler.Proofs.Service.Atomicity
import PlanCompiler.Proofs.Service.ClientLists
import PlanCompiler.Proofs.Service.Indices
import PlanCompiler.Proofs.Service.Replay
import PlanCompiler.Proofs.Service.StoredStrategies
import PlanCompiler.Proofs.Service.Transfer
import PlanCompiler.Proofs.Text.Order
import PlanCompiler.Proofs.Report.Rendering
import PlanCompiler.Proofs.Report.Sections
import PlanCompiler.Proofs.Catalog.Evolution
import PlanCompiler.Proofs.Service.Evolution
import PlanCompiler.Proofs.Payload.Stored
import PlanCompiler.Proofs.Service.Browsing
import PlanCompiler.Proofs.Client.Data
import PlanCompiler.Proofs.Schema.NormalForm
import PlanCompiler.Proofs.Api.Handling
import PlanCompiler.Proofs.Api.Reachable
import PlanCompiler.Proofs.Report.Archive
import PlanCompiler.Proofs.Service.FailedGeneration
import PlanCompiler.Proofs.Api.Routing
import PlanCompiler.Proofs.Api.Reply
import PlanCompiler.Proofs.Api.RequestedList
import PlanCompiler.Proofs.Api.AddedStrategy
import PlanCompiler.Proofs.Strategy.Merging
import PlanCompiler.Proofs.Template.Occurrences
import PlanCompiler.Proofs.Service.Updates
import PlanCompiler.Proofs.Service.Interleaving
import PlanCompiler.Proofs.Report.Amounts
import PlanCompiler.Proofs.Service.FiniteStore
import PlanCompiler.Proofs.Api.Infinities
import PlanCompiler.Proofs.Template.Refilling
import PlanCompiler.Proofs.Service.Selection
import PlanCompiler.Proofs.Catalog.Drawing
import PlanCompiler.Proofs.Service.GeneratedIds
import PlanCompiler.Proofs.Text.Lower
import PlanCompiler.Proofs.Browse.Search
import PlanCompiler.Proofs.Report.Document
import PlanCompiler.Proofs.Section.Heading
import PlanCompiler.Proofs.Section.Canonical
import PlanCompiler.Proofs.Schema.Respelling
import PlanCompiler.Proofs.Json.Numerals
import PlanCompiler.Proofs.Json.Printable
import PlanCompiler.Proofs.Json.RoundTrip
import PlanCompiler.Proofs.Log.Line
import PlanCompiler.Proofs.Schema.Given
import PlanCompiler.Proofs.Schema.IndifferentReaders
import PlanCompiler.Proofs.Schema.WireNames
import PlanCompiler.Proofs.Service.SafeIds
import PlanCompiler.Proofs.Strategy.FieldIds
import PlanCompiler.Proofs.Settings.Startup
