import RequestDispatch.Text.Blank
import RequestDispatch.Text.Number
import RequestDispatch.Text.Quoted
import RequestDispatch.Json
import RequestDispatch.Http.Message
import RequestDispatch.Failure
import RequestDispatch.Routing.Path
import RequestDispatch.Routing.Template
import RequestDispatch.Routing.Router
import RequestDispatch.Routing.TemplateText
import RequestDispatch.Routing.Contents
import RequestDispatch.Routing.Matching
import RequestDispatch.Serving.Event
import RequestDispatch.Serving.Pool
import RequestDispatch.Serving.Program
import RequestDispatch.Setup.Registration
import RequestDispatch.Script.Layer
import RequestDispatch.Yaml.Node
import RequestDispatch.Setup.Table
import RequestDispatch.Command.Report
import RequestDispatch.Command.LoadRun
import RequestDispatch.Command.Run
import RequestDispatch.Command.Session
import RequestDispatch.Logging.Filter
import RequestDispatch.Main
import RequestDispatch.Proofs.Routing.Filling
import RequestDispatch.Proofs.Routing.Branches
import RequestDispatch.Proofs.Routing.Insertion
import RequestDispatch.Proofs.Routing.Visits
import RequestDispatch.Proofs.Routing.Candidates
import RequestDispatch.Proofs.Routing.Search
import RequestDispatch.Proofs.Routing.Submissions
import RequestDispatch.Proofs.Routing.Resolution
import RequestDispatch.Proofs.Routing.SamplePaths
import RequestDispatch.Proofs.Routing.Canonicity
import RequestDispatch.Proofs.Routing.CaptureBound
import RequestDispatch.Proofs.Routing.OutlineOrder
import RequestDispatch.Proofs.Routing.RegistrationOrder
import RequestDispatch.Proofs.Setup.Enrollment
import RequestDispatch.Proofs.Setup.Composition
import RequestDispatch.Proofs.Serving.Frames
import RequestDispatch.Proofs.Serving.Leases
import RequestDispatch.Proofs.Routing.Actions
import RequestDispatch.Proofs.Routing.Records
import RequestDispatch.Proofs.Routing.Walks
import RequestDispatch.Proofs.Serving.Independence
import RequestDispatch.Proofs.Setup.LiveUpdates
import RequestDispatch.Proofs.Serving.Histories
import RequestDispatch.Proofs.Serving.Conduct
import RequestDispatch.Proofs.Serving.Handlings
import RequestDispatch.Proofs.Serving.NestedCalls
import RequestDispatch.Proofs.Serving.Omission
import RequestDispatch.Proofs.Serving.BuiltinConduct
import RequestDispatch.Proofs.Script.Conduct
import RequestDispatch.Proofs.Serving.Reentrancy
import RequestDispatch.Proofs.Serving.StandardAnswers
import RequestDispatch.Proofs.Serving.Recovery
import RequestDispatch.Proofs.Serving.InternalFailures
import RequestDispatch.Proofs.Setup.Frames
import RequestDispatch.Proofs.Serving.Tallies
import RequestDispatch.Proofs.Serving.Metering
import RequestDispatch.Proofs.Routing.Points
import RequestDispatch.Proofs.Routing.RouteList
import RequestDispatch.Proofs.Setup.Demands
import RequestDispatch.Proofs.Setup.Tables
import RequestDispatch.Proofs.Setup.TableRoutes
import RequestDispatch.Proofs.Routing.Refusals
import RequestDispatch.Proofs.Text.Reading
import RequestDispatch.Proofs.Serving.FailureAnswers
import RequestDispatch.Proofs.Serving.Decisions
import RequestDispatch.Proofs.Serving.AllowHeader
import RequestDispatch.Proofs.Command.Reports
import RequestDispatch.Proofs.Routing.TemplateGrammar
import RequestDispatch.Proofs.Routing.TemplateOffsets
import RequestDispatch.Proofs.Setup.Prefixes
import RequestDispatch.Proofs.Serving.ResponseCalls
import RequestDispatch.Proofs.Serving.Reservations
import RequestDispatch.Proofs.Setup.EntryMethods
import RequestDispatch.Proofs.Command.LoadRuns
import RequestDispatch.Proofs.Serving.Monitors
import RequestDispatch.Proofs.Serving.RecoveredTallies
import RequestDispatch.Proofs.Text.Ulids
import RequestDispatch.Proofs.Serving.RequestIds
import RequestDispatch.Proofs.Routing.Findings
import RequestDispatch.Proofs.Routing.Splits
import RequestDispatch.Proofs.Routing.InsertionOffsets
import RequestDispatch.Proofs.Serving.Parameters
