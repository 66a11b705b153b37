import GodotSurvey.Config.Overlay
import GodotSurvey.Graph.Reader
import GodotSurvey.Main
import GodotSurvey.Proofs.Analysis.Merging
import GodotSurvey.Proofs.Analysis.Signals
import GodotSurvey.Proofs.Graph.Cycles
import GodotSurvey.Proofs.Graph.Reordering
import GodotSurvey.Proofs.Scene.Rebuild
import GodotSurvey.Proofs.Scene.RoundTrip
import GodotSurvey.Proofs.Script.Bodies
import GodotSurvey.Proofs.Survey.SceneScripts
import GodotSurvey.Proofs.Survey.Separation
import GodotSurvey.Proofs.Survey.Transparency
import GodotSurvey.Registry.Reader
import GodotSurvey.Scene.Reader
import GodotSurvey.Server.Prompt
import GodotSurvey.Server.Tool
import GodotSurvey.Proofs.Script.Numbering
import GodotSurvey.Proofs.Script.ClassHeader
import GodotSurvey.Proofs.Script.Members
import GodotSurvey.Proofs.Survey.ScannedClasses
import GodotSurvey.Proofs.Analysis.Dependencies
import GodotSurvey.Proofs.Lexing.Comment
import GodotSurvey.Proofs.Analysis.Inheritance
import GodotSurvey.Proofs.Scene.LineKind
import GodotSurvey.Proofs.Scene.Filtering
import GodotSurvey.Project.FanOut
import GodotSurvey.Proofs.Scene.SpanningValues
import GodotSurvey.Proofs.Project.FanOut
import GodotSurvey.Proofs.Survey.ProjectAccounts
import GodotSurvey.Proofs.Cache.History
import GodotSurvey.Proofs.Script.MethodText
import GodotSurvey.Proofs.Script.VariableText
import GodotSurvey.Proofs.Script.Emission
import GodotSurvey.Proofs.Analysis.Targets
import GodotSurvey.Proofs.Script.EmissionLine
import GodotSurvey.Proofs.Script.VariableLine
import GodotSurvey.Proofs.Script.Placement
import GodotSurvey.Proofs.Analysis.Scopes
import GodotSurvey.Proofs.Analysis.Summaries
import GodotSurvey.Proofs.Analysis.Calls
import GodotSurvey.Proofs.Analysis.Occurrences
import GodotSurvey.Proofs.Analysis.NodeQueries
import GodotSurvey.Proofs.Analysis.KnownNames
import GodotSurvey.Proofs.Survey.SceneDepth
import GodotSurvey.Proofs.Graph.Identifiers
import GodotSurvey.Proofs.Survey.ConnectionTargets
import GodotSurvey.Proofs.Graph.Diagram
import GodotSurvey.Proofs.Graph.Pruning
import GodotSurvey.Proofs.Graph.Components
import GodotSurvey.Proofs.Project.ResourcePaths
import GodotSurvey.Proofs.Project.ResourceNames
import GodotSurvey.Proofs.Registry.ClassLists
import GodotSurvey.Proofs.Registry.Identity
import GodotSurvey.Proofs.Registry.Bases
import GodotSurvey.Proofs.Analysis.Distributions
import GodotSurvey.Proofs.Report.Tables
import GodotSurvey.Proofs.Server.Prompts
import GodotSurvey.Proofs.Analysis.ArgumentLists
import GodotSurvey.Proofs.Lexing.Assignment
