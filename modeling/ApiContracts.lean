import ApiContracts.LogSettings
import ApiContracts.Main
import ApiContracts.Proofs.Closure.Resolution
import ApiContracts.Proofs.Types.Parts
import ApiContracts.Proofs.Closure.Walk
import ApiContracts.Proofs.Closure.Document
import ApiContracts.Proofs.Closure.Exactness
import ApiContracts.Proofs.Closure.Boxing
import ApiContracts.Proofs.Plan.Outcome
import ApiContracts.Proofs.Plan.SelfContained
import ApiContracts.Proofs.Text.Case
import ApiContracts.Proofs.Text.Words
import ApiContracts.Proofs.Text.Ending
import ApiContracts.Proofs.Path.Pieces
import ApiContracts.Proofs.Naming.Mark
import ApiContracts.Proofs.Plan.Instructions
import ApiContracts.Proofs.Plan.Collisions
import ApiContracts.Proofs.Store.Frame
import ApiContracts.Proofs.Store.Repeat
import ApiContracts.Proofs.Emission.Handlers
import ApiContracts.Proofs.Emission.Rerun
import ApiContracts.Proofs.Types.Grammar
import ApiContracts.Proofs.Types.Cursor
import ApiContracts.Proofs.Types.Reading
import ApiContracts.Proofs.Types.Exactness
import ApiContracts.Proofs.Types.RoundTrip
import ApiContracts.Proofs.Closure.Faithful
import ApiContracts.Proofs.Closure.Order
import ApiContracts.Proofs.Plan.Coverage
import ApiContracts.Proofs.Emission.Commands
import ApiContracts.Proofs.Closure.Interruption
import ApiContracts.Proofs.Plan.Extension
import ApiContracts.Proofs.OpenApi.Acceptance
import ApiContracts.Proofs.OpenApi.MapKeys
import ApiContracts.Proofs.OpenApi.ModelAnswer
import ApiContracts.Proofs.Emission.Accounting
import ApiContracts.Proofs.Emission.RenderFailures
import ApiContracts.Proofs.Path.Components
import ApiContracts.Proofs.Plan.Folders
import ApiContracts.Proofs.Source.Imports
import ApiContracts.Proofs.Plan.Imports
import ApiContracts.Proofs.Plan.Identifiers
import ApiContracts.Proofs.Types.Rewriting
import ApiContracts.Proofs.Closure.Blame
import ApiContracts.Proofs.OpenApi.Merging
import ApiContracts.Proofs.OpenApi.Required
import ApiContracts.Proofs.Source.Literals
import ApiContracts.Proofs.Source.Lines
import ApiContracts.Proofs.Source.Quiet
import ApiContracts.Proofs.Source.Containment
import ApiContracts.Proofs.Plan.Containment
import ApiContracts.Proofs.OpenApi.LastDeclaration
import ApiContracts.Proofs.OpenApi.DepthLimit
import ApiContracts.Proofs.OpenApi.Reference
import ApiContracts.Proofs.OpenApi.ByReference
import ApiContracts.Proofs.OpenApi.Issues
import ApiContracts.Proofs.OpenApi.WellFormed
import ApiContracts.Proofs.OpenApi.Inlining
import ApiContracts.Proofs.Emission.DryRun
import ApiContracts.Proofs.Plan.RequestFields
import ApiContracts.Proofs.Plan.DtoFields
import ApiContracts.Proofs.Source.MemberNames
import ApiContracts.Proofs.Text.Snake
import ApiContracts.Proofs.Text.Spelling
import ApiContracts.Proofs.Naming.Keyword
import ApiContracts.Proofs.Naming.LegalField
import ApiContracts.Proofs.Naming.VariantName
import ApiContracts.Proofs.Source.Variants
import ApiContracts.Proofs.Naming.ModulePath
import ApiContracts.Proofs.Plan.ContractModule
import ApiContracts.Proofs.Plan.Delimiters
import ApiContracts.Proofs.Plan.Validators
import ApiContracts.Proofs.Text.Boundaries
import ApiContracts.Proofs.Naming.JoinedWords
import ApiContracts.Proofs.OpenApi.Overriding
import ApiContracts.Proofs.OpenApi.Success
import ApiContracts.Proofs.Plan.Patterns
