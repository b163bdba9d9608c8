import JsonSchema.CommandLine.Run
import JsonSchema.Compiler.Keywords
import JsonSchema.Files.Tree
import JsonSchema.Main
import JsonSchema.Proofs.Evaluation.Combinators
import JsonSchema.Proofs.Evaluation.Congruence
import JsonSchema.Proofs.Evaluation.Records
import JsonSchema.Proofs.Evaluation.Modes
import JsonSchema.Proofs.Evaluation.Termination
import JsonSchema.Proofs.Evaluation.Matching
import JsonSchema.Proofs.Lowering.Contributions
import JsonSchema.Proofs.Lowering.Schemas
import JsonSchema.Proofs.Lowering.Cycles
import JsonSchema.Proofs.Draft7.Semantics
import JsonSchema.Proofs.Evaluation.Meaning
import JsonSchema.Proofs.Draft7.Assertions
import JsonSchema.Proofs.Draft7.Applicators
import JsonSchema.Proofs.Draft7.Agreement
import JsonSchema.Proofs.Lowering.Mirrors
import JsonSchema.Proofs.Lowering.Visits
import JsonSchema.Proofs.Evaluation.SameVerdict
import JsonSchema.Proofs.Reference.Local
import JsonSchema.Proofs.Reference.Inlining
import JsonSchema.Proofs.Reference.Transcription
import JsonSchema.Proofs.Reference.Replacement
import JsonSchema.Proofs.Reference.Transparency
import JsonSchema.Proofs.Reference.Collisions
import JsonSchema.Proofs.Lowering.Lockstep
import JsonSchema.Proofs.Reference.Bases
import JsonSchema.Proofs.Reference.RootId
import JsonSchema.Proofs.Reference.JoinedOnce
import JsonSchema.Proofs.Registry.Runs
import JsonSchema.Proofs.Registry.CustomRules
import JsonSchema.Proofs.Compiler.Conservative
import JsonSchema.Proofs.Compiler.SingleKeyword
import JsonSchema.Proofs.Compiler.KeywordHistory
import JsonSchema.Proofs.Compiler.Vocabulary
import JsonSchema.Proofs.Reference.Interference
import JsonSchema.Proofs.Strict.Narrowing
import JsonSchema.Proofs.Evaluation.CallBudget
import JsonSchema.Proofs.Compiler.CachedDocument
import JsonSchema.Proofs.Lowering.Reporting
import JsonSchema.Proofs.Lowering.KeywordCode
import JsonSchema.Proofs.Lowering.Labels
import JsonSchema.Proofs.Store.Install
import JsonSchema.Proofs.Omission.Removal
import JsonSchema.Proofs.Json.Reading
import JsonSchema.Proofs.Evaluation.Provenance
import JsonSchema.Proofs.Evaluation.DataPaths
import JsonSchema.Proofs.Lowering.Everywhere
import JsonSchema.Proofs.Lowering.DataReferences
import JsonSchema.Proofs.Lowering.SchemaPaths
import JsonSchema.Proofs.Lowering.DataValues
import JsonSchema.Proofs.Number.Rounding
import JsonSchema.Proofs.Json.Equality
import JsonSchema.Proofs.Json.Reordering
import JsonSchema.Proofs.Evaluation.Reordering
import JsonSchema.Proofs.Lowering.MemberOrder
import JsonSchema.Proofs.CommandLine.Validation
import JsonSchema.Proofs.Draft7.Forms
import JsonSchema.Proofs.Reference.Meaning
import JsonSchema.Proofs.Registry.DefinitionCheck
import JsonSchema.Proofs.Draft7.Integers
import JsonSchema.Proofs.Reference.IndexedSchemas
import JsonSchema.Proofs.Uri.Percent
import JsonSchema.Proofs.Reference.PointerWalks
import JsonSchema.Proofs.Evaluation.Answers
import JsonSchema.Proofs.Lowering.Relocation
import JsonSchema.Proofs.Compiler.Alternatives
import JsonSchema.Proofs.Compiler.DataReferenceSchema
import JsonSchema.Proofs.Compiler.MetaSchema
import JsonSchema.Proofs.Lowering.Strictness
import JsonSchema.Proofs.Lowering.ItemsOrder
import JsonSchema.Proofs.Uri.Texts
import JsonSchema.Proofs.Uri.Reading
import JsonSchema.Proofs.Reference.Keys
import JsonSchema.Proofs.Lowering.LoopCheck
import JsonSchema.Proofs.Lowering.Across
import JsonSchema.Proofs.Lowering.GroupSkipping
import JsonSchema.Proofs.Strict.Closing
import JsonSchema.Proofs.Store.Directory
import JsonSchema.Proofs.Lowering.Resolution
import JsonSchema.Proofs.Uri.Fragments
import JsonSchema.Proofs.Reference.TargetKeys
import JsonSchema.Proofs.Lowering.Watched
import JsonSchema.Proofs.Compiler.Ending
import JsonSchema.Proofs.Json.PointerEvaluation
import JsonSchema.Proofs.Evaluation.RelativeReferences
import JsonSchema.Proofs.Format.PointerFormats
import JsonSchema.Proofs.Registry.Identifiers
import JsonSchema.Proofs.Format.AsciiFormats
