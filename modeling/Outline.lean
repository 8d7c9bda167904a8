import Outline.Batch.Run
import Outline.Command.Run
import Outline.Main
import Outline.Number.Reading
import Outline.Proofs.Batch.Capacity
import Outline.Proofs.Batch.Progress
import Outline.Proofs.Batch.Refinement
import Outline.Proofs.Batch.Verdict
import Outline.Proofs.Command.Extract
import Outline.Proofs.Extraction.Content
import Outline.Proofs.Extraction.Grouping
import Outline.Proofs.Extraction.Nesting
import Outline.Proofs.Extraction.Options
import Outline.Proofs.Extraction.ScopeNames
import Outline.Proofs.Extraction.Spelling
import Outline.Proofs.Extraction.TypeScopes
import Outline.Proofs.Language.Registration
import Outline.Proofs.Language.Suffix
import Outline.Proofs.Log.Routing
import Outline.Proofs.Scope.Search
import Outline.Proofs.Settings.Limits
import Outline.Proofs.Settings.Precedence
import Outline.Proofs.Settings.Revalidation
import Outline.Proofs.Value.KeyPaths
import Outline.Snapshot
import Outline.Value.Merge
