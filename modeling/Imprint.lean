import Imprint.Main
import Imprint.Proofs.Memory.Constraint
import Imprint.Proofs.Memory.Admission
import Imprint.Proofs.Memory.Gaps
import Imprint.Proofs.Path
import Imprint.Proofs.Store.Growth
import Imprint.Proofs.Store.Writing
import Imprint.Proofs.Store.Directories
import Imprint.Proofs.Generation
import Imprint.Proofs.Batch.Discovery
import Imprint.Proofs.Batch.Stage
import Imprint.Proofs.Batch.Isolation
import Imprint.Proofs.Batch.Ledger
import Imprint.Proofs.Shape
import Imprint.Proofs.Text.Shown
import Imprint.Proofs.Processing
import Imprint.Proofs.Batch.Policy
import Imprint.Proofs.Batch.Repetition
import Imprint.Proofs.Rendering
import Imprint.Proofs.Batch.Calls
import Imprint.Proofs.Dump.Reading
import Imprint.Proofs.Elf.Draft
import Imprint.Proofs.Faithfulness
import Imprint.Proofs.Dump.Range
import Imprint.Proofs.Scope
import Imprint.Proofs.Indifference
import Imprint.Proofs.Grammar.Instruction
import Imprint.Proofs.Grammar.DumpRow
import Imprint.Proofs.Grammar.Pattern
import Imprint.Proofs.Headline
import Imprint.Proofs.Naming
import Imprint.Proofs.Batch.Regularity
import Imprint.Proofs.Layout
import Imprint.Proofs.Additivity
import Imprint.Proofs.Grammar.Literals
import Imprint.Proofs.Elf.SectionTable
import Imprint.Proofs.Nameless
