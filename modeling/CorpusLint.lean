import CorpusLint.Disk
import CorpusLint.Main
import CorpusLint.Proofs.Colours
import CorpusLint.Proofs.CommandLine.Validate
import CorpusLint.Proofs.Corpus.Collections
import CorpusLint.Proofs.Evaluation.Bodies
import CorpusLint.Proofs.Evaluation.Declarations
import CorpusLint.Proofs.Evaluation.Growth
import CorpusLint.Proofs.Evaluation.Headerless
import CorpusLint.Proofs.Evaluation.Heredocs
import CorpusLint.Proofs.Evaluation.LegacySpawns
import CorpusLint.Proofs.Evaluation.LineEndings
import CorpusLint.Proofs.Evaluation.Messages
import CorpusLint.Proofs.Evaluation.PinnedAgents
import CorpusLint.Proofs.Evaluation.PinnedRoutes
import CorpusLint.Proofs.Evaluation.Positions
import CorpusLint.Proofs.Evaluation.Shuffling
import CorpusLint.Proofs.Evaluation.SkillNames
import CorpusLint.Proofs.Evaluation.SpawnTargets
import CorpusLint.Proofs.Evaluation.Warning
import CorpusLint.Proofs.Frontmatter.Decomposition
import CorpusLint.Proofs.Frontmatter.Spelling
import CorpusLint.Proofs.Inventory
import CorpusLint.Proofs.Report.Consistency
import CorpusLint.Proofs.Report.Envelope
import CorpusLint.Proofs.Report.Lines
import CorpusLint.Proofs.Report.Locations
import CorpusLint.Proofs.Selection.Canonical
import CorpusLint.Proofs.Settings.Reading
import CorpusLint.Proofs.Text.Offsets
import CorpusLint.Proofs.Text.Words
