import Sentential.Enumeration.Session
import Sentential.Main
import Sentential.Proofs.Grammar
import Sentential.Proofs.Reading
import Sentential.Proofs.Parsing
import Sentential.Proofs.Viability
import Sentential.Proofs.Binary
import Sentential.Proofs.EnumerationOrder
import Sentential.Proofs.Segmentation
import Sentential.Proofs.Lookup
import Sentential.Proofs.TableRows
import Sentential.Proofs.Cursor
import Sentential.Proofs.Backtracking
import Sentential.Proofs.Decision
import Sentential.Proofs.Brackets
import Sentential.Proofs.Equivalence
import Sentential.Proofs.LexicalErrors
import Sentential.Proofs.Relocation
import Sentential.Proofs.Spacing
import Sentential.Proofs.CallBounds
import Sentential.Proofs.MissingVariables
import Sentential.Proofs.BlockProduct
import Sentential.Proofs.SizeHint
import Sentential.Proofs.DepthErrors
import Sentential.Proofs.FirstOccurrences
import Sentential.Proofs.IndexBijection
import Sentential.Proofs.VariableOrder
import Sentential.Proofs.Composition
import Sentential.Proofs.LetterCase
import Sentential.Proofs.Renaming
import Sentential.Proofs.UniqueReading
import Sentential.Proofs.Messages
import Sentential.Proofs.PrintedTable
import Sentential.Proofs.Reports
