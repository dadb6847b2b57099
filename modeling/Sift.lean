import Sift.View
import Sift.Running
import Sift.Query.Selection
import Sift.Graph.Build
import Sift.Graph.Rearrangement
import Sift.Proofs.Grammar
import Sift.Proofs.Groups
import Sift.Proofs.Linked
import Sift.Proofs.Printing
import Sift.Proofs.Rearranging
import Sift.Proofs.Recovery
import Sift.Proofs.Relations
import Sift.Proofs.Remainder
import Sift.Proofs.Rendering
import Sift.Proofs.Levels
import Sift.Proofs.Likeness
import Sift.Proofs.Nesting
import Sift.Proofs.Addressing
import Sift.Proofs.Structure
import Sift.Proofs.Shifting
import Sift.Proofs.Parts
import Sift.Proofs.Synonyms
import Sift.Proofs.Sealing
import Sift.Proofs.Interference
import Sift.Proofs.Consultation
import Sift.Proofs.Runs
import Sift.Proofs.Declarations
import Sift.Proofs.Soundness
import Sift.Proofs.Handlers
import Sift.Proofs.Splitting
import Sift.Proofs.Permuting
import Sift.Proofs.Selecting
import Sift.Proofs.Settling
import Sift.Proofs.Collation
import Sift.Proofs.Looseness
import Sift.Proofs.Containment
import Sift.Proofs.Decimals
import Sift.Proofs.Integers
import Sift.Proofs.Converse
import Sift.Proofs.Parsers
import Sift.Proofs.Arguments
import Sift.Proofs.Bounds
import Sift.Proofs.Sites
import Sift.Proofs.Succession
import Sift.Proofs.Gaps
import Sift.Proofs.Blame
import Sift.Proofs.Slicing
import Sift.Proofs.Candidates
import Sift.Proofs.Labels
