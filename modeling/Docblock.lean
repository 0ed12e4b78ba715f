import Docblock.Main
import Docblock.Pattern.Matching
import Docblock.Proofs.Lines
import Docblock.Proofs.Rendering
import Docblock.Proofs.Scanning
import Docblock.Session
import Docblock.Template.Shelf
import Docblock.Proofs.Agreement
import Docblock.Proofs.Insertion
import Docblock.Proofs.Location
import Docblock.Proofs.Brackets
import Docblock.Proofs.Fitting
import Docblock.Proofs.Heading
import Docblock.Proofs.Margins
import Docblock.Proofs.Parameters
import Docblock.Proofs.Placement
import Docblock.Proofs.ScriptComments
import Docblock.Proofs.Sessions
import Docblock.Proofs.Rows
import Docblock.Proofs.Closing
import Docblock.Proofs.Pieces
import Docblock.Proofs.SnippetTrees
import Docblock.Proofs.TreeRendering
import Docblock.Proofs.ParameterLines
import Docblock.Proofs.ScriptParameters
import Docblock.Proofs.HelperHeaders
import Docblock.Proofs.Bounds
import Docblock.Proofs.TabStops
import Docblock.Proofs.ReturnLines
import Docblock.Proofs.Totality
import Docblock.Proofs.Commented
import Docblock.Proofs.CommentCompletions
import Docblock.Proofs.ClosedComments
import Docblock.Proofs.Shelves
import Docblock.Proofs.SearchOrder
import Docblock.Proofs.Resemblance
import Docblock.Proofs.CommentLines
import Docblock.Proofs.SideBySide
import Docblock.Proofs.Rewording
import Docblock.Proofs.Folding
import Docblock.Proofs.SamePlaces
import Docblock.Proofs.Recasing
import Docblock.Proofs.JsonLimits
import Docblock.Proofs.TemplateFaults
import Docblock.Proofs.Refocusing
import Docblock.Proofs.Reach
import Docblock.Proofs.Sinking
import Docblock.Proofs.AnnotationRuns
import Docblock.Proofs.AnnotatedFocus
import Docblock.Proofs.SignatureLines
import Docblock.Proofs.FreshStops
import Docblock.Proofs.ReturnRows
import Docblock.Proofs.Leads
import Docblock.Proofs.MethodLines
import Docblock.Proofs.FunctionLines
import Docblock.Proofs.VariableTypes
import Docblock.Proofs.AnnotatedLines
import Docblock.Proofs.EnumBlocks
import Docblock.Proofs.CommentMarks
import Docblock.Proofs.Swapping
import Docblock.Proofs.Rounds
import Docblock.Proofs.TemplateTexts
import Docblock.Proofs.Registrations
import Docblock.Proofs.LineEndings
import Docblock.Proofs.Segments
import Docblock.Proofs.WindowSettings
