import ScriptLint.Name
import ScriptLint.Tool
import ScriptLint.Proofs.Module.Depth
import ScriptLint.Proofs.Outline.Declared
import ScriptLint.Proofs.Module.Closure
import ScriptLint.Proofs.Text.Recognise
import ScriptLint.Proofs.Comments.Analysis
import ScriptLint.Proofs.Listing.Reading
import ScriptLint.Proofs.Placement.Analysis
import ScriptLint.Proofs.Module.Calls
import ScriptLint.Proofs.Module.Anew
import ScriptLint.Proofs.Module.Order
import ScriptLint.Proofs.Subject.Marks
import ScriptLint.Proofs.Outline.Found
import ScriptLint.Proofs.Subject.Analysis
import ScriptLint.Proofs.Outline.Complete
import ScriptLint.Proofs.Outline.Enclosing
import ScriptLint.Proofs.Module.Provenance
import ScriptLint.Proofs.Module.Methods
import ScriptLint.Proofs.Literals.Analysis
import ScriptLint.Proofs.Library.Analysis
import ScriptLint.Proofs.Workspace.FailedOpen
import ScriptLint.Proofs.Workspace.Reconfigure
import ScriptLint.Proofs.Path.Join
import ScriptLint.Proofs.Include.Search
import ScriptLint.Proofs.Module.Confined
import ScriptLint.Proofs.Workspace.History
import ScriptLint.Proofs.Workspace.Current
import ScriptLint.Proofs.Module.Nesting
import ScriptLint.Proofs.Strict.Analysis
import ScriptLint.Proofs.Types.Declared
import ScriptLint.Proofs.Analysis.Codes
import ScriptLint.Proofs.Types.Analysis
import ScriptLint.Proofs.Calls.Sites
import ScriptLint.Proofs.Calls.Analysis
import ScriptLint.Proofs.Root.Heads
import ScriptLint.Proofs.Variable.Analysis
import ScriptLint.Proofs.Renumber.Analysis
import ScriptLint.Proofs.Include.Verdict
import ScriptLint.Proofs.Source.Reading
import ScriptLint.Proofs.Line.Reread
import ScriptLint.Proofs.Line.Segments
import ScriptLint.Proofs.Line.Positions
import ScriptLint.Proofs.Literals.Masks
import ScriptLint.Proofs.Subject.Ends
import ScriptLint.Proofs.Braces.Analysis
import ScriptLint.Proofs.Calls.Bare
import ScriptLint.Proofs.Statement.Forms
import ScriptLint.Proofs.Macros.Arity
import ScriptLint.Proofs.Braces.Bodies
import ScriptLint.Proofs.Include.LeftOver
import ScriptLint.Proofs.Source.Chunks
import ScriptLint.Proofs.Symbol.Preorder
import ScriptLint.Proofs.Symbol.Table
