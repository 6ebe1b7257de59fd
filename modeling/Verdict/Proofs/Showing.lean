/-
# Showing documents

Documents are read, written out and shown in an answer under three limits, and each counts the levels
of the tree in its own way.

| operation | counts | the longest chain of groups | conditions in the last group of it |
| --- | --- | --- | --- |
| reading | groups | 254 | allowed |
| writing out | groups, and the conditions below them | 254 | not allowed |
| showing | the lists and objects of the written document | 127 | not allowed |

The last two limits are of one kind (`Group.Fit`), since a group is written as an object in a list.  So
rules are accepted and listed that cannot be shown (`documents_shown`).
-/

import Verdict.Proofs.Snapshot
import Verdict.Proofs.TextAndBytes
import Verdict.Proofs.WireRoundTrip

namespace Verdict

namespace Group

/-! ### Chains of groups -/

variable {groups chain : List Group} {n m : Nat}

end Group

namespace Group

variable {groups : List Group} {n : Nat}

end Group

/-! ### Documents -/

namespace Document

variable {d : Document}

end Document

namespace Service

variable {r : Registry} {id : String} {d : Document}

end Service

namespace Sample

end Sample

end Verdict
