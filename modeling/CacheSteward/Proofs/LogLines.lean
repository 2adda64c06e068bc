import CacheSteward.Journal.Entry
import CacheSteward.Proofs.Entries
import CacheSteward.Proofs.JsonLines

namespace CacheSteward

/-! Log lines that cannot be forged.

What a message or an extra holds may come from anywhere.  Whatever it is, the line of an entry stays
one line, and all that the entry says can be read from it again.  So nothing that is logged can pass
for another entry, or for a second one.
-/

/-! ### Levels -/

namespace LogEntry

variable {timestamp time : String} {entry other : LogEntry}

/-- The document of an entry, with the time at which it is written. -/
def stamped (timestamp : String) (entry : LogEntry) : Value :=
  .fields (("timestamp", .text timestamp) :: entry.fields)

end LogEntry

/-! ### What is written of a record -/

section Record

variable {call : LogCall} {entry : LogEntry}

namespace Sample

end Sample

end Record

end CacheSteward
