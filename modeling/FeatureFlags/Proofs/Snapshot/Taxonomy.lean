import FeatureFlags.Proofs.Snapshot.CheckErrors
import FeatureFlags.Proofs.Snapshot.Obstacles

/-! Errors of reading a snapshot. Almost everything that can be wrong with a document is reported as
a fault of the snapshot family. Three things are not: an integer beyond all doubles in a condition, a
variant that cannot be a member of a set, and a regular expression that cannot be read for another
reason than being malformed. Each is found along the ways into the document, so a document shows
beforehand whether reading it can end with anything else than a snapshot or a report.
-/

namespace FeatureFlags

namespace Snapshot

-----------------------------------------------------------------------------------------
-- Parsing
-----------------------------------------------------------------------------------------

end Snapshot

namespace Sample

/-- A document with a flag of the given variants. -/
def varied (variants : Datum) : Datum :=
  .record [("version", .int 1),
    ("flags", .list
      [.record [("key", .text "theme"), ("type", .text "string"), ("variants", variants)]])]

end Sample

end FeatureFlags
