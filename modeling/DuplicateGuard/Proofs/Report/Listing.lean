import DuplicateGuard.Proofs.Detection.Agreement
import DuplicateGuard.Proofs.Report.Tally

set_option autoImplicit false

namespace DuplicateGuard

namespace Certificate

end Certificate

namespace Report

def listing (stored : List Certificate) (start stop : Instant) : List Certificate :=
  (stored.filter (Certificate.flaggedWithin start stop)).mergeSort listedBefore

structure Tells (made : Report) (stored listed : List Certificate) (first last : Instant) :
    Prop where
  range : made.range = { start := .ofInstant first, stop := .ofInstant last }
  entries : made.entries = listed.map entryOf
  exact : ∀ known, known ∈ listed ↔ known ∈ stored ∧ known.isDuplicate = true ∧
    first.micros ≤ known.issuedAt.micros ∧ known.issuedAt.micros ≤ last.micros
  ascending : listed.Pairwise fun a b =>
    a.issuedAt.micros < b.issuedAt.micros ∨ a.issuedAt = b.issuedAt ∧ a.id < b.id
  total : made.total = listed.length
  issuers : Tallies made.byIssuer (listed.map issuerOf)
  kinds : Tallies made.byKind (listed.map fun known => (DuplicateClass.of known).name)

variable {stored : List Certificate} (id : String) (first last : Instant) (now : Timestamp)

def on (stored : List Certificate) : Report :=
  .ofFlagged id first last now (stored.filter (Certificate.flaggedWithin first last))

end Report

namespace Service

variable {service : Service} {corpus : Corpus} {ledger : Ledger} {stored : List Certificate}
  {start stop : Timestamp} {first last : Instant}

end Service

end DuplicateGuard
