import DuplicateGuard.Certificate
import DuplicateGuard.Keyed

set_option autoImplicit false

namespace DuplicateGuard

def Certificate.answers (notRevoked : Bool) (issuedAfter : Option Instant)
    (certificate : Certificate) : Bool :=
  !(notRevoked && decide (certificate.status = .revoked)) &&
    issuedAfter.all fun cutoff => cutoff.le certificate.issuedAt

def Certificate.flaggedWithin (start stop : Instant) (certificate : Certificate) : Bool :=
  certificate.isDuplicate && start.le certificate.issuedAt && certificate.issuedAt.le stop

abbrev Corpus := Keyed Certificate

namespace Corpus

def add (corpus : Corpus) (certificate : Certificate) : Corpus :=
  Keyed.put certificate.id certificate corpus

def query (corpus : Corpus) (notRevoked : Bool) (issuedAfter : Option Instant) : List Certificate :=
  (Keyed.values corpus).filter (Certificate.answers notRevoked issuedAfter)

def flaggedWithin (corpus : Corpus) (start stop : Instant) : List Certificate :=
  (Keyed.values corpus).filter (Certificate.flaggedWithin start stop)

end Corpus

end DuplicateGuard
