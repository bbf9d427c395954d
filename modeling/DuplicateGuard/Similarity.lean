import DuplicateGuard.Number.Scale
import DuplicateGuard.Text.Cluster
import DuplicateGuard.Text.EditDistance
import DuplicateGuard.Text.EmailAddress
import DuplicateGuard.Text.Lowercase

set_option autoImplicit false

namespace DuplicateGuard

variable {S : Type} [Scale S]

structure Thresholds (S : Type) where
  duplicate : S
  decisiveField : S
  emailDomainBoost : S
deriving DecidableEq

def Thresholds.standard : Thresholds S :=
  { duplicate := Scale.ratio 7 10
    decisiveField := Scale.ratio 9 10
    emailDomainBoost := Scale.ratio 2 10 }

/-- Edits are counted on perceived characters. -/
def textDistance (a b : List Char) : Nat :=
  Text.editDistance (Text.clusters a) (Text.clusters b)

/-- The share of the longer text that need not be edited; lengths are counted in code points. -/
def editSimilarity (a b : List Char) : S :=
  match a, b with
  | [], [] => Scale.ofNat 1
  | [], _ :: _ | _ :: _, [] => Scale.ofNat 0
  | _ :: _, _ :: _ =>
    Scale.ofNat 1 - Scale.ratio (textDistance a b) (max a.length b.length)

/-- Similarity of two values in normal form. Of addresses on one domain the mailboxes are compared
and the domain counts for the boost; addresses on two domains never earn that share. -/
def normalSimilarity (boost : S) (a b : List Char) : S :=
  if a = b then
    Scale.ofNat 1
  else if a.isEmpty || b.isEmpty then
    Scale.ofNat 0
  else
    match Text.EmailAddress.ofChars? a, Text.EmailAddress.ofChars? b with
    | some left, some right =>
      if left.domain = right.domain then
        editSimilarity left.mailbox right.mailbox * (Scale.ofNat 1 - boost) + boost
      else
        editSimilarity a b * (Scale.ofNat 1 - boost)
    | _, _ => editSimilarity a b

def similarity (boost : S) (a b : Option String) : S :=
  normalSimilarity boost (Text.normalChars a) (Text.normalChars b)

def exactMatch (a b : Option String) : S :=
  if Text.normalChars a = Text.normalChars b then Scale.ofNat 1 else Scale.ofNat 0

def fieldScore (boost : S) (fuzzy : Bool) (a b : Option String) : S :=
  if fuzzy then similarity boost a b else exactMatch a b

end DuplicateGuard
