import DuplicateGuard.Particulars
import DuplicateGuard.Text.EmailAddress
import DuplicateGuard.Text.Lowercase
import DuplicateGuard.Text.Soundex

set_option autoImplicit false

namespace DuplicateGuard

def phoneticCode? (word : List Char) : Option String :=
  match (Text.lower word).filter fun c => 'a' ≤ c ∧ c ≤ 'z' with
  | [] => none
  | letters => some (String.ofList (Text.soundex letters))

def blockingKey? (field : CheckField) (value : List Char) : Option String :=
  if value.isEmpty then
    none
  else
    match field with
    | .recipientEmail =>
      match Text.EmailAddress.ofChars? value with
      | some address => some ("domain:" ++ String.ofList address.domain)
      | none => some ("email:" ++ String.ofList value)
    | .recipientName =>
      (Text.words value).getLast?.bind phoneticCode? |>.map ("name:" ++ ·)
    | .title =>
      (Text.words value).head?.bind phoneticCode? |>.map ("title:" ++ ·)
    | .issuerId => some ("issuer:" ++ String.ofList value)

def blockingKeys (fields : List CheckField) (record : Particulars) : List String :=
  (fields.filterMap fun field =>
    blockingKey? field (Text.normalChars (record.value field))).eraseDups

/-- Whether a record has one of the keys; a candidate without keys shares a block with all. -/
def sharesBlock (keys : List String) (fields : List CheckField) (record : Particulars) : Bool :=
  keys.isEmpty || (blockingKeys fields record).any keys.contains

end DuplicateGuard
