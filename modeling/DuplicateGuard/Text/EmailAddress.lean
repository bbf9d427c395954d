import DuplicateGuard.Text.Basic

set_option autoImplicit false

namespace DuplicateGuard.Text

structure EmailAddress where
  mailbox : List Char
  domain : List Char
deriving DecidableEq

def EmailAddress.ofChars? (cs : List Char) : Option EmailAddress :=
  match splitWhere (· = '@') cs with
  | [mailbox, domain] => some ⟨mailbox, domain⟩
  | _ => none

theorem EmailAddress.isSome_ofChars?_iff (cs : List Char) :
    (EmailAddress.ofChars? cs).isSome = true ↔ cs.countP (· = '@') = 1 := by
  have count := length_splitWhere (· = '@') cs
  unfold EmailAddress.ofChars?
  split
  next mailbox domain pieces =>
    rw [pieces] at count
    simp only [List.length_cons, List.length_nil] at count
    simp only [Option.isSome_some, true_iff]
    omega
  next other =>
    simp only [Option.isSome_none, Bool.false_eq_true, false_iff]
    intro one
    rw [one] at count
    match pieces : splitWhere (· = '@') cs, count with
    | [a, b], _ => exact other a b pieces

def maskEmail (value : String) : String :=
  let cs := value.toList
  match cs.dropWhile (· ≠ '@') with
  | [] => "***"
  | _ :: domain =>
    String.ofList ((cs.takeWhile (· ≠ '@')).take 1 ++ "***@".toList ++ domain)

end DuplicateGuard.Text
