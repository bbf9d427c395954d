set_option autoImplicit false

namespace DuplicateGuard.Text

abbrev CodeRanges := List (Nat × Nat)

def CodeRanges.has (ranges : CodeRanges) (code : Nat) : Bool :=
  ranges.any fun range => decide (range.1 ≤ code) && decide (code ≤ range.2)

def blankRanges : CodeRanges := [
  (0x09, 0x0D), (0x1C, 0x20), (0x85, 0x85), (0xA0, 0xA0), (0x1680, 0x1680), (0x2000, 0x200A),
  (0x2028, 0x2029), (0x202F, 0x202F), (0x205F, 0x205F), (0x3000, 0x3000)]

def isBlank (c : Char) : Bool :=
  blankRanges.has c.toNat

def strip (cs : List Char) : List Char :=
  ((cs.dropWhile isBlank).reverse.dropWhile isBlank).reverse

def splitWhere (cut : Char → Bool) : List Char → List (List Char)
  | [] => [[]]
  | c :: rest =>
    if cut c then
      [] :: splitWhere cut rest
    else
      match splitWhere cut rest with
      | [] => [[c]]
      | piece :: pieces => (c :: piece) :: pieces

theorem splitWhere_ne_nil (cut : Char → Bool) (cs : List Char) : splitWhere cut cs ≠ [] := by
  cases cs with
  | nil => simp [splitWhere]
  | cons c rest =>
    by_cases here : cut c = true
    next => simp [splitWhere, here]
    next =>
      simp only [splitWhere, here]
      cases splitWhere cut rest <;> simp

theorem length_splitWhere (cut : Char → Bool) (cs : List Char) :
    (splitWhere cut cs).length = cs.countP cut + 1 := by
  induction cs with
  | nil => rfl
  | cons c rest ih =>
    by_cases here : cut c = true
    next => simp [splitWhere, here, ih]
    next =>
      simp only [splitWhere, here, List.countP_cons]
      cases pieces : splitWhere cut rest with
      | nil => exact absurd pieces (splitWhere_ne_nil cut rest)
      | cons piece more => simpa [pieces] using ih

def words (cs : List Char) : List (List Char) :=
  (splitWhere isBlank cs).filter fun piece => !piece.isEmpty

def occursIn (part : List Char) : List Char → Bool
  | [] => part.isEmpty
  | c :: rest => part.isPrefixOf (c :: rest) || occursIn part rest

theorem occursIn_iff (part text : List Char) : occursIn part text = true ↔ part <:+: text := by
  induction text with
  | nil => simp [occursIn]
  | cons c rest ih => simp [occursIn, ih, List.infix_cons_iff]

def hasAny (parts : List String) (text : List Char) : Bool :=
  parts.any fun part => occursIn part.toList text

def lineFeeds : List Char → List Char
  | '\r' :: '\n' :: rest => '\n' :: lineFeeds rest
  | '\r' :: rest => '\n' :: lineFeeds rest
  | c :: rest => c :: lineFeeds rest
  | [] => []

theorem lineFeeds_eq_self (cs : List Char) (plain : '\r' ∉ cs) : lineFeeds cs = cs := by
  fun_induction lineFeeds cs with
  | case1 rest ih => simp at plain
  | case2 rest other ih => simp at plain
  | case3 c rest both single ih =>
    simp only [List.mem_cons, not_or] at plain
    rw [ih plain.2]
  | case4 => rfl

end DuplicateGuard.Text
