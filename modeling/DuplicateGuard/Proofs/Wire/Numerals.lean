import DuplicateGuard.Proofs.Text.Address
import DuplicateGuard.Wire.Reader
import Mathlib.Data.List.TakeWhile

/-!
Numbers in texts: a sign, digits with a point among them and an exponent, of which only the digits
must be there. A text with a number is one of these between blanks, with underscores between its
characters.
-/

set_option autoImplicit false

namespace DuplicateGuard.Wire.Read

inductive Sign : List Char → Bool → Prop where
  | minus : Sign ['-'] true
  | plus : Sign ['+'] false
  | none : Sign [] false

def Digits (cs : List Char) : Prop :=
  ∀ c ∈ cs, c.isDigit = true

inductive SpellsExponent : List Char → Int → Prop where
  | none : SpellsExponent [] 0
  | some {mark : Char} {sign digits : List Char} {negative : Bool} : mark = 'e' ∨ mark = 'E' →
      Sign sign negative → Digits digits → digits ≠ [] →
      SpellsExponent (mark :: (sign ++ digits))
        (if negative then -(natOfDigits digits : Int) else natOfDigits digits)

inductive SpellsFraction : List Char → List Char → Prop where
  | none : SpellsFraction [] []
  | some {digits : List Char} : Digits digits → SpellsFraction ('.' :: digits) digits

inductive SpellsNumber : List Char → Double → Prop where
  | intro {sign whole point fraction tail : List Char} {negative : Bool} {exponent : Int} :
      Sign sign negative → Digits whole → SpellsFraction point fraction → whole ++ fraction ≠ [] →
      SpellsExponent tail exponent →
      SpellsNumber (sign ++ (whole ++ (point ++ tail)))
        (Double.ofDecimal negative (natOfDigits (whole ++ fraction)) (exponent - fraction.length))

section Parts

theorem exists_sign (cs : List Char) :
    ∃ sign, Sign sign (splitSign cs).1 ∧ cs = sign ++ (splitSign cs).2 := by
  unfold splitSign
  split
  next => exact ⟨_, .minus, rfl⟩
  next => exact ⟨_, .plus, rfl⟩
  next => exact ⟨_, .none, rfl⟩

theorem splitSign_append {sign rest : List Char} {negative : Bool} (signed : Sign sign negative)
    (unsigned : ∀ c ∈ rest.head?, c ≠ '-' ∧ c ≠ '+') :
    splitSign (sign ++ rest) = (negative, rest) := by
  cases signed with
  | minus => rfl
  | plus => rfl
  | none =>
    cases rest with
    | nil => rfl
    | cons c more =>
      obtain ⟨noMinus, noPlus⟩ := unsigned c rfl
      simp [splitSign, noMinus, noPlus]

theorem ne_sign_of_isDigit {c : Char} (digit : c.isDigit = true) : c ≠ '-' ∧ c ≠ '+' := by
  constructor <;> (rintro rfl; cases digit)

theorem exponentOf?_eq_some {cs : List Char} {exponent : Int} :
    exponentOf? cs = some exponent ↔ SpellsExponent cs exponent := by
  constructor
  next =>
    intro read
    cases cs with
    | nil =>
      cases read
      exact .none
    | cons mark rest =>
      rw [exponentOf?] at read
      split at read
      next marked =>
        -- The sign belongs to the exponent, so the digits begin after it.
        obtain ⟨sign, signed, same⟩ := exists_sign rest
        dsimp only at read
        split at read
        next => cases read
        next filled =>
          simp only [List.isEmpty_iff, Bool.not_eq_true', List.all_eq_false, not_or, not_exists,
            not_and, Bool.not_eq_true] at filled
          cases read
          have digits : Digits (splitSign rest).2 := fun c inside => by
            simpa using filled.2 c inside
          have spelled := SpellsExponent.some marked signed digits filled.1
          rwa [← same] at spelled
      next => cases read
  next =>
    intro spelled
    cases spelled with
    | none => rfl
    | @some mark sign digits negative marked signed digit filled =>
      have unsigned : ∀ c ∈ digits.head?, c ≠ '-' ∧ c ≠ '+' := fun c first =>
        ne_sign_of_isDigit (digit c (List.mem_of_mem_head? first))
      have all : digits.all Char.isDigit = true := List.all_eq_true.2 digit
      simp [exponentOf?, marked, splitSign_append signed unsigned, filled, all]

def Stops (cs : List Char) : Prop :=
  ∀ c ∈ cs.head?, c.isDigit = false

theorem span_digits {digits rest : List Char} (digit : Digits digits) (stops : Stops rest) :
    (digits ++ rest).takeWhile Char.isDigit = digits ∧
      (digits ++ rest).dropWhile Char.isDigit = rest := by
  have ends : rest.takeWhile Char.isDigit = [] ∧ rest.dropWhile Char.isDigit = rest := by
    cases rest with
    | nil => exact ⟨rfl, rfl⟩
    | cons c more => simp [stops c rfl]
  rw [List.takeWhile_append_of_pos digit, List.dropWhile_append_of_pos digit, ends.1, ends.2]
  exact ⟨List.append_nil _, rfl⟩

theorem SpellsExponent.stops {tail : List Char} {exponent : Int}
    (spelled : SpellsExponent tail exponent) :
    Stops tail ∧ ∀ rest, tail ≠ '.' :: rest := by
  cases spelled with
  | none => exact ⟨nofun, nofun⟩
  | some marked =>
    rcases marked with rfl | rfl
    all_goals exact ⟨by rintro _ ⟨⟩; decide, by rintro _ ⟨⟩⟩

theorem SpellsFraction.stops {point fraction tail : List Char} (spelled : SpellsFraction point fraction)
    (ends : Stops tail) : Stops (point ++ tail) := by
  cases spelled with
  | none => exact ends
  | some _ => rintro _ ⟨⟩; decide

end Parts

def fractionOf (cs : List Char) : List Char × List Char :=
  match cs with
  | '.' :: more => (more.takeWhile Char.isDigit, more.dropWhile Char.isDigit)
  | other => ([], other)

theorem fractionOf_append {point fraction tail : List Char} {exponent : Int}
    (spelled : SpellsFraction point fraction) (ends : SpellsExponent tail exponent) :
    fractionOf (point ++ tail) = (fraction, tail) := by
  obtain ⟨stops, noPoint⟩ := ends.stops
  cases spelled with
  | none =>
    unfold fractionOf
    split
    next rest same => exact absurd same (noPoint rest)
    next => rfl
  | some digit =>
    obtain ⟨taken, left⟩ := span_digits digit stops
    exact Prod.ext taken left

theorem exists_point (cs : List Char) :
    ∃ point, SpellsFraction point (fractionOf cs).1 ∧ cs = point ++ (fractionOf cs).2 := by
  unfold fractionOf
  split
  next more =>
    refine ⟨'.' :: more.takeWhile Char.isDigit, .some fun c inside => List.mem_takeWhile_imp inside, ?_⟩
    rw [List.cons_append, List.takeWhile_append_dropWhile]
  next => exact ⟨[], .none, rfl⟩

def unsignedNumber? (negative : Bool) (unsigned : List Char) : Option Double :=
  let whole := unsigned.takeWhile Char.isDigit
  let (fraction, rest) := fractionOf (unsigned.dropWhile Char.isDigit)
  if whole.isEmpty && fraction.isEmpty then
    none
  else
    (exponentOf? rest).map fun exponent =>
      Double.ofDecimal negative (natOfDigits (whole ++ fraction)) (exponent - fraction.length)

theorem numberOfChars?_eq (cs : List Char) :
    numberOfChars? cs =
      let (negative, unsigned) := splitSign cs
      let word := asciiLower (String.ofList unsigned)
      if word = "nan" then some .nan
      else if numberWords.contains word then some (.infinite negative)
      else unsignedNumber? negative unsigned := rfl

theorem spells_of_unsignedNumber? {cs : List Char} {x : Double}
    (read : unsignedNumber? (splitSign cs).1 (splitSign cs).2 = some x) : SpellsNumber cs x := by
  obtain ⟨sign, signed, same⟩ := exists_sign cs
  obtain ⟨point, pointed, left⟩ := exists_point ((splitSign cs).2.dropWhile Char.isDigit)
  unfold unsignedNumber? at read
  dsimp only at read
  split at read
  next => cases read
  next filled =>
    obtain ⟨exponent, told, rfl⟩ := Option.map_eq_some_iff.1 read
    have digit : Digits ((splitSign cs).2.takeWhile Char.isDigit) :=
      fun c inside => List.mem_takeWhile_imp inside
    have spelled := SpellsNumber.intro signed digit pointed (by simpa using filled)
      (exponentOf?_eq_some.1 told)
    rwa [← left, List.takeWhile_append_dropWhile, ← same] at spelled

theorem head_of_filled {whole point fraction : List Char} (digit : Digits whole)
    (pointed : SpellsFraction point fraction) (filled : whole ++ fraction ≠ []) (tail : List Char) :
    ∃ c rest, whole ++ (point ++ tail) = c :: rest ∧ (c.isDigit = true ∨ c = '.') := by
  cases whole with
  | cons c more => exact ⟨c, more ++ (point ++ tail), rfl, .inl (digit c (.head more))⟩
  | nil =>
    cases pointed with
    | none => exact absurd rfl filled
    | some _ => exact ⟨'.', _, rfl, .inr rfl⟩

theorem toLower_of_isDigit {c : Char} (digit : c.isDigit = true) : c.toLower = c := by
  unfold Char.toLower
  split
  next upper =>
    simp only [Char.isDigit, Bool.and_eq_true, decide_eq_true_eq, ge_iff_le] at digit
    exact absurd (UInt32.le_trans upper.1 digit.2) (by decide)
  next => rfl

theorem word_ne {c : Char} {rest : List Char} (kind : c.isDigit = true ∨ c = '.') {word : String}
    (letter : ∀ first ∈ word.toList.head?, first.isDigit = false ∧ first ≠ '.') :
    asciiLower (String.ofList (c :: rest)) ≠ word := by
  rintro rfl
  rw [asciiLower, String.toList_ofList, String.toList_ofList, List.map_cons] at letter
  obtain ⟨noDigit, noPoint⟩ := letter _ rfl
  rcases kind with digit | rfl
  next =>
    rw [toLower_of_isDigit digit, digit] at noDigit
    cases noDigit
  next => exact noPoint (by decide)

theorem numberOfChars?_of_spells {cs : List Char} {x : Double} (spelled : SpellsNumber cs x) :
    numberOfChars? cs = some x := by
  cases spelled with
  | @intro sign whole point fraction tail negative exponent signed digit pointed filled ends =>
    -- What is at the head rules out a second sign, and then the words.
    obtain ⟨c, rest, begins, kind⟩ := head_of_filled digit pointed filled tail
    have unsigned : ∀ c ∈ (whole ++ (point ++ tail)).head?, c ≠ '-' ∧ c ≠ '+' := by
      rw [begins]
      rintro _ ⟨⟩
      rcases kind with digit | rfl
      · exact ne_sign_of_isDigit digit
      · decide
    obtain ⟨taken, dropped⟩ := span_digits digit (pointed.stops ends.stops.1)
    have noNan : asciiLower (String.ofList (whole ++ (point ++ tail))) ≠ "nan" := by
      rw [begins]
      exact word_ne kind (by rintro _ ⟨⟩; decide)
    have noWord : asciiLower (String.ofList (whole ++ (point ++ tail))) ∉ numberWords := by
      rw [begins, numberWords, List.mem_cons, List.mem_singleton, not_or]
      exact ⟨word_ne kind (by rintro _ ⟨⟩; decide), word_ne kind (by rintro _ ⟨⟩; decide)⟩
    have bare : (whole.isEmpty && fraction.isEmpty) = false := by
      simpa [← Bool.not_eq_true] using filled
    rw [numberOfChars?_eq, splitSign_append signed unsigned]
    simp only [noNan, if_false, List.contains_iff_mem, noWord, unsignedNumber?, taken, dropped,
      fractionOf_append pointed ends, bare, Bool.false_eq_true, exponentOf?_eq_some.2 ends,
      Option.map_some]

theorem numberOfChars?_cases {cs : List Char} {x : Double} (read : numberOfChars? cs = some x) :
    SpellsNumber cs x ∨ x.toRat? = none ∧
      asciiLower (String.ofList (splitSign cs).2) ∈ "nan" :: numberWords := by
  rw [numberOfChars?_eq] at read
  dsimp only at read
  split at read
  next named =>
    cases read
    exact .inr ⟨rfl, named ▸ .head _⟩
  next =>
    split at read
    next named =>
      cases read
      exact .inr ⟨rfl, .tail _ (List.contains_iff_mem.1 named)⟩
    next => exact .inl (spells_of_unsignedNumber? read)

theorem numberOfChars?_eq_some {cs : List Char} {x : Double} (finite : x.toRat? ≠ none) :
    numberOfChars? cs = some x ↔ SpellsNumber cs x :=
  ⟨fun read => (numberOfChars?_cases read).resolve_right fun word => finite word.1,
    numberOfChars?_of_spells⟩

section Underscores

theorem Digits.noUnderscore {cs : List Char} (digit : Digits cs) : '_' ∉ cs :=
  fun inside => absurd (digit _ inside) (by decide)

theorem Sign.noUnderscore {sign : List Char} {negative : Bool} (signed : Sign sign negative) :
    '_' ∉ sign := by
  cases signed <;> decide

theorem SpellsNumber.noUnderscore {cs : List Char} {x : Double} (spelled : SpellsNumber cs x) :
    '_' ∉ cs := by
  cases spelled with
  | @intro sign whole point fraction tail _ _ signed digit pointed _ ends =>
    have atPoint : '_' ∉ point := by
      cases pointed with
      | none => exact List.not_mem_nil
      | some digit =>
        rw [List.mem_cons, not_or]
        exact ⟨by decide, digit.noUnderscore⟩
    have atEnd : '_' ∉ tail := by
      cases ends with
      | none => exact List.not_mem_nil
      | some marked signed digit _ =>
        rw [List.mem_cons, List.mem_append, not_or, not_or]
        exact ⟨by rcases marked with rfl | rfl <;> decide, signed.noUnderscore, digit.noUnderscore⟩
    simp only [List.mem_append, not_or]
    exact ⟨signed.noUnderscore, digit.noUnderscore, atPoint, atEnd⟩

theorem noUnderscore_of_numberOfChars? {cs : List Char} {x : Double}
    (read : numberOfChars? cs = some x) : '_' ∉ cs := by
  rcases numberOfChars?_cases read with spelled | ⟨_, named⟩
  next => exact spelled.noUnderscore
  next =>
    obtain ⟨sign, signed, same⟩ := exists_sign cs
    have letters : ∀ word ∈ "nan" :: numberWords, '_' ∉ word.toList := by decide
    have apart := letters _ named
    rw [asciiLower, String.toList_ofList, String.toList_ofList] at apart
    rw [same, List.mem_append, not_or]
    exact ⟨signed.noUnderscore, fun inside => apart (List.mem_map_of_mem inside)⟩

theorem mem_trimNumber {c : Char} {cs : List Char} (dark : isNumberBlank c = false)
    (inside : c ∈ cs) : c ∈ trimNumber cs := by
  have kept {cs : List Char} (inside : c ∈ cs) : c ∈ cs.dropWhile isNumberBlank := by
    rw [← List.takeWhile_append_dropWhile (p := isNumberBlank) (l := cs), List.mem_append] at inside
    refine inside.resolve_left fun taken => ?_
    rw [List.mem_takeWhile_imp taken] at dark
    cases dark
  exact List.mem_reverse.2 (kept (List.mem_reverse.2 (kept inside)))

theorem dropUnderscores?_eq_self {cs : List Char} (none : '_' ∉ cs) :
    dropUnderscores? cs = some cs := by
  have whole : Text.splitWhere (· = '_') cs = [cs] :=
    Text.splitWhere_of_none fun c inside => by
      rw [decide_eq_false_iff_not]
      rintro rfl
      exact none inside
  simp [dropUnderscores?, whole]

end Underscores

theorem numberOfText?_eq_some {text : String} {x : Double} (finite : x.toRat? ≠ none) :
    numberOfText? text = some x ↔
      ∃ bare, dropUnderscores? text.toList = some bare ∧ SpellsNumber (trimNumber bare) x := by
  -- A text that is read as it stands has no underscore, so nothing is dropped from it.
  have plain {y : Double} (read : numberOfChars? (trimNumber text.toList) = some y) :
      dropUnderscores? text.toList = some text.toList :=
    dropUnderscores?_eq_self fun inside =>
      noUnderscore_of_numberOfChars? read (mem_trimNumber (by decide +kernel) inside)
  rw [numberOfText?]
  cases asIs : numberOfChars? (trimNumber text.toList) with
  | some y =>
    rw [plain asIs]
    constructor
    next =>
      rintro ⟨⟩
      exact ⟨_, rfl, (numberOfChars?_eq_some finite).1 asIs⟩
    next =>
      rintro ⟨_, ⟨⟩, spelled⟩
      exact asIs.symm.trans (numberOfChars?_of_spells spelled)
  | none =>
    simp only [Option.bind_eq_some_iff, numberOfChars?_eq_some finite]

end DuplicateGuard.Wire.Read
