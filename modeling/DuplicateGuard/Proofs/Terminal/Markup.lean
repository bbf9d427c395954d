import DuplicateGuard.Number.Decimal
import DuplicateGuard.Terminal.Markup

set_option autoImplicit false

namespace DuplicateGuard.Markup

/-- Whether a text, taken as markup, closes no style that is not open. -/
def closed (text : String) : Bool :=
  (plain text.toList).isOk

def Bare (cs : List Char) : Prop :=
  ∀ c ∈ cs, c ≠ '[' ∧ c ≠ '\\'

instance (cs : List Char) : Decidable (Bare cs) :=
  List.decidableBAll _ cs

theorem Bare.append {cs ds : List Char} (first : Bare cs) (rest : Bare ds) : Bare (cs ++ ds) := by
  intro c inside
  rcases List.mem_append.1 inside with left | right
  · exact first c left
  · exact rest c right

theorem bare_of_isDigit {cs : List Char} (digits : ∀ c ∈ cs, c.isDigit = true) : Bare cs := by
  intro c inside
  have digit := digits c inside
  constructor <;> rintro rfl <;> cases digit

theorem bare_toString (n : Nat) : Bare (toString n).toList := by
  apply bare_of_isDigit
  intro c inside
  rw [Nat.toString_eq_repr, Nat.toList_repr] at inside
  exact Nat.isDigit_of_mem_toDigits (by decide) (by decide) inside

theorem bare_toString_int (n : Int) : Bare (toString n).toList := by
  cases n with
  | ofNat n => exact bare_toString n
  | negSucc n =>
    have text : toString (Int.negSucc n) = "-" ++ toString (n + 1) := rfl
    have sign : Bare ("-").toList := by decide
    rw [text, String.toList_append]
    exact sign.append (bare_toString (n + 1))

theorem bare_zeros (count : Nat) : Bare (zeros count).toList := by
  apply bare_of_isDigit
  intro c inside
  rw [zeros, String.toList_ofList] at inside
  rw [List.eq_of_mem_replicate inside]
  rfl

theorem bare_padNat (width n : Nat) : Bare (padNat width n).toList := by
  rw [padNat, String.toList_append]
  exact (bare_zeros _).append (bare_toString n)

theorem piecesFrom_bare {cs : List Char} (bare : Bare cs) (position : Nat) (rest : List Char) :
    piecesFrom position 0 0 (cs ++ rest) =
      cs.map .char ++ piecesFrom (position + cs.length) 0 0 rest := by
  induction cs generalizing position with
  | nil => rfl
  | cons c later ih =>
    obtain ⟨bracket, slash⟩ := bare c (.head later)
    have next := ih (fun d inside => bare d (.tail c inside)) (position + 1)
    rw [List.cons_append, piecesFrom, next]
    simp [bracket, slash, Nat.add_assoc, Nat.add_comm 1]

theorem piecesFrom_skipped (cs rest : List Char) (position : Nat) :
    piecesFrom position cs.length 0 (cs ++ rest) =
      piecesFrom (position + cs.length) 0 0 rest := by
  induction cs generalizing position with
  | nil => rfl
  | cons c later ih =>
    rw [List.cons_append, List.length_cons, piecesFrom, if_pos (Nat.succ_pos _), Nat.add_sub_cancel,
      ih, Nat.add_assoc, Nat.add_comm 1]

theorem piecesFrom_tag {body rest : List Char} (tag : tagBody? (body ++ ']' :: rest) = some body)
    (position : Nat) :
    piecesFrom position 0 0 ('[' :: (body ++ ']' :: rest)) =
      .tag body position :: piecesFrom (position + 1 + (body.length + 1)) 0 0 rest := by
  have skipped := piecesFrom_skipped (body ++ [']']) rest (position + 1)
  rw [List.append_assoc, List.length_append] at skipped
  rw [piecesFrom]
  simp only [tag]
  simpa using skipped

theorem isOk_textOf_chars (opened : List String) (cs : List Char) (pieces : List Piece) :
    (textOf opened (cs.map .char ++ pieces)).isOk = (textOf opened pieces).isOk := by
  induction cs with
  | nil => rfl
  | cons c rest ih =>
    rw [List.map_cons, List.cons_append, textOf, ← ih]
    cases textOf opened (rest.map .char ++ pieces) <;> rfl

theorem closed_of_bare {text : String} (bare : Bare text.toList) : closed text = true := by
  have all := piecesFrom_bare bare 0 []
  rw [List.append_nil] at all
  rw [closed, plain, pieces, all]
  exact isOk_textOf_chars [] text.toList []

def bold : List Char := ['b', 'o', 'l', 'd']

theorem apply_bold (position : Nat) : apply [] bold position = .ok ["bold"] := by
  have style : styleName (tagName bold) = "bold" := by decide +kernel
  rw [← style]
  rfl

theorem apply_slash_bold (position : Nat) : apply ["bold"] ('/' :: bold) position = .ok [] := by
  have name : Text.strip ((tagName ('/' :: bold)).drop 1) = bold := by decide +kernel
  have style : styleName bold = "bold" := by decide +kernel
  simp only [apply, name, style, close?, if_true]
  rfl

theorem closed_bold {head tail : String} (first : Bare head.toList) (rest : Bare tail.toList) :
    closed ("[bold]" ++ head ++ "[/bold]" ++ tail) = true := by
  have text : ("[bold]" ++ head ++ "[/bold]" ++ tail).toList =
      '[' :: (bold ++ ']' :: (head.toList ++ '[' :: ('/' :: bold ++ ']' :: tail.toList))) := by
    simp [bold]
  have last (position : Nat) : piecesFrom position 0 0 tail.toList = tail.toList.map .char := by
    have all := piecesFrom_bare rest position []
    rw [List.append_nil] at all
    rw [all, piecesFrom]
    exact List.append_nil _
  rw [closed, plain, text, pieces, piecesFrom_tag rfl, piecesFrom_bare first, piecesFrom_tag rfl, last]
  simp only [textOf, apply_bold, isOk_textOf_chars, apply_slash_bold]
  rw [← List.append_nil (tail.toList.map Piece.char), isOk_textOf_chars]
  rfl

section Opening

def Piece.Opens : Piece → Prop
  | .char _ => True
  | .tag body _ => body.head? ≠ some '/'

theorem head?_of_tagBody? {cs body : List Char} (tag : tagBody? cs = some body) :
    body.head? = cs.head? := by
  cases cs with
  | nil => cases tag
  | cons c rest =>
    simp only [tagBody?, Option.ite_none_right_eq_some] at tag
    obtain ⟨_, same⟩ := tag
    cases same
    rfl

theorem opens_chars (cs : List Char) : ∀ piece ∈ cs.map Piece.char, piece.Opens := by
  intro piece inside
  obtain ⟨c, _, rfl⟩ := List.mem_map.1 inside
  trivial

theorem opens_replicate (count : Nat) (c : Char) :
    ∀ piece ∈ List.replicate count (Piece.char c), piece.Opens := by
  intro piece inside
  rw [List.eq_of_mem_replicate inside]
  trivial

theorem opens_piecesFrom {cs : List Char} (none : ¬['[', '/'] <:+: cs)
    (position skip slashes : Nat) : ∀ piece ∈ piecesFrom position skip slashes cs, piece.Opens := by
  induction cs generalizing position skip slashes with
  | nil => exact opens_replicate _ _
  | cons c rest ih =>
    have later := ih fun inside => none (inside.trans (List.suffix_cons c rest).isInfix)
    rw [piecesFrom]
    split
    next => exact later _ _ _
    next =>
      split
      next => exact later _ _ _
      next =>
        split
        next bracket =>
          subst bracket
          split
          next body tag =>
            -- A tag begins with what follows the bracket, and that is no slash.
            have opening : body.head? ≠ some '/' := by
              rw [head?_of_tagBody? tag]
              intro slash
              obtain ⟨more, rfl⟩ := List.head?_eq_some_iff.1 slash
              exact none ⟨[], more, rfl⟩
            refine List.forall_mem_append.2 ⟨opens_replicate _ _, ?_⟩
            split
            next => exact List.forall_mem_cons.2 ⟨opening, later _ _ _⟩
            next => exact List.forall_mem_append.2 ⟨opens_chars _, later _ _ _⟩
          next =>
            exact List.forall_mem_append.2
              ⟨opens_replicate _ _, List.forall_mem_cons.2 ⟨trivial, later _ _ _⟩⟩
        next =>
          exact List.forall_mem_append.2
            ⟨opens_replicate _ _, List.forall_mem_cons.2 ⟨trivial, later _ _ _⟩⟩

theorem isOk_textOf_of_opens {pieces : List Piece} (opens : ∀ piece ∈ pieces, piece.Opens)
    (opened : List String) : (textOf opened pieces).isOk = true := by
  induction pieces generalizing opened with
  | nil => rfl
  | cons piece rest ih =>
    have later := ih fun piece inside => opens piece (.tail _ inside)
    cases piece with
    | char c =>
      rw [← later opened, textOf]
      cases textOf opened rest <;> rfl
    | tag body position =>
      have name : apply opened body position = .ok (styleName (tagName body) :: opened) := by
        unfold apply
        split
        next => exact absurd rfl (opens _ (.head rest))
        next => rfl
      rw [textOf, name]
      exact later _

theorem closed_append {head tail : String} (bare : Bare head.toList)
    (none : ¬['[', '/'] <:+: tail.toList) : closed (head ++ tail) = true := by
  rw [closed, plain, pieces, String.toList_append, piecesFrom_bare bare, isOk_textOf_chars]
  exact isOk_textOf_of_opens (opens_piecesFrom none _ _ _) []

end Opening

end DuplicateGuard.Markup
