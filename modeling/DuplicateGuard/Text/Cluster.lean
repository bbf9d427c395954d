import DuplicateGuard.Text.ClusterTable

/-!
Cutting a text into the characters that a reader perceives: a base letter with its marks, a Hangul
syllable, a flag, a joined pictograph or a pair of carriage return and line feed is one unit.
Main statement: the units put together again are the text.
-/

set_option autoImplicit false

namespace DuplicateGuard.Text

inductive ClusterClass where
  | carriageReturn
  | lineFeed
  | control
  | extend
  | joiner
  | regional
  | prepend
  | spacingMark
  | leading
  | vowel
  | trailing
  | leadingVowel
  | syllable
  | pictograph
  | other
deriving DecidableEq

def clusterClass (c : Char) : ClusterClass :=
  let code := c.toNat
  if code = 0x0D then .carriageReturn
  else if code = 0x0A then .lineFeed
  else if 0x20 ≤ code && code < 0x7F then .other
  else if controlRanges.has code then .control
  else if code = 0x200D then .joiner
  else if extendRanges.has code then .extend
  else if 0x1F1E6 ≤ code && code ≤ 0x1F1FF then .regional
  else if prependRanges.has code then .prepend
  else if spacingMarkRanges.has code then .spacingMark
  else if leadingJamoRanges.has code then .leading
  else if vowelJamoRanges.has code then .vowel
  else if trailingJamoRanges.has code then .trailing
  else if 0xAC00 ≤ code && code ≤ 0xD7A3 then
    if (code - 0xAC00) % 28 = 0 then .leadingVowel else .syllable
  else if pictographRanges.has code then .pictograph
  else .other

inductive Conjunct where
  | none
  | consonant
  | linked

structure ClusterState where
  last : Option ClusterClass
  /-- An odd number of flag letters stands right before the cut. -/
  flagOpen : Bool
  /-- A pictograph stands before the cut, with nothing but marks after it. -/
  pictographOpen : Bool
  /-- The last character is a joiner after an open pictograph. -/
  joined : Bool
  conjunct : Conjunct

def ClusterState.start : ClusterState :=
  { last := none, flagOpen := false, pictographOpen := false, joined := false, conjunct := .none }

def Conjunct.next (conjunct : Conjunct) (c : Char) (kind : ClusterClass) : Conjunct :=
  if conjunctConsonantRanges.has c.toNat then .consonant
  else if conjunctLinkers.contains c.toNat then
    match conjunct with
    | .none => .none
    | .consonant | .linked => .linked
  else if kind = .joiner ∨ (kind = .extend ∧ c.toNat ≠ 0x200C) then conjunct
  else .none

def ClusterState.next (state : ClusterState) (c : Char) : ClusterState :=
  let kind := clusterClass c
  { last := some kind
    flagOpen := decide (kind = .regional) && !state.flagOpen
    pictographOpen := decide (kind = .pictograph) ||
      (decide (kind = .extend) && state.pictographOpen)
    joined := decide (kind = .joiner) && state.pictographOpen
    conjunct := state.conjunct.next c kind }

def ClusterClass.sticks : ClusterClass → ClusterClass → Bool
  | .carriageReturn, .lineFeed => true
  | .carriageReturn, _ | .lineFeed, _ | .control, _ => false
  | _, .carriageReturn | _, .lineFeed | _, .control => false
  | .leading, .leading | .leading, .vowel | .leading, .leadingVowel | .leading, .syllable => true
  | .leadingVowel, .vowel | .vowel, .vowel | .leadingVowel, .trailing | .vowel, .trailing => true
  | .syllable, .trailing | .trailing, .trailing => true
  | _, .extend | _, .joiner | _, .spacingMark => true
  | .prepend, _ => true
  | _, _ => false

def ClusterState.cutsBefore (state : ClusterState) (c : Char) : Bool :=
  match state.last with
  | none => true
  | some last =>
    let kind := clusterClass c
    let conjunct := match state.conjunct with
      | .linked => conjunctConsonantRanges.has c.toNat
      | _ => false
    !(last.sticks kind || conjunct || (state.joined && decide (kind = .pictograph)) ||
      (state.flagOpen && decide (kind = .regional)))

def ClusterState.marks (state : ClusterState) : List Char → List (Char × Bool)
  | [] => []
  | c :: rest => (c, state.cutsBefore c) :: (state.next c).marks rest

def gather : List (Char × Bool) → List (List Char)
  | [] => []
  | (c, _) :: rest =>
    match rest, gather rest with
    | (_, false) :: _, unit :: units => (c :: unit) :: units
    | _, units => [c] :: units

def clusters (cs : List Char) : List (List Char) :=
  gather (ClusterState.start.marks cs)

theorem flatten_gather (marked : List (Char × Bool)) :
    (gather marked).flatten = marked.map Prod.fst := by
  induction marked with
  | nil => rfl
  | cons head rest ih =>
    obtain ⟨c, opens⟩ := head
    simp only [gather, List.map_cons]
    split
    next unit units same => simpa [same] using ih
    next units _ => simpa using ih

theorem map_fst_marks (state : ClusterState) (cs : List Char) :
    (state.marks cs).map Prod.fst = cs := by
  induction cs generalizing state with
  | nil => rfl
  | cons c rest ih => simp [ClusterState.marks, ih]

theorem flatten_clusters (cs : List Char) : (clusters cs).flatten = cs := by
  rw [clusters, flatten_gather, map_fst_marks]

theorem length_gather_le (marked : List (Char × Bool)) :
    (gather marked).length ≤ marked.length := by
  induction marked with
  | nil => simp [gather]
  | cons head rest ih =>
    obtain ⟨c, opens⟩ := head
    simp only [gather]
    split
    next unit units same =>
      simp only [same, List.length_cons] at ih ⊢
      omega
    next => simpa using ih

theorem length_clusters_le (cs : List Char) : (clusters cs).length ≤ cs.length := by
  have same := congrArg List.length (map_fst_marks ClusterState.start cs)
  rw [List.length_map] at same
  exact same ▸ length_gather_le _

end DuplicateGuard.Text
