namespace RevisionScript.Similarity

def commonStart : List Char → List Char → Nat
  | a :: as, b :: bs => if a = b then commonStart as bs + 1 else 0
  | _, _ => 0

structure Block where
  left : Nat
  right : Nat
  length : Nat

def longestHere (a : List Char) (left right : Nat) : List Char → Block
  | [] => ⟨left, right, 0⟩
  | b :: bs =>
    let rest := longestHere a left (right + 1) bs
    let here := commonStart a (b :: bs)
    if rest.length ≤ here then ⟨left, right, here⟩ else rest

/-- A longest common run; of several the one that begins first on the left, then on the right. -/
def longest (left : Nat) : List Char → List Char → Block
  | [], _ => ⟨left, 0, 0⟩
  | a :: as, bs =>
    let rest := longest (left + 1) as bs
    let here := longestHere (a :: as) left 0 bs
    if rest.length ≤ here.length then here else rest

/-- The number of characters in a longest common run and, again, in what is left and right of
it. -/
def matching (as bs : List Char) : Nat :=
  match longest 0 as bs with
  | ⟨left, right, length⟩ =>
    if _ : 0 < length ∧ left + length ≤ as.length then
      matching (as.take left) (bs.take right) + length +
        matching (as.drop (left + length)) (bs.drop (right + length))
    else 0
termination_by as.length
decreasing_by
  · simp only [List.length_take]; omega
  · simp only [List.length_drop]; omega

/-- Texts are similar when at least three fifths of their characters match. -/
def isSimilar (as bs : List Char) : Bool :=
  3 * (as.length + bs.length) ≤ 10 * matching as bs

/-- Whether the first text is nearer to the word than the second; of texts equally near, the one
that comes later in the alphabet. -/
def nearer (word a b : String) : Bool :=
  let near (s : String) := matching s.toList word.toList
  let size (s : String) := s.length + word.length
  let l := near a * size b
  let r := near b * size a
  r < l || (l == r && decide (b < a))

def closest (word : String) (texts : List String) : List String :=
  ((texts.filter fun s ↦ isSimilar s.toList word.toList).mergeSort fun a b ↦
    !nearer word b a).take 3

end RevisionScript.Similarity
