/-!
# Similar words

`similarity` measures how alike two words are, from 0 to 1: the mean of the shares of matching
characters in both words and of the matching characters that keep their order. Characters match if
they are equal and about as far from the start of their words. `similarTo` offers the known words
that come close enough to a mistyped one.
-/

namespace ClusterBoard.Text

/-- The first open place of `c` in a window of a word: where it is, and the word with that place
taken. Places that are taken hold `none`. -/
def takeMatch? (c : Char) (first last : Nat) (word : List (Option Char)) :
    Option (Nat × List (Option Char)) :=
  ((word.zipIdx).find? fun (d, j) => first ≤ j && j < last && d == some c).map fun (_, j) =>
    (j, word.set j none)

/-- The characters of `a`, from place `i` on, that match one of `b`, and the places that they
match. -/
def matching (range : Nat) : List Char → Nat → List (Option Char) → List (Char × Nat)
  | [], _, _ => []
  | c :: rest, i, b =>
    match takeMatch? c (i - range) (i + range + 1) b with
    | some (j, b) => (c, j) :: matching range rest (i + 1) b
    | none => matching range rest (i + 1) b

/-- How alike two words are. -/
def similarity (a b : List Char) : Float :=
  if a.isEmpty && b.isEmpty then 1.0
  else
    let range := max a.length b.length / 2 - 1
    let found := matching range a 0 (b.map some)
    if found.isEmpty then 0.0
    else
      let places := (found.map Prod.snd).mergeSort (· ≤ ·)
      let inOrder := places.filterMap (b[·]?)
      let displaced := (((found.map Prod.fst).zip inOrder).filter fun (c, d) => c != d).length
      let count := found.length
      let share (n total : Nat) : Float := n.toFloat / total.toFloat
      (share count a.length + share count b.length + share (count - displaced / 2) count) / 3.0

/-- The similarity above which a word is offered. -/
def offeredAbove : Float := 0.7

/-- Puts a word with its similarity behind all that are no more alike. -/
def insertByLikeness (word : Float × String) : List (Float × String) → List (Float × String)
  | [] => [word]
  | next :: rest =>
    if next.1 > word.1 then word :: next :: rest else next :: insertByLikeness word rest

/-- The known words that are similar to a word, the most similar one last. -/
def similarTo (word : String) (known : List String) : List String :=
  let close := (known.map fun k => (similarity word.toList k.toList, k)).filter
    fun (likeness, _) => likeness > offeredAbove
  (close.foldl (fun sorted w => insertByLikeness w sorted) []).map Prod.snd

end ClusterBoard.Text
