namespace CacheSteward.Text

/-! How similar two words are.

The longest block that two words share is taken, of equally long ones the earliest, and then the
blocks that their parts before it share and those that their parts after it share.  Words are close
when the shared characters are at least three of ten.
-/

def sharedFront : List Char → List Char → Nat
  | c :: cs, d :: ds => if c == d then sharedFront cs ds + 1 else 0
  | _, _ => 0

/-- A block that stands at `left` in one word and at `right` in another. -/
structure SharedBlock where
  left : Nat
  right : Nat
  size : Nat
deriving Repr, DecidableEq

/-- The longest shared block, the earliest one in the first word and then in the second. -/
def longestShared (a b : List Char) : SharedBlock :=
  let blocks := (List.range a.length).flatMap fun left =>
    (List.range b.length).map fun right =>
      (⟨left, right, sharedFront (a.drop left) (b.drop right)⟩ : SharedBlock)
  blocks.foldl (fun best block => if best.size < block.size then block else best) ⟨0, 0, 0⟩

def sharedCount : Nat → List Char → List Char → Nat
  | 0, _, _ => 0
  | fuel + 1, a, b =>
      let block := longestShared a b
      if block.size == 0 then 0
      else
        sharedCount fuel (a.take block.left) (b.take block.right) + block.size +
          sharedCount fuel (a.drop (block.left + block.size)) (b.drop (block.right + block.size))

def similarity (a b : String) : Nat × Nat :=
  (sharedCount (a.length + 1) a.toList b.toList, a.length + b.length)

/-- The words that are close to a given one, the closest first and at most three. -/
def closeTo (word : String) (words : List String) : List String :=
  let rated := words.map fun other => (similarity other word, other)
  let close := rated.filter fun ((shared, all), _) => 3 * all ≤ 10 * shared
  let before (a b : (Nat × Nat) × String) : Bool :=
    let left := a.1.1 * b.1.2
    let right := b.1.1 * a.1.2
    right < left || (left == right && decide (b.2 ≤ a.2))
  ((close.mergeSort before).take 3).map Prod.snd

end CacheSteward.Text
