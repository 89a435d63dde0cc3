/-!
# Similar words

How much two words have in common: the longest run of characters that both contain, and the same
again on either side of it. Words that share enough are suggested for one that is not known.
-/

namespace SessionScript.Text

/-- The number of characters with which two words start alike. -/
def commonLead : List Char → List Char → Nat
  | a :: as, b :: bs => if a == b then commonLead as bs + 1 else 0
  | _, _ => 0

/-- A run of characters that two words share: where it starts in each of them, and its length. -/
structure SharedRun where
  first : Nat
  second : Nat
  length : Nat
  deriving DecidableEq, Repr

/-- The longest run that two words share; of several the one that starts first in the first word,
    and then in the second. -/
def longestShared (as bs : List Char) : SharedRun :=
  let starts := (List.range as.length).flatMap fun i => (List.range bs.length).map fun j => (i, j)
  starts.foldl (fun best (i, j) =>
    let n := commonLead (as.drop i) (bs.drop j)
    if best.length < n then ⟨i, j, n⟩ else best) ⟨0, 0, 0⟩

/-- The number of characters in the runs that two words share, with a bound on how often a run is
    looked for inside another rest. -/
def sharedWithin : Nat → List Char → List Char → Nat
  | 0, _, _ => 0
  | fuel + 1, as, bs =>
    let run := longestShared as bs
    if run.length = 0 then 0
    else
      sharedWithin fuel (as.take run.first) (bs.take run.second) + run.length +
        sharedWithin fuel (as.drop (run.first + run.length)) (bs.drop (run.second + run.length))

/-- The number of characters in the runs that two words share. Every run is at least one character
    long, so that their number is bounded by the length of the first word. -/
def shared (a b : String) : Nat := sharedWithin (a.length + 1) a.toList b.toList

/-- Whether words are similar: at least three characters in five are in shared runs. -/
def isSimilar (a b : String) : Bool := 3 * (a.length + b.length) ≤ 10 * shared a b

/-- The words that are most similar to a word, at most three, in the order of their letters. -/
def similarTo (word : String) (known : List String) : List String :=
  let closer := fun (a b : String) =>
    let (x, y) := (shared a word * (b.length + word.length), shared b word * (a.length + word.length))
    x > y || (x == y && b ≤ a)
  let best := ((known.filter fun k => isSimilar k word).mergeSort closer).take 3
  best.mergeSort fun a b => a ≤ b

end SessionScript.Text
