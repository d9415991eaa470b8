import TaskTitles.Text.Basic

/-!
# How alike two texts are

The longest piece that two texts share is taken out of both, and the same is done with what lies
before it and with what lies behind it.  The more characters are shared in this way, the more
alike the texts are.  Names that are like a misspelled one are what can be suggested in its place.
-/

namespace TaskTitles.Text

def sharedLead : Text → Text → Nat
  | a :: as, b :: bs => if a = b then sharedLead as bs + 1 else 0
  | _, _ => 0

/-- A piece that two texts share: where it starts in each of them, and its length. -/
structure SharedPiece where
  first : Nat
  second : Nat
  length : Nat
  deriving Repr, DecidableEq

/-- The longest piece that two texts share; of several, the leftmost one in the first text, and then
    in the second. -/
def longestShared (a b : Text) : SharedPiece :=
  let starts := (List.range a.length).flatMap fun i => (List.range b.length).map fun j => (i, j)
  starts.foldl (fun longest (i, j) =>
    let length := sharedLead (a.drop i) (b.drop j)
    if longest.length < length then ⟨i, j, length⟩ else longest) ⟨0, 0, 0⟩

/-- The number of characters in the pieces that two texts share.  The fuel bounds the number of
    pieces on the way. -/
def sharedCount : (fuel : Nat) → Text → Text → Nat
  | 0, _, _ => 0
  | fuel + 1, a, b =>
    let piece := longestShared a b
    if piece.length = 0 then 0
    else
      sharedCount fuel (a.take piece.first) (b.take piece.second) + piece.length
        + sharedCount fuel (a.drop (piece.first + piece.length))
            (b.drop (piece.second + piece.length))

/-- How alike two texts are: the shared characters, counted in both, out of all. -/
structure Likeness where
  shared : Nat
  all : Nat
  deriving Repr, DecidableEq

def likeness (a b : Text) : Likeness where
  shared := 2 * sharedCount a.length a b
  all := a.length + b.length

/-- Whether three fifths of the characters, or more, are shared. -/
def Likeness.isClose (l : Likeness) : Bool := 3 * l.all ≤ 5 * l.shared

def Likeness.exceeds (l k : Likeness) : Bool := k.shared * l.all < l.shared * k.all

def isAtMost : Text → Text → Bool
  | [], _ => true
  | _ :: _, [] => false
  | a :: as, b :: bs => a.toNat < b.toNat || (a == b && isAtMost as bs)

def suggestionLimit : Nat := 3

/-- The names that are most like the word, in their order as texts.  Of equally good names the later
    ones are taken. -/
def mostLike (word : Text) (names : List Text) : List Text :=
  let rated := (names.map fun name => (likeness name word, name)).filter (·.1.isClose)
  let best := rated.mergeSort fun a b =>
    a.1.exceeds b.1 || (!b.1.exceeds a.1 && isAtMost b.2 a.2)
  ((best.take suggestionLimit).map (·.2)).mergeSort isAtMost

end TaskTitles.Text
