import ContentSearch.Text.Alphanumeric
import ContentSearch.Text.Casing
import ContentSearch.Text.WordClass

/-!
# Words

Word segmentation by the default rules of Unicode (UAX #29). A text is first cut into clusters, a
character with the marks attached to it. Neighbouring clusters then join into one segment as the
rules say. The words of a text are its segments with a letter or number.

Pictographs go beyond the rules. One that is attached by a zero-width joiner is nothing but a
pictograph, also where it is a letter elsewhere, and the punctuation that carries the joiner stays
with the word or number before it.
-/

namespace ContentSearch.Text

/-! ## Clusters -/

/-- A character of the given class, and the marks, joiners and format characters after it. -/
structure Cluster where
  cls : WordClass
  first : Char
  marks : List Char

namespace Cluster

/-- The characters of the cluster. -/
def chars (k : Cluster) : List Char :=
  k.first :: k.marks

/-- Line ends take no marks. -/
def takesMarks (k : Cluster) : Bool :=
  !(k.cls == .cr || k.cls == .lf || k.cls == .newline)

/-- Marks, joiners and format characters attach to what stands before them. -/
def isMark (c : Char) : Bool :=
  match WordClass.ofChar c with
  | .extend | .joiner | .format => true
  | _ => false

/-- Whether the cluster ends in a zero-width joiner. -/
def endsInJoiner (k : Cluster) : Bool :=
  match k.chars.getLast? with
  | some c => WordClass.ofChar c == .joiner
  | none => false

/-- Whether `b` is a pictograph that a joiner attaches to `a`. -/
def attaches (a b : Cluster) : Bool :=
  a.endsInJoiner && isPictograph b.first

/-- The cluster `b` behind `a`: an attached pictograph has no class of its own. -/
def behind (a b : Cluster) : Cluster :=
  if attaches a b then { b with cls := .other } else b

/-- Puts a character in front of a list of clusters. -/
def push (c : Char) : List Cluster → List Cluster
  | [] => [⟨WordClass.ofChar c, c, []⟩]
  | k :: rest =>
    let single : Cluster := ⟨WordClass.ofChar c, c, []⟩
    if isMark k.first && single.takesMarks then
      { single with marks := k.chars } :: rest
    else single :: k :: rest

/-- The clusters of a text. -/
def split (cs : List Char) : List Cluster :=
  cs.foldr push []

end Cluster

/-! ## Joining neighbours -/

namespace WordClass

/-- Letters of words, Hebrew or not. -/
def isLetter (k : WordClass) : Bool :=
  k == .letter || k == .hebrew

/-- Punctuation inside a word: `don't`, `a.b`, `a:b`. -/
def isMidWord (k : WordClass) : Bool :=
  k == .midLetter || k == .midBoth || k == .singleQuote

/-- Punctuation inside a number: `1,000.5`. -/
def isMidNumber (k : WordClass) : Bool :=
  k == .midNumber || k == .midBoth || k == .singleQuote

/-- What a connector such as `_` joins with. -/
def isConnected (k : WordClass) : Bool :=
  k.isLetter || k == .numeric || k == .katakana

end WordClass

/-- Whether no boundary lies between `a` and `b`, where `before?` is the class before `a`, `after?`
the cluster after `b`, and `pairs` tells that `a` is the first of a pair of regional indicators.
Punctuation needs the right class on both sides, or a pictograph attached to it. -/
def joins (before? : Option WordClass) (a b : Cluster) (after? : Option Cluster) (pairs : Bool) :
    Bool :=
  let x := a.cls
  let y := b.cls
  let leadsTo (goal : WordClass → Bool) : Bool :=
    after?.any fun c => Cluster.attaches b c || goal c.cls
  (x == .cr && y == .lf)
    || Cluster.attaches a b
    || (a.takesMarks && b.takesMarks &&
      ((x == .space && y == .space && a.marks.isEmpty)
        || (x.isLetter && y.isLetter)
        || (x.isLetter && y.isMidWord && leadsTo (·.isLetter))
        || (before?.any (·.isLetter) && x.isMidWord && y.isLetter)
        || (x == .hebrew && y == .singleQuote)
        || (x == .hebrew && y == .doubleQuote && leadsTo (· == .hebrew))
        || (before? == some .hebrew && x == .doubleQuote && y == .hebrew)
        || (x == .numeric && y == .numeric)
        || (x.isLetter && y == .numeric)
        || (x == .numeric && y.isLetter)
        || (before? == some .numeric && x.isMidNumber && y == .numeric)
        || (x == .numeric && y.isMidNumber && leadsTo (· == .numeric))
        || (x == .katakana && y == .katakana)
        || ((x.isConnected || x == .connector) && y == .connector)
        || (x == .connector && y.isConnected)
        || (x == .regional && y == .regional && pairs)))

/-! ## Segments -/

/-- The segments of the clusters that follow `a`, the open segment holding `open_` in reverse. -/
def segmentsFrom (before? : Option WordClass) (a : Cluster) (pairs : Bool) (open_ : List Char) :
    List Cluster → List (List Char)
  | [] => [open_.reverse]
  | b :: rest =>
    let pairs' := b.cls == .regional && !(a.cls == .regional && pairs)
    if joins before? a b rest.head? pairs then
      segmentsFrom (some a.cls) (a.behind b) pairs' (b.chars.reverse ++ open_) rest
    else
      open_.reverse :: segmentsFrom (some a.cls) b pairs' b.chars.reverse rest

/-- The segments of a text; put together they are the text. -/
def segments (cs : List Char) : List (List Char) :=
  match Cluster.split cs with
  | [] => []
  | a :: rest => segmentsFrom none a (a.cls == .regional) a.chars.reverse rest

/-- The segments with a letter or number. -/
def words (cs : List Char) : List (List Char) :=
  (segments cs).filter (·.any isAlphanumeric)

/-- The words of a text in lower case: the tokens of full-text search. -/
def tokens (s : String) : List String :=
  (words s.toList).map fun w => String.ofList (lowerFrom [] w)

end ContentSearch.Text
