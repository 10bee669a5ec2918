import TextAdventure.Text.LetterTable
import TextAdventure.Text.LineBreak
import TextAdventure.Text.Search
import TextAdventure.Text.Width

/-!
# Wrapped text

Text is filled into lines of a width so that the lines are as even as possible: of all ways to
break it, one of least total cost is taken (`plan`). A line that is too long costs most, any line
but the last the square of what is left of it, and a last line little more than its being there.
What stays on one line is the text between two places where lines may be broken (`words`), or a
part of it that ends in a hyphen (`hyphenPieces`) or just fits (`chunks`).
-/

namespace TextAdventure.Wrap

open Text

/-- A piece of text that stays on one line, its width, and the number of spaces after it. -/
structure Fragment where
  text : List Char
  width : Nat
  spaces : Nat

/-- The least number of columns that text is wrapped to. -/
def minWidth : Nat := 20

/-- Puts a character in front of the first of some pieces. -/
def prepend (c : Char) : List (List Char) → List (List Char)
  | piece :: pieces => (c :: piece) :: pieces
  | [] => [[c]]

/-- The shown characters, each with the control sequences in front of it, and those at the end. -/
def cells : List (Char × Bool) → List (List Char × Char) × List Char
  | [] => ([], [])
  | (c, shown) :: rest =>
    let (later, trailing) := cells rest
    if shown then (([], c) :: later, trailing)
    else
      match later with
      | (hidden, d) :: later => ((c :: hidden, d) :: later, trailing)
      | [] => ([], c :: trailing)

/-- The hyphens that words are only cut after where `hyphenPieces` says so. -/
def isHyphen (c : Char) : Bool :=
  c = '-' || c.toNat = 0xAD

/-- Unmarks the last of the places that are marked. -/
def unmarkLast : List Bool → List Bool
  | [] => []
  | mark :: marks => (mark && marks.contains true) :: unmarkLast marks

/-- For each shown character, whether a word may start with it. The last word goes on to the end of
the line, and takes in the one before it if it ends in a hyphen. -/
def wordStarts (shown : List Char) : List Bool :=
  let starts := (lineBreaks shown).zipWith (· && !isHyphen ·) ('-' :: shown)
  if shown.getLast?.any isHyphen then unmarkLast starts else starts

/-- Joins characters to words, at the places where words start. -/
def gather (trailing : List Char) : List ((List Char × Char) × Bool) → List (List Char)
  | [] => [trailing]
  | ((hidden, c), starts) :: rest =>
    let later := hidden.foldr prepend (prepend c (gather trailing rest))
    if starts then [] :: later else later

/-- The words of a line with the spaces after them. -/
def words (line : List Char) : List (List Char) :=
  let (shown, trailing) := cells (markShown .outside line)
  gather trailing (shown.zip (wordStarts (shown.map Prod.snd)))

/-- Cuts a word after each hyphen that stands between letters or digits. `joined` says whether a
letter or digit precedes. -/
def hyphenPieces (joined : Bool) : List Char → List (List Char)
  | [] => [[]]
  | c :: cs =>
    let later := hyphenPieces (isAlphanumeric c) cs
    if c = '-' && joined && cs.head?.any isAlphanumeric then [c] :: later else prepend c later

/-- Cuts a text into pieces that are no wider than a limit. The first one already has some columns
filled. -/
def chunks (limit : Nat) : Nat → List (Char × Bool) → List (List Char)
  | _, [] => [[]]
  | filled, (c, shown) :: rest =>
    let columns := if shown then charWidth c else 0
    if shown && 0 < filled && limit < filled + columns then
      [] :: prepend c (chunks limit columns rest)
    else prepend c (chunks limit (filled + columns) rest)

/-- The pieces of a word, the last of which keeps the spaces after it. -/
def withSpaces (spaces : Nat) : List (List Char) → List Fragment
  | [] => []
  | [piece] => [⟨piece, width piece, spaces⟩]
  | piece :: pieces => ⟨piece, width piece, 0⟩ :: withSpaces spaces pieces

/-- A text without the spaces at its end. -/
def dropTrailingSpaces (cs : List Char) : List Char :=
  (cs.reverse.dropWhile (· == ' ')).reverse

/-- The fragments of a line, none wider than the limit. -/
def fragments (limit : Nat) (line : List Char) : List Fragment :=
  (words line).flatMap fun word =>
    let text := dropTrailingSpaces word
    (withSpaces (word.length - text.length) (hyphenPieces false text)).flatMap fun piece =>
      if limit < piece.width then
        withSpaces piece.spaces (chunks limit 0 (markShown .outside piece.text))
      else [piece]

/-- What a line costs: `used` columns are filled, by a single fragment or more, and it is the last
line or not. -/
def lineCost (width used : Nat) (single last : Bool) : Nat :=
  1000 +
    if width < used then 2500 * (used - width)
    else if !last then (width - used) * (width - used)
    else if single && 4 * used < width then 25
    else 0

/-- A way to break fragments into lines: its cost, and how many fragments each line holds, from the
last line to the first. -/
structure Plan where
  cost : Nat
  sizes : List Nat

/-- The plan with one more line, of so many fragments in `used` columns. -/
def Plan.line (p : Plan) (width : Nat) (last : Bool) (size used : Nat) : Plan where
  cost := p.cost + lineCost width used (size = 1) last
  sizes := size :: p.sizes

/-- The better of two plans, the second one if they cost the same. -/
def Plan.better (p q : Plan) : Plan :=
  if q.cost ≤ p.cost then q else p

/-- The best plan whose last line ends where `best` does. That line holds `size` fragments in `used`
columns, and may take in more of those before it; each of those comes with the best plan for what
precedes it. -/
def widen (width : Nat) (last : Bool) (best : Plan) (size used : Nat) :
    List (Fragment × Plan) → Plan
  | [] => best
  | (f, before) :: earlier =>
    let used := f.width + f.spaces + used
    widen width last (best.better (before.line width last (size + 1) used)) (size + 1) used earlier

/-- The best plan for some fragments after earlier ones, for which `before` is the best. -/
def plan (width : Nat) (before : Plan) (earlier : List (Fragment × Plan)) : List Fragment → Plan
  | [] => before
  | f :: later =>
    let last := later.isEmpty
    let best := widen width last (before.line width last 1 f.width) 1 f.width earlier
    plan width best ((f, before) :: earlier) later

/-- The text of a line, without the spaces after its last fragment. -/
def lineText : List Fragment → List Char
  | [] => []
  | [last] => last.text
  | f :: fs => f.text ++ List.replicate f.spaces ' ' ++ lineText fs

/-- The lines of so many fragments each. -/
def assemble : List Nat → List Fragment → List (List Char)
  | [], _ => []
  | size :: sizes, fs => lineText (fs.take size) :: assemble sizes (fs.drop size)

def byteLength (cs : List Char) : Nat :=
  cs.foldl (fun n c => n + c.utf8Size) 0

/-- The lines that one line of a text is wrapped to. -/
def wrapLine (width : Nat) (line : List Char) : List (List Char) :=
  if byteLength line < width then [dropTrailingSpaces line]
  else
    let fs := fragments width line
    assemble (plan width ⟨0, []⟩ [] fs).sizes.reverse fs

/-- Fills a text into lines of a width. -/
def fill (text : String) (width : Nat) : String :=
  let width := max width minWidth
  let lines := (splitOn '\n' text.toList).flatMap (wrapLine width)
  String.intercalate "\n" (lines.map String.ofList)

end TextAdventure.Wrap
