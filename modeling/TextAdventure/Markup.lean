import TextAdventure.Text.Blank
import TextAdventure.Text.Lowercase

/-!
# Speech markup

Messages may hold elements of speech markup, such as sounds. However a message was put together,
it is sent out with exactly one pair of speech tags, around everything (`finalize`). On a terminal
it is shown without any markup (`toPlain`).
-/

namespace TextAdventure.Markup

open Text

/-- What stands before and after the first occurrence of a character. -/
def cut? (mark : Char) : List Char → Option (List Char × List Char)
  | [] => none
  | c :: cs => if c = mark then some ([], cs) else (cut? mark cs).map fun p => (c :: p.1, p.2)

theorem eq_append_of_cut? {mark : Char} :
    ∀ {cs : List Char} {p : List Char × List Char}, cut? mark cs = some p →
      cs = p.1 ++ mark :: p.2
  | [], _, h => by simp [cut?] at h
  | c :: cs, p, h => by
    rw [cut?] at h
    split at h
    · next eq =>
      cases h
      simp [eq]
    · obtain ⟨q, hq, rfl⟩ := Option.map_eq_some_iff.1 h
      simp [← eq_append_of_cut? hq]

/-- The name of an element, given what stands between its angle brackets. -/
def elementName (element : List Char) : List Char :=
  let slash := (· == '/')
  let name := ((trim element).dropWhile slash).reverse.dropWhile slash |>.reverse
  (words name).headD []

/-- Whether what stands between angle brackets is an opening or closing tag of a name. -/
def isTag (tag element : List Char) : Bool :=
  sameIgnoringAsciiCase (elementName element) tag

/-- Removes all opening and closing tags of a name, in one pass. -/
def stripTag (tag : List Char) : List Char → List Char
  | [] => []
  | c :: cs =>
    if c = '<' then
      match h : cut? '>' cs with
      | some (element, rest) =>
        have : rest.length ≤ cs.length := by
          simp only [eq_append_of_cut? h, List.length_cons, List.length_append]
          omega
        if isTag tag element then stripTag tag rest else c :: stripTag tag cs
      | none => c :: stripTag tag cs
    else c :: stripTag tag cs
termination_by cs => cs.length

/-- What is kept of a message. -/
def inner (tag message : List Char) : List Char :=
  trim (stripTag tag message)

/-- Puts one pair of speech tags around a message, in place of those in it. -/
def finalize (tag message : String) : String :=
  "<" ++ tag ++ ">" ++ String.ofList (inner tag.toList message.toList) ++ "</" ++ tag ++ ">"

/-- The text outside of all elements, with a space in place of each element that ends.
`within` says whether the text starts within one. -/
def outside (within : Bool) : List Char → List Char
  | [] => []
  | c :: cs =>
    if c = '<' then outside true cs
    else if within then
      if c = '>' then ' ' :: outside false cs else outside true cs
    else c :: outside false cs

/-- A message as plain text: no elements, and single spaces between the words. -/
def toPlain (message : String) : String :=
  String.ofList (join [' '] (words (outside false message.toList)))

end TextAdventure.Markup
