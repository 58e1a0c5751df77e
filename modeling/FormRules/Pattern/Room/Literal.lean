import FormRules.Pattern.Room.Basic

/-!
# Room for literals

Where all alternatives are literals, the automaton reads their common beginnings once: it is a tree
of bytes.  An alternative that ends where others go on parts the tree: what comes after it in the
order of preference is kept apart from what comes before.

Embeds how the `regex` library compiles alternatives that are all literals.
-/

namespace FormRules.Pattern.LiteralTree

/-- The texts between those that end here, in order.  Texts that end here before any other goes on
count as one. -/
def sections (texts : List (List UInt8)) : List (List (List UInt8)) :=
  let cut := fun text done =>
    if text.isEmpty then [] :: done
    else match done with
      | [] => [[text]]
      | current :: later => (text :: current) :: later
  match texts with
  | [] :: rest => [] :: (rest.dropWhile List.isEmpty).foldr cut [[]]
  | texts => texts.foldr cut [[]]

/-- The bytes with which some texts begin, each once. -/
def firstBytes (texts : List (List UInt8)) : List UInt8 :=
  (texts.filterMap List.head?).eraseDups

/-- What follows a byte in the texts that begin with it. -/
def after (byte : UInt8) (texts : List (List UInt8)) : List (List UInt8) :=
  texts.filterMap fun text => match text with
    | [] => none
    | first :: rest => if first = byte then some rest else none

/-- The states and the link bytes of a place in the tree at which the texts begin; `depth` bounds
their lengths.  A place where all texts end is no state of its own. -/
def room : (depth : Nat) → List (List UInt8) → Nat × Nat
  | 0, _ => (0, 0)
  | depth + 1, texts =>
    if texts.all List.isEmpty then (0, 0)
    else
      let parts := sections texts
      let inner := parts.filter (!·.isEmpty)
      let fork := (1, Room.forkBytes * (inner.length + (parts.length - 1)))
      let rooms := inner.flatMap fun part =>
        let bytes := firstBytes part
        (1, if bytes.length = 1 then 0 else Room.rangeBytes * bytes.length) ::
          bytes.map fun byte => room depth (after byte part)
      rooms.foldl (fun sum more => (sum.1 + more.1, sum.2 + more.2)) fork

/-- Takes room for a tree of texts and the state behind it. -/
def take (direction : Direction) (texts : List (List Char)) (start : Room) : Option Room :=
  let forms := texts.map fun text => text.flatMap String.utf8EncodeChar
  let forms := if direction = .forward then forms else forms.map List.reverse
  let depth := (forms.map List.length).foldl Nat.max 0
  let (states, links) := room depth forms
  start.take (states + 1) links

end FormRules.Pattern.LiteralTree
