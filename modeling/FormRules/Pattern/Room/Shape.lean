import FormRules.Pattern.Room.CharSet
import FormRules.Pattern.Room.Literal
import FormRules.Pattern.Shape

/-!
# Room for a whole pattern

`Shape.take` takes room for a shape, part by part in the order in which an automaton for it is
built.  A pattern fits if there is room for it in both directions.  As most patterns are far from
the limit, `Regex.roomBound` says first how much a pattern takes at most.

Embeds how the `regex` library compiles a pattern forward and backward (`Regex.fits`).
-/

namespace FormRules.Pattern

namespace Shape

/-- Where a shape stands among alternatives. -/
inductive Rank
  | alone
  | second
  | later
  deriving DecidableEq, Repr

/-- Takes room for the fork in front of alternatives and the state behind them, as soon as there
are two, and for one more way on from the fork after that. -/
def Rank.join : Rank → Room → Option Room
  | alone, room => some room
  | second, room => room.take 2 (2 * Room.forkBytes)
  | later, room => room.take 0 Room.forkBytes

/-- The rank of the alternatives behind one. -/
def Rank.next : Rank → Rank
  | alone => second
  | second => later
  | later => later

/-- The alternatives, if all of them are literals. -/
def literals? (s : Shape) : Option (List (List Char)) :=
  s.branches.mapM fun branch => match branch with
    | literal text => some text
    | _ => none

def byteCount (text : List Char) : Nat := (text.map Char.utf8Size).foldr (· + ·) 0

/-- Takes room for a repetition, given how room is taken for one round. -/
def takeRounds (round : Room → Option Room) (neverEmpty : Bool) (min : Nat) (max : Option Nat)
    (room : Room) : Option Room :=
  let fork := 2 * Room.forkBytes
  match max with
  | none =>
    if min = 0 then
      if neverEmpty then (room.take 1 fork).bind round
      else (round room).bind (Room.take 3 (2 * fork))
    else (Room.times round min room).bind (Room.take 1 fork)
  | some max =>
    let optionalRound := fun room => (Room.take 1 fork room).bind round
    if min = max then Room.times round min room
    else if min = 0 && max = 1 then (optionalRound room).bind (Room.take 1 0)
    else
      let start := if min = 0 then room.take 1 0 else Room.times round min room
      (start.bind (Room.take 1 0)).bind (Room.times optionalRound (max - min))

def take (direction : Direction) : Shape → Rank → Room → Option Room
  | empty, rank, room => (room.take 1 0).bind rank.join
  | literal text, rank, room => (room.take (byteCount text) 0).bind rank.join
  | set ranges, rank, room => (SetRoom.take direction ranges room).bind rank.join
  | look _, rank, room => (room.take 1 0).bind rank.join
  | group _ s, rank, room =>
    match direction with
    | .forward =>
      (((room.take 1 0).bind (s.take direction .alone)).bind (Room.take 1 0)).bind rank.join
    | .backward => (s.take direction .alone room).bind rank.join
  | repeated s min max _, rank, room =>
    (takeRounds (s.take direction .alone) (s.minLength?.any (0 < ·)) min max room).bind rank.join
  | seq a b, rank, room =>
    match direction with
    | .forward => ((a.take direction .alone room).bind (b.take direction .alone)).bind rank.join
    | .backward => ((b.take direction .alone room).bind (a.take direction .alone)).bind rank.join
  | alt a b, rank, room =>
    match if rank = .alone then literals? (.alt a b) else none with
    | some texts => LiteralTree.take direction texts room
    | none => ((a.take direction .alone room).bind rank.join).bind (b.take direction rank.next)

/-- Takes room for a whole pattern: a way in, which may pass over any bytes unless the pattern has
to match from the end of the text at which reading begins, and a last state.  Forward, the start
and the end of the match are recorded. -/
def takeWhole (direction : Direction) (s : Shape) : Option Room :=
  let bound := match direction with
    | .forward => s.isBoundTo .textStart true
    | .backward => s.isBoundTo .textEnd false
  let wayIn := if bound then Room.untouched.take 1 0
    else Room.untouched.take 3 (2 * Room.forkBytes + Room.rangeBytes)
  (wayIn.bind ((group 0 s).take direction .alone)).bind (Room.take 1 0)

/-- Whether there is room for a shape. -/
def fits (s : Shape) : Bool :=
  (s.takeWhole .forward).isSome && (s.takeWhole .backward).isSome

end Shape

/-! ### Bounds -/

/-- A bound for the room of a set, read off its expression. -/
def CharSet.roomBound : CharSet → Nat
  | nothing => 64
  | range first last => if first = last then 400 else 3000
  | property _ => 100000
  | union a b => a.roomBound + b.roomBound
  | inter a b => a.roomBound + b.roomBound
  | compl a => a.roomBound + 3000
  | anyCase (range first last) => if first = last then 1600 else 100000
  | anyCase a => a.roomBound + 100000
  | anyAsciiCase a => a.roomBound + 3000

namespace Regex

/-- A bound for the room of an expression, however its parts are joined in its shape. -/
def roomBound : Regex → Nat
  | empty => 32
  | chars set => set.roomBound
  | look _ => 32
  | group _ r => r.roomBound + 64
  | scope r => r.roomBound
  | seq a b => a.roomBound + b.roomBound
  | alt a b => a.roomBound + b.roomBound + 100
  | repeated r min none _ => Nat.max min 1 * r.roomBound + 112
  | repeated r _ (some max) _ => max * (r.roomBound + 40) + 64

/-- Whether a pattern is small enough.  Its shape is looked at only if it matters. -/
def fits (r : Regex) : Bool := r.roomBound + 256 ≤ Room.limit || (Shape.ofRegex r).fits

end Regex

end FormRules.Pattern
