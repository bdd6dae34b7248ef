import PageRender.Data.KeyMap

/-!
# Generations of renders

Renders of one page may overlap. Each takes a ticket when it starts; a ticket is current while no
later render of its page has started, so a caller that publishes under current tickets only never
shows an older page over a newer one. The tickets of a page refer to one counter, and a ticket is
compared with what that counter has come to.

A page counts its renders in a number of 64 bits, which runs over. What a tracker does is the same
for all numbers that can be counted up, so the natural numbers can take their place, with which
nothing runs over.
-/

namespace PageRender

/-- The counters of pages. A tracker shares them with all its clones and with its tickets, so a
counter is referred to by the number that it was made under. -/
structure Generations (Number : Type := Nat) where
  /-- The counter of each page. -/
  pages : KeyMap Nat := ∅
  /-- How many renders each counter has counted. -/
  counters : Array Number := #[]
  deriving Inhabited

/-- The place of one render among the renders of its page. -/
structure Ticket (Number : Type := Nat) where
  generation : Number
  /-- The counter of the page. -/
  counter : Nat
  deriving DecidableEq, Repr

/-- A tracker with numbers of 64 bits. -/
abbrev WordGenerations :=
  Generations UInt64

abbrev WordTicket :=
  Ticket UInt64

namespace Generations

variable {Number : Type}

def size (generations : Generations Number) : Nat :=
  generations.pages.entries.length

def isEmpty (generations : Generations Number) : Bool :=
  generations.pages.isEmpty

variable [OfNat Number 0] [OfNat Number 1] [Add Number] [DecidableEq Number]

/-- What a counter has counted. -/
def count (generations : Generations Number) (counter : Nat) : Number :=
  generations.counters[counter]?.getD 0

/-- The counter that a page is entered with: a new one, unless the page has one by now. -/
def enter (generations : Generations Number) (page : String) : Nat × Generations Number :=
  match generations.pages.get? page with
  | some counter => (counter, generations)
  | none =>
      (generations.counters.size,
        { pages := generations.pages.insert page generations.counters.size
          counters := generations.counters.push 0 })

/-- The counter of a page, which is entered if it is not found. -/
def counterOf (generations : Generations Number) (page : String) : Nat × Generations Number :=
  match generations.pages.get? page with
  | some counter => (counter, generations)
  | none => generations.enter page

def start (generations : Generations Number) (page : String) :
    Ticket Number × Generations Number :=
  let found := generations.counterOf page
  (⟨found.2.count found.1 + 1, found.1⟩,
    { found.2 with counters := found.2.counters.modify found.1 (· + 1) })

/-- Whether no later render of a ticket's page has started. -/
def isCurrent (generations : Generations Number) (ticket : Ticket Number) : Bool :=
  generations.count ticket.counter == ticket.generation

end Generations

end PageRender
