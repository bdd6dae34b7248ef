import Mathlib.Algebra.Group.Nat.Defs
import Mathlib.Data.List.Basic
import PageRender.Proofs.TicketRuns

/-!
# Tickets with numbers of 64 bits

A tracker counts the renders of a page in a word of 64 bits. Reading the numbers of a tracker
without bounds as words gives the tracker with words, at every moment of every run. Both answer
alike as long as the numbers that are compared fit in words, which the numbers of a run do while
each page has had fewer than `2 ^ 64` renders. Not so afterwards: the ticket of a page's first
render is taken for current again after `2 ^ 64` more renders of the page.
-/

namespace PageRender

namespace Ticket

def toWord (ticket : Ticket) : WordTicket :=
  ⟨.ofNat ticket.generation, ticket.counter⟩

end Ticket

namespace Generations

def toWords (generations : Generations) : WordGenerations :=
  ⟨generations.pages, generations.counters.map .ofNat⟩

variable {generations : Generations}

@[simp]
theorem pages_toWords : generations.toWords.pages = generations.pages := rfl

@[simp]
theorem count_toWords (counter : Nat) :
    generations.toWords.count counter = .ofNat (generations.count counter) := by
  rw [count, count, toWords, Array.getElem?_map]
  cases generations.counters[counter]? with
  | none => rfl
  | some number => rfl

theorem counterOf_toWords (page : String) :
    generations.toWords.counterOf page =
      ((generations.counterOf page).1, (generations.counterOf page).2.toWords) := by
  cases looked : generations.pages.get? page with
  | some counter => simp [counterOf, looked]
  | none => simp [counterOf, enter, looked, toWords]

theorem toWord_succ (number : Nat) : UInt64.ofNat (number + 1) = UInt64.ofNat number + 1 :=
  UInt64.ofNat_add number 1

theorem map_modify_succ (counters : Array Nat) (counter : Nat) :
    (counters.modify counter (· + 1)).map UInt64.ofNat =
      (counters.map UInt64.ofNat).modify counter (· + 1) := by
  apply Array.ext_getElem?
  intro place
  simp only [Array.getElem?_map, Array.getElem?_modify]
  by_cases here : counter = place
  · cases counters[place]? with
    | none => simp
    | some number => simp [here, toWord_succ]
  · simp [here]

/-- Counting up and reading a number as a word can change places. -/
theorem start_toWords (page : String) :
    generations.toWords.start page =
      ((generations.start page).1.toWord, (generations.start page).2.toWords) := by
  simp only [start, counterOf_toWords, count_toWords, Ticket.toWord, toWord_succ]
  rw [toWords, toWords, map_modify_succ]

theorem isCurrent_toWords {ticket : Ticket}
    (counterFits : generations.count ticket.counter < 2 ^ 64)
    (ticketFits : ticket.generation < 2 ^ 64) :
    generations.toWords.isCurrent ticket.toWord = generations.isCurrent ticket := by
  have same : UInt64.ofNat (generations.count ticket.counter) = .ofNat ticket.generation ↔
      generations.count ticket.counter = ticket.generation := by
    constructor
    · intro sameWord
      have sameNumber := congrArg UInt64.toNat sameWord
      rwa [UInt64.toNat_ofNat_of_lt' counterFits, UInt64.toNat_ofNat_of_lt' ticketFits] at sameNumber
    · exact congrArg _
  rw [Bool.eq_iff_iff, isCurrent, isCurrent, beq_iff_eq, beq_iff_eq, Ticket.toWord, count_toWords]
  exact same

end Generations

namespace Holding

def toWord (holding : Holding) : Holding UInt64 :=
  ⟨holding.page, holding.render, holding.ticket.toWord⟩

end Holding

namespace Session

def toWords (session : Session) : Session UInt64 where
  generations := session.generations.toWords
  begun := session.begun
  holdings := session.holdings.map Holding.toWord
  shown := session.shown.map Holding.toWord

/-- A run of the tracker with words. -/
def runWords (moves : List Move) : Session UInt64 :=
  moves.foldl step {}

variable {session : Session} {holding : Holding}

theorem step_start_toWords (page : String) :
    session.toWords.step (.start page) = (session.step (.start page)).toWords := by
  simp [step, toWords, Generations.start_toWords, Holding.toWord]

/-- The numbers that are compared while a page has had few renders fit in words. -/
theorem Orderly.isCurrent_toWords (orderly : session.Orderly)
    (few : ∀ page, session.begun.count page < 2 ^ 64) (listed : holding ∈ session.holdings) :
    session.generations.toWords.isCurrent holding.ticket.toWord =
      session.generations.isCurrent holding.ticket := by
  rcases orderly.numbers_lt few with ⟨counters, tickets⟩
  have genuine := orderly.genuine holding listed
  exact Generations.isCurrent_toWords (counters _ _ genuine.counter) (tickets holding listed)

theorem Orderly.step_toWords (orderly : session.Orderly)
    (few : ∀ page, session.begun.count page < 2 ^ 64) (move : Move) :
    session.toWords.step move = (session.step move).toWords := by
  cases move with
  | start page => exact step_start_toWords page
  | copy index =>
      cases found : session.holdings[index]? with
      | none => simp [Session.step, toWords, found]
      | some holding => simp [Session.step, toWords, found]
  | publish index =>
      cases found : session.holdings[index]? with
      | none => simp [Session.step, toWords, found]
      | some holding =>
          have same := orderly.isCurrent_toWords few (List.mem_of_getElem? found)
          cases current : session.generations.isCurrent holding.ticket with
          | true => simp [Session.step, toWords, found, Holding.toWord, same, current, Option.filter]
          | false => simp [Session.step, toWords, found, Holding.toWord, same, current, Option.filter]

theorem Orderly.foldl_toWords (orderly : session.Orderly) {moves : List Move}
    (few : ∀ page, session.begun.count page + (moves.filterMap Move.page?).count page < 2 ^ 64) :
    moves.foldl Session.step session.toWords = (moves.foldl Session.step session).toWords := by
  induction moves generalizing session with
  | nil => rfl
  | cons move moves ih =>
      have fewNow : ∀ page, session.begun.count page < 2 ^ 64 :=
        fun page => (Nat.le_add_right _ _).trans_lt (few page)
      rw [List.foldl_cons, List.foldl_cons, orderly.step_toWords fewNow move]
      refine ih (orderly.step move) fun page => ?_
      have total := few page
      rw [begun_step, List.count_append, Nat.add_assoc, ← List.count_append]
      cases started : move.page? with
      | none => simpa [started] using total
      | some other => simpa [started] using total

theorem toWords_empty : ({} : Session).toWords = {} := by
  simp [toWords, Generations.toWords]

/-! ## While each page has had fewer than `2 ^ 64` renders -/

section FewRenders

variable {moves : List Move} (few : ∀ page, (moves.filterMap Move.page?).count page < 2 ^ 64)
include few

/-- The run with words is the one without bounds, read as words. -/
theorem runWords_eq : runWords moves = (run moves).toWords := by
  have orderly : ({} : Session).Orderly := orderly_run []
  rw [runWords, ← toWords_empty]
  exact orderly.foldl_toWords fun page => by simpa using few page

/-- The tracker with words answers as the one without bounds: the same generations, and the same
tickets are current. -/
theorem words_answer_alike :
    (runWords moves).begun = (run moves).begun ∧
      (runWords moves).holdings = (run moves).holdings.map Holding.toWord ∧
      (runWords moves).shown = (run moves).shown.map Holding.toWord ∧
      (runWords moves).generations.size = (run moves).generations.size ∧
      ∀ holding ∈ (run moves).holdings,
        holding.toWord.ticket.generation.toNat = holding.ticket.generation ∧
          (runWords moves).generations.isCurrent holding.toWord.ticket =
            (run moves).generations.isCurrent holding.ticket := by
  have orderly := orderly_run moves
  have fewBegun : ∀ page, (run moves).begun.count page < 2 ^ 64 := by
    rw [begun_run]
    exact few
  rw [runWords_eq few]
  refine ⟨rfl, rfl, rfl, rfl, fun holding listed => ⟨?_, ?_⟩⟩
  · exact UInt64.toNat_ofNat_of_lt' ((orderly.numbers_lt fewBegun).2 holding listed)
  · exact orderly.isCurrent_toWords fewBegun listed

/-- A ticket has the number of its render among those of its page, and is current exactly as long as
no later one has started. -/
theorem words_current_iff {holding : Holding UInt64}
    (listed : holding ∈ (runWords moves).holdings) :
    holding.ticket.generation.toNat =
        ((runWords moves).begun.take (holding.render + 1)).count holding.page ∧
      ((runWords moves).generations.isCurrent holding.ticket = true ↔
        holding.page ∉ (runWords moves).begun.drop (holding.render + 1)) := by
  rcases words_answer_alike few with ⟨begun, holdings, -, -, answers⟩
  rw [holdings] at listed
  rcases List.mem_map.mp listed with ⟨whole, wholeListed, rfl⟩
  rcases answers whole wholeListed with ⟨sameGeneration, sameAnswer⟩
  have orderly := orderly_run moves
  have genuine := orderly.genuine whole wholeListed
  rw [begun, sameGeneration, sameAnswer]
  exact ⟨genuine.generation, genuine.isCurrent_iff orderly.tracks⟩

/-- What is shown for a page never goes back. -/
theorem words_show_no_older (page : String) :
    ((runWords moves).shownFor page).Pairwise fun earlier later =>
      earlier.ticket.generation.toNat ≤ later.ticket.generation.toNat := by
  rcases words_answer_alike few with ⟨-, -, shown, -, answers⟩
  have orderly := orderly_run moves
  have mapped : (runWords moves).shownFor page = ((run moves).shownFor page).map Holding.toWord := by
    rw [shownFor, shown, List.filter_map]
    rfl
  rw [mapped, List.pairwise_map]
  refine (orderly.ascending page).imp_of_mem fun {earlier later} earlierShown laterShown ordered => ?_
  have held : ∀ holding ∈ (run moves).shownFor page,
      holding.toWord.ticket.generation.toNat = holding.ticket.generation :=
    fun holding holdingShown =>
      (answers holding (orderly.shownHeld holding (List.mem_filter.mp holdingShown).1)).1
  rw [held earlier earlierShown, held later laterShown]
  exact ordered

end FewRenders

/-! ## Running over -/

theorem foldl_start_toWords (page : String) (renders : Nat) :
    (List.replicate renders (.start page)).foldl Session.step session.toWords =
      ((List.replicate renders (.start page)).foldl Session.step session).toWords := by
  induction renders generalizing session with
  | zero => rfl
  | succ renders ih =>
      rw [List.replicate_succ, List.foldl_cons, List.foldl_cons, step_start_toWords, ih]

/-- The bound is exact: after `2 ^ 64` more renders of its page, the stale ticket of the first one
is taken for current again. -/
theorem words_revive_stale (page : String) {renders : Nat} (more : 1 < renders)
    (runsOver : renders % 2 ^ 64 = 1) :
    let moves := List.replicate renders (Move.start page)
    ∃ holding ∈ (runWords moves).holdings,
      holding.page = page ∧ holding.page ∈ (runWords moves).begun.drop (holding.render + 1) ∧
        (runWords moves).generations.isCurrent holding.ticket = true := by
  intro moves
  have orderly := orderly_run moves
  have same : runWords moves = (run moves).toWords := by
    rw [runWords, ← toWords_empty]
    exact foldl_start_toWords page renders
  have begun : (run moves).begun = List.replicate renders page := by
    rw [begun_run]
    exact List.filterMap_replicate_of_some rfl
  rcases orderly.held 0 (by rw [begun, List.length_replicate]; omega) with ⟨first, listed, isFirst⟩
  have genuine := orderly.genuine first listed
  have ofPage : first.page = page := by
    have recorded := genuine.recorded
    rw [begun] at recorded
    exact (List.mem_replicate.mp (List.mem_of_getElem? recorded)).2
  have counted : (run moves).generations.count first.ticket.counter = renders := by
    rw [orderly.tracks.count_eq genuine.counter, begun, ofPage, List.count_replicate_self]
  have generation : first.ticket.generation = 1 := by
    rw [genuine.generation, isFirst, begun, List.take_replicate, ofPage, List.count_replicate_self]
    omega
  have word : UInt64.ofNat renders = UInt64.ofNat 1 := by
    rw [← UInt64.toNat_inj, UInt64.toNat_ofNat', UInt64.toNat_ofNat', runsOver]
  refine ⟨first.toWord, ?_, ofPage, ?_, ?_⟩
  · rw [same]
    exact List.mem_map_of_mem listed
  · have later : page ∈ List.replicate (renders - 1) page := by
      rw [List.mem_replicate]
      exact ⟨by omega, rfl⟩
    rw [same, Holding.toWord, toWords, begun, List.drop_replicate, isFirst, ofPage]
    exact later
  · rw [same, toWords, Generations.isCurrent, beq_iff_eq, Holding.toWord, Ticket.toWord,
      Generations.count_toWords, counted, generation]
    exact word

end Session

end PageRender
