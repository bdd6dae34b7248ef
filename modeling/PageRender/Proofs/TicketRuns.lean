import Mathlib.Data.List.Dedup
import Mathlib.Data.List.Infix
import PageRender.Generation
import PageRender.Proofs.NameSet

/-!
# Runs with tickets

Callers start renders, hand on copies of their tickets, and show what they have rendered if their
ticket is current then, in whatever order. A run keeps a record of the pages whose renders have
started, and against that record every ticket tells the truth: the counter of a page has counted
the renders of that page, and no two pages ever share a counter.

A ticket is therefore current exactly until the next render of its page starts, and what is shown
for a page never goes back to an earlier render.
-/

namespace PageRender

/-! ## Counters -/

namespace Generations

variable {generations : Generations} {begun : List String} {page : String}

/-- The counters have counted some renders, one for each page in a list. -/
structure Counts (generations : Generations) (begun : List String) : Prop where
  /-- The counter of a page has counted the renders of the page. -/
  counted : ∀ {page counter}, generations.pages.get? page = some counter →
    generations.counters[counter]? = some (begun.count page)
  apart : ∀ {page other counter}, generations.pages.get? page = some counter →
    generations.pages.get? other = some counter → page = other

/-- The counters are those after renders of some pages have started, in that order. -/
structure Tracks (generations : Generations) (begun : List String) : Prop
    extends Counts generations begun where
  /-- The pages that have a counter are those with a render. -/
  entered : ∀ page, (generations.pages.get? page).isSome ↔ page ∈ begun

theorem tracks_nil : Tracks {} [] where
  counted := by
    intro page counter found
    cases found
  apart := by
    intro page other counter found
    cases found
  entered := by
    intro page
    simp [EmptyCollection.emptyCollection]

theorem Counts.count_eq (counts : generations.Counts begun) {counter : Nat}
    (found : generations.pages.get? page = some counter) :
    generations.count counter = begun.count page := by
  simp [count, counts.counted found]

theorem Counts.lt_size (counts : generations.Counts begun) {counter : Nat}
    (found : generations.pages.get? page = some counter) :
    counter < generations.counters.size := by
  have counted := counts.counted found
  by_contra outside
  rw [Array.getElem?_eq_none (by omega)] at counted
  cases counted

structure Found (before : Generations) (page : String) (found : Nat × Generations) : Prop where
  here : found.2.pages.get? page = some found.1
  elsewhere : ∀ {other}, other ≠ page → found.2.pages.get? other = before.pages.get? other
  /-- The page keeps the counter that it had. -/
  kept : ∀ {counter}, before.pages.get? page = some counter → found.1 = counter

/-- Looking a page up finds its counter and changes nothing, or enters the page with a new one. -/
theorem counterOf_cases (generations : Generations) (page : String) :
    (∃ counter, generations.pages.get? page = some counter ∧
      generations.counterOf page = (counter, generations)) ∨
    (generations.pages.get? page = none ∧
      generations.counterOf page = (generations.counters.size,
        { pages := generations.pages.insert page generations.counters.size
          counters := generations.counters.push 0 })) := by
  cases looked : generations.pages.get? page with
  | some counter => exact Or.inl ⟨counter, rfl, by simp [counterOf, looked]⟩
  | none => exact Or.inr ⟨rfl, by simp [counterOf, enter, looked]⟩

theorem found_counterOf (generations : Generations) (page : String) :
    Found generations page (generations.counterOf page) := by
  rcases counterOf_cases generations page with ⟨counter, looked, same⟩ | ⟨looked, entered⟩
  · rw [same]
    exact ⟨looked, fun _ => rfl, fun other => by simpa [looked] using other⟩
  · rw [entered]
    refine ⟨by simp, ?_, ?_⟩
    · intro other different
      simp [Ne.symm different]
    · intro counter had
      rw [looked] at had
      cases had

theorem Tracks.counts_counterOf (tracks : generations.Tracks begun) (page : String) :
    (generations.counterOf page).2.Counts begun := by
  rcases counterOf_cases generations page with ⟨counter, -, same⟩ | ⟨looked, entered⟩
  · rw [same]
    exact tracks.toCounts
  · have unbegun : page ∉ begun := by
      intro listed
      have some := (tracks.entered page).mpr listed
      simp [looked] at some
    rw [entered]
    constructor
    · intro other counter found
      simp only [KeyMap.get?_insert] at found
      split at found
      · -- The new counter has counted nothing, and the page has no render.
        rename_i isPage
        cases found
        simp [← isPage, List.count_eq_zero_of_not_mem unbegun]
      · have inside := tracks.lt_size found
        rw [Array.getElem?_push_lt inside, ← Array.getElem?_eq_getElem inside]
        exact tracks.counted found
    · intro first second counter foundFirst foundSecond
      simp only [KeyMap.get?_insert] at foundFirst foundSecond
      split at foundFirst <;> split at foundSecond
      · rename_i isFirst isSecond
        rw [← isFirst, isSecond]
      · cases foundFirst
        have inside := tracks.lt_size foundSecond
        omega
      · cases foundSecond
        have inside := tracks.lt_size foundFirst
        omega
      · exact tracks.apart foundFirst foundSecond

structure Started (before : Generations) (begun : List String) (page : String)
    (started : Ticket × Generations) : Prop where
  tracks : started.2.Tracks (begun ++ [page])
  /-- The ticket has the number of the render among the renders of its page. -/
  generation : started.1.generation = begun.count page + 1
  counter : started.2.pages.get? page = some started.1.counter
  /-- No page loses its counter, so the tickets before still refer to it. -/
  kept : ∀ {other counter}, before.pages.get? other = some counter →
    started.2.pages.get? other = some counter

theorem Tracks.started (tracks : generations.Tracks begun) (page : String) :
    Started generations begun page (generations.start page) := by
  have found := found_counterOf generations page
  have counts := tracks.counts_counterOf page
  refine ⟨⟨⟨?_, ?_⟩, ?_⟩, ?_, found.here, ?_⟩
  · intro other counter foundOther
    have counted := counts.counted foundOther
    -- Only the count of the page goes up, since no other page has its counter.
    have sameCounter : (generations.counterOf page).1 = counter ↔ other = page := by
      constructor
      · intro same
        exact counts.apart foundOther (same ▸ found.here)
      · intro same
        subst same
        exact Option.some.inj (found.here.symm.trans foundOther)
    simp only [start, Array.getElem?_modify, sameCounter, counted, List.count_append]
    by_cases isPage : other = page
    · simp [isPage]
    · simp [isPage, Ne.symm isPage]
  · intro first second counter foundFirst foundSecond
    exact counts.apart foundFirst foundSecond
  · intro other
    by_cases isPage : other = page
    · subst isPage
      simp [start, found.here]
    · have same := found.elsewhere isPage
      simp only [start, same, tracks.entered other, List.mem_append, List.mem_singleton, isPage,
        or_false]
  · simp [start, counts.count_eq found.here]
  · intro other counter had
    by_cases isPage : other = page
    · subst isPage
      have same := found.kept had
      rw [← same]
      exact found.here
    · exact (found.elsewhere isPage).trans had

theorem Tracks.size_eq (tracks : generations.Tracks begun) :
    generations.size = begun.dedup.length := by
  have distinct : generations.pages.keys.Nodup := by
    refine List.pairwise_map.mpr (generations.pages.sorted.imp ?_)
    intro left right before same
    exact absurd before (by simp [same])
  have sameMembers : ∀ page, page ∈ generations.pages.keys ↔ page ∈ begun.dedup := by
    intro page
    rw [KeyMap.mem_keys, tracks.entered, List.mem_dedup]
  have permuted := (List.perm_ext_iff_of_nodup distinct begun.nodup_dedup).mpr sameMembers
  have sameLength := permuted.length_eq
  simpa [KeyMap.keys, size] using sameLength

end Generations

/-! ## Runs -/

/-- What a caller holds: a ticket, with the page that it was taken for and with the number of its
render among all renders that have started. -/
structure Holding (Number : Type := Nat) where
  page : String
  render : Nat
  ticket : Ticket Number
  deriving DecidableEq, Repr

inductive Move where
  /-- The render of a page starts, through the tracker or through any clone of it. -/
  | start (page : String)
  /-- One of the holdings is copied. -/
  | copy (index : Nat)
  /-- What was rendered under one of the holdings is shown, if the ticket is current. -/
  | publish (index : Nat)
  deriving DecidableEq, Repr

def Move.page? : Move → Option String
  | .start page => some page
  | _ => none

/-- A tracker and its callers. -/
structure Session (Number : Type := Nat) where
  generations : Generations Number := {}
  /-- The pages whose renders have started, in order. -/
  begun : List String := []
  /-- What callers hold, copies included. -/
  holdings : List (Holding Number) := []
  /-- The holdings under which something was shown, in order. -/
  shown : List (Holding Number) := []

namespace Session

section Moves

variable {Number : Type} [OfNat Number 0] [OfNat Number 1] [Add Number] [DecidableEq Number]

def step (session : Session Number) (move : Move) : Session Number :=
  match move with
  | .start page =>
      let started := session.generations.start page
      { session with
        generations := started.2
        begun := session.begun ++ [page]
        holdings := session.holdings ++ [⟨page, session.begun.length, started.1⟩] }
  | .copy index =>
      { session with holdings := session.holdings ++ session.holdings[index]?.toList }
  | .publish index =>
      let current := session.holdings[index]?.filter fun holding =>
        session.generations.isCurrent holding.ticket
      { session with shown := session.shown ++ current.toList }

end Moves

def run (moves : List Move) : Session :=
  moves.foldl step {}

variable {Number : Type}

def shownFor (session : Session Number) (page : String) : List (Holding Number) :=
  session.shown.filter fun holding => holding.page == page

def displayed (session : Session Number) (page : String) : Option (Holding Number) :=
  (session.shownFor page).getLast?

end Session

namespace Holding

/-- The pages whose renders have started after that of a holding. -/
def later (holding : Holding) (begun : List String) : List String :=
  begun.drop (holding.render + 1)

/-- A holding is what it seems: its render is one of its page, and its ticket is that of the page
with the number of the render among the renders of the page. -/
structure Genuine (holding : Holding) (generations : Generations) (begun : List String) : Prop where
  recorded : begun[holding.render]? = some holding.page
  counter : generations.pages.get? holding.page = some holding.ticket.counter
  generation : holding.ticket.generation = (begun.take (holding.render + 1)).count holding.page

variable {generations : Generations} {begun : List String} {holding : Holding}

theorem Genuine.lt_length (genuine : holding.Genuine generations begun) :
    holding.render < begun.length :=
  (List.getElem?_eq_some_iff.mp genuine.recorded).1

/-- The renders of a page are its renders up to that of a holding, and the later ones. -/
theorem Genuine.count_eq (genuine : holding.Genuine generations begun) :
    begun.count holding.page =
      holding.ticket.generation + (holding.later begun).count holding.page := by
  rw [genuine.generation, later, ← List.count_append, List.take_append_drop]

theorem Genuine.isCurrent_iff (genuine : holding.Genuine generations begun)
    (tracks : generations.Tracks begun) :
    generations.isCurrent holding.ticket = true ↔ holding.page ∉ holding.later begun := by
  have counted := tracks.count_eq genuine.counter
  have split := genuine.count_eq
  rw [Generations.isCurrent, counted, beq_iff_eq, ← List.count_eq_zero]
  omega

theorem Genuine.started (genuine : holding.Genuine generations begun) {page : String}
    {started : Ticket × Generations}
    (begins : Generations.Started generations begun page started) :
    holding.Genuine started.2 (begun ++ [page]) := by
  have inside := genuine.lt_length
  refine ⟨?_, begins.kept genuine.counter, ?_⟩
  · rw [List.getElem?_append_left inside]
    exact genuine.recorded
  · rw [List.take_append_of_le_length (by omega)]
    exact genuine.generation

theorem genuine_of_started {page : String} {started : Ticket × Generations}
    (begins : Generations.Started generations begun page started) :
    (Holding.mk page begun.length started.1).Genuine started.2 (begun ++ [page]) := by
  refine ⟨by simp, begins.counter, ?_⟩
  have whole : (begun ++ [page]).take (begun.length + 1) = begun ++ [page] :=
    List.take_of_length_le (by simp)
  simp [whole, begins.generation]

/-- Two current tickets of one page belong to one render of it. -/
theorem Genuine.eq_of_current {other : Holding} (genuine : holding.Genuine generations begun)
    (genuineOther : other.Genuine generations begun) (samePage : other.page = holding.page)
    (newest : holding.page ∉ holding.later begun) (newestOther : other.page ∉ other.later begun) :
    other = holding := by
  -- A render of the page after that of a current ticket would have made the ticket stale.
  have notBefore : ∀ {first second : Holding}, first.Genuine generations begun →
      second.Genuine generations begun → second.page = first.page →
      first.page ∉ first.later begun → ¬first.render < second.render := by
    intro first second _ genuineSecond same newestFirst before
    refine newestFirst (List.mem_iff_getElem?.mpr ⟨second.render - (first.render + 1), ?_⟩)
    rw [later, List.getElem?_drop, Nat.add_sub_cancel' before, ← same]
    exact genuineSecond.recorded
  have sameRender : other.render = holding.render := by
    have first := notBefore genuine genuineOther samePage newest
    have second := notBefore genuineOther genuine samePage.symm newestOther
    omega
  have sameCounter : other.ticket.counter = holding.ticket.counter := by
    have found := genuineOther.counter
    rw [samePage, genuine.counter] at found
    exact (Option.some.inj found).symm
  have sameGeneration : other.ticket.generation = holding.ticket.generation := by
    rw [genuineOther.generation, genuine.generation, samePage, sameRender]
  cases other with
  | mk page render ticket =>
      cases ticket
      cases holding with
      | mk page render ticket =>
          cases ticket
          simp_all

end Holding

namespace Session

/-- What every run keeps. -/
structure Orderly (session : Session) : Prop where
  tracks : session.generations.Tracks session.begun
  genuine : ∀ holding ∈ session.holdings, holding.Genuine session.generations session.begun
  /-- Every render that has started has a holding. -/
  held : ∀ render < session.begun.length, ∃ holding ∈ session.holdings, holding.render = render
  /-- What was shown was shown under holdings, in the order of their generations. -/
  shownHeld : ∀ holding ∈ session.shown, holding ∈ session.holdings
  ascending : ∀ page, (session.shownFor page).Pairwise fun earlier later =>
    earlier.ticket.generation ≤ later.ticket.generation

variable {session : Session} {holding : Holding}

theorem Orderly.start (orderly : session.Orderly) (page : String) :
    (session.step (.start page)).Orderly := by
  have begins := orderly.tracks.started page
  refine ⟨begins.tracks, ?_, ?_, ?_, orderly.ascending⟩
  · intro holding listed
    rcases List.mem_append.mp listed with earlier | new
    · exact (orderly.genuine holding earlier).started begins
    · rcases List.mem_singleton.mp new with rfl
      exact Holding.genuine_of_started begins
  · intro render inside
    by_cases earlier : render < session.begun.length
    · rcases orderly.held render earlier with ⟨holding, listed, same⟩
      exact ⟨holding, List.mem_append_left _ listed, same⟩
    · have last : render = session.begun.length := by
        simp only [step, List.length_append, List.length_singleton] at inside
        omega
      subst last
      exact ⟨_, List.mem_append_right _ (List.mem_singleton_self _), rfl⟩
  · intro holding listed
    exact List.mem_append_left _ (orderly.shownHeld holding listed)

theorem Orderly.copy (orderly : session.Orderly) (index : Nat) :
    (session.step (.copy index)).Orderly := by
  refine ⟨orderly.tracks, ?_, ?_, ?_, orderly.ascending⟩
  · intro holding listed
    rcases List.mem_append.mp listed with earlier | copied
    · exact orderly.genuine holding earlier
    · exact orderly.genuine holding (List.mem_of_getElem? (Option.mem_toList.mp copied))
  · intro render inside
    rcases orderly.held render inside with ⟨holding, listed, same⟩
    exact ⟨holding, List.mem_append_left _ listed, same⟩
  · intro holding listed
    exact List.mem_append_left _ (orderly.shownHeld holding listed)

/-- Showing a page shows it under a holding whose ticket is current, or changes nothing. -/
theorem step_publish_cases (session : Session) (index : Nat) :
    (∃ holding, session.holdings[index]? = some holding ∧
      session.generations.isCurrent holding.ticket = true ∧
      session.step (.publish index) = { session with shown := session.shown ++ [holding] }) ∨
    session.step (.publish index) = session := by
  cases found : session.holdings[index]?.filter fun holding =>
      session.generations.isCurrent holding.ticket with
  | none =>
      right
      simp [step, found]
  | some holding =>
      left
      have both := Option.filter_eq_some_iff.mp found
      exact ⟨holding, both.1, both.2, by simp [step, found]⟩

/-- A current ticket has the latest generation of its page, so what was shown for the page before
is not newer. -/
theorem Orderly.publish (orderly : session.Orderly) (index : Nat) :
    (session.step (.publish index)).Orderly := by
  rcases step_publish_cases session index with ⟨holding, found, current, stepped⟩ | same
  · have listed := List.mem_of_getElem? found
    have genuine := orderly.genuine holding listed
    have newest := (genuine.isCurrent_iff orderly.tracks).mp current
    rw [stepped]
    refine ⟨orderly.tracks, orderly.genuine, orderly.held, ?_, ?_⟩
    · intro other shown
      rcases List.mem_append.mp shown with earlier | new
      · exact orderly.shownHeld other earlier
      · rcases List.mem_singleton.mp new with rfl
        exact listed
    · intro page
      simp only [shownFor, List.filter_append]
      refine List.pairwise_append.mpr ⟨orderly.ascending page, ?_, ?_⟩
      · exact (List.pairwise_singleton _ _).filter _
      · intro earlier earlierShown last lastShown
        simp only [List.mem_filter, beq_iff_eq] at earlierShown
        simp only [List.mem_filter, List.mem_singleton, beq_iff_eq] at lastShown
        rcases earlierShown with ⟨wasShown, samePage⟩
        rcases lastShown with ⟨rfl, rfl⟩
        have counted := (orderly.genuine earlier (orderly.shownHeld earlier wasShown)).count_eq
        have all := genuine.count_eq
        rw [List.count_eq_zero.mpr newest] at all
        rw [samePage] at counted
        omega
  · rw [same]
    exact orderly

theorem Orderly.step (orderly : session.Orderly) (move : Move) :
    (session.step move).Orderly := by
  cases move with
  | start page => exact orderly.start page
  | copy index => exact orderly.copy index
  | publish index => exact orderly.publish index

theorem Orderly.foldl (orderly : session.Orderly) (moves : List Move) :
    (moves.foldl Session.step session).Orderly := by
  induction moves generalizing session with
  | nil => exact orderly
  | cons move moves ih => exact ih (orderly.step move)

theorem orderly_run (moves : List Move) : (run moves).Orderly := by
  refine Orderly.foldl ⟨Generations.tracks_nil, ?_, ?_, ?_, ?_⟩ moves
  · intro holding listed
    cases listed
  · intro render inside
    cases inside
  · intro holding listed
    cases listed
  · intro page
    exact List.Pairwise.nil

theorem run_append (before after : List Move) :
    run (before ++ after) = after.foldl step (run before) :=
  List.foldl_append

/-! ## The record -/

theorem begun_step (session : Session) (move : Move) :
    (session.step move).begun = session.begun ++ move.page?.toList := by
  cases move with
  | start page => rfl
  | copy index => simp [step, Move.page?]
  | publish index => simp [step, Move.page?]

theorem begun_foldl (session : Session) (moves : List Move) :
    (moves.foldl step session).begun = session.begun ++ moves.filterMap Move.page? := by
  induction moves generalizing session with
  | nil => simp
  | cons move moves ih =>
      rw [List.foldl_cons, ih, begun_step, List.append_assoc]
      cases started : move.page? with
      | none => simp [started]
      | some page => simp [started]

theorem begun_run (moves : List Move) :
    (run moves).begun = moves.filterMap Move.page? :=
  begun_foldl {} moves

theorem mem_holdings_step (move : Move) (listed : holding ∈ session.holdings) :
    holding ∈ (session.step move).holdings := by
  cases move with
  | start page => exact List.mem_append_left _ listed
  | copy index => exact List.mem_append_left _ listed
  | publish index => exact listed

theorem mem_holdings_foldl (moves : List Move) (listed : holding ∈ session.holdings) :
    holding ∈ (moves.foldl step session).holdings := by
  induction moves generalizing session with
  | nil => exact listed
  | cons move moves ih => exact ih (mem_holdings_step move listed)

theorem later_run_append {moves : List Move} (listed : holding ∈ (run moves).holdings)
    (more : List Move) :
    holding.later (run (moves ++ more)).begun =
      holding.later (run moves).begun ++ more.filterMap Move.page? := by
  have inside := ((orderly_run moves).genuine holding listed).lt_length
  rw [run_append, begun_foldl, Holding.later, List.drop_append_of_le_length (by omega)]
  rfl

theorem stays_stale {moves : List Move} (listed : holding ∈ (run moves).holdings)
    (stale : (run moves).generations.isCurrent holding.ticket = false) (more : List Move) :
    (run (moves ++ more)).generations.isCurrent holding.ticket = false := by
  have now := orderly_run moves
  have afterwards := orderly_run (moves ++ more)
  have kept : holding ∈ (run (moves ++ more)).holdings := by
    rw [run_append]
    exact mem_holdings_foldl more listed
  have iffNow := (now.genuine holding listed).isCurrent_iff now.tracks
  have iffThen := (afterwards.genuine holding kept).isCurrent_iff afterwards.tracks
  have superseded : holding.page ∈ holding.later (run moves).begun := by
    by_contra absent
    simp [iffNow.mpr absent] at stale
  refine Bool.eq_false_iff.mpr fun current => iffThen.mp current ?_
  rw [later_run_append listed]
  exact List.mem_append_left _ superseded

/-- A page with a render has a current holding: that of its last render. -/
theorem Orderly.exists_current (orderly : session.Orderly) {page : String}
    (started : page ∈ session.begun) :
    ∃ holding ∈ session.holdings, holding.page = page ∧
      session.generations.isCurrent holding.ticket = true := by
  rcases List.eq_append_cons_of_mem (List.mem_reverse.mpr started) with
    ⟨back, front, reversed, last⟩
  have split : session.begun = front.reverse ++ page :: back.reverse := by
    have both := congrArg List.reverse reversed
    simpa using both
  rcases orderly.held front.length (by simp [split]) with ⟨holding, listed, sameRender⟩
  have genuine := orderly.genuine holding listed
  have samePage : holding.page = page := by
    have recorded := genuine.recorded
    simpa [split, sameRender] using recorded.symm
  refine ⟨holding, listed, samePage, (genuine.isCurrent_iff orderly.tracks).mpr ?_⟩
  have after : holding.later session.begun = back.reverse := by
    have passed : front.reverse.drop (front.length + 1) = [] :=
      List.drop_eq_nil_of_le (by simp)
    simp [Holding.later, split, sameRender, List.drop_append, passed]
  rw [after, samePage]
  simpa using last

theorem Orderly.generation_eq (orderly : session.Orderly) (listed : holding ∈ session.holdings)
    (current : session.generations.isCurrent holding.ticket = true) :
    holding.ticket.generation = session.begun.count holding.page := by
  have genuine := orderly.genuine holding listed
  have newest := (genuine.isCurrent_iff orderly.tracks).mp current
  rw [genuine.count_eq, List.count_eq_zero.mpr newest, Nat.add_zero]

/-- The numbers of counters and tickets are bounded by how often the renders of a page have started,
so words of 64 bits hold them until a page has had `2 ^ 64` renders. -/
theorem Orderly.numbers_lt (orderly : session.Orderly) {bound : Nat}
    (few : ∀ page, session.begun.count page < bound) :
    (∀ page counter, session.generations.pages.get? page = some counter →
      session.generations.count counter < bound) ∧
    ∀ holding ∈ session.holdings, holding.ticket.generation < bound := by
  constructor
  · intro page counter found
    rw [orderly.tracks.count_eq found]
    exact few page
  · intro holding listed
    have counted := (orderly.genuine holding listed).count_eq
    have bounded := few holding.page
    omega

/-- In every run, every start of a render is answered with a ticket that has the number of the
render among those of its page. A ticket, or a copy of it, is current exactly as long as no later
render of its page has started, whatever happens to other pages, and once it is stale it stays so.
Each page with a render has exactly one current generation, and the tracker holds these pages and
no others. -/
theorem current_until_next_start (moves : List Move) :
    let session := run moves
    session.begun = moves.filterMap Move.page? ∧
      (∀ render page, session.begun[render]? = some page →
        ∃ holding ∈ session.holdings, holding.render = render ∧ holding.page = page) ∧
      (∀ holding ∈ session.holdings,
        session.begun[holding.render]? = some holding.page ∧
          holding.ticket.generation =
            (session.begun.take (holding.render + 1)).count holding.page ∧
          (session.generations.isCurrent holding.ticket = true ↔
            holding.page ∉ session.begun.drop (holding.render + 1)) ∧
          (session.generations.isCurrent holding.ticket = false → ∀ more,
            (run (moves ++ more)).generations.isCurrent holding.ticket = false)) ∧
      (∀ page ∈ session.begun, ∃! generation, ∃ holding ∈ session.holdings,
        holding.page = page ∧ holding.ticket.generation = generation ∧
          session.generations.isCurrent holding.ticket = true) ∧
      session.generations.size = session.begun.dedup.length := by
  intro session
  have orderly : session.Orderly := orderly_run moves
  refine ⟨begun_run moves, ?_, ?_, ?_, orderly.tracks.size_eq⟩
  · intro render page started
    have inside := (List.getElem?_eq_some_iff.mp started).1
    rcases orderly.held render inside with ⟨holding, listed, sameRender⟩
    have recorded := (orderly.genuine holding listed).recorded
    rw [sameRender, started] at recorded
    exact ⟨holding, listed, sameRender, (Option.some.inj recorded).symm⟩
  · intro holding listed
    have genuine := orderly.genuine holding listed
    exact ⟨genuine.recorded, genuine.generation, genuine.isCurrent_iff orderly.tracks,
      fun stale more => stays_stale listed stale more⟩
  · intro page started
    rcases orderly.exists_current started with ⟨holding, listed, samePage, current⟩
    refine ⟨holding.ticket.generation, ⟨holding, listed, samePage, rfl, current⟩, ?_⟩
    rintro generation ⟨other, otherListed, otherPage, rfl, otherCurrent⟩
    rw [orderly.generation_eq listed current, orderly.generation_eq otherListed otherCurrent,
      samePage, otherPage]

/-- A page whose second render overtakes the first, which then tries to show what it has. -/
def overtaken : List Move :=
  [.start "/a", .start "/b", .copy 0, .publish 2, .start "/a", .publish 0, .publish 3, .publish 2]

theorem overtaken_stays_stale :
    let stale : Ticket := ⟨1, 0⟩
    (run overtaken).begun = ["/a", "/b", "/a"] ∧ ⟨"/a", 0, stale⟩ ∈ (run overtaken).holdings ∧
      (run overtaken).generations.isCurrent stale = false ∧
      ∀ more, (run (overtaken ++ more)).generations.isCurrent stale = false := by
  intro stale
  have listed : ⟨"/a", 0, stale⟩ ∈ (run overtaken).holdings := by decide +kernel
  have overtakenNow : (run overtaken).generations.isCurrent stale = false := by decide +kernel
  have tickets := (current_until_next_start overtaken).2.2.1 _ listed
  exact ⟨by decide +kernel, listed, overtakenNow, tickets.2.2.2 overtakenNow⟩

/-! ## What is shown -/

/-- As long as no render of its page starts, what a newest holding shows stays shown: whatever else
is shown for the page is shown under a holding of the same render. -/
theorem displayed_step (orderly : session.Orderly) (listed : holding ∈ session.holdings)
    (newest : holding.page ∉ holding.later session.begun)
    (displayed : session.displayed holding.page = some holding) {move : Move}
    (other : move ≠ .start holding.page) :
    holding.page ∉ holding.later (session.step move).begun ∧
      (session.step move).displayed holding.page = some holding := by
  have genuine := orderly.genuine holding listed
  have inside := genuine.lt_length
  cases move with
  | start page =>
      refine ⟨?_, displayed⟩
      have different : holding.page ≠ page := fun same => other (by rw [same])
      have split : holding.later (session.begun ++ [page]) = holding.later session.begun ++ [page] :=
        List.drop_append_of_le_length (by omega)
      simp only [step, split, List.mem_append, List.mem_singleton, not_or]
      exact ⟨newest, different⟩
  | copy index => exact ⟨newest, displayed⟩
  | publish index =>
      refine ⟨newest, ?_⟩
      rcases step_publish_cases session index with ⟨shown, found, current, stepped⟩ | same
      · rw [stepped]
        by_cases samePage : shown.page = holding.page
        · -- Both tickets are current, so what replaces the display is of the same render.
          have shownListed := List.mem_of_getElem? found
          have shownGenuine := orderly.genuine shown shownListed
          have shownNewest := (shownGenuine.isCurrent_iff orderly.tracks).mp current
          have same := genuine.eq_of_current shownGenuine samePage newest shownNewest
          simp [Session.displayed, shownFor, same]
        · have unchanged : (session.shown ++ [shown]).filter (fun other =>
              other.page == holding.page) = session.shownFor holding.page := by
            simp [shownFor, samePage]
          rw [Session.displayed, shownFor, unchanged]
          exact displayed
      · rw [same]
        exact displayed

theorem displayed_foldl (orderly : session.Orderly) (listed : holding ∈ session.holdings)
    (newest : holding.page ∉ holding.later session.begun)
    (displayed : session.displayed holding.page = some holding) {moves : List Move}
    (unstarted : Move.start holding.page ∉ moves) :
    (moves.foldl step session).displayed holding.page = some holding := by
  induction moves generalizing session with
  | nil => exact displayed
  | cons move moves ih =>
      rw [List.mem_cons, not_or] at unstarted
      have stepped := displayed_step orderly listed newest displayed (Ne.symm unstarted.1)
      exact ih (orderly.step move) (mem_holdings_step move listed) stepped.1 stepped.2
        unstarted.2

theorem displayed_publish (orderly : session.Orderly) {index : Nat}
    (found : session.holdings[index]? = some holding)
    (newest : holding.page ∉ holding.later session.begun) :
    (session.step (.publish index)).displayed holding.page = some holding := by
  have listed := List.mem_of_getElem? found
  have current := ((orderly.genuine holding listed).isCurrent_iff orderly.tracks).mpr newest
  simp [displayed, shownFor, step, found, Option.filter, current]

/-- In every run, the generations shown for a page never decrease, and once the newest ticket of a
page is published, the page shows what was rendered under that ticket until another render of the
page starts. -/
theorem never_shows_older (moves : List Move) :
    (∀ page, ((run moves).shownFor page).Pairwise fun earlier later =>
        earlier.ticket.generation ≤ later.ticket.generation) ∧
      ∀ before index after holding, moves = before ++ .publish index :: after →
        (run before).holdings[index]? = some holding →
        holding.page ∉ (run before).begun.drop (holding.render + 1) →
        Move.start holding.page ∉ after →
          (run moves).displayed holding.page = some holding := by
  refine ⟨(orderly_run moves).ascending, ?_⟩
  rintro before index after holding rfl found newest unstarted
  have orderly := orderly_run before
  have listed := List.mem_of_getElem? found
  have published := displayed_publish orderly found newest
  rw [run_append, List.foldl_cons]
  refine displayed_foldl (orderly.publish index) listed ?_ published unstarted
  exact newest

theorem overtaken_shows_newest :
    (run overtaken).displayed "/a" = some ⟨"/a", 2, ⟨2, 0⟩⟩ ∧
      (run overtaken).shown.map Holding.render = [0, 2] := by
  have shown := (never_shows_older overtaken).2
    [.start "/a", .start "/b", .copy 0, .publish 2, .start "/a", .publish 0] 3 [.publish 2]
    ⟨"/a", 2, ⟨2, 0⟩⟩ rfl (by decide +kernel) (by decide +kernel) (by decide)
  exact ⟨shown, by decide +kernel⟩

end Session

end PageRender
