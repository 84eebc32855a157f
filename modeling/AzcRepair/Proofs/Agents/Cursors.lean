import Mathlib.Data.List.Nodup
import Mathlib.Data.List.Perm.Subperm
import Mathlib.Data.Option.Basic
import AzcRepair.Proofs.Agents.Paging

/-!
# Where a list ends

The client goes on from a page to the cursor that the page names, and remembers no cursor that it
was at. Whatever the service answers, a list is therefore a chain of pages, and it ends unless the
chain leads back to a page that was read.

* `readings` — the pages that were read, each with the cursor that it was asked for with.
* `Turns` — the tries at a request, of which only the last one reads a page.
* `Reads` — how a list is read from a cursor on; `Ended` when it ends by itself.
* `AsksAnew` — no request asks for a page that was read; `Reads.accepts` when no two pages lead on to
  the same cursor.
* `Whole` — a chain of pages up to one that leads nowhere; `Whole.nodup` when pages do not change.
* `list_ends` — the list is no longer than there are pages, unless the service leads to a page twice,
  as in `list_goes_round`.
-/

namespace AzcRepair.Agents.Client

open Access (Cache)
open Procedure (Event History Yields)

variable {α : Type} {client : Client} {item : Json → Option α} {path : String}
  {extra : List (String × String)} {cache after : Cache} {events history : History Call Answer}
  {request : Http.Request} {cursor : Option String} {left : Nat}

/-! ## Pages that are read

A history is reduced to the pages in it. Each stands with the cursor of its request, so the chain
of pages can be followed: the cursor of every page but the first is the one that the page before
it leads on to. -/

/-- A page, with the cursor that it was asked for with. -/
abbrev Reading (α : Type) := Option String × Page α

/-- The page in the answer to a request. -/
def reading? (item : Json → Option α) : Event Call Answer → Option (Reading α)
  | ⟨.send request _, answer⟩ =>
    match received (Page.ofJson? item) (answer.mapError .network) with
    | .ok page => some (cursor? request, page)
    | .error _ => none
  | _ => none

/-- The pages of a history, in the order in which they were read. -/
def readings (item : Json → Option α) (history : History Call Answer) : List (Reading α) :=
  history.filterMap (reading? item)

/-- The cursor that a page leads on to. -/
def onward? (page : Page α) : Option String :=
  if isLast page then none else page.lastId

/-- The cursors that pages were asked for with. -/
def asked (readings : List (Reading α)) : List (Option String) :=
  readings.map (·.1)

/-- The cursors that the service led on to. -/
def named (readings : List (Reading α)) : List String :=
  readings.filterMap (onward? ·.2)

theorem named_of_last {page : Page α} (last : isLast page = true) : named [(cursor, page)] = [] := by
  apply List.filterMap_cons_none
  show onward? page = none
  rw [onward?, if_pos last]

/-- A page that is not the last one leads on to the cursor that it names. -/
theorem named_of_more {page : Page α} (more : isLast page = false) (rest : List (Reading α)) :
    (named ((cursor, page) :: rest)).map some = page.lastId :: (named rest).map some := by
  have leads : page.lastId ≠ none := by
    intro none
    simp [isLast, none] at more
  obtain ⟨next, same⟩ := Option.ne_none_iff_exists'.mp leads
  have onward : onward? page = some next := by
    rw [onward?, more, same]
    rfl
  have names : named ((cursor, page) :: rest) = next :: named rest :=
    List.filterMap_cons_some onward
  rw [names, same, List.map_cons]

theorem readings_append (first second : History Call Answer) :
    readings item (first ++ second) = readings item first ++ readings item second :=
  List.filterMap_append

theorem readings_of_quiet (quiet : ∀ event ∈ events, isSend event = false) :
    readings item events = [] := by
  apply List.filterMap_eq_nil_iff.mpr
  rintro ⟨call, answer⟩ mem
  cases call with
  | send => cases quiet _ mem
  | fetchToken | clock | pause | fileContent => rfl

theorem length_readings_le (item : Json → Option α) (history : History Call Answer) :
    (readings item history).length ≤ history.countP isSend := by
  rw [readings, List.length_filterMap_eq_countP]
  apply List.countP_mono_left
  rintro ⟨call, answer⟩ mem read
  cases call with
  | send => rfl
  | fetchToken | clock | pause | fileContent => cases read

/-! ## One request

A request for a page is tried several times. Of its tries only the last one can read a page, since
a try that does so ends the request. Here the tries are turned into relations, without the token
and the numbers that the client keeps. -/

/-- What was read when a request comes to this. -/
def shown (cursor : Option String) : Except Worker.Failure (Page α) → List (Reading α)
  | .ok page => [(cursor, page)]
  | .error _ => []

/-- What is read from an answer is what the request comes to. -/
theorem readings_send (secret : String) (answer : Except Worker.Network Http.Reply) :
    readings item [⟨.send request secret, answer⟩] =
      shown (cursor? request) (received (Page.ofJson? item) (answer.mapError .network)) := by
  cases arrived : received (Page.ofJson? item) (answer.mapError .network) with
  | error failure => simp [readings, reading?, arrived, shown]
  | ok page => simp [readings, reading?, arrived, shown]

/-- A try at a request: it is sent in the end, if at all. -/
inductive Turn (item : Json → Option α) (request : Http.Request) :
    History Call Answer → Except Worker.Failure (Page α) → Prop where
  | unsent {before : History Call Answer} {failure : Worker.Failure}
    (quiet : ∀ event ∈ before, isSend event = false) : Turn item request before (.error failure)
  | sent {before : History Call Answer} (quiet : ∀ event ∈ before, isSend event = false)
    (secret : String) (answer : Except Worker.Network Http.Reply) :
    Turn item request (before ++ [⟨.send request secret, answer⟩])
      (received (Page.ofJson? item) (answer.mapError .network))

/-- A try sends its request once, or not at all. -/
theorem turn_of_attempt {result : Except Worker.Failure (Page α)}
    (h : Yields ((client.attempt (Page.ofJson? item) request).run cache) events (result, after)) :
    Turn item request events result := by
  rw [attempt_run] at h
  obtain ⟨early, late, ⟨answer, middle⟩, rfl, exchanged, rest⟩ := Yields.of_bind h
  cases rest
  obtain ⟨bearing, before, sent, rfl, borne, sends⟩ := of_exchange exchanged
  rw [List.append_nil]
  cases sends with
  | refused failure | unbuildable refused =>
    rw [List.append_nil]
    exact .unsent borne.quiet
  | answered secret answer => exact .sent borne.quiet secret answer

theorem Turn.reads {result : Except Worker.Failure (Page α)} (turn : Turn item request events result) :
    readings item events = shown (cursor? request) result ∧ events.countP isSend ≤ 1 := by
  cases turn with
  | unsent quiet =>
    rw [readings_of_quiet quiet, countP_isSend_of_quiet quiet]
    exact ⟨rfl, Nat.zero_le 1⟩
  | sent quiet secret answer =>
    rw [readings_append, readings_of_quiet quiet, List.countP_append, countP_isSend_of_quiet quiet]
    exact ⟨readings_send secret answer, Nat.le_refl 1⟩

/-- The tries at a request, with a wait after each that failed and is followed by another. -/
inductive Turns (item : Json → Option α) (request : Http.Request) :
    Nat → History Call Answer → Except Worker.Failure (Page α) → Prop where
  | last {left : Nat} {events : History Call Answer} {result : Except Worker.Failure (Page α)}
    (turn : Turn item request events result) : Turns item request left events result
  | again {left ms : Nat} {events later : History Call Answer} {failure : Worker.Failure}
    {result : Except Worker.Failure (Page α)} (turn : Turn item request events (.error failure))
    (turns : Turns item request left later result) :
    Turns item request (left + 1) (events ++ ⟨.pause ms, ()⟩ :: later) result

/-- Repeated tries are tries with waits between them. -/
theorem turns_of_repeatFrom {made : UInt32} {result : Except Worker.Failure (Page α)}
    (h : Yields ((client.backoff.repeatFrom wait (client.attempt (Page.ofJson? item) request) left
      made).run cache) events (result, after)) : Turns item request left events result := by
  -- the induction is on the tries that are left
  induction left generalizing made cache events with
  | zero => exact .last (turn_of_attempt h)
  | succ left ih =>
    rw [repeatFrom_run] at h
    obtain ⟨early, late, ⟨tried, middle⟩, rfl, attempted, rest⟩ := Yields.of_bind h
    have turn := turn_of_attempt attempted
    cases tried with
    | ok page =>
      cases rest
      rw [List.append_nil]
      exact .last turn
    | error failure =>
      cases transient : failure.isTransient with
      | false =>
        simp only [transient] at rest
        cases rest
        rw [List.append_nil]
        exact .last turn
      | true =>
        simp only [transient, if_true] at rest
        cases rest with
        | call paused again => exact .again turn (ih again)

/-- Only the last try reads a page. -/
theorem Turns.reads {result : Except Worker.Failure (Page α)}
    (turns : Turns item request left events result) :
    readings item events = shown (cursor? request) result ∧ events.countP isSend ≤ left + 1 := by
  induction turns with
  | last turn =>
    obtain ⟨read, sends⟩ := turn.reads
    exact ⟨read, Nat.le_trans sends (Nat.succ_pos _)⟩
  | @again left ms events later failure result turn turns ih =>
    obtain ⟨read, sends⟩ := turn.reads
    obtain ⟨readLater, sendsLater⟩ := ih
    rw [readings_append, read]
    refine ⟨readLater, ?_⟩
    rw [List.countP_append, List.countP_cons_of_neg (by simp [isSend])]
    omega

/-- The page behind a cursor is asked for, which comes to this. -/
def Asks (client : Client) (item : Json → Option α) (path : String)
    (extra : List (String × String)) (cursor : Option String) (events : History Call Answer)
    (result : Except Worker.Failure (Page α)) : Prop :=
  ∃ before after, Yields ((client.send (Page.ofJson? item)
    (client.pageRequest path extra cursor)).run before) events (result, after)

/-- To ask for a page is to try its request. -/
theorem Asks.turns {result : Except Worker.Failure (Page α)}
    (asks : Asks client item path extra cursor events result) :
    Turns item (client.pageRequest path extra cursor) client.backoff.maxRetries.toNat events
      result := by
  obtain ⟨before, after, yields⟩ := asks
  exact turns_of_repeatFrom yields

/-- Asking for a page reads the page that it comes to, in no more requests than may be tried. -/
theorem Asks.reads {result : Except Worker.Failure (Page α)}
    (asks : Asks client item path extra cursor events result)
    (further : extra.lookup "after" = none) :
    readings item events = shown cursor result ∧
      events.countP isSend ≤ client.backoff.maxRetries.toNat + 1 := by
  have both := asks.turns.reads
  rw [cursor?_pageRequest further] at both
  exact both

/-- The page that was asked for comes before the others. -/
theorem Asks.readings_append {page : Page α}
    (asks : Asks client item path extra cursor events (.ok page))
    (further : extra.lookup "after" = none) (later : History Call Answer) :
    readings item (events ++ later) = (cursor, page) :: readings item later := by
  rw [Client.readings_append, (asks.reads further).1]
  rfl

/-! ## Page by page

`Reads` follows the recursion of the list, with one rule for each way to go on or to end. The
facts about lists are proved by induction on this relation, and none of them looks into the client
again. -/

/-- How a list is read from a cursor on, when so many pages may be asked for. -/
inductive Reads (client : Client) (item : Json → Option α) (path : String)
    (extra : List (String × String)) :
    Nat → Option String → History Call Answer → Except Worker.Failure (List α) → Prop where
  /-- No further page may be asked for. -/
  | cutOff {cursor : Option String} : Reads client item path extra 0 cursor [] (.error tooManyPages)
  /-- The request for the page failed for good. -/
  | refused {left : Nat} {cursor : Option String} {events : History Call Answer}
    {failure : Worker.Failure} (asks : Asks client item path extra cursor events (.error failure)) :
    Reads client item path extra (left + 1) cursor events (.error failure)
  /-- The page leads nowhere. -/
  | last {left : Nat} {cursor : Option String} {events : History Call Answer} {page : Page α}
    (asks : Asks client item path extra cursor events (.ok page)) (last : isLast page = true) :
    Reads client item path extra (left + 1) cursor events (.ok page.items)
  /-- The page leads on, and the others are read from there. -/
  | more {left : Nat} {cursor : Option String} {events later : History Call Answer} {page : Page α}
    {others : Except Worker.Failure (List α)}
    (asks : Asks client item path extra cursor events (.ok page)) (more : isLast page = false)
    (reads : Reads client item path extra left page.lastId later others) :
    Reads client item path extra (left + 1) cursor (events ++ later)
      (others.map (page.items ++ ·))

/-- A list is read in one of these ways. -/
theorem reads_of_listAfter {result : Except Worker.Failure (List α)}
    (h : Yields ((client.listAfter item path extra left cursor).run cache) events (result, after)) :
    Reads client item path extra left cursor events result := by
  -- the induction is on the pages that may be asked for
  induction left generalizing cursor cache events result with
  | zero =>
    cases h
    exact .cutOff
  | succ left ih =>
    rw [listAfter_run] at h
    obtain ⟨early, late, ⟨page, middle⟩, rfl, sends, rest⟩ := Yields.of_bind h
    have asks : Asks client item path extra cursor early page := ⟨cache, middle, sends⟩
    cases page with
    | error failure =>
      cases rest
      rw [List.append_nil]
      exact .refused asks
    | ok page =>
      rw [goOn] at rest
      cases isEnd : isLast page with
      | true =>
        simp only [isEnd, if_true] at rest
        cases rest
        rw [List.append_nil]
        exact .last asks isEnd
      | false =>
        simp only [isEnd] at rest
        obtain ⟨later, nothing, ⟨others, kept⟩, rfl, reads, ends⟩ := Yields.of_bind rest
        cases ends
        rw [List.append_nil]
        exact .more asks isEnd (ih reads)

/-- The list ended by itself: with a page that leads nowhere, and all that was read, or with a
request that failed for good. -/
inductive Ended (client : Client) (item : Json → Option α) (path : String)
    (extra : List (String × String)) :
    History Call Answer → Except Worker.Failure (List α) → Prop where
  | whole {history : History Call Answer} {before : List (Reading α)} {reading : Reading α}
    (read : readings item history = before ++ [reading]) (last : isLast reading.2 = true) :
    Ended client item path extra history (.ok ((readings item history).flatMap (·.2.items)))
  | refused {before events : History Call Answer} {cursor : Option String}
    {failure : Worker.Failure} (asks : Asks client item path extra cursor events (.error failure)) :
    Ended client item path extra (before ++ events) (.error failure)

section Reads

variable {result : Except Worker.Failure (List α)}

/-- Every page but the first is asked for with the cursor that the page before it leads on to. -/
theorem Reads.asked_prefix (further : extra.lookup "after" = none)
    (reads : Reads client item path extra left cursor history result) :
    asked (readings item history) <+: cursor :: (named (readings item history)).map some := by
  induction reads with
  | cutOff => exact List.nil_prefix
  | refused asks =>
    rw [(asks.reads further).1]
    exact List.nil_prefix
  | last asks =>
    rw [(asks.reads further).1]
    exact List.cons_prefix_cons.mpr ⟨rfl, List.nil_prefix⟩
  | @more left cursor events later page others asks more reads ih =>
    rw [asks.readings_append further, named_of_more more]
    exact List.cons_prefix_cons.mpr ⟨rfl, ih⟩

/-- Every page costs as many requests as are tried, and so does a request that fails for good. -/
theorem Reads.sends_le (further : extra.lookup "after" = none)
    (reads : Reads client item path extra left cursor history result) :
    history.countP isSend ≤
      ((readings item history).length + 1) * (client.backoff.maxRetries.toNat + 1) := by
  induction reads with
  | cutOff => exact Nat.zero_le _
  | refused asks =>
    obtain ⟨read, sends⟩ := asks.reads further
    rw [read]
    simpa [shown] using sends
  | last asks =>
    obtain ⟨read, sends⟩ := asks.reads further
    rw [read]
    exact Nat.le_trans sends (Nat.le_mul_of_pos_left _ (Nat.succ_pos _))
  -- the page and the rest: one page more, and its tries
  | @more left cursor events later page others asks more reads ih =>
    have sends := (asks.reads further).2
    rw [asks.readings_append further, List.countP_append, List.length_cons, Nat.succ_mul]
    omega

/-- A list of which not all pages were asked for that may be ended by itself. -/
theorem Reads.ended (further : extra.lookup "after" = none)
    (reads : Reads client item path extra left cursor history result)
    (within : (readings item history).length < left) :
    Ended client item path extra history result := by
  induction reads with
  | cutOff => cases within
  | @refused left cursor events failure asks =>
    rw [← List.nil_append events]
    exact .refused asks
  | @last left cursor events page asks last =>
    have read : readings item events = [] ++ [(cursor, page)] := (asks.reads further).1
    have items : page.items = (readings item events).flatMap (·.2.items) := by simp [read]
    rw [items]
    exact .whole read last
  | @more left cursor events later page others asks more reads ih =>
    have read := asks.readings_append further later
    rw [read, List.length_cons] at within
    have endedLater := ih (Nat.lt_of_succ_lt_succ within)
    cases endedLater with
    -- what the rest read, behind the page that led to it
    | @whole later before reading readLater last =>
      have readAll : readings item (events ++ later) = ((cursor, page) :: before) ++ [reading] := by
        rw [read, readLater]
        rfl
      have items : page.items ++ (readings item later).flatMap (·.2.items) =
          (readings item (events ++ later)).flatMap (·.2.items) := by
        rw [read]
        rfl
      show Ended client item path extra (events ++ later)
        (.ok (page.items ++ (readings item later).flatMap (·.2.items)))
      rw [items]
      exact .whole readAll last
    | @refused before events' cursor' failure asks =>
      rw [← List.append_assoc]
      exact .refused asks

end Reads

/-! ## Requests for pages that were read

A page is asked for again only when some cursor is named twice. Put the other way, distinct
cursors keep every request apart from all that were sent before it, and this is a permission that
depends on the past. -/

/-- The call asks for no page that was read before. -/
def AsksAnew (item : Json → Option α) (past : History Call Answer) : Call → Prop
  | .send request _ => cursor? request ∉ asked (readings item past)
  | _ => True

/-- Where nothing is sent, nothing is asked for again. -/
theorem accepts_of_quiet {past : History Call Answer}
    (quiet : ∀ event ∈ events, isSend event = false) :
    (Monitor.upon (AsksAnew item)).Accepts past events := by
  induction events generalizing past with
  | nil => trivial
  | cons event rest ih =>
    obtain ⟨first, others⟩ := List.forall_mem_cons.mp quiet
    refine ⟨?_, ih others⟩
    obtain ⟨call, answer⟩ := event
    cases call with
    | send => cases first
    | fetchToken | clock | pause | fileContent => trivial

/-- A try asks for nothing that was read, when its cursor is none of those. -/
theorem Turn.accepts {past : History Call Answer} {result : Except Worker.Failure (Page α)}
    (turn : Turn item request events result)
    (anew : cursor? request ∉ asked (readings item past)) :
    (Monitor.upon (AsksAnew item)).Accepts past events := by
  cases turn with
  | unsent quiet => exact accepts_of_quiet quiet
  | sent quiet secret answer =>
    refine Monitor.accepts_append.mpr ⟨accepts_of_quiet quiet, ?_, trivial⟩
    rw [Monitor.upon_after]
    show cursor? request ∉ asked (readings item (past ++ _))
    rw [readings_append, readings_of_quiet quiet, List.append_nil]
    exact anew

/-- The same of repeated tries, of which no failed one adds to what was read. -/
theorem Turns.accepts {past : History Call Answer} {result : Except Worker.Failure (Page α)}
    (turns : Turns item request left events result)
    (anew : cursor? request ∉ asked (readings item past)) :
    (Monitor.upon (AsksAnew item)).Accepts past events := by
  induction turns generalizing past with
  | last turn => exact turn.accepts anew
  | @again left ms events later failure result turn turns ih =>
    refine Monitor.accepts_append.mpr ⟨turn.accepts anew, trivial, ih ?_⟩
    -- a try that failed read nothing, and neither does the wait
    have nothing : readings item events = [] := turn.reads.1
    have waited : readings item [⟨.pause ms, ()⟩] = [] := rfl
    rw [Monitor.upon_after]
    show cursor? request ∉ asked (readings item (past ++ events ++ [⟨.pause ms, ()⟩]))
    rw [readings_append, readings_append, nothing, waited, List.append_nil, List.append_nil]
    exact anew

theorem Asks.accepts {past : History Call Answer} {result : Except Worker.Failure (Page α)}
    (asks : Asks client item path extra cursor events result)
    (further : extra.lookup "after" = none) (anew : cursor ∉ asked (readings item past)) :
    (Monitor.upon (AsksAnew item)).Accepts past events := by
  apply asks.turns.accepts
  rw [cursor?_pageRequest further]
  exact anew

/-- While no two pages lead on to the same cursor, no request asks for a page that was read. -/
theorem Reads.accepts {past : History Call Answer} {result : Except Worker.Failure (List α)}
    (further : extra.lookup "after" = none)
    (reads : Reads client item path extra left cursor history result)
    (distinct : (asked (readings item past) ++
      cursor :: (named (readings item history)).map some).Nodup) :
    (Monitor.upon (AsksAnew item)).Accepts past history := by
  -- the cursors that are named later are apart from all that were asked for until then
  induction reads generalizing past with
  | cutOff => trivial
  | refused asks | last asks =>
    apply asks.accepts further
    exact fun again => List.disjoint_of_nodup_append distinct again List.mem_cons_self
  | @more left cursor events later page others asks more reads ih =>
    have anew : cursor ∉ asked (readings item past) :=
      fun again => List.disjoint_of_nodup_append distinct again List.mem_cons_self
    have first := asks.accepts further anew
    refine Monitor.accepts_append.mpr ⟨first, ih ?_⟩
    have askedNow : asked (readings item (past ++ events)) =
        asked (readings item past) ++ [cursor] := by
      rw [readings_append, (asks.reads further).1]
      exact List.map_append
    rw [Monitor.upon_after, askedNow, List.append_assoc]
    rw [asks.readings_append further, named_of_more more] at distinct
    exact distinct

/-! ## Pages that do not change

When the service shows the same page at the same cursor, a chain that visits a cursor twice would
go round for ever. A list that was had to its end is a finite chain, so its cursors are distinct.
-/

/-- Pages from a cursor on, each found at the cursor that the page before it leads on to, up to one
that leads nowhere. -/
inductive Whole : Option String → List (Reading α) → Prop where
  | last {cursor : Option String} {page : Page α} (last : isLast page = true) :
    Whole cursor [(cursor, page)]
  | more {cursor : Option String} {page : Page α} {rest : List (Reading α)}
    (more : isLast page = false) (whole : Whole page.lastId rest) :
    Whole cursor ((cursor, page) :: rest)

/-- Whoever asks with the same cursor is shown the same page. -/
def Steady (readings : List (Reading α)) : Prop :=
  ∀ first ∈ readings, ∀ second ∈ readings, first.1 = second.1 → first.2 = second.2

theorem Steady.of_subset {few many : List (Reading α)} (steady : Steady many) (part : few ⊆ many) :
    Steady few :=
  fun first memFirst second memSecond => steady first (part memFirst) second (part memSecond)

/-- Two chains from one cursor begin with the same page. -/
theorem Steady.page_eq {page second : Page α} {rest others : List (Reading α)}
    (steady : Steady ((cursor, page) :: rest ++ (cursor, second) :: others)) : page = second :=
  steady (cursor, page) (by simp) (cursor, second) (by simp) rfl

/-- A list that was had is a chain up to its end. -/
theorem Reads.whole {items : List α} (further : extra.lookup "after" = none)
    (reads : Reads client item path extra left cursor history (.ok items)) :
    Whole cursor (readings item history) := by
  generalize same : (Except.ok items : Except Worker.Failure (List α)) = result at reads
  induction reads generalizing items with
  | cutOff | refused => cases same
  | last asks last =>
    rw [(asks.reads further).1]
    exact .last last
  | @more left cursor events later page others asks more reads ih =>
    cases others with
    | error failure => cases same
    | ok others =>
      rw [asks.readings_append further]
      exact .more more (ih rfl)

/-- Behind every cursor that was asked for there is a chain of its own. -/
theorem Whole.behind {chain : List (Reading α)} (whole : Whole cursor chain) {other : Option String}
    (mem : other ∈ asked chain) : ∃ rest, rest <:+ chain ∧ Whole other rest := by
  induction whole with
  | @last cursor page last =>
    obtain rfl := List.mem_singleton.mp mem
    exact ⟨_, List.suffix_refl _, .last last⟩
  | @more cursor page rest more whole ih =>
    -- the chain itself, or one behind its first page
    rcases List.mem_cons.mp mem with rfl | later
    · exact ⟨_, List.suffix_refl _, .more more whole⟩
    · obtain ⟨part, suffix, partWhole⟩ := ih later
      exact ⟨part, suffix.trans (List.suffix_cons _ _), partWhole⟩

/-- Where pages do not change, two chains from one cursor are as long as each other. -/
theorem Whole.length_eq {one other : List (Reading α)} (whole : Whole cursor one)
    (again : Whole cursor other) (steady : Steady (one ++ other)) : one.length = other.length := by
  induction whole generalizing other with
  | @last cursor page last =>
    -- both begin with the same page, so either both end there or both go on to one cursor
    cases again with
    | last => rfl
    | @more _ second rest more =>
      obtain rfl : page = second := steady.page_eq
      cases last.symm.trans more
  | @more cursor page rest more whole ih =>
    cases again with
    | @last _ second last =>
      obtain rfl : page = second := steady.page_eq
      cases last.symm.trans more
    | @more _ second others _ wholeOthers =>
      obtain rfl : page = second := steady.page_eq
      have part : rest ++ others ⊆ (cursor, page) :: rest ++ (cursor, page) :: others := by
        intro reading mem
        rcases List.mem_append.mp mem with first | second
        · simp [first]
        · simp [second]
      rw [List.length_cons, List.length_cons, ih wholeOthers (steady.of_subset part)]

/-- Where pages do not change, a chain that comes to its end has no cursor twice: from there on it
would go the same way again. -/
theorem Whole.nodup {chain : List (Reading α)} (whole : Whole cursor chain)
    (steady : Steady chain) : (asked chain).Nodup := by
  induction whole with
  | last => exact List.nodup_singleton _
  | @more cursor page rest more whole ih =>
    have steadyRest := steady.of_subset (List.subset_cons_self _ rest)
    refine List.nodup_cons.mpr ⟨fun twice => ?_, ih steadyRest⟩
    obtain ⟨part, suffix, partWhole⟩ := whole.behind twice
    have both : (cursor, page) :: rest ++ part ⊆ (cursor, page) :: rest := by
      apply List.append_subset.mpr
      exact ⟨List.Subset.refl _, List.subset_cons_of_subset _ suffix.subset⟩
    -- the chain from the first cursor and the one behind it are as long as each other
    have sameLength := (Whole.more more whole).length_eq partWhole (steady.of_subset both)
    have shorter := suffix.length_le
    rw [List.length_cons] at sameLength
    omega

/-- A chain that comes to its end asks for just the cursors that it is led on to. -/
theorem Whole.asked_eq {chain : List (Reading α)} (whole : Whole cursor chain) :
    asked chain = cursor :: (named chain).map some := by
  induction whole with
  | last last =>
    rw [named_of_last last]
    rfl
  | more more whole ih =>
    rw [named_of_more more, ← ih]
    rfl

/-! ## Lists

The parts come together: the chain of pages, the requests it costs, and when it ends. -/

/-- **Where a list ends.** A service answers in any way, with pages from a finite collection. Each
page but the first is asked for with the cursor that the page before it leads on to. As long as no
two pages lead on to the same cursor, no request asks for a page that was read, one page more than
there are is read at the most, with as many requests for each as are tried, and a client that may
ask for more pages than these ends the list by itself. For a service that always shows the same page
at the same cursor, no list is had in any other way. -/
theorem list_ends {pages : List (Page α)} {result : Except Worker.Failure (List α)}
    (yields : Yields ((client.list item path extra).run cache) history (result, after))
    (further : extra.lookup "after" = none)
    (finite : ∀ reading ∈ readings item history, reading.2 ∈ pages) :
    asked (readings item history) <+: none :: (named (readings item history)).map some ∧
      ((named (readings item history)).Nodup →
        (∀ before request secret answer later,
          history = before ++ ⟨.send request secret, answer⟩ :: later →
            cursor? request ∉ asked (readings item before)) ∧
        (readings item history).length ≤ pages.length + 1 ∧
        history.countP isSend ≤ (pages.length + 2) * (client.backoff.maxRetries.toNat + 1) ∧
        (pages.length + 1 < client.pageBudget → Ended client item path extra history result)) ∧
      (Steady (readings item history) → ∀ items, result = .ok items →
        (named (readings item history)).Nodup) := by
  have reads := reads_of_listAfter yields
  have follows := reads.asked_prefix further
  refine ⟨follows, fun onward => ?_, ?_⟩
  · have distinct : (none :: (named (readings item history)).map some).Nodup := by
      refine List.nodup_cons.mpr ⟨?_, onward.map (Option.some_injective _)⟩
      simp
    have accepted : (Monitor.upon (AsksAnew item)).Accepts [] history :=
      reads.accepts further distinct
    have known : named (readings item history) ⊆ pages.filterMap onward? := by
      intro cursor mem
      obtain ⟨reading, read, leads⟩ := List.mem_filterMap.mp mem
      exact List.mem_filterMap.mpr ⟨reading.2, finite reading read, leads⟩
    -- distinct cursors, each named by a page of the collection
    have few : (named (readings item history)).length ≤ pages.length :=
      Nat.le_trans (onward.subperm known).length_le (List.length_filterMap_le _ _)
    have short : (readings item history).length ≤ pages.length + 1 := by
      have lengths := follows.length_le
      simp only [asked, List.length_map, List.length_cons] at lengths
      omega
    refine ⟨?_, short, ?_, fun room => reads.ended further (Nat.lt_of_le_of_lt short room)⟩
    · intro before request secret answer later split
      exact Monitor.accepts_upon.mp accepted before _ later split
    · exact Nat.le_trans (reads.sends_le further) (Nat.mul_le_mul_right _ (Nat.succ_le_succ short))
  · rintro steady items rfl
    have whole := reads.whole further
    have distinct := whole.nodup steady
    rw [whole.asked_eq] at distinct
    exact (List.nodup_cons.mp distinct).2.of_map _

/-! ## A service that always says that others follow

The mark of a page that others follow is not enough to go on: without a cursor there is nowhere to
go. So a service can say of every page that others follow, and the list still ends. -/

/-- A page that says that others follow, with this last id. -/
def openBody : Option String → String
  | some last =>
    "\x7b\"data\": [\x7b\"id\": \"x\"\x7d], \"has_more\": true, \"last_id\": \"" ++ last ++ "\"\x7d"
  | none => "\x7b\"data\": [\x7b\"id\": \"x\"\x7d], \"has_more\": true\x7d"

/-- It says of every page that others follow, and where they are depends on the cursor. -/
def leading (next : Option String → Option String) (_past : History Call Answer) :
    (call : Call) → Answer call
  | .send request _ => .ok ⟨200, .ok (openBody (next (cursor? request)))⟩
  | .fetchToken => .ok (.lasting "secret")
  | .clock => default
  | .pause _ => ()
  | .fileContent _ => .ok ByteArray.empty

/-- Behind the page without a cursor comes the one at a, then the one at b, which names none. -/
def twoSteps : Option String → Option String
  | none => some "a"
  | some cursor => if cursor = "a" then some "b" else none

/-- The page of this service that names the cursor. -/
def openPage (last : Option String) : Page Handle :=
  ⟨[⟨"x"⟩], true, last⟩

/-- A list that is read from this service. -/
def openReading : Procedure Call Answer (Except Worker.Failure (List Handle) × Cache) :=
  (onceClient.list Handle.ofJson? "threads" []).run Cache.empty

/-- How that goes. -/
def openCourse : History Call Answer × Except Worker.Failure (List Handle) × Cache :=
  openReading.replay (leading twoSteps) []

/-- Every page says that others follow, and the list ends at the one that names no cursor. -/
theorem list_ends_without_cursor :
    asked (readings Handle.ofJson? openCourse.1) = [none, some "a", some "b"] ∧
      (named (readings Handle.ofJson? openCourse.1)).Nodup ∧
      Ended onceClient Handle.ofJson? "threads" [] openCourse.1 (.ok [⟨"x"⟩, ⟨"x"⟩, ⟨"x"⟩]) := by
  have result : openCourse.2 = (.ok [⟨"x"⟩, ⟨"x"⟩, ⟨"x"⟩], some (.lasting "secret")) := by
    decide +kernel
  have yields : Yields openReading openCourse.1 openCourse.2 :=
    Procedure.yields_replay (leading twoSteps) openReading
  rw [result] at yields
  have read : readings Handle.ofJson? openCourse.1 =
      [(none, openPage (some "a")), (some "a", openPage (some "b")), (some "b", openPage none)] := by
    decide +kernel
  have finite : ∀ reading ∈ readings Handle.ofJson? openCourse.1,
      reading.2 ∈ [openPage (some "a"), openPage (some "b"), openPage none] := by
    rw [read]
    decide
  have onward : (named (readings Handle.ofJson? openCourse.1)).Nodup := by
    rw [read]
    decide
  obtain ⟨-, ends, -⟩ := list_ends yields rfl finite
  obtain ⟨-, -, -, ended⟩ := ends onward
  refine ⟨?_, onward, ended (by decide)⟩
  rw [read]
  rfl

/-! ## A service that leads in a circle

Nothing in the client notices a cursor that it was at before. A service whose page leads on to
itself keeps it going for as many pages as it may ask for, whatever that number is. -/

/-- Behind every cursor, and without one, is the page whose last id is a. -/
def circle (_cursor : Option String) : Option String :=
  some "a"

/-- A client that may ask for so many pages. -/
def clientFor (budget : Nat) : Client :=
  { onceClient with pageBudget := budget }

/-- What is asked for at one cursor does not depend on the pages that may follow. -/
theorem send_budget (client : Client) (budget : Nat) (ofJson? : Json → Option α)
    (request : Http.Request) :
    ({ client with pageBudget := budget } : Client).send ofJson? request =
      client.send ofJson? request :=
  rfl

/-- At either cursor of the circle the same page is read. -/
theorem asks_circle (budget : Nat) {cursor : Option String} {cache : Cache}
    (before : cursor = none ∧ cache = Cache.empty ∨
      cursor = some "a" ∧ cache = some (.lasting "secret")) :
    ∃ events, Yields (((clientFor budget).send (Page.ofJson? Handle.ofJson?)
      ((clientFor budget).pageRequest "threads" [] cursor)).run cache) events
        (.ok (openPage (some "a")), some (.lasting "secret")) := by
  rw [clientFor, send_budget]
  have yields := Procedure.yields_replay (leading circle) ((onceClient.send
    (Page.ofJson? Handle.ofJson?) (onceClient.pageRequest "threads" [] cursor)).run cache)
  have result : (((onceClient.send (Page.ofJson? Handle.ofJson?)
      (onceClient.pageRequest "threads" [] cursor)).run cache).replay (leading circle) []).2 =
        (.ok (openPage (some "a")), some (.lasting "secret")) := by
    rcases before with ⟨rfl, rfl⟩ | ⟨rfl, rfl⟩ <;> decide +kernel
  rw [result] at yields
  exact ⟨_, yields⟩

/-- From a page of the circle on, as many pages are read as may be asked for. -/
theorem reads_circle (budget left : Nat) :
    ∃ history, Yields (((clientFor budget).listAfter Handle.ofJson? "threads" [] left
        (some "a")).run (some (.lasting "secret"))) history
          (.error tooManyPages, some (.lasting "secret")) ∧
      readings Handle.ofJson? history = List.replicate left (some "a", openPage (some "a")) := by
  induction left with
  | zero => exact ⟨[], .done _, rfl⟩
  | succ left ih =>
    obtain ⟨events, sends⟩ := asks_circle budget (.inr ⟨rfl, rfl⟩)
    obtain ⟨later, yields, read⟩ := ih
    have asks : Asks (clientFor budget) Handle.ofJson? "threads" [] (some "a") events
        (.ok (openPage (some "a"))) := ⟨_, _, sends⟩
    refine ⟨events ++ (later ++ []), ?_, ?_⟩
    · rw [listAfter_run]
      exact sends.bind (yields.bind (.done _))
    · rw [List.append_nil, readings_append, (asks.reads rfl).1, read]
      rfl

/-- However many pages the client may ask for, it asks for all of them, from the second on with the
same cursor. -/
theorem lists_circle (budget : Nat) :
    ∃ history,
      Yields (((clientFor (budget + 1)).list Handle.ofJson? "threads" []).run Cache.empty) history
        (.error tooManyPages, some (.lasting "secret")) ∧
      readings Handle.ofJson? history =
        (none, openPage (some "a")) :: List.replicate budget (some "a", openPage (some "a")) := by
  obtain ⟨events, sends⟩ := asks_circle (budget + 1) (.inl ⟨rfl, rfl⟩)
  obtain ⟨later, yields, read⟩ := reads_circle (budget + 1) budget
  have asks : Asks (clientFor (budget + 1)) Handle.ofJson? "threads" [] none events
      (.ok (openPage (some "a"))) := ⟨_, _, sends⟩
  refine ⟨events ++ (later ++ []), ?_, ?_⟩
  · show Yields (((clientFor (budget + 1)).listAfter Handle.ofJson? "threads" [] (budget + 1)
      none).run Cache.empty) _ _
    rw [listAfter_run]
    exact sends.bind (yields.bind (.done _))
  · rw [List.append_nil, readings_append, (asks.reads rfl).1, read]
    rfl

/-- There is a single page, and it leads on to itself. A client that may ask for three pages asks
twice with the cursor of that page, and is answered twice; and no number bounds the requests of all
clients, however many pages they may ask for. -/
theorem list_goes_round :
    (∃ history ended,
      Yields (((clientFor 3).list Handle.ofJson? "threads" []).run Cache.empty) history ended ∧
        asked (readings Handle.ofJson? history) = [none, some "a", some "a"]) ∧
    ¬ ∃ most, ∀ budget history ended,
      Yields (((clientFor budget).list Handle.ofJson? "threads" []).run Cache.empty) history ended →
        (∀ reading ∈ readings Handle.ofJson? history, reading.2 = openPage (some "a")) →
          history.countP isSend ≤ most := by
  constructor
  · obtain ⟨history, yields, read⟩ := lists_circle 2
    exact ⟨history, _, yields, by rw [read]; rfl⟩
  · rintro ⟨most, bounded⟩
    obtain ⟨history, yields, read⟩ := lists_circle most
    have samePage : ∀ reading ∈ readings Handle.ofJson? history,
        reading.2 = openPage (some "a") := by
      rw [read]
      intro reading mem
      rcases List.mem_cons.mp mem with rfl | again
      · rfl
      · rw [List.eq_of_mem_replicate again]
    have sends := bounded _ _ _ yields samePage
    have pages := length_readings_le Handle.ofJson? history
    rw [read, List.length_cons, List.length_replicate] at pages
    omega

end AzcRepair.Agents.Client
