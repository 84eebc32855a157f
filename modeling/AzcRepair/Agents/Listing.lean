import AzcRepair.Agents.Client
import AzcRepair.Agents.Object

/-!
# Paged lists

A list comes in pages. Each page but the first is asked for by the id that the page before it named
as its last. The list ends at a page that says so, that is empty, or that names no last id.

A service may name pages for ever. Then a program asks for ever; here the reading breaks off when the
budget of pages is used up.
-/

namespace AzcRepair.Agents.Client

/-- The most items that a page is asked for. -/
def pageLimit : String := "100"

/-- The request for the page after a cursor. -/
def pageRequest (client : Client) (path : String) (extra : List (String × String))
    (cursor : Option String) : Http.Request :=
  client.request .get path
    -- the cursor comes last, and the first page has none
    (("limit", pageLimit) :: extra ++ (cursor.map fun c => ("after", c)).toList) .nothing

/-- No further page is asked for after this one. -/
def isLast {α : Type} (page : Page α) : Bool :=
  !page.hasMore || page.items.isEmpty || page.lastId.isNone

/-- The budget of pages is used up. A list that ends needs no more pages than that, so this stands for
a reading that would not come to an end. -/
def tooManyPages : Worker.Failure :=
  .unexpected "too many pages"

/-- Reads the pages after a cursor; `left` more pages may be asked for. A page that cannot be read
makes the whole list unreadable, whatever came before it. -/
def listAfter {α : Type} (client : Client) (item : Json → Option α) (path : String)
    (extra : List (String × String)) :
    Nat → Option String → Act (Except Worker.Failure (List α))
  | 0, _ => return .error tooManyPages
  | left + 1, cursor => do
    match ← client.send (Page.ofJson? item) (client.pageRequest path extra cursor) with
    | .error failure => return .error failure
    | .ok page =>
      -- the items of the last page are still items of the list
      if isLast page then return .ok page.items
      match ← client.listAfter item path extra left page.lastId with
      | .error failure => return .error failure
      | .ok items => return .ok (page.items ++ items)

def list {α : Type} (client : Client) (item : Json → Option α) (path : String)
    (extra : List (String × String)) : Act (Except Worker.Failure (List α)) :=
  client.listAfter item path extra client.pageBudget none

end AzcRepair.Agents.Client
