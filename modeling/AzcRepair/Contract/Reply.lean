import AzcRepair.Contract
import AzcRepair.Contract.Block
import AzcRepair.Json.Reader

/-!
# Accepting a reply

A reply is accepted when its last balanced block is a JSON object whose `analysis` member is an
object and whose `updatedContent` member is a string that is not blank. Of several members with one
name the last counts. An `analysis` or `fixes` section of another shape is read as the empty one.
-/

namespace AzcRepair.Contract

/-- Why a reply is refused. -/
inductive Refusal where
  /-- No balanced block. -/
  | noJsonObject
  /-- The block is not JSON; `text` is the block. -/
  | malformed (fault : Json.Fault) (text : List Char)
  | missingField (field : String)
  | wrongType (field expected : String)
  | emptyContent
  deriving DecidableEq, Repr

def Refusal.message : Refusal → String
  | noJsonObject => "No balanced JSON object found in worker response"
  | malformed fault text => "Worker response JSON is malformed: " ++ fault.message text
  | missingField field => "Worker response is missing required field `" ++ field ++ "`"
  | wrongType field expected => "Field `" ++ field ++ "` must be " ++ expected
  | emptyContent => "Worker returned empty updated content"

/-- The wording and then that of each cause. -/
def Refusal.chain (refusal : Refusal) : List String :=
  refusal.message :: match refusal with
    | malformed fault text => [fault.message text]
    | _ => []

/-- The block of a reply that holds the contract. -/
def block (reply : String) : Except Refusal String :=
  match lastBlock? reply.toList with
  | some found => .ok (String.ofList found)
  | none => .error .noJsonObject

/-- The member that a contract must have. -/
def requiredMember (name : String) (value : Json) : Except Refusal Json :=
  match value.member? name with
  | some found => .ok found
  | none => .error (.missingField name)

/-- The contract of an already parsed reply. Only the corrected file must be right: sections that
inform a reader may have any shape, as long as the analysis is there as an object. -/
def ofMembers (value : Json) : Except Refusal Contract := do
  unless value.isObject do throw (.wrongType "response" "a JSON object")
  let analysis ← requiredMember "analysis" value
  unless analysis.isObject do throw (.wrongType "analysis" "an object")
  let content ← requiredMember Request.contentMember value
  let some content := content.string? | throw (.wrongType Request.contentMember "a string")
  -- a file that holds nothing but blanks would delete the sources
  if Text.isBlankText content then throw .emptyContent
  return {
    -- what cannot be read of the analysis or the fixes is left out
    analysis := (Analysis.ofJson? analysis).getD .empty
    fixes := ((value.member? "fixes").bind Fixes.ofJson?).getD .empty
    updatedContent := content }

/-- The contract in a reply. The last balanced block must be JSON as a whole; nothing is tried
with an earlier block when it is not. -/
def ofReply (reply : String) : Except Refusal Contract := do
  let text ← block reply
  match Json.read text with
  | .error fault => throw (.malformed fault text.toList)
  -- of several members with one name the last one stays
  | .ok value => ofMembers value.collapse

end AzcRepair.Contract
