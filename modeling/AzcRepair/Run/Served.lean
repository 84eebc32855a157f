import AzcRepair.Agents.Service
import AzcRepair.Run

/-!
# Runs that are served by the agents service

A run asks for what it needs of the worker without knowing who the worker is. Here its requests to
the worker are carried out by the client of the agents service: what is left are the requests of the
client, in which it sends something to the service, and the calls that the run makes elsewhere.

The token that the client keeps is passed on from one request to the next, over the whole run.
-/

namespace AzcRepair.Run

open Agents (Client)

/-- A call of a run that is served by the client. -/
inductive Served.Call where
  | service (call : Client.Call)
  /-- A call that is not for the worker. -/
  | own (call : Run.Call)

@[reducible] def Served.Answer : Served.Call → Type
  | .service call => Client.Answer call
  | .own call => Run.Answer call

/-- Carries out what is asked of the worker; the token that the client keeps is passed on. -/
def serve (client : Client) : (call : Call) → Access.Cache →
    Procedure Served.Call Served.Answer (Answer call × Access.Cache)
  -- what the client does runs with the token that was kept, and hands on what it keeps then
  | .worker call, cache =>
    ((client.perform call).run cache).embed .service fun _ answer => answer
  -- the disk, the toolchain, the clock and the switch know nothing of the token
  | call, cache => .call (.own call) fun answer => .done (answer, cache)

/-- A whole run with the client; at its start no token is kept. Its calls are those of the client
and those that the run makes elsewhere, in the order in which they are made. -/
def served (run : Run) (client : Client) :
    Procedure Served.Call Served.Answer (Except Failure Outcome) :=
  Prod.fst <$> run.start.run.interpret (serve client) Access.Cache.empty

end AzcRepair.Run
