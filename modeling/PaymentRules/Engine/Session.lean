import PaymentRules.Engine.Basic

/-!
# Sessions with an engine

An engine is asked one thing after another, and the files around it may change in between. Each call
is answered with the rules that are published and the files that are there at that moment.

## Main definitions

* `Call`, `Answer` — what an engine is asked for, and what comes back
* `Engine.serve`, `Engine.serveAll` — the answers to one call and to a run of calls
-/

namespace PaymentRules

/-- What an engine can be asked for. -/
inductive Call where
  | reload
  | reloadClientActions (path : String)
  | reloadServiceErrors (path : String)
  | resolveClientAction (factory : DescriptionFactory) (request : ClientActionRequest)
      (instrument : PaymentInstrument)
  | resolveServiceError (collaborators : Collaborators) (action : ErrorRules.ResourceAction)
      (request : ServiceErrorRequest) (error : ErrorResponse)
  | review

/-- What comes back from a call. -/
inductive Answer where
  | reloaded (result : Except LoadError Unit)
  /-- The outcome, and the instrument as it is afterwards. -/
  | clientAction (outcome : Except ResolveError Outcome) (instrument : PaymentInstrument)
  | serviceError (response : Except ResolveError ErrorResponse)
  | findings (list : List Finding)

namespace Engine

/-- The answer to a call, with the files as they are now. -/
def serve (files : Files) : Call → StateM Engine Answer
  | .reload => .reloaded <$> (reload files).run
  | .reloadClientActions path => .reloaded <$> (reloadClientActions files path).run
  | .reloadServiceErrors path => .reloaded <$> (reloadServiceErrors files path).run
  | .resolveClientAction factory request instrument => do
    let (outcome, after) := (← get).resolveClientAction factory request instrument
    return .clientAction outcome after
  | .resolveServiceError collaborators action request error => do
    return .serviceError ((← get).resolveServiceError collaborators action request error)
  | .review => do return .findings (← get).review

/-- The answers to a run of calls, each with the files as they are when it is made. -/
def serveAll (calls : List (Files × Call)) : StateM Engine (List Answer) :=
  calls.mapM fun (files, call) => serve files call

end Engine

end PaymentRules
