import SlotDispatch.Machine.Request
/-!
Bodies are the code of the host. A body ends with an outcome, makes a request and goes on with the
reply, or changes the state of the host. It sees the world only through requests.
-/

namespace SlotDispatch

/-- A body is a tree of requests and of changes of the host. -/
inductive Body (Host Result : Type) where
  | done (outcome : Except Error Result)
  | ask (request : Request) (resume : Except Error request.Reply → Body Host Result)
  | consult (update : Host → Host) (resume : Host → Body Host Result)

namespace Body

variable {Host Result Next : Type}

/-- The second body runs on the result of the first, and an error skips it. -/
def andThen (second : Result → Body Host Next) : Body Host Result → Body Host Next
  | .done (.ok result) => second result
  | .done (.error error) => .done (.error error)
  | .ask request resume => .ask request fun reply => (resume reply).andThen second
  | .consult update resume => .consult update fun host => (resume host).andThen second

instance : Monad (Body Host) where
  pure result := .done (.ok result)
  bind first second := first.andThen second

/-- This body fails with an error. -/
def fail (error : Error) : Body Host Result :=
  .done (.error error)

/-- This body makes one request and gives its reply. -/
def request (request : Request) : Body Host request.Reply :=
  .ask request .done

/-- This body gives the state of the host. -/
def host : Body Host Host :=
  .consult id fun host => .done (.ok host)

/-- This body changes the state of the host. -/
def changeHost (update : Host → Host) : Body Host Unit :=
  .consult update fun _ => .done (.ok ())

/-- A body runs by handing its requests to a perform function. -/
def run (perform : Perform Host) : Body Host Result → Action (World Host) Result
  | .done outcome => Action.ofExcept outcome
  | .ask request resume => do
      let reply ← Action.attempt (perform request)
      (resume reply).run perform
  | .consult update resume => fun world =>
      (resume world.host).run perform { world with host := update world.host }

end Body

/-- A program gives the body of each function of the host for its arguments. -/
abbrev Program (Host : Type) : Type :=
  Nat → List Value → Body Host Value

end SlotDispatch
