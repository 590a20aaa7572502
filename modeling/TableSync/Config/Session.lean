import TableSync.Config.SyncConfig

/-!
# Sessions

In a session a caller makes a resolver from a bag and asks it one thing after the other.  The
caller may go on to change the bag; the resolver works with the bag as it was handed over.
-/

namespace TableSync.Config

/-- What a caller asks of a resolver, or does to the bag that it was made from. -/
inductive Session.Request
  | resolve (key : Text)
  | list (key : Text)
  | flag (key : Text)
  | requiredText (key : Text)
  | contains (key : Text)
  | raw (key : Text)
  | resolveAll
  | rawProperties
  | settings
  | changeBag (bag : PropertyBag (Option Text))
deriving DecidableEq, Repr

/-- What a request is answered with. -/
inductive Session.Response
  | value (value : Option Text)
  | items (items : List Text)
  | truth (b : Bool)
  | text (text : Text)
  | values (entries : List (Text × Option Text))
  | settings (config : SyncConfig)
  | done
deriving DecidableEq, Repr

/-- The bag of a caller, and the resolver that was made from it. -/
structure Session where
  bag : PropertyBag (Option Text)
  resolver : Resolver

namespace Session

def start (bag : PropertyBag (Option Text)) (catalog : Catalog) : Session :=
  { bag, resolver := .new bag catalog }

/-- Answer a request by an access of the resolver. -/
def ask {α : Type} (s : Session) (access : Access α) (respond : α → Response) :
    Except ConfigError Response × Session :=
  let (outcome, resolver) := access.run.run s.resolver
  (outcome.map respond, { s with resolver })

def handle (s : Session) : Request → Except ConfigError Response × Session
  | .resolve key => s.ask (Resolver.resolve key) .value
  | .list key => s.ask (Resolver.list key) .items
  | .flag key => s.ask (Resolver.flag key) .truth
  | .requiredText key => s.ask (Resolver.requiredText key) .text
  | .contains key => (.ok (.truth (s.resolver.source.contains key)), s)
  | .raw key => (.ok (.value (s.resolver.source.get? key).join), s)
  | .resolveAll => s.ask Resolver.resolveAll .values
  | .rawProperties => (.ok (.values s.resolver.source.entries), s)
  | .settings => s.ask SyncConfig.fromResolver .settings
  | .changeBag bag => (.ok .done, { s with bag })

/-- What is left of a session after some requests, whether they were met or failed. -/
def after (s : Session) : List Request → Session
  | [] => s
  | request :: requests => (s.handle request).2.after requests

end Session

end TableSync.Config
