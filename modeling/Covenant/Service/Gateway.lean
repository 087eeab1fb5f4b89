import Covenant.Service.Resolution
import Covenant.Schema.Check
import Covenant.Contract.Source

/-!
# A gateway over a contract

A gateway holds the resolver for the contract it serves, the resolver settings it was built
with, and the schema settings. It resolves requests, checks request bodies against the
matched operation's schema, and can swap its contract for another one; the new contract is
ordered with the same resolver settings. A contract read from a file replaces the served one
only when it loads; otherwise the gateway stays as it was.

`Gateway.handle` answers one request and gives the gateway after it; `Gateway.run` answers a
sequence of requests in turn.
-/

namespace Covenant

/-- A contract being served with its settings. -/
structure Gateway where
  resolver : Route.Resolver
  resolverConfig : Route.ResolverConfig
  settings : Schema.Settings

namespace Gateway

/-- A gateway for a contract. -/
def new (contract : Contract) (resolverConfig : Route.ResolverConfig)
    (settings : Schema.Settings) : Gateway :=
  ⟨Route.Resolver.new contract resolverConfig, resolverConfig, settings⟩

/-- The contract being served. -/
def contract (g : Gateway) : Contract := g.resolver.contract

/-- Resolves a request path for a method. -/
def resolve (g : Gateway) (method : Method) (path : String) : Resolution :=
  Resolution.ofMatch (g.resolver.findPath method path)

/-- Checks a request body: the resolution's findings when the request matches no operation,
acceptance when the operation declares no body schema, and otherwise the schema check of the
payload. -/
def checkBody (g : Gateway) (method : Method) (path : String) (payload : List UInt8) :
    Bool × List Finding :=
  let found := g.resolver.findPath method path
  match found.operation? with
  | none => (false, found.findings)
  | some op =>
    match op.requestBody with
    | some schema => Schema.checkPayload g.settings schema payload
    | none => (true, [])

/-- The gateway serving another contract, with the same settings. -/
def reload (g : Gateway) (contract : Contract) : Gateway :=
  { g with resolver := Route.Resolver.new contract g.resolverConfig }

/-- A gateway for the contract a file holds, or why the file does not load. -/
def fromFile (files : Files) (path : String) (resolverConfig : Route.ResolverConfig)
    (settings : Schema.Settings) : Except ContractError Gateway :=
  (Contract.ofFile files path).map fun contract => new contract resolverConfig settings

/-- The gateway serving the contract a file holds, or why the file does not load; a caller
keeps the gateway it had when the file does not load. -/
def reloadFromFile (g : Gateway) (files : Files) (path : String) : Except ContractError Gateway :=
  (Contract.ofFile files path).map g.reload

/-- What a gateway is asked. A reload from a file reads the files as they are at that
request. -/
inductive Request where
  | resolve (method : Method) (path : String)
  | checkBody (method : Method) (path : String) (payload : List UInt8)
  | contract
  | resolver
  | reload (contract : Contract)
  | reloadFromFile (files : Files) (path : String)

/-- What a gateway answers. -/
inductive Reply where
  | resolution (r : Resolution)
  | bodyCheck (valid : Bool) (findings : List Finding)
  | contract (c : Contract)
  | resolver (r : Route.Resolver)
  | reloaded
  | loadFailed (e : ContractError)

/-- Answers one request: the reply, and the gateway after it. -/
def handle (g : Gateway) : Request → Reply × Gateway
  | .resolve method path => (.resolution (g.resolve method path), g)
  | .checkBody method path payload =>
    let (valid, findings) := g.checkBody method path payload
    (.bodyCheck valid findings, g)
  | .contract => (.contract g.contract, g)
  | .resolver => (.resolver g.resolver, g)
  | .reload contract => (.reloaded, g.reload contract)
  | .reloadFromFile files path =>
    match g.reloadFromFile files path with
    | .ok g' => (.reloaded, g')
    | .error e => (.loadFailed e, g)

/-- Answers requests in turn: the replies, and the gateway after the last. -/
def run (g : Gateway) : List Request → List Reply × Gateway
  | [] => ([], g)
  | request :: rest =>
    let (reply, g') := g.handle request
    let (replies, g'') := g'.run rest
    (reply :: replies, g'')

end Gateway

end Covenant
