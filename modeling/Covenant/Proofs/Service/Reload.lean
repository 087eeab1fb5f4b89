import Covenant.Service.Gateway
import Covenant.Config.Settings

/-!
# Swapping a gateway's contract

A gateway is always the gateway freshly built over the contract it serves, with the settings it
was built with: reloading rebuilds the resolver from the stored resolver settings, and a reload
from a file that does not load changes nothing. So every run of requests answers as a simple
machine whose only state is the served contract: each request is answered as a fresh gateway
over that contract answers it, and the contract changes only by a reload or a reload from a
file that loads.

Main statement: `run_serves_installed`.
-/

namespace Covenant.Gateway

variable {g : Gateway} {files : Files} {path : String}

/-- Reloading is building anew with the gateway's own settings. -/
theorem reload_eq_new (g : Gateway) (contract : Contract) :
    g.reload contract = new contract g.resolverConfig g.settings := rfl

@[simp] theorem new_resolverConfig (contract : Contract) (rc : Route.ResolverConfig)
    (settings : Schema.Settings) : (new contract rc settings).resolverConfig = rc := rfl

@[simp] theorem new_settings (contract : Contract) (rc : Route.ResolverConfig)
    (settings : Schema.Settings) : (new contract rc settings).settings = settings := rfl

@[simp] theorem contract_new (contract : Contract) (rc : Route.ResolverConfig)
    (settings : Schema.Settings) : (new contract rc settings).contract = contract := rfl

/-- A gateway read from a file is the gateway over the contract the file holds. -/
theorem fromFile_eq_ok {rc : Route.ResolverConfig} {settings : Schema.Settings} :
    fromFile files path rc settings = .ok g ↔
      ∃ contract, Contract.ofFile files path = .ok contract ∧ g = new contract rc settings := by
  unfold fromFile
  cases Contract.ofFile files path with
  | error e => simp [Except.map]
  | ok contract =>
    simp only [Except.map, Except.ok.injEq]
    exact ⟨fun h => ⟨contract, rfl, h.symm⟩, fun ⟨_, hc, hg⟩ => by cases hc; exact hg.symm⟩

/-- A reload from a file that does not load answers with the failure and leaves the gateway
as it was. -/
theorem handle_reloadFromFile_of_error {e : ContractError}
    (h : Contract.ofFile files path = .error e) :
    g.handle (.reloadFromFile files path) = (.loadFailed e, g) := by
  simp [handle, reloadFromFile, h, Except.map]

/-- A reload from a file that loads serves the file's contract with the same settings. -/
theorem handle_reloadFromFile_of_ok {contract : Contract}
    (h : Contract.ofFile files path = .ok contract) :
    g.handle (.reloadFromFile files path) = (.reloaded, g.reload contract) := by
  simp [handle, reloadFromFile, h, Except.map]

/-! ## The served contract -/

/-- The contract served after a request, given the one served before: a reload installs its
contract, a reload from a file installs the file's contract when it loads. -/
def Request.installs (served : Contract) : Request → Contract
  | .reload next => next
  | .reloadFromFile files path =>
    match Contract.ofFile files path with
    | .ok next => next
    | .error _ => served
  | _ => served

/-- The contract served after a run of requests. -/
def installed (served : Contract) (requests : List Request) : Contract :=
  requests.foldl Request.installs served

/-- One request leaves a fresh gateway fresh, over the contract the request installs. -/
theorem handle_new_snd (served : Contract) (cfg : Settings) (request : Request) :
    ((new served cfg.resolver cfg.schema).handle request).2 =
      new (request.installs served) cfg.resolver cfg.schema := by
  cases request with
  | reload next => rfl
  | reloadFromFile files path =>
    cases h : Contract.ofFile files path with
    | error e => simp [handle_reloadFromFile_of_error h, Request.installs, h]
    | ok next => simp [handle_reloadFromFile_of_ok h, Request.installs, h, reload_eq_new]
  | resolve | checkBody | contract | resolver => rfl

/-- A run from a fresh gateway ends at the fresh gateway over the contract it installed
last. -/
theorem run_new_snd (cfg : Settings) (served : Contract) (requests : List Request) :
    ((new served cfg.resolver cfg.schema).run requests).2 =
      new (installed served requests) cfg.resolver cfg.schema := by
  -- the served contract moves along the run, so it is generalised
  induction requests generalizing served with
  | nil => rfl
  | cons request rest ih =>
    simp only [run, handle_new_snd, ih, installed, List.foldl_cons]

/-- In a run from a fresh gateway, each request is answered as a fresh gateway over the
contract installed by the requests before it answers it. -/
theorem run_new_reply (cfg : Settings) (served : Contract) (requests : List Request) (i : Nat) :
    ((new served cfg.resolver cfg.schema).run requests).1[i]? =
      requests[i]?.map fun request =>
        ((new (installed served (requests.take i)) cfg.resolver cfg.schema).handle request).1 := by
  induction requests generalizing served i with
  | nil => rfl
  | cons request rest ih =>
    cases i with
    | zero => simp [run, installed]
    | succ i =>
      have hrest := ih (request.installs served) i
      simp only [run, handle_new_snd] at hrest ⊢
      simpa [installed] using hrest

/-- A gateway built over `C0` with the settings `cfg`, or read from a file that holds `C0`,
answers every run of requests as a fresh gateway over the served contract would: the reply to
each request is that of a gateway freshly built over the contract `K` installed by the requests
before it (`C0` when none was), so every resolution is that of `Route.Resolver.new K
cfg.resolver`, every body check uses it with the schema settings `cfg.schema`, and the contract
reported is `K`. The gateway after the run is the fresh one over the contract installed last,
so its resolver settings are still `cfg.resolver`; and a reload from a file that does not load
answers with the failure and changes nothing. -/
theorem run_serves_installed {C0 : Contract} {cfg : Settings} {g : Gateway}
    (hstart : g = new C0 cfg.resolver cfg.schema ∨
      ∃ files path, fromFile files path cfg.resolver cfg.schema = .ok g ∧
        Contract.ofFile files path = .ok C0)
    (requests : List Request) :
    (∀ i, (g.run requests).1[i]? = requests[i]?.map fun request =>
        ((new (installed C0 (requests.take i)) cfg.resolver cfg.schema).handle request).1) ∧
      (g.run requests).2 = new (installed C0 requests) cfg.resolver cfg.schema ∧
      (g.run requests).2.resolverConfig = cfg.resolver ∧
      ∀ (g' : Gateway) files path e, Contract.ofFile files path = .error e →
        g'.handle (.reloadFromFile files path) = (.loadFailed e, g') := by
  have hg : g = new C0 cfg.resolver cfg.schema := by
    rcases hstart with hg | ⟨files, path, hfile, hC0⟩
    · exact hg
    · obtain ⟨contract, hc, hg⟩ := fromFile_eq_ok.mp hfile
      rw [hc] at hC0
      cases hC0
      exact hg
  subst hg
  refine ⟨run_new_reply cfg C0 requests, run_new_snd cfg C0 requests, ?_, ?_⟩
  · rw [run_new_snd]
    rfl
  · intro g' files path e he
    exact handle_reloadFromFile_of_error he

theorem missing_file_keeps_contract :
    let cfg : Settings := {}
    let C0 : Contract := { title := "Pets" }
    let requests := [Request.reload { title := "Owners" }, .reloadFromFile {} "gone.json",
      .contract]
    let g := new C0 cfg.resolver cfg.schema
    (g = new C0 cfg.resolver cfg.schema ∨
      ∃ files path, fromFile files path cfg.resolver cfg.schema = .ok g ∧
        Contract.ofFile files path = .ok C0) ∧
    (∀ i, (g.run requests).1[i]? = requests[i]?.map fun request =>
        ((new (installed C0 (requests.take i)) cfg.resolver cfg.schema).handle request).1) ∧
      (g.run requests).2 = new (installed C0 requests) cfg.resolver cfg.schema ∧
      (g.run requests).2.resolverConfig = cfg.resolver ∧
      ∀ (g' : Gateway) files path e, Contract.ofFile files path = .error e →
        g'.handle (.reloadFromFile files path) = (.loadFailed e, g') := by
  intro cfg C0 requests g
  exact ⟨.inl rfl, run_serves_installed (.inl rfl) requests⟩

end Covenant.Gateway
