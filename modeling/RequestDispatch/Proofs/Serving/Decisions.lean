import RequestDispatch.Proofs.Serving.Independence
import RequestDispatch.Proofs.Setup.Composition

/-!
# What routing decides for a request

A service runs the chain of a route or one of its two fallbacks, as the lookup of the request decides
(`Service.binding_eq`).  Where the method is not allowed, the methods that are, are those under which a
route is found (`Dispatcher.allowed_of_decision`).
-/

namespace RequestDispatch

open Routing (Lookup Captures Endpoint Submission Resolves)

namespace Service

/-- The lookup that a service makes for a request, and its captures. -/
def lookup (s : Service) (request : Request) : Lookup Mount × Captures :=
  s.router.lookup request.method (Routing.normalize request.target.path) .empty

/-- The outcome of the lookup: a route to run, or which of the fallbacks runs instead. -/
def decision (s : Service) (request : Request) : Lookup Mount := (s.lookup request).1

/-- The chain that runs and the context on which it starts, outcome by outcome. -/
theorem binding_eq (s : Service) (request : Request) (id : Ulid) :
    let c := { Context.fresh.reset request s.debug id with captures := (s.lookup request).2 }
    s.binding request id =
      match s.decision request with
      | .found endpoint => (endpoint.action.chain, { c with route := some endpoint.route })
      | .methodNotAllowed methods => (s.methodNotAllowed, { c with allowed := methods })
      | .notFound => (s.notFound, c) := by
  have asked : s.router.lookup (Context.fresh.reset request s.debug id).method
      (Context.fresh.reset request s.debug id).path
      (Context.fresh.reset request s.debug id).captures = s.lookup request := rfl
  rcases looked : s.lookup request with ⟨found, captures⟩
  cases found <;> simp only [binding, find, decision, asked, looked]

/-- What the lookup leaves in the context on which the chain starts. -/
theorem binding_found (s : Service) (request : Request) (id : Ulid) :
    (s.binding request id).2.route = (s.decision request).endpoint?.map Endpoint.route ∧
      (s.binding request id).2.allowed = (s.decision request).allowed ∧
      (s.binding request id).2.captures = (s.lookup request).2 := by
  have bound := s.binding_eq request id
  cases decided : s.decision request with
  | _ =>
    rw [decided] at bound
    rw [bound]
    simp only [Lookup.endpoint?, Lookup.allowed, Option.map_some, Option.map_none, Context.reset,
      Context.clear, and_self]

/-- Where the method is not allowed the fallback runs, whatever is registered. -/
theorem binding_of_methodNotAllowed {s : Service} {request : Request} {allowed : List Method}
    (decided : s.decision request = .methodNotAllowed allowed) (id : Ulid) :
    ∃ c, s.binding request id = (s.methodNotAllowed, c) ∧ c.allowed = allowed ∧
      c.response = .fresh := by
  have bound := s.binding_eq request id
  rw [decided] at bound
  exact ⟨_, bound, rfl, rfl⟩

theorem binding_of_notFound {s : Service} {request : Request} (decided : s.decision request = .notFound)
    (id : Ulid) : (s.binding request id).1 = s.notFound := by
  have bound := s.binding_eq request id
  rw [decided] at bound
  rw [bound]

end Service

namespace Dispatcher

/-- The lookups of a build are decided by the routes that the dispatcher holds. -/
theorem lookup_resolves {d : Dispatcher} {registered : List (Submission Mount)}
    (records : d.router.Records registered) (request : Request) :
    Resolves (registered.map (Submission.map d.compose)) request.method
      (Routing.normalize request.target.path) (d.build.lookup request) :=
  (records.map d.compose).holds.resolves _ _ _

/-- Where the method is not allowed, those listed are the ones under which a route is found. -/
theorem allowed_of_decision {d : Dispatcher} {registered : List (Submission Mount)}
    (records : d.router.Records registered) {request : Request} {allowed : List Method}
    (decided : d.build.decision request = .methodNotAllowed allowed) :
    allowed ≠ [] ∧ ∀ m, m ∈ allowed ↔
      ∃ endpoint, d.build.decision { request with method := m } = .found endpoint := by
  have resolved := lookup_resolves records request
  obtain ⟨-, offered⟩ := resolved.allowed_spec decided
  refine ⟨?_, fun m => ?_⟩
  · obtain ⟨-, s, mem, -, matching⟩ := resolved.methodNotAllowed_iff.mp ⟨allowed, decided⟩
    exact List.ne_nil_of_mem ((offered _).mpr ⟨s, mem, rfl, matching⟩)
  · exact (offered m).trans (lookup_resolves records { request with method := m }).found_iff.symm

end Dispatcher

end RequestDispatch
