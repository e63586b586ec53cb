import RequestDispatch.Proofs.Setup.Steps
import RequestDispatch.Setup.Table

/-!
# What a setup keeps

Registrations and tables reach a dispatcher through accepted routes, reports, and changes that leave the
router alone.  A relation between the state before and the state after that those respect is therefore
respected by every registration and by every table.

So nothing that a registration reports says that a request was completed (`Registration.change_silent`).
-/

namespace RequestDispatch

open Routing

/-- The reports of setup steps. -/
def Event.IsSetup : Event → Prop
  | .routeRegistered .. | .middlewareAdded .. | .groupCreated .. | .groupMiddlewareAdded ..
  | .tableLoaded .. => True
  | _ => False

/-- A relation between the state before and the state after a setup step that composes and that no part
of a step can break. -/
structure Setup.Frame (keeps : SetupState → SetupState → Prop) : Prop where
  refl : ∀ s, keeps s s
  trans : ∀ {before between after}, keeps before between → keeps between after → keeps before after
  report : ∀ s (event : Event), event.IsSetup → keeps s { s with events := event :: s.events }
  /-- A change that leaves the router alone. -/
  change : ∀ s (d : Dispatcher), d.router = s.dispatcher.router → keeps s { s with dispatcher := d }
  /-- A route is accepted. -/
  accept : ∀ s (call : Submission Mount) {route router},
    s.dispatcher.router.submit call = .ok (route, router) →
    keeps s { s with dispatcher := { s.dispatcher with router := router } }

/-- A setup respects a relation between states, whether or not it fails. -/
def Setup.Keeps {α : Type} (step : Setup α) (keeps : SetupState → SetupState → Prop) : Prop :=
  ∀ s, keeps s (step.run s).2

namespace Setup.Frame

variable {α β : Type} {keeps : SetupState → SetupState → Prop}

theorem pure (frame : Frame keeps) (a : α) : (Pure.pure a : Setup α).Keeps keeps := frame.refl

theorem throw (frame : Frame keeps) (error : SetupError) :
    (MonadExcept.throw error : Setup α).Keeps keeps := frame.refl

theorem dispatcher (frame : Frame keeps) : dispatcher.Keeps keeps := frame.refl

theorem reported (frame : Frame keeps) {event : Event} (ofSetup : event.IsSetup) :
    (Setup.report event).Keeps keeps :=
  fun s => frame.report s event ofSetup

theorem changed (frame : Frame keeps) {f : Dispatcher → Dispatcher}
    (same : ∀ d, (f d).router = d.router) : (Setup.change f).Keeps keeps :=
  fun s => frame.change s _ (same s.dispatcher)

theorem bind (frame : Frame keeps) {step : Setup α} {next : α → Setup β} (first : step.Keeps keeps)
    (second : ∀ a, (next a).Keeps keeps) : (step >>= next).Keeps keeps := by
  intro s
  have before := first s
  rw [run_bind]
  generalize step.run s = run at before ⊢
  obtain ⟨result, s'⟩ := run
  cases result with
  | ok a => exact frame.trans before (second a s')
  | error error => exact before

theorem forM (frame : Frame keeps) {f : α → Setup Unit} (each : ∀ a, (f a).Keeps keeps)
    (items : List α) : (items.forM f).Keeps keeps := by
  induction items with
  | nil => exact frame.pure ()
  | cons a rest ih => exact frame.bind (each a) fun _ => ih

theorem ofExcept (frame : Frame keeps) (answer : Except RouteError α) :
    (Setup.ofExcept answer).Keeps keeps := by
  cases answer with
  | ok a => exact frame.pure a
  | error error => exact frame.throw (.route error)

theorem mount (frame : Frame keeps) (scope : Option Nat) (m : Method) (template : String)
    (handler : Handler) : (mount scope m template handler).Keeps keeps := by
  intro s
  cases answer : s.dispatcher.router.submit (request scope template handler m) with
  | error error =>
    rw [mount_refused answer]
    exact frame.refl s
  | ok accepted =>
    rw [mount_admitted answer]
    exact frame.trans (frame.accept s _ answer) (frame.report _ _ trivial)

theorem route (frame : Frame keeps) (site : Site) (methods : List Method) (path : String)
    (handler : Handler) : (route site methods path handler).Keeps keeps := by
  unfold Setup.route
  split
  · exact frame.mount _ _ _ _
  · exact frame.forM (fun m => frame.mount _ _ _ _) _

theorem use (frame : Frame keeps) (site : Site) (m : Middleware) : (use site m).Keeps keeps := by
  unfold Setup.use
  split
  · exact frame.bind frame.dispatcher fun _ =>
      frame.bind (frame.reported trivial) fun _ => frame.changed fun _ => rfl
  · exact frame.bind (frame.reported trivial) fun _ => frame.changed fun _ => rfl

theorem openGroup (frame : Frame keeps) (site : Site) (path : String) :
    (openGroup site path).Keeps keeps :=
  frame.bind frame.dispatcher fun _ => frame.bind (frame.changed fun _ => rfl) fun _ =>
    frame.bind (frame.reported trivial) fun _ => frame.pure _

theorem useNamed (frame : Frame keeps) (registry : Registry) (site : Site) (names : List String) :
    (useNamed registry site names).Keeps keeps :=
  frame.forM (fun _ => frame.bind (frame.ofExcept _) fun _ => frame.use _ _) names

theorem routeEntries (frame : Frame keeps) (registry : Registry) (site : Site)
    (entries : List RouteEntry) : (routeEntries registry site entries).Keeps keeps :=
  frame.forM (fun _ => frame.bind (frame.ofExcept _) fun _ =>
    frame.bind (frame.ofExcept _) fun _ => frame.route _ _ _ _) entries

end Setup.Frame

section

variable {keeps : SetupState → SetupState → Prop}

namespace Registration

theorem answer_keeps {step : Setup SetupAnswer} (kept : step.Keeps keeps) :
    (answer step).Keeps keeps := by
  intro s
  obtain ⟨a, ran⟩ := answer_run step s
  rw [ran]
  exact kept s

mutual

theorem perform_keeps (frame : Setup.Frame keeps) (site : Site) :
    ∀ r : Registration, (perform site r).Keeps keeps
  | .route methods path handler =>
    answer_keeps (frame.bind (frame.route site methods path handler) fun _ => frame.pure _)
  | .use middleware => frame.bind (frame.use site middleware) fun _ => frame.pure _
  | .group path strict body => by
    refine frame.bind (frame.openGroup site path) fun inner =>
      frame.bind (performAll_keeps frame inner body) fun answers => ?_
    split <;> exact frame.pure _
  | .debug on => frame.bind (frame.changed fun _ => rfl) fun _ => frame.pure _
  | .notFound handler => frame.bind (frame.changed fun _ => rfl) fun _ => frame.pure _
  | .methodNotAllowed handler => frame.bind (frame.changed fun _ => rfl) fun _ => frame.pure _
  | .errorHandler run => frame.bind (frame.changed fun _ => rfl) fun _ => frame.pure _
  | .hook run => frame.bind (frame.changed fun _ => rfl) fun _ => frame.pure _
  | .refuse reason => frame.pure _
termination_by structural r => r

theorem performAll_keeps (frame : Setup.Frame keeps) (site : Site) :
    ∀ rs : List Registration, (performAll site rs).Keeps keeps
  | [] => frame.pure []
  | r :: rest =>
    frame.bind (perform_keeps frame site r) fun _ =>
      frame.bind (performAll_keeps frame site rest) fun _ => frame.pure _
termination_by structural rs => rs

end

theorem change_keeps (frame : Setup.Frame keeps) :
    ∀ rs : List Registration, (change rs).Keeps keeps
  | [] => frame.pure ()
  | r :: rest => by
    refine frame.bind (perform_keeps frame .outside r) fun answer => ?_
    split
    · exact frame.throw _
    · exact change_keeps frame rest

end Registration

namespace GroupEntry

mutual

theorem apply_keeps (frame : Setup.Frame keeps) (registry : Registry) (site : Site) :
    ∀ group : GroupEntry, (apply registry site group).Keeps keeps
  | .mk base middleware routes groups =>
    frame.bind (frame.openGroup site base) fun inner =>
      frame.bind (frame.useNamed registry inner middleware) fun _ =>
        frame.bind (frame.routeEntries registry inner routes) fun _ =>
          applyAll_keeps frame registry inner groups
termination_by structural group => group

theorem applyAll_keeps (frame : Setup.Frame keeps) (registry : Registry) (site : Site) :
    ∀ groups : List GroupEntry, (applyAll registry site groups).Keeps keeps
  | [] => frame.pure ()
  | group :: rest =>
    frame.bind (apply_keeps frame registry site group) fun _ =>
      applyAll_keeps frame registry site rest
termination_by structural groups => groups

end

end GroupEntry

theorem RouteTable.apply_keeps (frame : Setup.Frame keeps) (table : RouteTable) (registry : Registry) :
    (table.apply registry).Keeps keeps :=
  frame.bind (frame.useNamed registry .outside table.middleware) fun _ =>
    frame.bind (frame.routeEntries registry .outside table.routes) fun _ =>
      frame.bind (GroupEntry.applyAll_keeps frame registry .outside table.groups) fun _ =>
        frame.bind frame.dispatcher fun _ => frame.reported trivial

end

/-! ### Setup completes no requests -/

/-- The status of a request that was reported as completed. -/
def Event.completed? : Event → Option Status
  | .requestCompleted status _ => some status
  | _ => none

/-- The setup adds no report of a completed request to those that are there. -/
def Setup.Silent {α : Type} (step : Setup α) : Prop :=
  ∀ s, (step.run s).2.events.filterMap Event.completed? = s.events.filterMap Event.completed?

theorem Setup.frame_silent :
    Frame fun s s' => s'.events.filterMap Event.completed? = s.events.filterMap Event.completed? where
  refl _ := rfl
  trans first second := second.trans first
  report s event ofSetup := by
    have other : event.completed? = none := by
      cases event with
      | requestCompleted => exact ofSetup.elim
      | _ => rfl
    exact List.filterMap_cons_none other
  change _ _ _ := rfl
  accept _ _ _ _ _ := rfl

theorem Registration.change_silent (rs : List Registration) : (change rs).Silent :=
  change_keeps Setup.frame_silent rs

end RequestDispatch
