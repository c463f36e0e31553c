import Tether.Proofs.Camera.Outcome
import Tether.Proofs.Statechart.Journal

/-!
# What handlers do about failed calls

The journal of the camera controller tells which calls have failed, and for which asking they were
made (`failures`). A failure is alarming unless the call may fail there: a session may always be
closed in vain, and a full refresh, as the choice of where pictures are stored on connecting, passes
over settings and values that the camera does not offer (`Failure.isAlarming`).

A state that is asked about an event answers an alarming failure with a transition to a broken
state, and asks for such a transition for no other reason but the news of an error
(`handle_event_responds`). A state that is entered reports an alarming failure to the controller
itself (`handle_entry_admits`).
-/

namespace Tether

namespace Call

/-- Whether a call reads or changes a setting. -/
def isAccessor : Call → Bool
  | .connect | .disconnect | .capture | .download .. => false
  | _ => true

theorem isAccessor_of_isSetter {call : Call} (setter : call.isSetter) : call.isAccessor := by
  cases call with
  | connect | disconnect | capture | download => cases setter
  | _ => rfl

end Call

namespace Camera

variable {δ : Type}

/-! ## Failures -/

/-- A call that has failed, and the asking that it was made for, if there was one. -/
structure Failure where
  asking : Option Asking
  call : Call
  fault : Fault

/-- The failures of a journal, where `asking` is the asking that the journal begins in. -/
def failuresFrom (asking : Option Asking) : List (Effect State) → List Failure
  | [] => []
  | .asked leaf state signal :: rest => failuresFrom (some ⟨leaf, state, signal⟩) rest
  | .called call (.error fault) :: rest => ⟨asking, call, fault⟩ :: failuresFrom asking rest
  | _ :: rest => failuresFrom asking rest

/-- The calls of a journal that have failed, each with the asking that it was made for. -/
def failures (journal : List (Effect State)) : List Failure :=
  failuresFrom none journal

/-- Whether settings and values that the camera does not offer are passed over: in a full refresh,
and where pictures are to be stored on connecting. -/
def Asking.isTolerant (asking : Asking) : Bool :=
  match asking.state, asking.signal with
  | .connected, .entry | .ready, .entry | .ready, .event .getAll => true
  | _, _ => false

/-- Whether a failure must not be passed over. -/
def Failure.isAlarming (failure : Failure) : Bool :=
  match failure.call with
  | .disconnect => false
  | .connect | .capture | .download .. => true
  | _ => failure.fault.isTrouble || !failure.asking.any Asking.isTolerant

/-- The states that the controller is in while the camera cannot be used. -/
def State.isBroken : State → Bool
  | .connectionError | .error => true
  | _ => false

/-- The call and the fault of an entry of a journal, if it is a call that has failed. -/
def fault? : Effect State → Option (Call × Fault)
  | .called call (.error fault) => some (call, fault)
  | _ => none

def faults (journal : List (Effect State)) : List (Call × Fault) :=
  journal.filterMap fault?

/-- What is added to a journal is read in the asking that the journal ends in. -/
theorem failuresFrom_append (asking : Option Asking) (journal added : List (Effect State)) :
    ∃ last, failuresFrom asking (journal ++ added) =
      failuresFrom asking journal ++ failuresFrom last added := by
  induction journal generalizing asking with
  | nil => exact ⟨asking, rfl⟩
  | cons effect journal ih =>
    cases effect with
    | asked leaf state signal => exact ih _
    | posted event topic => exact ih asking
    | postedSelf event => exact ih asking
    | warned warning => exact ih asking
    | called call reply =>
      obtain ⟨last, equal⟩ := ih asking
      cases reply with
      | ok reply => exact ⟨last, equal⟩
      | error fault => exact ⟨last, congrArg (Failure.mk asking call fault :: ·) equal⟩

theorem failures_append_asked (journal added : List (Effect State)) (leaf state : State)
    (signal : Signal) :
    failures (journal ++ .asked leaf state signal :: added) =
      failures journal ++ failuresFrom (some ⟨leaf, state, signal⟩) added :=
  (failuresFrom_append none journal _).elim fun _ equal => equal

theorem failures_append_warned (journal : List (Effect State)) (warning : Warning) :
    failures (journal ++ [.warned warning]) = failures journal :=
  (failuresFrom_append none journal _).elim fun _ equal => equal.trans (List.append_nil _)

/-- Between two askings, all calls that fail are made for the first one. -/
theorem failuresFrom_of_quiet (asking : Asking) {added : List (Effect State)}
    (quiet : ∀ effect ∈ added, effect.isAsked = false) :
    failuresFrom (some asking) added =
      (faults added).map fun failed => ⟨some asking, failed.1, failed.2⟩ := by
  induction added with
  | nil => rfl
  | cons effect rest ih =>
    have later := ih fun other member => quiet other (List.mem_cons_of_mem effect member)
    cases effect with
    | asked leaf state signal => cases quiet _ List.mem_cons_self
    | posted event topic => exact later
    | postedSelf event => exact later
    | warned warning => exact later
    | called call reply =>
      cases reply with
      | ok reply => exact later
      | error fault => exact congrArg (⟨some asking, call, fault⟩ :: ·) later

/-- Some calls that have failed for an asking are alarming. -/
def Alarming (asking : Asking) (failed : List (Call × Fault)) : Prop :=
  ∃ one ∈ failed, (Failure.mk (some asking) one.1 one.2).isAlarming

theorem not_alarming_nil (asking : Asking) : ¬ Alarming asking [] := by
  rintro ⟨one, member, -⟩
  cases member

theorem not_alarming_disconnect (asking : Asking) {failed : List (Call × Fault)}
    (closing : ∀ one ∈ failed, one.1 = .disconnect) : ¬ Alarming asking failed := by
  rintro ⟨⟨call, fault⟩, member, alarming⟩
  cases (closing _ member : call = .disconnect)
  cases alarming

theorem isAlarming_of_accessor {call : Call} (accessor : call.isAccessor) (asking : Asking)
    (fault : Fault) : (Failure.mk (some asking) call fault).isAlarming =
      (fault.isTrouble || !asking.isTolerant) := by
  cases call with
  | connect | disconnect | capture | download => cases accessor
  | _ => rfl

/-- From one scope to another some calls have failed. -/
def Fails (failed : List (Call × Fault)) (before after : Scope State (Memory δ)) : Prop :=
  faults after.journal = faults before.journal ++ failed

namespace Fails

variable {failed more : List (Call × Fault)} {before middle after : Scope State (Memory δ)}

theorem refl (scope : Scope State (Memory δ)) : Fails [] scope scope :=
  (List.append_nil _).symm

theorem trans (first : Fails failed before middle) (second : Fails more middle after) :
    Fails (failed ++ more) before after := by
  rw [Fails, second, first, List.append_assoc]

theorem record (first : Fails failed before after) {effect : Effect State}
    (quiet : fault? effect = none) : Fails failed before (after.record effect) := by
  rw [Fails, Scope.record, faults, List.filterMap_append, List.filterMap_cons_none quiet]
  exact (List.append_nil _).trans first

theorem update (first : Fails failed before after) (change : Memory δ → Memory δ) :
    Fails failed before (update after change) :=
  first

theorem of_adds (adds : Scope.Adds (fun effect => fault? effect = none) before after) :
    Fails [] before after := by
  obtain ⟨added, grown, quiet⟩ := adds
  rw [Fails, grown, faults, List.filterMap_append, List.filterMap_eq_nil_iff.mpr quiet, faults]

end Fails

section Handlers

variable (driver : Driver δ) {scope after : Scope State (Memory δ)}

theorem perform_ok {call : Call} {reply : call.Reply}
    (found : perform driver scope call = (.ok reply, after)) : Fails [] scope after := by
  have journal : after.journal = scope.journal ++ [.called call (.ok reply)] := by
    obtain ⟨answered, rfl⟩ := Prod.mk.inj found
    rw [← answered]
    rfl
  rw [Fails, journal, faults, List.filterMap_append]
  rfl

theorem perform_error {call : Call} {fault : Fault}
    (found : perform driver scope call = (.error fault, after)) :
    Fails [(call, fault)] scope after := by
  have journal : after.journal = scope.journal ++ [.called call (.error fault)] := by
    obtain ⟨answered, rfl⟩ := Prod.mk.inj found
    rw [← answered]
    rfl
  rw [Fails, journal, faults, List.filterMap_append]
  rfl

variable (scope)

theorem connect_fails (onFailure : State) :
    (Fails [] scope (connect driver scope onFailure).1 ∧
      (connect driver scope onFailure).2 = .transition .connected) ∨
    ∃ fault, Fails [(.connect, fault)] scope (connect driver scope onFailure).1 ∧
      (connect driver scope onFailure).2 = .transition onFailure := by
  unfold connect
  split
  · next found =>
    have opened := perform_ok driver found
    exact .inl ⟨opened, rfl⟩
  · next fault _ found => exact .inr ⟨fault, perform_error driver found, rfl⟩

theorem disconnect_fails : ∃ failed, Fails failed scope (disconnect driver scope) ∧
    ∀ one ∈ failed, one.1 = .disconnect := by
  cases found : perform driver scope .disconnect with
  | mk reply closed =>
    have same : (disconnect driver scope).journal = closed.journal := by
      rw [disconnect, found]
      rfl
    cases reply with
    | ok reply =>
      exact ⟨[], (congrArg faults same).trans (perform_ok driver found), List.forall_mem_nil _⟩
    | error fault =>
      refine ⟨[(.disconnect, fault)],
        (congrArg faults same).trans (perform_error driver found), ?_⟩
      intro one member
      rw [List.mem_singleton.mp member]

theorem serveQuery_fails (query : Query) :
    ((serveQuery driver scope query).1 = .ok () ∧
      Fails [] scope (serveQuery driver scope query).2) ∨
    ∃ fault, (serveQuery driver scope query).1 = .error fault ∧
      Fails [(query.call, fault)] scope (serveQuery driver scope query).2 := by
  unfold serveQuery
  split
  · next found => exact .inl ⟨rfl, (perform_ok driver found).record rfl⟩
  · next fault _ found => exact .inr ⟨fault, rfl, perform_error driver found⟩

/-- A change fails if the setting cannot be written or not be read back. -/
theorem serveChange_fails (change : Change) :
    ((serveChange driver scope change).1 = .ok () ∧
      Fails [] scope (serveChange driver scope change).2) ∨
    ∃ call fault, (call = change.call ∨ call = change.query.call) ∧
      (serveChange driver scope change).1 = .error fault ∧
      Fails [(call, fault)] scope (serveChange driver scope change).2 := by
  unfold serveChange
  split
  · next written found =>
    have wrote := perform_ok driver found
    rcases serveQuery_fails driver written change.query with ⟨ok, read⟩ |
      ⟨fault, failed, read⟩
    · exact .inl ⟨ok, wrote.trans read⟩
    · exact .inr ⟨change.query.call, fault, .inr rfl, failed, wrote.trans read⟩
  · next fault _ found =>
    exact .inr ⟨change.call, fault, .inl rfl, rfl, perform_error driver found⟩

/-- From one scope to another some queries of a list have failed, with faults of a kind. -/
def FailsAmong (queries : List Query) (kind : List (Call × Fault) → Prop)
    (before after : Scope State (Memory δ)) : Prop :=
  ∃ failed, Fails failed before after ∧
    (∀ one ∈ failed, ∃ query ∈ queries, one.1 = query.call) ∧ kind failed

/-- No fault is one of a camera in trouble. -/
def Untroubled (failed : List (Call × Fault)) : Prop :=
  ∀ one ∈ failed, one.2.isTrouble = false

/-- One more query of the list has failed. -/
theorem FailsAmong.concat {queries : List Query} {kind : List (Call × Fault) → Prop}
    {before middle : Scope State (Memory δ)} {query : Query} {fault : Fault}
    (fails : FailsAmong queries Untroubled before middle) (member : query ∈ queries)
    (refused : Fails [(query.call, fault)] middle after)
    (becomes : ∀ failed, Untroubled failed → kind (failed ++ [(query.call, fault)])) :
    FailsAmong queries kind before after := by
  obtain ⟨failed, earlier, listed, harmless⟩ := fails
  refine ⟨_, earlier.trans refused, ?_, becomes failed harmless⟩
  exact List.forall_mem_append.mpr
    ⟨listed, List.forall_mem_singleton.mpr ⟨query, member, rfl⟩⟩

/-- A series of queries fails if and only if one of them finds the camera in trouble. -/
theorem serveQueries_fails (queries : List Query) (scope : Scope State (Memory δ)) :
    ∃ failed, Fails failed scope (serveQueries driver queries scope).2 ∧
      (∀ one ∈ failed, ∃ query ∈ queries, one.1 = query.call) ∧
      (((serveQueries driver queries scope).1 = .ok () ∧ Untroubled failed) ∨
        ∃ fault, (serveQueries driver queries scope).1 = .error fault ∧
          ∃ one ∈ failed, one.2.isTrouble) := by
  have ends := @serveQueries_ends δ driver (FailsAmong queries Untroubled scope)
    (fun _ => FailsAmong queries (∃ one ∈ ·, one.2.isTrouble) scope) scope queries ?_
    ⟨[], .refl scope, List.forall_mem_nil _, List.forall_mem_nil _⟩
  · split at ends
    · next found =>
      obtain ⟨failed, fails, listed, harmless⟩ := ends
      rw [found]
      exact ⟨failed, fails, listed, .inl ⟨rfl, harmless⟩⟩
    · next fault _ found =>
      obtain ⟨failed, fails, listed, trouble⟩ := ends
      rw [found]
      exact ⟨failed, fails, listed, .inr ⟨fault, rfl, trouble⟩⟩
  · intro query member middle fails
    rcases serveQuery_fails driver middle query with ⟨ok, idle⟩ | ⟨fault, error, refused⟩
    · rw [← Prod.eta (serveQuery driver middle query), ok]
      obtain ⟨failed, earlier, listed, harmless⟩ := fails
      have both := earlier.trans idle
      rw [List.append_nil] at both
      exact ⟨failed, both, listed, harmless⟩
    · rw [← Prod.eta (serveQuery driver middle query), error]
      dsimp only
      by_cases trouble : fault.isTrouble
      · rw [if_pos trouble]
        exact fails.concat member refused fun failed _ =>
          ⟨_, List.mem_append_right failed List.mem_cons_self, trouble⟩
      · rw [if_neg trouble]
        refine fails.concat member refused fun failed harmless => ?_
        exact List.forall_mem_append.mpr
          ⟨harmless, List.forall_mem_singleton.mpr (eq_false_of_ne_true trouble)⟩

end Handlers

/-! ## Answers to events -/

/-- How a state has to answer an event for which some calls have failed. -/
structure Responds (asking : Asking) (failed : List (Call × Fault)) (reaction : Reaction State) :
    Prop where
  noticed : Alarming asking failed → ∃ target, reaction = .transition target ∧ target.isBroken
  founded : ∀ target, reaction = .transition target → target.isBroken →
    Alarming asking failed ∨ asking.signal = .event .cameraError

/-- Whether an answer is as it has to be after the calls that have failed for it. -/
def Answered (asking : Asking) (before : Scope State (Memory δ))
    (outcome : Scope State (Memory δ) × Reaction State) : Prop :=
  ∃ failed, Fails failed before outcome.1 ∧ Responds asking failed outcome.2

section Answers

variable (driver : Driver δ) {asking : Asking} {scope before after : Scope State (Memory δ)}

/-- Nothing alarming has happened, and no broken state is asked for. -/
theorem answered_calm {failed : List (Call × Fault)} {reaction : Reaction State}
    (fails : Fails failed before after) (calm : ¬ Alarming asking failed)
    (sound : ∀ target, reaction = .transition target → target.isBroken = false) :
    Answered asking before (after, reaction) := by
  refine ⟨failed, fails, fun alarming => absurd alarming calm, fun target leads broken => ?_⟩
  rw [sound target leads] at broken
  cases broken

theorem answered_handled {reaction : Reaction State} (fails : Fails [] before after)
    (stays : ∀ target, reaction ≠ .transition target) :
    Answered asking before (after, reaction) :=
  answered_calm fails (not_alarming_nil asking) fun target leads => absurd leads (stays target)

theorem answered_leads {failed : List (Call × Fault)} (fails : Fails failed before after)
    (closing : ∀ one ∈ failed, one.1 = .disconnect) {target : State}
    (sound : target.isBroken = false) : Answered asking before (after, .transition target) := by
  refine answered_calm fails (not_alarming_disconnect asking closing) fun other leads => ?_
  cases leads
  exact sound

/-- An alarming failure is answered with a broken state. -/
theorem answered_alarming {failed : List (Call × Fault)} (fails : Fails failed before after)
    (alarming : Alarming asking failed) {target : State} (broken : target.isBroken) :
    Answered asking before (after, .transition target) :=
  ⟨failed, fails, fun _ => ⟨target, rfl, broken⟩, fun _ _ _ => .inl alarming⟩

theorem answered_connect {failed : List (Call × Fault)} (fails : Fails failed before scope)
    (closing : ∀ one ∈ failed, one.1 = .disconnect) {onFailure : State}
    (broken : onFailure.isBroken) : Answered asking before (connect driver scope onFailure) := by
  rcases connect_fails driver scope onFailure with ⟨opened, leads⟩ | ⟨fault, refused, leads⟩
  · have both := fails.trans opened
    rw [List.append_nil] at both
    rw [← Prod.eta (connect driver scope onFailure), leads]
    exact answered_leads both closing rfl
  · rw [← Prod.eta (connect driver scope onFailure), leads]
    exact answered_alarming (fails.trans refused)
      ⟨(.connect, fault), List.mem_append_right _ List.mem_cons_self, rfl⟩ broken

theorem answered_takePicture : Answered asking scope (takePicture driver scope) := by
  unfold takePicture
  split
  · next path taken found =>
    have fails := perform_ok driver found
    split
    · exact answered_leads (fails.update _) (List.forall_mem_nil _) rfl
    · exact answered_leads (fails.record rfl) (List.forall_mem_nil _) rfl
  · next fault _ found =>
    exact answered_alarming (perform_error driver found) ⟨_, List.mem_cons_self, rfl⟩ rfl

theorem answered_fetchPicture (fails : Fails [] before scope) (source : CameraPath) :
    Answered asking before (fetchPicture driver scope source) := by
  unfold fetchPicture
  dsimp only
  split
  · next found =>
    exact answered_leads ((fails.trans (perform_ok driver found)).record rfl)
      (List.forall_mem_nil _) rfl
  · next fault _ found =>
    exact answered_alarming (fails.trans (perform_error driver found))
      ⟨_, List.mem_cons_self, rfl⟩ rfl

/-- What the calls for a request have to do with its event. -/
theorem accessors_of_ofEvent? {event : Event} {request : Request}
    (found : Request.ofEvent? event = some request) :
    match request with
    | .query query => query.call.isAccessor ∧ event ≠ .getAll
    | .change change => change.query.call.isAccessor ∧ event ≠ .getAll
    | .all => event = .getAll := by
  cases event <;> cases found <;> first | exact ⟨rfl, nofun⟩ | rfl

/-- Only a full refresh is tolerant among the requests. -/
theorem isTolerant_ready (leaf : State) {event : Event} (other : event ≠ .getAll) :
    Asking.isTolerant ⟨leaf, .ready, .event event⟩ = false := by
  unfold Asking.isTolerant
  split
  · next equal _ => cases equal
  · next equal => cases equal
  · next equal => cases equal; exact absurd rfl other
  · rfl

theorem alarming_iff_trouble {failed : List (Call × Fault)} (tolerant : asking.isTolerant)
    (accessors : ∀ one ∈ failed, ∃ query ∈ Query.refresh, one.1 = query.call) :
    Alarming asking failed ↔ ∃ one ∈ failed, one.2.isTrouble := by
  have listed : ∀ query ∈ Query.refresh, query.call.isAccessor := by decide
  refine exists_congr fun one => and_congr_right fun member => ?_
  obtain ⟨query, among, equal⟩ := accessors one member
  rw [isAlarming_of_accessor (equal ▸ listed query among), tolerant, Bool.not_true, Bool.or_false]

/-- Serving a request fails if and only if something alarming happens. -/
theorem serve_fails (leaf : State) {event : Event} {request : Request}
    (found : Request.ofEvent? event = some request) (scope : Scope State (Memory δ)) :
    ∃ failed, Fails failed scope (serve driver scope request).2 ∧
      (((serve driver scope request).1 = .ok () ∧
        ¬ Alarming ⟨leaf, .ready, .event event⟩ failed) ∨
        ∃ fault, (serve driver scope request).1 = .error fault ∧
          Alarming ⟨leaf, .ready, .event event⟩ failed) := by
  have asked := accessors_of_ofEvent? found
  have alone {call : Call} (accessor : call.isAccessor) (other : event ≠ .getAll)
      (fault : Fault) : Alarming ⟨leaf, .ready, .event event⟩ [(call, fault)] := by
    refine ⟨_, List.mem_cons_self, ?_⟩
    rw [isAlarming_of_accessor accessor, isTolerant_ready leaf other, Bool.not_false, Bool.or_true]
  cases request with
  | query query =>
    rcases serveQuery_fails driver scope query with ⟨ok, fails⟩ | ⟨fault, refused, fails⟩
    · exact ⟨_, fails, .inl ⟨ok, not_alarming_nil _⟩⟩
    · exact ⟨_, fails, .inr ⟨fault, refused, alone asked.1 asked.2 fault⟩⟩
  | change change =>
    rcases serveChange_fails driver scope change with
      ⟨ok, fails⟩ | ⟨call, fault, either, refused, fails⟩
    · exact ⟨_, fails, .inl ⟨ok, not_alarming_nil _⟩⟩
    · have accessor : call.isAccessor := by
        rcases either with rfl | rfl
        · exact Call.isAccessor_of_isSetter change.writes
        · exact asked.1
      exact ⟨_, fails, .inr ⟨fault, refused, alone accessor asked.2 fault⟩⟩
  | all =>
    cases (asked : event = .getAll)
    obtain ⟨failed, fails, among, ending⟩ := serveQueries_fails driver Query.refresh scope
    have alarming : Alarming ⟨leaf, .ready, .event .getAll⟩ failed ↔ _ :=
      alarming_iff_trouble rfl among
    refine ⟨failed, fails, ending.imp ?_ ?_⟩
    · rintro ⟨ok, harmless⟩
      refine ⟨ok, fun alarm => ?_⟩
      obtain ⟨one, member, trouble⟩ := alarming.mp alarm
      rw [harmless one member] at trouble
      cases trouble
    · rintro ⟨fault, refused, trouble⟩
      exact ⟨fault, refused, alarming.mpr trouble⟩

theorem answered_answer (leaf : State) {event : Event} {request : Request}
    (found : Request.ofEvent? event = some request) (scope : Scope State (Memory δ)) :
    Answered ⟨leaf, .ready, .event event⟩ scope (answer driver scope request) := by
  obtain ⟨failed, fails, ending⟩ := serve_fails driver leaf found scope
  unfold answer
  cases served : serve driver scope request with
  | mk reply after =>
    rw [served] at fails ending
    rcases ending with ⟨ok, calm⟩ | ⟨fault, refused, alarming⟩
    · cases (ok : reply = .ok ())
      exact answered_calm fails calm nofun
    · cases (refused : reply = .error fault)
      exact answered_alarming fails alarming rfl

/-! ## Signals -/

theorem fails_defer (scope : Scope State (Memory δ)) (event : Event) :
    Fails [] scope (scope.defer event) :=
  .of_adds (Scope.Adds.defer (fun effect => fault? effect = none) rfl scope event)

theorem answered_deferWhileBusy (event : Event) :
    Answered asking scope (deferWhileBusy scope event) := by
  unfold deferWhileBusy
  split
  · exact answered_handled (fails_defer scope event) nofun
  · exact answered_handled (.refl scope) nofun

section Handlers

variable (leaf : State) (event : Event) (scope : Scope State (Memory δ))

theorem answered_delegate : Answered asking scope (scope, .delegate) :=
  answered_handled (.refl scope) nofun

theorem super_answered :
    Answered ⟨leaf, .super, .event event⟩ scope (super scope (.event event)) := by
  have idle := Fails.refl scope
  unfold super
  split
  · next equal => cases equal
  · next equal => cases equal
  · next equal => cases equal
  · exact answered_handled ((idle.update _).record rfl) nofun
  · exact answered_handled (idle.update _) nofun
  · exact answered_handled (idle.record rfl) nofun
  · exact answered_delegate scope

theorem disconnected_answered :
    Answered ⟨leaf, .disconnected, .event event⟩ scope
      (disconnected driver scope (.event event)) := by
  unfold disconnected
  split
  · next equal => cases equal
  · exact answered_connect driver (.refl scope) (List.forall_mem_nil _) rfl
  · exact answered_delegate scope

theorem connected_answered :
    Answered ⟨leaf, .connected, .event event⟩ scope
      (connected driver scope (.event event)) := by
  obtain ⟨failed, closed, closing⟩ := disconnect_fails driver scope
  unfold connected
  split
  · next equal => cases equal
  · next equal => cases equal
  · next equal => cases equal
  · exact answered_leads closed closing rfl
  · next equal =>
    cases equal
    -- The news of an error are what a transition to a broken state may answer without a failure.
    exact ⟨[], .refl scope, fun alarming => absurd alarming (not_alarming_nil _),
      fun _ _ _ => .inr rfl⟩
  · exact answered_delegate scope

theorem ready_answered :
    Answered ⟨leaf, .ready, .event event⟩ scope (ready driver scope (.event event)) := by
  unfold ready
  split
  · next equal => cases equal
  · next equal => cases equal
  · next equal => cases equal
  · exact answered_leads (.refl scope) (List.forall_mem_nil _) rfl
  · next equal =>
    cases equal
    split
    · next found => exact answered_answer driver leaf found scope
    · exact answered_delegate scope

theorem capturing_answered :
    Answered ⟨leaf, .capturing, .event event⟩ scope
      (capturing driver scope (.event event)) := by
  unfold capturing
  split
  · next equal => cases equal
  · next equal => cases equal
  · next equal => cases equal
  · exact answered_takePicture driver
  · exact answered_deferWhileBusy _

theorem downloading_answered :
    Answered ⟨leaf, .downloading, .event event⟩ scope
      (downloading driver scope (.event event)) := by
  have idle := Fails.refl scope
  unfold downloading
  split
  · next equal => cases equal
  · next equal => cases equal
  · next equal => cases equal
  · split
    · exact answered_leads idle (List.forall_mem_nil _) rfl
    · next source _ => exact answered_fetchPicture driver (idle.update _) source
  · exact answered_deferWhileBusy _

theorem connectionError_answered :
    Answered ⟨leaf, .connectionError, .event event⟩ scope
      (connectionError driver scope (.event event)) := by
  have idle := Fails.refl scope
  unfold connectionError
  split
  · next equal => cases equal
  · next equal => cases equal
  · next equal => cases equal
  · exact answered_connect driver idle (List.forall_mem_nil _) rfl
  · exact answered_leads idle (List.forall_mem_nil _) rfl
  · split
    · exact answered_handled (fails_defer scope _) nofun
    · exact answered_delegate scope

theorem error_answered :
    Answered ⟨leaf, .error, .event event⟩ scope (error driver scope (.event event)) := by
  have idle := Fails.refl scope
  obtain ⟨failed, closed, closing⟩ := disconnect_fails driver scope
  unfold error
  split
  · next equal => cases equal
  · next equal => cases equal
  · next equal => cases equal
  · exact answered_connect driver closed closing rfl
  · exact answered_connect driver closed closing rfl
  · exact answered_leads idle (List.forall_mem_nil _) rfl
  · exact answered_leads closed closing rfl
  · exact answered_handled idle nofun
  · split
    · exact answered_handled (fails_defer scope _) nofun
    · exact answered_delegate scope

end Handlers

/-- Whatever fails while a state is asked about an event, it answers as it has to. -/
theorem handle_event_responds (leaf state : State) (event : Event)
    (scope : Scope State (Memory δ)) :
    Answered ⟨leaf, state, .event event⟩ scope
      ((chart driver).handle state (.event event) scope) := by
  cases state with
  | super => exact super_answered leaf event scope
  | disconnected => exact disconnected_answered driver leaf event scope
  | connected => exact connected_answered driver leaf event scope
  | ready => exact ready_answered driver leaf event scope
  | capturing => exact capturing_answered driver leaf event scope
  | downloading => exact downloading_answered driver leaf event scope
  | connectionError => exact connectionError_answered driver leaf event scope
  | error => exact error_answered driver leaf event scope

end Answers

/-! ## Entries -/

/-- Whether what is alarming among the calls that have failed for an asking has been reported to the
controller itself. -/
def Admits (asking : Asking) (before after : Scope State (Memory δ)) : Prop :=
  ∃ failed, Fails failed before after ∧
    (Alarming asking failed → .postedSelf .cameraError ∈ after.journal)

section Entries

variable (driver : Driver δ) {asking : Asking} {before after scope : Scope State (Memory δ)}

theorem admits_calm (fails : Fails [] before after) : Admits asking before after :=
  ⟨[], fails, fun alarming => absurd alarming (not_alarming_nil asking)⟩

theorem admits_postSelf {failed : List (Call × Fault)} (fails : Fails failed before after) :
    Admits asking before (after.postSelf .cameraError) :=
  ⟨failed, fails.record rfl, fun _ => List.mem_append_right _ List.mem_cons_self⟩

theorem enterLeaf_fails (scope : Scope State (Memory δ)) (state : State) :
    Fails [] scope (enterLeaf scope state) :=
  ((Fails.refl scope).update _).record rfl

theorem admits_chooseTarget (leaf : State) (fails : Fails [] before scope) :
    Admits ⟨leaf, .connected, .entry⟩ before (chooseTarget driver scope) := by
  unfold chooseTarget
  split
  · next found => exact admits_calm (fails.trans (perform_ok driver found))
  · next fault _ found =>
    have refused := fails.trans (perform_error driver found)
    split
    · exact admits_postSelf refused
    · next harmless =>
      refine ⟨_, refused, fun ⟨one, member, alarming⟩ => absurd alarming ?_⟩
      rw [List.nil_append, List.mem_singleton] at member
      subst member
      rw [isAlarming_of_accessor rfl, eq_false_of_ne_true harmless]
      exact Bool.false_ne_true

theorem admits_refreshIfWanted (leaf : State) (fails : Fails [] before scope) :
    Admits ⟨leaf, .ready, .entry⟩ before (refreshIfWanted driver scope) := by
  unfold refreshIfWanted
  split
  · exact admits_calm fails
  · obtain ⟨failed, refreshed, among, ending⟩ := serveQueries_fails driver Query.refresh scope
    have alarming : Alarming ⟨leaf, .ready, .entry⟩ failed ↔ _ :=
      alarming_iff_trouble rfl among
    unfold reportFailure refreshAll
    split
    · next equal =>
      rw [equal] at refreshed ending
      rcases ending with ⟨-, harmless⟩ | ⟨_, refused, -⟩
      · refine ⟨_, fails.trans refreshed, fun alarm => ?_⟩
        obtain ⟨one, member, trouble⟩ := alarming.mp alarm
        rw [harmless one member] at trouble
        cases trouble
      · cases refused
    · next equal =>
      rw [equal] at refreshed
      exact admits_postSelf (fails.trans refreshed)

theorem fails_schedule (scope : Scope State (Memory δ)) (event : Event) (topic : Topic)
    (delay : Nat) : Fails [] scope (scope.schedule event topic delay).1 :=
  .of_adds (Scope.Adds.schedule (fun effect => fault? effect = none) rfl scope event topic delay)

/-- A state that is entered reports what is alarming. -/
theorem handle_entry_admits (leaf state : State) (scope : Scope State (Memory δ)) :
    Admits ⟨leaf, state, .entry⟩ scope ((chart driver).handle state .entry scope).1 := by
  have noted := enterLeaf_fails scope state
  cases state with
  | super => exact admits_calm (.refl scope)
  | disconnected => exact admits_calm (noted.record rfl)
  | connected => exact admits_chooseTarget driver leaf ((Fails.refl scope).record rfl)
  | ready => exact admits_refreshIfWanted driver leaf (noted.record rfl)
  | capturing => exact admits_calm (noted.record rfl)
  | downloading => exact admits_calm (noted.record rfl)
  | connectionError =>
    exact admits_calm ((noted.record rfl).trans (fails_schedule _ .connect .cameraCmd _))
  | error => exact admits_calm ((noted.record rfl).trans (fails_schedule _ .recover .cameraCmd _))

end Entries

end Camera

end Tether
