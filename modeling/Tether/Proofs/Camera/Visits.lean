import Mathlib.Data.List.Induction
import Tether.Proofs.Camera.Pictures

/-!
# Visits of the busy states

The controller takes a picture in a visit of `Capturing` and stores it in a visit of `Downloading`.
A monitor reads the marks of a run; its phase says what a visit has done so far and which picture
waits (`Phase.step`). Whatever it can follow consists of proper visits: one picture is taken in each
visit of `Capturing` unless the visit is broken off (`capturing_visit`), and a visit of
`Downloading` stores the picture that led to it (`downloading_visit`).

That the monitor can follow whatever the controller does is no matter of this module.
-/

namespace Tether

namespace Camera

variable {δ : Type}

/-! ## Reading marks -/

/-- The events that the current state was asked about. -/
def heard (marks : List Mark) : List Event :=
  marks.filterMap fun
    | .heard event => some event
    | _ => none

/-- The replies to the demands to take a picture. -/
def captures (marks : List Mark) : List (Except Fault CameraPath) :=
  marks.filterMap fun
    | .captured reply => some reply
    | _ => none

/-- The pictures that were to be stored. -/
def fetches (marks : List Mark) : List CameraPath :=
  marks.filterMap fun
    | .fetched source _ _ => some source
    | _ => none

/-- The steps that the controller told itself to take. -/
def dues (marks : List Mark) : List Event :=
  marks.filterMap fun
    | .due event => some event
    | _ => none

/-- What observers were told of captures that are done. -/
def announced (marks : List Mark) : List (Event × Topic) :=
  marks.filterMap fun
    | .told (.captureDone downloaded file) topic => some (.captureDone downloaded file, topic)
    | _ => none

/-- Whether a picture is to be downloaded after some marks. -/
def wished (download : Bool) (marks : List Mark) : Bool :=
  (heard marks).foldl (fun before event => event.wantsDownload before) download

/-- What observers are to be told of captures: of each one that succeeds without a download, and of
each download that succeeds. -/
def earned : Bool → List Mark → List (Event × Topic)
  | _, [] => []
  | download, .heard event :: rest => earned (event.wantsDownload download) rest
  | download, .captured (.ok _) :: rest =>
      if download then earned download rest
      else (.captureDone false "", .cameraEvent) :: earned download rest
  | download, .fetched _ destination (.ok _) :: rest =>
      (.captureDone true destination, .cameraEvent) :: earned download rest
  | download, _ :: rest => earned download rest

@[simp] theorem heard_append (marks more : List Mark) :
    heard (marks ++ more) = heard marks ++ heard more :=
  List.filterMap_append

@[simp] theorem captures_append (marks more : List Mark) :
    captures (marks ++ more) = captures marks ++ captures more :=
  List.filterMap_append

@[simp] theorem fetches_append (marks more : List Mark) :
    fetches (marks ++ more) = fetches marks ++ fetches more :=
  List.filterMap_append

@[simp] theorem dues_append (marks more : List Mark) :
    dues (marks ++ more) = dues marks ++ dues more :=
  List.filterMap_append

@[simp] theorem announced_append (marks more : List Mark) :
    announced (marks ++ more) = announced marks ++ announced more :=
  List.filterMap_append

theorem wished_append (download : Bool) (marks more : List Mark) :
    wished download (marks ++ more) = wished (wished download marks) more := by
  rw [wished, heard_append, List.foldl_append]
  rfl

theorem earned_append (download : Bool) (marks more : List Mark) :
    earned download (marks ++ more) =
      earned download marks ++ earned (wished download marks) more := by
  induction marks generalizing download with
  | nil => rfl
  | cons mark rest ih =>
    cases mark with
    | heard event => exact ih (event.wantsDownload download)
    | captured reply =>
      cases reply with
      | ok path =>
        cases download with
        | true => exact ih true
        | false => exact congrArg (_ :: ·) (ih false)
      | error fault => exact ih download
    | fetched source destination reply =>
      cases reply with
      | ok _ => exact congrArg (_ :: ·) (ih download)
      | error fault => exact ih download
    | _ => exact ih download

/-! ## The monitor -/

/-- What a visit has done so far. -/
inductive Phase where
  /-- No busy state is visited. If a visit of `Capturing` has just ended with a picture that
  observers were not told about, its path. -/
  | away (picture : Option CameraPath)
  /-- No picture has been taken in a visit of `Capturing`; the event that was heard last in it. -/
  | capturing (last : Option Event)
  /-- A picture has been taken, or not, as the reply says. -/
  | taken (picture : Option CameraPath)
  /-- A picture waits in a visit of `Downloading`; the event that was heard last in it. -/
  | downloading (picture : CameraPath) (last : Option Event)
  /-- The picture has been stored, or not. -/
  | stored (picture : CameraPath)
deriving DecidableEq

/-- Whether an event breaks a visit off. -/
def breaks (event : Event) : Bool :=
  decide (event = .disconnect ∨ event = .cameraError)

/-- What a mark makes of a phase, unless it is out of place. -/
def Phase.step : Phase → Mark → Option Phase
  | .away _, .heard _ => some (.away none)
  | .away _, .told .. => some (.away none)
  | .away _, .entered .capturing => some (.capturing none)
  | .away (some picture), .entered .downloading => some (.downloading picture none)
  | .capturing last, .due _ => some (.capturing last)
  | .capturing _, .heard event => some (.capturing (some event))
  | .capturing (some .captureStep), .captured reply => some (.taken reply.toOption)
  | .capturing (some event), .left .capturing => if breaks event then some (.away none) else none
  | .taken _, .told .. => some (.taken none)
  | .taken picture, .left .capturing => some (.away picture)
  | .downloading picture last, .due _ => some (.downloading picture last)
  | .downloading picture _, .heard event => some (.downloading picture (some event))
  | .downloading picture (some .downloadStep), .fetched source _ _ =>
      if source = picture then some (.stored picture) else none
  | .downloading _ (some event), .left .downloading =>
      if breaks event then some (.away none) else none
  | .stored picture, .told .. => some (.stored picture)
  | .stored _, .left .downloading => some (.away none)
  | _, _ => none

/-- The phase that some marks lead to. -/
def Phase.follow (phase : Phase) (marks : List Mark) : Option Phase :=
  marks.foldlM Phase.step phase

theorem Phase.follow_append (phase : Phase) (marks more : List Mark) :
    phase.follow (marks ++ more) = (phase.follow marks).bind fun later => later.follow more :=
  List.foldlM_append

theorem Phase.follow_append_some {phase later : Phase} {marks more : List Mark}
    (followed : phase.follow (marks ++ more) = some later) :
    ∃ middle, phase.follow marks = some middle ∧ middle.follow more = some later :=
  Option.bind_eq_some_iff.mp ((follow_append phase marks more).symm.trans followed)

theorem Phase.follow_cons_some {phase later : Phase} {mark : Mark} {marks : List Mark}
    (followed : phase.follow (mark :: marks) = some later) :
    ∃ middle, phase.step mark = some middle ∧ middle.follow marks = some later :=
  Option.bind_eq_some_iff.mp followed

theorem Phase.step_of_head {phase later : Phase} {mark : Mark} {marks : List Mark}
    (followed : phase.follow marks = some later) (ahead : marks.head? = some mark) :
    ∃ middle, phase.step mark = some middle := by
  obtain ⟨rest, rfl⟩ := List.head?_eq_some_iff.mp ahead
  obtain ⟨middle, step, -⟩ := follow_cons_some followed
  exact ⟨middle, step⟩

theorem Phase.follow_concat {phase later : Phase} {marks : List Mark} {mark : Mark}
    (followed : phase.follow (marks ++ [mark]) = some later) :
    ∃ middle, phase.follow marks = some middle ∧ middle.step mark = some later := by
  obtain ⟨middle, first, onward⟩ := follow_append_some followed
  obtain ⟨last, step, onward⟩ := follow_cons_some onward
  obtain rfl : last = later := Option.some.inj onward
  exact ⟨middle, first, step⟩

/-! ## What a phase may go on with -/

theorem step_capturing {last : Option Event} {mark : Mark} {later : Phase}
    (step : (Phase.capturing last).step mark = some later) :
    (∃ event, mark = .due event ∧ later = .capturing last) ∨
      (∃ event, mark = .heard event ∧ later = .capturing (some event)) ∨
      (∃ reply, mark = .captured reply ∧ last = some .captureStep ∧
        later = .taken reply.toOption) ∨
      ∃ event, mark = .left .capturing ∧ last = some event ∧ breaks event = true ∧
        later = .away none := by
  unfold Phase.step at step
  split at step <;> simp_all

theorem step_taken {picture : Option CameraPath} {mark : Mark} {later : Phase}
    (step : (Phase.taken picture).step mark = some later) :
    (∃ event topic, mark = .told event topic ∧ later = .taken none) ∨
      mark = .left .capturing ∧ later = .away picture := by
  unfold Phase.step at step
  split at step <;> simp_all

theorem step_downloading {picture : CameraPath} {last : Option Event} {mark : Mark}
    {later : Phase} (step : (Phase.downloading picture last).step mark = some later) :
    (∃ event, mark = .due event ∧ later = .downloading picture last) ∨
      (∃ event, mark = .heard event ∧ later = .downloading picture (some event)) ∨
      (∃ destination reply, mark = .fetched picture destination reply ∧
        last = some .downloadStep ∧ later = .stored picture) ∨
      ∃ event, mark = .left .downloading ∧ last = some event ∧ breaks event = true ∧
        later = .away none := by
  unfold Phase.step at step
  split at step <;> simp_all

theorem step_stored {picture : CameraPath} {mark : Mark} {later : Phase}
    (step : (Phase.stored picture).step mark = some later) :
    (∃ event topic, mark = .told event topic ∧ later = .stored picture) ∨
      mark = .left .downloading ∧ later = .away none := by
  unfold Phase.step at step
  split at step <;> simp_all

theorem step_away {picture : Option CameraPath} {mark : Mark} {later : Phase}
    (step : (Phase.away picture).step mark = some later) :
    later = .away none ∨ mark = .entered .capturing ∧ later = .capturing none ∨
      ∃ path, picture = some path ∧ mark = .entered .downloading ∧
        later = .downloading path none := by
  unfold Phase.step at step
  split at step <;> simp_all

theorem step_entered_capturing {phase later : Phase}
    (step : phase.step (.entered .capturing) = some later) : later = .capturing none := by
  unfold Phase.step at step
  split at step <;> simp_all

theorem step_entered_downloading {phase later : Phase}
    (step : phase.step (.entered .downloading) = some later) :
    ∃ picture, phase = .away (some picture) ∧ later = .downloading picture none := by
  unfold Phase.step at step
  split at step <;> simp_all

/-- Only what has just been taken waits. -/
theorem step_to_away {phase : Phase} {mark : Mark} {picture : CameraPath}
    (step : phase.step mark = some (.away (some picture))) :
    phase = .taken (some picture) ∧ mark = .left .capturing := by
  unfold Phase.step at step
  split at step <;> simp_all

theorem step_to_taken {phase : Phase} {mark : Mark} {picture : CameraPath}
    (step : phase.step mark = some (.taken (some picture))) :
    mark = .captured (.ok picture) := by
  unfold Phase.step at step
  split at step
  case h_7 reply =>
    cases reply with
    | ok path => cases step; rfl
    | error fault => cases step
  all_goals simp_all

/-! ## Visits -/

/-- The busy state that is visited. -/
def Phase.visited? : Phase → Option State
  | .away _ => none
  | .capturing _ | .taken _ => some .capturing
  | .downloading .. | .stored _ => some .downloading

/-- A visit begins when its state is entered and lasts until it is left. -/
theorem visited_of_step {phase later : Phase} {mark : Mark} (step : phase.step mark = some later)
    {state : State} (visited : later.visited? = some state) :
    mark = .entered state ∨ phase.visited? = some state ∧ mark ≠ .left state := by
  cases phase with
  | away picture =>
    rcases step_away step with rfl | ⟨rfl, rfl⟩ | ⟨path, _, rfl, rfl⟩
    · cases visited
    · cases visited; exact Or.inl rfl
    · cases visited; exact Or.inl rfl
  | capturing last =>
    rcases step_capturing step with ⟨event, rfl, rfl⟩ | ⟨event, rfl, rfl⟩ |
      ⟨reply, rfl, _, rfl⟩ | ⟨event, _, _, _, rfl⟩
    · exact Or.inr ⟨visited, nofun⟩
    · exact Or.inr ⟨visited, nofun⟩
    · exact Or.inr ⟨visited, nofun⟩
    · cases visited
  | taken picture =>
    rcases step_taken step with ⟨event, topic, rfl, rfl⟩ | ⟨_, rfl⟩
    · exact Or.inr ⟨visited, nofun⟩
    · cases visited
  | downloading picture last =>
    rcases step_downloading step with ⟨event, rfl, rfl⟩ | ⟨event, rfl, rfl⟩ |
      ⟨destination, reply, rfl, _, rfl⟩ | ⟨event, _, _, _, rfl⟩
    · exact Or.inr ⟨visited, nofun⟩
    · exact Or.inr ⟨visited, nofun⟩
    · exact Or.inr ⟨visited, nofun⟩
    · cases visited
  | stored picture =>
    rcases step_stored step with ⟨event, topic, rfl, rfl⟩ | ⟨_, rfl⟩
    · exact Or.inr ⟨visited, nofun⟩
    · cases visited

/-- Some marks end inside a visit of a state. -/
def Inside (state : State) (marks : List Mark) : Prop :=
  ∃ before stay, marks = before ++ .entered state :: stay ∧ .left state ∉ stay

theorem inside_of_visited {marks : List Mark} {phase : Phase}
    (followed : (Phase.away none).follow marks = some phase) {state : State}
    (visited : phase.visited? = some state) : Inside state marks := by
  induction marks using List.reverseRecOn generalizing phase with
  | nil => cases followed; cases visited
  | append_singleton marks mark ih =>
    obtain ⟨middle, followed, step⟩ := Phase.follow_concat followed
    rcases visited_of_step step visited with rfl | ⟨visited, other⟩
    · exact ⟨marks, [], rfl, List.not_mem_nil⟩
    · obtain ⟨before, stay, parts, inside⟩ := ih followed visited
      refine ⟨before, stay ++ [mark], by rw [parts]; simp, ?_⟩
      simpa [inside] using other.symm

/-- Whether a visit was broken off by the event that was heard last in it. -/
def broken (stay : List Mark) : Bool :=
  (heard stay).getLast?.any breaks

/-- In a visit of `Capturing` nothing has been taken, or one picture. -/
theorem follow_capturing {stay : List Mark} {phase : Phase} (inside : .left .capturing ∉ stay)
    (followed : (Phase.capturing none).follow stay = some phase) :
    phase = .capturing (heard stay).getLast? ∧ captures stay = [] ∨
      ∃ picture reply, phase = .taken picture ∧ captures stay = [reply] ∧
        (heard stay).getLast? = some .captureStep := by
  induction stay using List.reverseRecOn generalizing phase with
  | nil => exact Or.inl ⟨(Option.some.inj followed).symm, rfl⟩
  | append_singleton stay mark ih =>
    obtain ⟨middle, before, step⟩ := Phase.follow_concat followed
    obtain ⟨earlier, other⟩ : .left .capturing ∉ stay ∧ Mark.left .capturing ≠ mark := by
      simpa using inside
    rw [captures_append, heard_append]
    rcases ih earlier before with ⟨rfl, empty⟩ | ⟨picture, reply, rfl, once, last⟩
    · rcases step_capturing step with ⟨event, rfl, rfl⟩ | ⟨event, rfl, rfl⟩ |
        ⟨reply, rfl, last, rfl⟩ | ⟨_, rfl, _⟩
      · exact Or.inl ⟨congrArg _ (congrArg _ (List.append_nil _).symm), by rw [empty]; rfl⟩
      · exact Or.inl ⟨congrArg _ List.getLast?_concat.symm, by rw [empty]; rfl⟩
      · refine Or.inr ⟨_, reply, rfl, by rw [empty]; rfl, ?_⟩
        exact (congrArg _ (List.append_nil _)).trans last
      · exact absurd rfl other
    · rcases step_taken step with ⟨event, topic, rfl, rfl⟩ | ⟨rfl, _⟩
      · refine Or.inr ⟨none, reply, rfl, by rw [once]; rfl, ?_⟩
        exact (congrArg _ (List.append_nil _)).trans last
      · exact absurd rfl other

/-- In a visit of `Downloading` nothing has been stored, or the picture that it began with. -/
theorem follow_downloading {picture : CameraPath} {stay : List Mark} {phase : Phase}
    (inside : .left .downloading ∉ stay)
    (followed : (Phase.downloading picture none).follow stay = some phase) :
    phase = .downloading picture (heard stay).getLast? ∧ fetches stay = [] ∨
      phase = .stored picture ∧ fetches stay = [picture] ∧
        (heard stay).getLast? = some .downloadStep := by
  induction stay using List.reverseRecOn generalizing phase with
  | nil => exact Or.inl ⟨(Option.some.inj followed).symm, rfl⟩
  | append_singleton stay mark ih =>
    obtain ⟨middle, before, step⟩ := Phase.follow_concat followed
    obtain ⟨earlier, other⟩ :
      .left .downloading ∉ stay ∧ Mark.left .downloading ≠ mark := by
      simpa using inside
    rw [fetches_append, heard_append]
    rcases ih earlier before with ⟨rfl, empty⟩ | ⟨rfl, once, last⟩
    · rcases step_downloading step with ⟨event, rfl, rfl⟩ | ⟨event, rfl, rfl⟩ |
        ⟨destination, reply, rfl, last, rfl⟩ | ⟨_, rfl, _⟩
      · exact Or.inl ⟨congrArg _ (congrArg _ (List.append_nil _).symm), by rw [empty]; rfl⟩
      · exact Or.inl ⟨congrArg _ List.getLast?_concat.symm, by rw [empty]; rfl⟩
      · refine Or.inr ⟨rfl, by rw [empty]; rfl, ?_⟩
        exact (congrArg _ (List.append_nil _)).trans last
      · exact absurd rfl other
    · rcases step_stored step with ⟨event, topic, rfl, rfl⟩ | ⟨rfl, _⟩
      · refine Or.inr ⟨rfl, by rw [once]; rfl, ?_⟩
        exact (congrArg _ (List.append_nil _)).trans last
      · exact absurd rfl other

/-- A visit of `Capturing` and what comes after it: no more than one picture is taken; and when the
visit is over, exactly one has been taken unless the visit was broken off. -/
structure TakesOne (stay rest : List Mark) : Prop where
  atMost : (captures stay).length ≤ 1
  ended : rest.head? = some (.left .capturing) →
    (captures stay).length = if broken stay then 0 else 1

/-- What came before a visit of `Downloading`, the visit, and what comes after it: the visit began
with a picture that had just been taken, nothing else is stored, and when the visit is over, that
picture has been fetched once unless the visit was broken off. -/
structure StoresOne (past stay rest : List Mark) (picture : CameraPath) : Prop where
  brought : ∃ earlier, past = earlier ++ [.captured (.ok picture), .left .capturing]
  atMost : fetches stay = [] ∨ fetches stay = [picture]
  ended : rest.head? = some (.left .downloading) →
    fetches stay = if broken stay then [] else [picture]

section Followed

variable {past stay rest : List Mark} {phase : Phase}

theorem capturing_visit
    (followed : (Phase.away none).follow (past ++ .entered .capturing :: (stay ++ rest)) =
      some phase)
    (inside : .left .capturing ∉ stay) : TakesOne stay rest := by
  obtain ⟨before, -, onward⟩ := Phase.follow_append_some followed
  obtain ⟨entered, step, onward⟩ := Phase.follow_cons_some onward
  obtain rfl := step_entered_capturing step
  obtain ⟨after, stayed, onward⟩ := Phase.follow_append_some onward
  rcases follow_capturing inside stayed with ⟨rfl, empty⟩ |
    ⟨picture, reply, rfl, once, last⟩
  · refine ⟨by rw [empty]; exact Nat.zero_le 1, fun ended => ?_⟩
    obtain ⟨later, step⟩ := Phase.step_of_head onward ended
    obtain ⟨_, mark, _⟩ | ⟨_, mark, _⟩ | ⟨_, mark, _⟩ |
      ⟨event, -, last, breaks, -⟩ :=
      step_capturing step
    · cases mark
    · cases mark
    · cases mark
    · rw [broken, last, empty, Option.any_some, breaks]
      rfl
  · refine ⟨by rw [once]; exact Nat.le_refl 1, fun _ => ?_⟩
    rw [broken, last, once]
    rfl

/-- What leads to a picture that waits. -/
theorem brought_of_away {picture : CameraPath}
    (followed : (Phase.away none).follow past = some (.away (some picture))) :
    ∃ earlier, past = earlier ++ [.captured (.ok picture), .left .capturing] := by
  rcases List.eq_nil_or_concat past with rfl | ⟨taken, mark, rfl⟩
  · cases followed
  · rw [List.concat_eq_append] at followed ⊢
    obtain ⟨middle, reached, leaves⟩ := Phase.follow_concat followed
    obtain ⟨rfl, rfl⟩ := step_to_away leaves
    rcases List.eq_nil_or_concat taken with rfl | ⟨earlier, mark, rfl⟩
    · cases reached
    · rw [List.concat_eq_append] at reached ⊢
      obtain ⟨_, -, takes⟩ := Phase.follow_concat reached
      obtain rfl := step_to_taken takes
      exact ⟨earlier, List.append_assoc ..⟩

theorem downloading_visit
    (followed : (Phase.away none).follow (past ++ .entered .downloading :: (stay ++ rest)) =
      some phase)
    (inside : .left .downloading ∉ stay) : ∃ picture, StoresOne past stay rest picture := by
  obtain ⟨before, led, onward⟩ := Phase.follow_append_some followed
  obtain ⟨entered, step, onward⟩ := Phase.follow_cons_some onward
  obtain ⟨picture, rfl, rfl⟩ := step_entered_downloading step
  obtain ⟨after, stayed, onward⟩ := Phase.follow_append_some onward
  refine ⟨picture, brought_of_away led, ?_, fun ended => ?_⟩
  · exact (follow_downloading inside stayed).imp And.right fun stored => stored.2.1
  obtain ⟨later, step⟩ := Phase.step_of_head onward ended
  rcases follow_downloading inside stayed with ⟨rfl, empty⟩ | ⟨rfl, once, last⟩
  · obtain ⟨_, mark, _⟩ | ⟨_, mark, _⟩ | ⟨_, _, mark, _⟩ |
    ⟨event, -, last, breaks, -⟩ :=
      step_downloading step
    · cases mark
    · cases mark
    · cases mark
    · rw [broken, last, empty, Option.any_some, breaks]
      rfl
  · rw [broken, last, once]
    rfl

/-- A mark that is in place in a visit of a state only. -/
theorem inside_of_followed {mark : Mark} {state : State}
    (followed : (Phase.away none).follow (past ++ mark :: rest) = some phase)
    (visits : ∀ {before later : Phase}, before.step mark = some later →
      before.visited? = some state) : Inside state past := by
  obtain ⟨before, reached, onward⟩ := Phase.follow_append_some followed
  obtain ⟨later, step, -⟩ := Phase.follow_cons_some onward
  exact inside_of_visited reached (visits step)

/-- Pictures are taken in visits of `Capturing` only. -/
theorem captured_inside {reply : Except Fault CameraPath}
    (followed : (Phase.away none).follow (past ++ .captured reply :: rest) = some phase) :
    Inside .capturing past := by
  refine inside_of_followed followed fun {before later} step => ?_
  unfold Phase.step at step
  split at step <;> simp_all [Phase.visited?]

/-- Pictures are stored in visits of `Downloading` only. -/
theorem fetched_inside {source : CameraPath} {destination : String} {reply : Except Fault Unit}
    (followed : (Phase.away none).follow (past ++ .fetched source destination reply :: rest) =
      some phase) :
    Inside .downloading past := by
  refine inside_of_followed followed fun {before later} step => ?_
  unfold Phase.step at step
  split at step <;> simp_all [Phase.visited?]

end Followed

end Camera

end Tether
