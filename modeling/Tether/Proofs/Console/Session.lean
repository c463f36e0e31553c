import Tether.Proofs.Json.Strings
import Tether.Proofs.Link.Session
import Tether.Proofs.Text.Words

/-!
# Sessions at the console

The input of a session is cut into lines in exactly one way (`cut_iff`), and the session reads them
up to the first one that asks to quit or that is no text (`Reads`). From each line before that one
it hears the event of the command in it, whatever the other lines are (`heard?`); blank lines and
requests for help have none, just as lines that are no command.

So a session posts what it hears, in the order of the lines (`read_follows`), and the controller
says it as a remote client would (`converse_posts`).
-/

namespace Tether

namespace Console

/-! ## Lines -/

/-- An input is cut into lines. A line ends with a line feed, which may have a carriage return in
front, and the last line may lack its end. -/
inductive Cut : List UInt8 → List (List UInt8) → Prop where
  | done : Cut [] []
  | last {line : List UInt8} (nonempty : line ≠ []) (unbroken : 10 ∉ line) : Cut line [line]
  | feed {line input : List UInt8} {others : List (List UInt8)} (unbroken : 10 ∉ line)
      (bare : line.getLast? ≠ some 13) (later : Cut input others) :
      Cut (line ++ 10 :: input) (line :: others)
  | returnFeed {line input : List UInt8} {others : List (List UInt8)} (unbroken : 10 ∉ line)
      (later : Cut input others) : Cut (line ++ 13 :: 10 :: input) (line :: others)

section Lines

variable {line input : List UInt8} {others : List (List UInt8)}

theorem linesFrom_unbroken (unbroken : 10 ∉ line) (current rest : List UInt8) :
    linesFrom current (line ++ rest) = linesFrom (line.reverse ++ current) rest := by
  induction line generalizing current with
  | nil => rfl
  | cons byte line ih =>
    obtain ⟨other, unbroken⟩ := List.ne_and_not_mem_of_not_mem_cons unbroken
    rw [List.cons_append, linesFrom, if_neg (Ne.symm other), ih unbroken, List.reverse_cons,
      List.append_assoc]
    rfl

theorem lines_last (nonempty : line ≠ []) (unbroken : 10 ∉ line) : lines line = [line] := by
  have read := linesFrom_unbroken unbroken [] []
  rw [List.append_nil, List.append_nil] at read
  rw [lines, read, linesFrom, List.reverse_reverse]
  exact fun empty => nonempty (List.reverse_eq_nil_iff.mp empty)

theorem lines_feed (unbroken : 10 ∉ line) (bare : line.getLast? ≠ some 13) (rest : List UInt8) :
    lines (line ++ 10 :: rest) = line :: lines rest := by
  have first : line.reverse.head? ≠ some 13 := List.head?_reverse ▸ bare
  rw [lines, linesFrom_unbroken unbroken, List.append_nil, linesFrom, if_pos rfl]
  dsimp only
  rw [if_neg first, List.reverse_reverse]
  rfl

theorem lines_returnFeed (unbroken : 10 ∉ line) (rest : List UInt8) :
    lines (line ++ 13 :: 10 :: rest) = line :: lines rest := by
  have returned : 10 ∉ line ++ [13] := by
    rw [List.mem_append, not_or]
    exact ⟨unbroken, by decide⟩
  have whole : line ++ 13 :: 10 :: rest = line ++ [13] ++ 10 :: rest := by
    rw [List.append_assoc]
    rfl
  rw [whole, lines, linesFrom_unbroken returned, List.append_nil, List.reverse_concat, linesFrom,
    if_pos rfl]
  dsimp only
  rw [List.head?_cons, if_pos rfl, List.tail_cons, List.reverse_reverse]
  rfl

theorem lines_of_cut (cut : Cut input others) : lines input = others := by
  induction cut with
  | done => rfl
  | last nonempty unbroken => exact lines_last nonempty unbroken
  | feed unbroken bare _ ih => rw [lines_feed unbroken bare, ih]
  | returnFeed unbroken _ ih => rw [lines_returnFeed unbroken, ih]

theorem exists_cut (input : List UInt8) : ∃ others, Cut input others := by
  induction size : input.length using Nat.strongRecOn generalizing input with
  | ind size ih =>
    subst size
    by_cases broken : 10 ∈ input
    · obtain ⟨line, rest, rfl, unbroken⟩ := List.eq_append_cons_of_mem broken
      have shorter : rest.length < (line ++ 10 :: rest).length := by
        rw [List.length_append, List.length_cons]
        omega
      obtain ⟨others, later⟩ := ih _ shorter rest rfl
      by_cases returned : line.getLast? = some 13
      · obtain ⟨front, rfl⟩ := List.getLast?_eq_some_iff.mp returned
        rw [List.append_assoc]
        exact ⟨_, .returnFeed (fun member => unbroken (List.mem_append_left _ member)) later⟩
      · exact ⟨_, .feed unbroken returned later⟩
    · by_cases empty : input = []
      · exact ⟨[], empty ▸ .done⟩
      · exact ⟨_, .last empty broken⟩

/-- An input is cut into lines in one way only. -/
theorem cut_iff : Cut input others ↔ others = lines input := by
  constructor
  · exact fun cut => (lines_of_cut cut).symm
  · rintro rfl
    obtain ⟨others, cut⟩ := exists_cut input
    exact lines_of_cut cut ▸ cut

end Lines

/-! ## Texts -/

/-- A line is a text in UTF-8. -/
def IsText (line : List UInt8) (text : String) : Prop :=
  line = text.toUTF8.data.toList

theorem fromUTF8?_eq_some {line : List UInt8} {text : String} :
    String.fromUTF8? ⟨line.toArray⟩ = some text ↔ IsText line text := by
  constructor
  · intro decoded
    unfold String.fromUTF8? at decoded
    split at decoded
    · cases decoded
      rfl
    · cases decoded
  · rintro rfl
    exact Json.fromUTF8?_toUTF8 text

/-- What is left of a text without the blanks around it. -/
def Leaves (text kept : String) : Prop :=
  Text.Trims text.toList kept.toList

theorem leaves_iff {text kept : String} :
    Leaves text kept ↔ String.ofList (Text.trim text.toList) = kept := by
  rw [Leaves, Text.trims_iff]
  constructor
  · intro same
    rw [same, String.ofList_toList]
  · rintro rfl
    exact String.toList_ofList.symm

/-- A text that is passed over: a blank one or one that asks for help. -/
def PassesOver (text : String) : Prop :=
  Leaves text "" ∨ Leaves text "help"

def Quits (text : String) : Prop :=
  Leaves text "quit" ∨ Leaves text "exit"

/-- The event of the command in a text, if there is one. -/
def heard? (text : String) : Option Event :=
  (parse text).toOption

/-- The blanks around a line make no difference to its command. -/
theorem parse_leaves {text kept : String} (leaves : Leaves text kept) :
    parse text = parse kept := by
  rw [leaves_iff] at leaves
  rw [← leaves, parse, parse, String.toList_ofList, Text.words_trim]

/-- What has a meaning of its own is no command. -/
theorem heard?_eq_none : ∀ text ∈ ["", "help", "quit", "exit"], heard? text = none := by
  decide +kernel

theorem heard?_of_passesOver {text : String} (passes : PassesOver text) : heard? text = none := by
  obtain blank | help := passes
  · rw [heard?, parse_leaves blank]
    exact heard?_eq_none "" (by simp)
  · rw [heard?, parse_leaves help]
    exact heard?_eq_none "help" (by simp)

/-! ## Reading -/

/-- How the reading of lines ends. -/
inductive Ending where
  /-- Nothing was read, as the program had ended already. -/
  | idle
  | finished
  | quit
  /-- There was a line that is no text. -/
  | foreign
deriving DecidableEq

/-- The texts that are read of some lines, and how that ends. The flag tells whether the program is
running at the start. -/
inductive Reads : Bool → List (List UInt8) → List String → Ending → Prop where
  | idle (lines : List (List UInt8)) : Reads false lines [] .idle
  | finished : Reads true [] [] .finished
  | quit {line : List UInt8} {text : String} (lines : List (List UInt8)) (isText : IsText line text)
      (quits : Quits text) : Reads true (line :: lines) [] .quit
  | foreign {line : List UInt8} (lines : List (List UInt8))
      (noText : ∀ text, ¬ IsText line text) : Reads true (line :: lines) [] .foreign
  | text {line : List UInt8} {text : String} {lines : List (List UInt8)} {texts : List String}
      {ending : Ending} (isText : IsText line text) (goesOn : ¬ Quits text)
      (later : Reads true lines texts ending) : Reads true (line :: lines) (text :: texts) ending

theorem exists_reads (running : Bool) (lines : List (List UInt8)) :
    ∃ texts ending, Reads running lines texts ending := by
  cases running with
  | false => exact ⟨[], .idle, .idle lines⟩
  | true =>
    induction lines with
    | nil => exact ⟨[], .finished, .finished⟩
    | cons line lines ih =>
      obtain ⟨texts, ending, later⟩ := ih
      by_cases isText : ∃ text, IsText line text
      · obtain ⟨text, isText⟩ := isText
        by_cases quits : Quits text
        · exact ⟨[], .quit, .quit lines isText quits⟩
        · exact ⟨text :: texts, ending, .text isText quits later⟩
      · exact ⟨[], .foreign, .foreign lines (not_exists.mp isText)⟩

theorem IsText.unique {line : List UInt8} {text other : String} (isText : IsText line text)
    (same : IsText line other) : other = text := by
  rw [← fromUTF8?_eq_some] at isText same
  exact Option.some.inj (same.symm.trans isText)

/-- Lines are read in one way only. -/
theorem Reads.unique {running : Bool} {lines : List (List UInt8)} {texts others : List String}
    {ending last : Ending} (reads : Reads running lines texts ending)
    (reread : Reads running lines others last) : others = texts ∧ last = ending := by
  induction reads generalizing others last with
  | idle lines =>
    cases reread
    exact ⟨rfl, rfl⟩
  | finished =>
    cases reread
    exact ⟨rfl, rfl⟩
  | quit lines isText quits =>
    cases reread with
    | quit => exact ⟨rfl, rfl⟩
    | foreign _ noText => exact absurd isText (noText _)
    | text same goesOn => exact absurd (isText.unique same ▸ quits) goesOn
  | foreign lines noText =>
    cases reread with
    | quit _ isText => exact absurd isText (noText _)
    | foreign => exact ⟨rfl, rfl⟩
    | text isText => exact absurd isText (noText _)
  | text isText goesOn _ ih =>
    cases reread with
    | quit _ same quits => exact absurd (isText.unique same ▸ quits) goesOn
    | foreign _ noText => exact absurd isText (noText _)
    | text same _ later =>
      obtain ⟨rfl, rfl⟩ := ih later
      rw [isText.unique same]
      exact ⟨rfl, rfl⟩

section Start

variable {running : Bool} {lines : List (List UInt8)} {texts : List String} {ending : Ending}

theorem Reads.ending_idle (reads : Reads running lines texts ending) :
    ending = .idle ↔ running = false := by
  induction reads with
  | idle => exact iff_of_true rfl rfl
  | finished | quit | foreign => exact iff_of_false nofun nofun
  | text _ _ _ ih => exact ih

theorem Reads.started (reads : Reads running lines texts ending) (begun : ending ≠ .idle) :
    running = true :=
  eq_true_of_ne_false fun stopped => begun (reads.ending_idle.mpr stopped)

theorem Reads.stopped (reads : Reads running lines texts .idle) :
    running = false ∧ texts = [] := by
  obtain rfl := reads.ending_idle.mp rfl
  cases reads
  exact ⟨rfl, rfl⟩

end Start

/-! ## Sessions -/

namespace Meaning

def event? : Meaning → Option Event
  | .post event => some event
  | _ => none

theorem ofLine_event? (text : String) : (ofLine text).event? = heard? text := by
  have same : parse text = parse (String.ofList (Text.trim text.toList)) :=
    parse_leaves (leaves_iff.mpr rfl)
  rw [heard?, same, ofLine]
  generalize String.ofList (Text.trim text.toList) = kept
  split
  · next blank => exact (heard?_eq_none kept (by simp [blank])).symm
  split
  · next help => exact (heard?_eq_none kept (by simp [help])).symm
  split
  · next quits => exact (heard?_eq_none kept (by simp [quits])).symm
  cases parse kept <;> rfl

theorem ofLine_eq_quit {text : String} : ofLine text = .quit ↔ Quits text := by
  rw [Quits, leaves_iff, leaves_iff, ofLine]
  generalize String.ofList (Text.trim text.toList) = kept
  split
  · next blank => rw [blank]; decide
  split
  · next help => rw [help]; decide
  split
  · next quits => simp [quits]
  · next goesOn => cases parse kept <;> simp [goesOn]

end Meaning

namespace Session

variable {session : Session} {line : List UInt8} {text : String}

theorem step_of_isText (isText : IsText line text) :
    session.step line =
      match Meaning.ofLine text with
      | .nothing | .help => session
      | .quit => { session with running := false }
      | .post event => { session with posted := session.posted ++ [event] }
      | .reject _ => { session with rejected := session.rejected + 1 } := by
  have decoded := fromUTF8?_eq_some.mpr isText
  unfold step
  split
  · next undecoded => cases decoded.symm.trans undecoded
  · next found same =>
    obtain rfl := Option.some.inj (decoded.symm.trans same)
    cases Meaning.ofLine text <;> rfl

theorem step_quits (isText : IsText line text) (quits : Quits text) :
    session.step line = { session with running := false } := by
  rw [step_of_isText isText, Meaning.ofLine_eq_quit.mpr quits]

theorem step_foreign (noText : ∀ text, ¬ IsText line text) :
    session.step line = { session with failed := true } := by
  have undecoded : String.fromUTF8? ⟨line.toArray⟩ = none :=
    Option.eq_none_iff_forall_ne_some.mpr fun text decoded =>
      noText text (fromUTF8?_eq_some.mp decoded)
  rw [step, undecoded]

/-- A line that does not end the session adds the event of its command, if it has one. -/
theorem step_goesOn (session : Session) (isText : IsText line text) (goesOn : ¬ Quits text) :
    ∃ rejected, session.step line =
      { session with posted := session.posted ++ (heard? text).toList, rejected := rejected } := by
  rw [step_of_isText isText, ← Meaning.ofLine_event?]
  cases meant : Meaning.ofLine text with
  | nothing => exact ⟨session.rejected, by simp [Meaning.event?]⟩
  | help => exact ⟨session.rejected, by simp [Meaning.event?]⟩
  | quit => exact absurd (Meaning.ofLine_eq_quit.mp meant) goesOn
  | post event => exact ⟨session.rejected, rfl⟩
  | reject reason => exact ⟨session.rejected + 1, by simp [Meaning.event?]⟩

theorem read_stopped (stopped : ¬ (session.running ∧ session.failed = false))
    (lines : List (List UInt8)) : session.read lines = session := by
  cases lines with
  | nil => rfl
  | cons line lines => rw [read, if_neg stopped]

/-- A session posts the events of the texts that it reads. -/
theorem read_follows (session : Session) {running : Bool} {lines : List (List UInt8)}
    {texts : List String} {ending : Ending} (reads : Reads running lines texts ending)
    (started : session.running = running) (sound : session.failed = false) :
    ∃ rejected, session.read lines =
      ⟨decide (ending = .finished ∨ ending = .foreign),
        session.posted ++ texts.filterMap heard?, rejected, decide (ending = .foreign)⟩ := by
  obtain ⟨_, posted, rejected, _⟩ := session
  dsimp only at started sound
  subst started sound
  induction reads generalizing posted rejected with
  | idle lines =>
    refine ⟨rejected, (read_stopped (fun going => ?_) lines).trans ?_⟩
    · exact Bool.false_ne_true going.1
    · simp
  | finished => exact ⟨rejected, by simp [read]⟩
  | quit lines isText quits =>
    rw [read, if_pos ⟨rfl, rfl⟩, step_quits isText quits, read_stopped (by simp)]
    exact ⟨rejected, by simp⟩
  | foreign lines noText =>
    rw [read, if_pos ⟨rfl, rfl⟩, step_foreign noText, read_stopped (by simp)]
    exact ⟨rejected, by simp⟩
  | @text line text lines texts ending isText goesOn _ ih =>
    obtain ⟨count, stepped⟩ := step_goesOn ⟨true, posted, rejected, false⟩ isText goesOn
    obtain ⟨total, rest⟩ := ih (posted ++ (heard? text).toList) count
    rw [read, if_pos ⟨rfl, rfl⟩, stepped]
    refine ⟨total, rest.trans ?_⟩
    have all : (text :: texts).filterMap heard? =
        (heard? text).toList ++ texts.filterMap heard? := by
      cases found : heard? text <;> simp [found]
    rw [all, List.append_assoc]

theorem run_follows {running : Bool} {input : List UInt8} {texts : List String} {ending : Ending}
    (reads : Reads running (lines input) texts ending) :
    (run running input).posted = texts.filterMap heard? ∧
      ((run running input).running = true ↔ ending = .finished ∨ ending = .foreign) ∧
      ((run running input).failed = true ↔ ending = .foreign) := by
  obtain ⟨rejected, read⟩ := read_follows (.new running) reads rfl rfl
  rw [run, read]
  exact ⟨rfl, decide_eq_true_iff, decide_eq_true_iff⟩

example : run true "connect\r\n\nbogus\nset iso 800\n  quit \ncapture".toUTF8.data.toList =
    ⟨false, [.connect, .setIso 800], 1, false⟩ := by decide +kernel

end Session

end Console

namespace Controller

variable {δ : Type} (driver : Driver δ) (controller : Controller δ)

theorem relay_running : controller.relay.running = controller.running := rfl

theorem post_running (event : Event) (topic : Topic) :
    (controller.post driver event topic).running = controller.running := by
  unfold post settle
  split <;> rw [relay_running]

theorem postAll_running (events : List Event) (topic : Topic) :
    (events.foldl (fun controller event => controller.post driver event topic) controller).running =
      controller.running := by
  induction events generalizing controller with
  | nil => rfl
  | cons event rest ih => rw [List.foldl_cons, ih, post_running]

theorem converse_running (session : Console.Session) :
    (controller.converse driver session).running = (controller.running && session.running) := by
  unfold converse
  dsimp only
  split
  · next goesOn => rw [postAll_running, goesOn, Bool.and_true]
  · next ends =>
    rw [eq_false_of_ne_true ends, Bool.and_false]
    rfl

theorem quit_of_stopped {controller : Controller δ} (stopped : controller.running = false) :
    controller.quit = controller := by
  rw [quit, ← stopped]

/-- A session at the console reads the lines of its input, which is cut in one way only, up to the
first one that asks to quit or is no text; if the program does not run, it reads none. The
controller posts the events of the commands in the texts before that line as a remote client would,
in their order, and nothing else is said there. It is asked to end exactly if the session came upon
a line that asks to quit, and the session fails exactly if it came upon one that is no text. -/
theorem converse_posts (input : List UInt8) :
    ∃ lines texts ending,
      (∀ others, Console.Cut input others ↔ others = lines) ∧
      (∀ others last, Console.Reads controller.running lines others last ↔
        others = texts ∧ last = ending) ∧
      (controller.converse driver (.run controller.running input)).remoteEvents =
        controller.remoteEvents ++ texts.filterMap Console.heard? ∧
      ((controller.converse driver (.run controller.running input)).running = true ↔
        ending = .finished ∨ ending = .foreign) ∧
      ((Console.Session.run controller.running input).failed = true ↔ ending = .foreign) ∧
      (ending = .idle →
        controller.converse driver (.run controller.running input) = controller) ∧
      ∀ text, Console.PassesOver text → Console.heard? text = none := by
  obtain ⟨texts, ending, reads⟩ := Console.exists_reads controller.running (Console.lines input)
  obtain ⟨posted, running, failed⟩ := Console.Session.run_follows reads
  refine ⟨Console.lines input, texts, ending, fun _ => Console.cut_iff, fun others last => ?_, ?_,
    ?_, failed, ?_, fun _ => Console.heard?_of_passesOver⟩
  · constructor
    · exact reads.unique
    · rintro ⟨rfl, rfl⟩
      exact reads
  · rw [← posted]
    unfold converse
    have said := (postAll_remote_speaks driver controller
      (Console.Session.run controller.running input).posted).said
    dsimp only
    split <;> exact said
  · rw [converse_running, Bool.and_eq_true, running, and_iff_right_iff_imp]
    rintro (rfl | rfl)
    · exact reads.started nofun
    · exact reads.started nofun
  · rintro rfl
    obtain ⟨stopped, rfl⟩ := reads.stopped
    have ends : (Console.Session.run controller.running input).running = false := by
      simpa using running
    unfold converse
    rw [posted, ends]
    exact quit_of_stopped stopped

end Controller

end Tether
