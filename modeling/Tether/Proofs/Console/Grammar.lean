import Tether.Console.Grammar
import Tether.Proofs.Text.Words

/-!
# What can be said at the console

`Says` lists the commands with their words and their events, apart from the table that the parser
goes by; only the one that sets the aperture is left out. A line of such words, with any blanks
between and around them, is parsed as their event (`parseWords_command`, `parse_spaced`). No line at
all is parsed as an event that only the machines themselves may send (`parse_external`).

* `Numeral`: how whole numbers are written. A number with a minus in front is an argument only where
  the place is for signed numbers, and elsewhere a flag;
* `Takes`: when a word fills a place;
* `Shape.Makes`: the events that a shape has for words of any kind.
-/

namespace Tether

namespace Console

/-! ## Commands -/

/-- A row of digits and the number that they stand for. -/
structure Row (digits : List Char) (n : Nat) : Prop where
  nonempty : digits ≠ []
  all : ∀ c ∈ digits, c.isDigit = true
  value : Nat.ofDigitChars 10 digits 0 = n

/-- A word is a whole number, with a sign or without one. -/
inductive Numeral : String → Int → Prop where
  | plain {digits : List Char} {n : Nat} (row : Row digits n) : Numeral (String.ofList digits) n
  | plus {digits : List Char} {n : Nat} (row : Row digits n) :
      Numeral (String.ofList ('+' :: digits)) n
  | minus {digits : List Char} {n : Nat} (row : Row digits n) :
      Numeral (String.ofList ('-' :: digits)) (-n)

/-- A word does not start with a minus. -/
def Plain (word : String) : Prop :=
  word.toList.head? ≠ some '-'

/-- The spellings of a switch. -/
inductive Switches : String → Bool → Prop where
  | on : Switches "on" true
  | true : Switches "true" true
  | one : Switches "1" true
  | off : Switches "off" false
  | false : Switches "false" false
  | zero : Switches "0" false

/-- The settings and the events that ask for them. -/
inductive Asks : String → Event → Prop where
  | shutter : Asks "shutter" .getShutterSpeed
  | aperture : Asks "aperture" .getAperture
  | iso : Asks "iso" .getIso
  | autoIso : Asks "auto_iso" .getAutoIso
  | battery : Asks "battery" .getBattery
  | focal : Asks "focal" .getFocalLength
  | focus : Asks "focus" .getFocusMode
  | nr : Asks "nr" .getLongExposureNr
  | vr : Asks "vr" .getVibrationReduction
  | target : Asks "target" .getCaptureTarget
  | program : Asks "program" .getExposureProgram
  | meter : Asks "meter" .getLightMeter
  | all : Asks "all" .getAll

/-- The settings with choices and the events that ask for those. -/
inductive AsksChoices : String → Event → Prop where
  | shutter : AsksChoices "shutter" .getShutterSpeedChoices
  | aperture : AsksChoices "aperture" .getApertureChoices
  | iso : AsksChoices "iso" .getIsoChoices

/-- The words of a command and its event. -/
inductive Says : List String → Event → Prop where
  | connect : Says ["connect"] .connect
  | disconnect : Says ["disconnect"] .disconnect
  | capture : Says ["capture"] .capture
  | ignore : Says ["ignore"] .ignoreError
  | state : Says ["state"] .getCameraState
  | mode : Says ["mode"] .getMode
  | stop : Says ["stop"] .stopMode
  | download {word : String} {enabled : Bool} (switch : Switches word enabled) :
      Says ["download", word] (.setDownload enabled)
  | lowLatency {word : String} {enabled : Bool} (switch : Switches word enabled) :
      Says ["low_latency", word] (.setLowLatency enabled)
  | get {word : String} {event : Event} (asks : Asks word event) : Says ["get", word] event
  | choices {word : String} {event : Event} (asks : AsksChoices word event) :
      Says ["choices", word] event
  | shutter {word : String} {microseconds : Int32} (numeral : Numeral word microseconds.toInt) :
      Says ["set", "shutter", word] (.setShutterSpeed microseconds)
  | iso {word : String} {iso : Int32} (numeral : Numeral word iso.toInt) (plain : Plain word) :
      Says ["set", "iso", word] (.setIso iso)
  | autoIso {word : String} {enabled : Bool} (switch : Switches word enabled) :
      Says ["set", "auto_iso", word] (.setAutoIso enabled)
  | nr {word : String} {enabled : Bool} (switch : Switches word enabled) :
      Says ["set", "nr", word] (.setLongExposureNr enabled)
  | vr {word : String} {enabled : Bool} (switch : Switches word enabled) :
      Says ["set", "vr", word] (.setVibrationReduction enabled)
  | target {name : List String} (nonempty : name ≠ []) (plain : ∀ word ∈ name, Plain word) :
      Says ("set" :: "target" :: name) (.setCaptureTarget (" ".intercalate name))
  | focus : Says ["set", "focus", "next"] .nextFocusMode
  | interval {time count : String} {milliseconds total : Int32}
      (numeral : Numeral time milliseconds.toInt) (countNumeral : Numeral count total.toInt)
      (plain : Plain count) :
      Says ["interval", time, count] (.runIntervalometer milliseconds total)

/-! ## Numbers -/

section Numbers

open Text

theorem isDigit_of_isDigit {c : Char} (digit : c.isDigit = true) : isDigit c = true := by
  simpa [Text.isDigit, Char.isDigit, Char.le_def] using digit

theorem digitValue_of_isDigit {c : Char} (digit : c.isDigit = true) :
    digitValue c = c.toNat - '0'.toNat := by
  rw [digitValue, if_pos (isDigit_of_isDigit digit)]
  rfl

/-- The number with an absolute value and a sign. -/
def signed (negative : Bool) (n : Nat) : Int :=
  if negative then -n else n

theorem le_ofDigitChars (digits : List Char) (n : Nat) : n ≤ Nat.ofDigitChars 10 digits n := by
  induction digits generalizing n with
  | nil => exact Nat.le_refl n
  | cons c digits ih =>
    have rest := ih (10 * n + (c.toNat - '0'.toNat))
    rw [Nat.ofDigitChars_cons]
    omega

/-- Digits are appended to what was read of a number of 64 bits, if the whole still is one. -/
theorem appendDigits_row (negative : Bool) {digits : List Char}
    (all : ∀ c ∈ digits, c.isDigit = true) (n : Nat)
    (fits : Nat.ofDigitChars 10 digits n ≤ 9223372036854775807) :
    appendDigits negative (signed negative n) digits =
      .ok (signed negative (Nat.ofDigitChars 10 digits n)) := by
  induction digits generalizing n with
  | nil => rfl
  | cons c digits ih =>
    have digit : c.isDigit = true := all c List.mem_cons_self
    rw [Nat.ofDigitChars_cons] at fits ⊢
    have next : (if negative then 10 * signed negative n - digitValue c
        else 10 * signed negative n + digitValue c) =
        signed negative (10 * n + (c.toNat - '0'.toNat)) := by
      rw [digitValue_of_isDigit digit]
      cases negative
      · simp [signed]
      · simp [signed]
        omega
    have grows := le_ofDigitChars digits (10 * n + (c.toNat - '0'.toNat))
    have low : ¬ signed negative (10 * n + (c.toNat - '0'.toNat)) < -9223372036854775808 := by
      unfold signed
      split <;> omega
    have high : ¬ 9223372036854775807 < signed negative (10 * n + (c.toNat - '0'.toNat)) := by
      unfold signed
      split <;> omega
    rw [appendDigits, isDigit_of_isDigit digit, if_neg (by decide)]
    dsimp only
    rw [next, if_neg low, if_neg high]
    exact ih (fun other member => all other (List.mem_cons_of_mem c member)) _ fits

theorem readInteger_row {cs digits : List Char} {negative : Bool} {n : Nat} (row : Row digits n)
    (sign : splitSign cs = (negative, digits)) (fits : n ≤ 9223372036854775807) :
    readInteger cs = .ok (signed negative n) := by
  have zero : signed negative 0 = 0 := by cases negative <;> rfl
  have read := appendDigits_row negative row.all 0 (row.value.symm ▸ fits)
  rw [row.value, zero] at read
  rw [readInteger, sign]
  dsimp only
  rw [if_neg row.nonempty, read]

/-- A row of digits has no sign. -/
theorem splitSign_row {digits : List Char} {n : Nat} (row : Row digits n) :
    splitSign digits = (false, digits) := by
  unfold splitSign
  split
  · exact absurd (row.all '+' List.mem_cons_self) (by decide)
  · exact absurd (row.all '-' List.mem_cons_self) (by decide)
  · rfl

/-- A whole number of 32 bits is read as that number. -/
theorem integer_numeral {word : String} {value : Int32} (numeral : Numeral word value.toInt) :
    integer word = .ok value := by
  have low := value.le_toInt
  have high := value.toInt_lt
  have read : readInteger word.toList = .ok value.toInt := by
    generalize value.toInt = n at numeral low high
    cases numeral with
    | plain row =>
      rw [String.toList_ofList]
      exact readInteger_row row (splitSign_row row) (by omega)
    | @plus digits _ row =>
      have sign : splitSign ('+' :: digits) = (false, digits) := rfl
      rw [String.toList_ofList]
      exact readInteger_row row sign (by omega)
    | @minus digits _ row =>
      have sign : splitSign ('-' :: digits) = (true, digits) := rfl
      rw [String.toList_ofList]
      exact readInteger_row row sign (by omega)
  rw [integer, read]
  dsimp only
  rw [if_pos ⟨by omega, by omega⟩, Int32.ofInt_toInt]

theorem row_toDigits (n : Nat) : Row (Nat.toDigits 10 n) n where
  nonempty := Nat.toDigits_ne_nil
  all _ member := Nat.isDigit_of_mem_toDigits (by decide) (by decide) member
  value := Nat.ofDigitChars_toDigits (by decide) (by decide)

/-- Every whole number has a numeral. -/
theorem numeral_toString (n : Int) : Numeral (toString n) n := by
  cases n with
  | ofNat n => exact .plain (row_toDigits n)
  | negSucc n =>
    have text : String.ofList (['-'] ++ Nat.toDigits 10 (n + 1)) = toString (Int.negSucc n) :=
      String.ofList_append
    rw [← text]
    exact .minus (row_toDigits (n + 1))

end Numbers

/-! ## Arguments -/

/-- A word is an argument at a place, and no flag. -/
structure Takes (slot : Slot) (word : String) : Prop where
  literal : word ≠ "--"
  noFlag : flag? word = none ∨ ∀ others, isSigned (slot :: others) word = true

section Arguments

variable {slot : Slot} {word : String} {words : List String}

theorem flag?_of_plain (plain : Plain word) : flag? word = none := by
  unfold flag?
  split
  · next same => exact absurd (congrArg List.head? same) plain
  · rfl
  · next same => exact absurd (congrArg List.head? same) plain
  · rfl

theorem ne_literal_of_plain (plain : Plain word) : word ≠ "--" := by
  rintro rfl
  exact plain rfl

theorem takes_of_plain (slot : Slot) (plain : Plain word) : Takes slot word :=
  ⟨ne_literal_of_plain plain, .inl (flag?_of_plain plain)⟩

theorem plain_of_row {digits : List Char} {n : Nat} (row : Row digits n) :
    Plain (String.ofList digits) := by
  intro first
  rw [String.toList_ofList] at first
  exact absurd (row.all '-' (List.mem_of_head? first)) (by decide)

theorem isNumber_row {digits : List Char} {n : Nat} (row : Row digits n) :
    isNumber digits = true := by
  have all : ∀ c ∈ digits, Text.isDigit c = true := fun c member =>
    isDigit_of_isDigit (row.all c member)
  have split : Text.splitDigits Text.isDigit digits = (digits, []) := by
    rw [Text.splitDigits, List.takeWhile_eq_self_iff.mpr all, List.dropWhile_eq_nil_iff.mpr all]
  rw [isNumber, split]
  simpa [splitFraction] using row.nonempty

/-- A number goes with a place for signed ones. -/
theorem takes_of_numeral {n : Int} (allowed : slot.signed = true) (numeral : Numeral word n) :
    Takes slot word := by
  cases numeral with
  | plain row => exact takes_of_plain slot (plain_of_row row)
  | plus row =>
    refine takes_of_plain slot fun first => ?_
    rw [String.toList_ofList] at first
    cases first
  | @minus digits _ row =>
    refine ⟨fun same => ?_, .inr fun others => ?_⟩
    · have whole := congrArg String.toList same
      rw [String.toList_ofList] at whole
      obtain rfl : digits = ['-'] := (List.cons.inj whole).2
      exact absurd (row.all '-' List.mem_cons_self) (by decide)
    · simp [isSigned, allowed, isNumber_row row]

theorem fill_cons (takes : Takes slot word) (others : List Slot) (rest : List String) :
    fill (slot :: others) false (word :: rest) =
      let filling := fill (if slot.repeats then slot :: others else others) false rest
      { filling with words := word :: filling.words } := by
  have free : (if false || isSigned (slot :: others) word then none else flag? word) = none := by
    obtain noFlag | signed := takes.noFlag
    · rw [noFlag, ite_self]
    · rw [Bool.false_or, signed others, if_pos rfl]
  rw [fill, if_neg fun literal => takes.literal literal.2, free]

theorem fill_last (takes : Takes slot word) (once : slot.repeats = false) :
    fill [slot] false [word] = ⟨[word], none⟩ := by
  rw [fill_cons takes, once]
  rfl

/-- A place that takes all words takes all words. -/
theorem fill_repeated (repeats : slot.repeats = true)
    (takes : ∀ word ∈ words, Takes slot word) :
    fill [slot] false words = ⟨words, none⟩ := by
  induction words with
  | nil => rfl
  | cons word rest ih =>
    rw [fill_cons (takes word List.mem_cons_self), repeats, if_pos rfl,
      ih fun other member => takes other (List.mem_cons_of_mem word member)]

theorem parse_filled (shape : Shape) (filled : fill shape.slots false words = ⟨words, none⟩) :
    shape.parse words = shape.make words := by
  rw [Shape.parse, filled]

end Arguments

/-! ## Commands are parsed -/

theorem plain_of_switches {word : String} {enabled : Bool} (switch : Switches word enabled) :
    Plain word := by
  cases switch <;> exact nofun

theorem parse_switch (event : Bool → Event) {word : String} {enabled : Bool}
    (switch : Switches word enabled) :
    (Shape.switch event).parse [word] = .ok (event enabled) := by
  have takes : Takes ⟨"<ENABLED>", false, false⟩ word :=
    takes_of_plain _ (plain_of_switches switch)
  rw [parse_filled (.switch event) (fill_last takes rfl)]
  cases switch <;> rfl

theorem read_numeral (label : String) {word : String} {value : Int32}
    (numeral : Numeral word value.toInt) : read label integer word = .ok value := by
  rw [read, integer_numeral numeral]

theorem parse_integer {label : String} {allowed : Bool} (event : Int32 → Event) {word : String}
    {value : Int32} (numeral : Numeral word value.toInt)
    (takes : Takes ⟨label, allowed, false⟩ word) :
    (Shape.integer label allowed event).parse [word] = .ok (event value) := by
  rw [parse_filled (.integer label allowed event) (fill_last takes rfl), Shape.make,
    read_numeral label numeral]
  rfl

theorem parse_pace (event : Int32 → Int32 → Event) {time count : String}
    {milliseconds total : Int32} (numeral : Numeral time milliseconds.toInt)
    (countNumeral : Numeral count total.toInt) (plain : Plain count) :
    (Shape.pace event).parse [time, count] = .ok (event milliseconds total) := by
  have filled : fill (Shape.pace event).slots false [time, count] = ⟨[time, count], none⟩ := by
    rw [Shape.slots, fill_cons (takes_of_numeral rfl numeral)]
    dsimp only
    rw [if_neg Bool.false_ne_true, fill_last (takes_of_plain _ plain) rfl]
  rw [parse_filled _ filled, Shape.make, read_numeral _ numeral, read_numeral _ countNumeral]
  rfl

theorem parse_name (event : String → Event) {name : List String} (nonempty : name ≠ [])
    (plain : ∀ word ∈ name, Plain word) :
    (Shape.name event).parse name = .ok (event (" ".intercalate name)) := by
  have filled : fill (Shape.name event).slots false name = ⟨name, none⟩ :=
    fill_repeated rfl fun word member => takes_of_plain _ (plain word member)
  rw [parse_filled _ filled]
  obtain ⟨word, rest, rfl⟩ := List.exists_cons_of_ne_nil nonempty
  rfl

/-- The words of a command are parsed as its event. -/
theorem parseWords_command {words : List String} {event : Event} (command : Says words event) :
    parseWords words = .ok event := by
  cases command with
  | connect => rfl
  | disconnect => rfl
  | capture => rfl
  | ignore => rfl
  | state => rfl
  | mode => rfl
  | stop => rfl
  | download switch => exact parse_switch _ switch
  | lowLatency switch => exact parse_switch _ switch
  | get asks => cases asks <;> rfl
  | choices asks => cases asks <;> rfl
  | shutter numeral => exact parse_integer _ numeral (takes_of_numeral rfl numeral)
  | iso numeral plain => exact parse_integer _ numeral (takes_of_plain _ plain)
  | autoIso switch => exact parse_switch _ switch
  | nr switch => exact parse_switch _ switch
  | vr switch => exact parse_switch _ switch
  | target nonempty plain => exact parse_name _ nonempty plain
  | focus => rfl
  | interval numeral countNumeral plain => exact parse_pace _ numeral countNumeral plain

/-- A line of words is parsed as they are, whatever blanks there are between and around them. -/
theorem parse_spaced {line : String} {words : List String} (nonempty : words ≠ [])
    (spaced : Text.Spaced (words.map String.toList) line.toList) :
    parse line = parseWords words := by
  obtain ⟨word, rest, rfl⟩ := List.exists_cons_of_ne_nil nonempty
  have same : ((word :: rest).map String.toList).map String.ofList = word :: rest := by
    simp [Function.comp_def]
  rw [parse, Text.words_of_spaced spaced]
  exact congrArg parseWords same

/-! ## Internal events -/

/-- Whether only the machines themselves may send an event. -/
def isInternal : Event → Bool
  | .recover | .captureStep | .downloadStep => true
  | .cameraConnected | .cameraReady | .cameraDisconnected | .cameraConnectionError | .cameraError
  | .captureDone .. => true
  | .cameraState .. | .modeValue .. | .intervalometerState .. => true
  | .shutterSpeedValue .. | .apertureValue .. | .isoValue .. | .batteryValue ..
  | .focalLengthValue .. | .focusModeValue .. | .longExposureNrValue ..
  | .vibrationReductionValue .. | .captureTargetValue .. | .exposureProgramValue ..
  | .lightMeterValue .. | .autoIsoValue .. => true
  | .shutterSpeedChoices .. | .apertureChoices .. | .isoChoices .. => true
  | .modeStopped | .intervalometerStart .. | .intervalometerDeadline => true
  | .enableGate | .disableGate | .heartbeat => true
  | _ => false

/-- The events that a shape has for words of any kind. -/
inductive Shape.Makes : Shape → Event → Prop where
  | bare (event : Event) : Makes (.bare event) event
  | switch (event : Bool → Event) (enabled : Bool) : Makes (.switch event) (event enabled)
  | choice (label : String) {choices : List (String × Event)} {word : String} {event : Event}
      (member : (word, event) ∈ choices) : Makes (.choice label choices) event
  | integer (label : String) (allowed : Bool) (event : Int32 → Event) (value : Int32) :
      Makes (.integer label allowed event) (event value)
  | fNumber (event : Int32 → Event) (value : Int32) : Makes (.fNumber event) (event value)
  | pace (event : Int32 → Int32 → Event) (time count : Int32) :
      Makes (.pace event) (event time count)
  | name (event : String → Event) (name : String) : Makes (.name event) (event name)

theorem mem_of_lookup {α : Type} {table : List (String × α)} {word : String} {entry : α}
    (found : table.lookup word = some entry) : (word, entry) ∈ table := by
  obtain ⟨front, back, rfl, -⟩ := List.lookup_eq_some_iff.mp found
  exact List.mem_append_right front List.mem_cons_self

theorem mem_of_pick {α : Type} {label : String} {choices : List (String × α)} {word : String}
    {value : α} (picked : pick label choices word = .ok value) : (word, value) ∈ choices := by
  unfold pick at picked
  split at picked
  · next found =>
    cases picked
    exact mem_of_lookup found
  · cases picked

/-- What is made of a result with a function is made of a value. -/
theorem exists_of_map_ok {ε α β : Type} {result : Except ε α} {f : α → β} {value : β}
    (mapped : result.map f = .ok value) : ∃ source, value = f source := by
  cases result with
  | error reason => cases mapped
  | ok source => exact ⟨source, (Except.ok.inj mapped).symm⟩

theorem Shape.makes_of_make {shape : Shape} {words : List String} {event : Event}
    (made : shape.make words = .ok event) : shape.Makes event := by
  unfold make at made
  dsimp only at made
  split at made
  · cases made
    exact .bare _
  · obtain ⟨enabled, rfl⟩ := exists_of_map_ok made
    exact .switch _ enabled
  · exact .choice _ (mem_of_pick made)
  · obtain ⟨value, rfl⟩ := exists_of_map_ok made
    exact .integer _ _ _ value
  · obtain ⟨value, rfl⟩ := exists_of_map_ok made
    exact .fNumber _ value
  · next time count =>
    cases first : read "<MS>" Console.integer time with
    | error reason =>
      rw [first] at made
      cases made
    | ok milliseconds =>
      rw [first] at made
      obtain ⟨total, rfl⟩ := exists_of_map_ok made
      exact .pace _ milliseconds total
  · next time _ _ =>
    cases first : read "<MS>" Console.integer time with
    | error reason =>
      rw [first] at made
      cases made
    | ok milliseconds =>
      rw [first] at made
      cases made
  · cases made
    exact .name _ _
  · cases made

theorem Shape.makes_of_parse {shape : Shape} {words : List String} {event : Event}
    (parsed : shape.parse words = .ok event) : shape.Makes event := by
  unfold parse at parsed
  dsimp only at parsed
  split at parsed
  · exact makes_of_make parsed
  · split at parsed <;> cases parsed

theorem mem_of_choose {α : Type} {table : List (String × α)}
    {words rest : List String} {entry : α}
    (chosen : choose table words = .ok (entry, rest)) : ∃ word, (word, entry) ∈ table := by
  unfold choose at chosen
  split at chosen
  · cases chosen
  · next word _ =>
    split at chosen
    · split at chosen
      · cases chosen
      · split at chosen <;> cases chosen
    · split at chosen
      · next found =>
        cases chosen
        exact ⟨word, mem_of_lookup found⟩
      · cases chosen
      · cases chosen

/-- What the parser makes of words comes from a shape of the table. -/
theorem makes_of_parseWords {words : List String} {event : Event}
    (parsed : parseWords words = .ok event) :
    ∃ keyword shape,
      ((keyword, Entry.command shape) ∈ commands ∨ (keyword, shape) ∈ assignments) ∧
        shape.Makes event := by
  unfold parseWords at parsed
  split at parsed
  · cases parsed
  · next shape _ chosen =>
    obtain ⟨keyword, member⟩ := mem_of_choose chosen
    exact ⟨keyword, shape, .inl member, Shape.makes_of_parse parsed⟩
  · next table _ chosen =>
    obtain ⟨_, group⟩ := mem_of_choose chosen
    obtain ⟨-, rfl⟩ : _ = "set" ∧ table = assignments := by simpa [commands] using group
    split at parsed
    · cases parsed
    · next shape _ chosen =>
      obtain ⟨keyword, member⟩ := mem_of_choose chosen
      exact ⟨keyword, shape, .inr member, Shape.makes_of_parse parsed⟩

theorem settings_external : ∀ entry ∈ settings, isInternal entry.2 = false := by decide

theorem listed_external : ∀ entry ∈ listed, isInternal entry.2 = false := by decide

theorem commands_external {keyword : String} {shape : Shape} {event : Event}
    (member : (keyword, Entry.command shape) ∈ commands) (makes : shape.Makes event) :
    isInternal event = false := by
  simp only [commands, List.mem_cons, Prod.mk.injEq, Entry.command.injEq, reduceCtorEq, and_false,
    false_or, List.not_mem_nil, or_false] at member
  obtain ⟨-, rfl⟩ | ⟨-, rfl⟩ | ⟨-, rfl⟩ | ⟨-, rfl⟩ | ⟨-, rfl⟩ | ⟨-, rfl⟩ |
    ⟨-, rfl⟩ | ⟨-, rfl⟩ |
    ⟨-, rfl⟩ | ⟨-, rfl⟩ | ⟨-, rfl⟩ | ⟨-, rfl⟩ := member
  all_goals cases makes
  all_goals first
    | rfl
    | exact settings_external _ ‹_›
    | exact listed_external _ ‹_›

theorem assignments_external {keyword : String} {shape : Shape} {event : Event}
    (member : (keyword, shape) ∈ assignments) (makes : shape.Makes event) :
    isInternal event = false := by
  simp only [assignments, List.mem_cons, Prod.mk.injEq, List.not_mem_nil, or_false] at member
  obtain ⟨-, rfl⟩ | ⟨-, rfl⟩ | ⟨-, rfl⟩ | ⟨-, rfl⟩ | ⟨-, rfl⟩ | ⟨-, rfl⟩ |
    ⟨-, rfl⟩ | ⟨-, rfl⟩ :=
    member
  all_goals cases makes
  case choice word next =>
    obtain ⟨-, rfl⟩ := Prod.mk.inj (List.mem_singleton.mp next)
    rfl
  all_goals rfl

theorem parseWords_external {words : List String} {event : Event}
    (parsed : parseWords words = .ok event) : isInternal event = false := by
  obtain ⟨keyword, shape, command | assignment, makes⟩ := makes_of_parseWords parsed
  · exact commands_external command makes
  · exact assignments_external assignment makes

theorem parse_external {line : String} {event : Event} (parsed : parse line = .ok event) :
    isInternal event = false := by
  unfold parse at parsed
  split at parsed
  · cases parsed
  · exact parseWords_external parsed

theorem plain_toString {n : Int} (nonnegative : 0 ≤ n) : Plain (toString n) := by
  obtain ⟨n, rfl⟩ := Int.eq_ofNat_of_zero_le nonnegative
  exact plain_of_row (row_toDigits n)

/-- Every line of the words of a command, with any blanks between and around them, is parsed as the
event of the command. The numbers in it can be written as usual; those of the sensitivity and of the
count have no minus in front then, unless they are negative. No line at all is parsed as an event
that only the machines may send. -/
theorem parse_faithful :
    (∀ line words event, Text.Spaced (words.map String.toList) line.toList →
      Says words event → parse line = .ok event) ∧
    (∀ n : Int, Numeral (toString n) n ∧ (0 ≤ n → Plain (toString n))) ∧
    ∀ line event, parse line = .ok event → isInternal event = false := by
  refine ⟨fun line words event spaced command => ?_,
    fun n => ⟨numeral_toString n, plain_toString⟩, fun _ _ => parse_external⟩
  have nonempty : words ≠ [] := by
    rintro rfl
    cases command
  rw [parse_spaced nonempty spaced]
  exact parseWords_command command

/-- Lines with blanks of many kinds: the least and the greatest number of 32 bits, a name of two
words, and a switch. -/
theorem parse_faithful_lines :
    parse "\u3000 interval\t-2147483648 \u00a02147483647\u2028" =
      .ok (.runIntervalometer (-2147483648) 2147483647) ∧
    parse "set target  Memory\u2003card" = .ok (.setCaptureTarget "Memory card") ∧
    parse " low_latency\u0085 1 " = .ok (.setLowLatency true) := by
  obtain ⟨faithful, numerals, -⟩ := parse_faithful
  refine ⟨
    faithful _ ["interval", toString (-2147483648 : Int), toString (2147483647 : Int)] _ ?_ ?_,
    faithful _ ["set", "target", "Memory", "card"] _ ?_ ?_,
    faithful _ ["low_latency", "1"] _ ?_ ?_⟩
  · exact Text.spaced_iff.mpr (by decide +kernel)
  · exact .interval (numerals _).1 (numerals _).1 ((numerals _).2 (by decide))
  · exact Text.spaced_iff.mpr (by decide +kernel)
  · exact .target (List.cons_ne_nil _ _) (by simp [Plain])
  · exact Text.spaced_iff.mpr (by decide +kernel)
  · exact .lowLatency .one

end Console

end Tether
