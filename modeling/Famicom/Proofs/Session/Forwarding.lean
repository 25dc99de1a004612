import Famicom.Session.Prompt
import Mathlib.Data.List.TakeWhile

namespace Famicom

namespace Text

theorem split_ne_nil (separates : Char → Bool) (characters : List Char) :
    split separates characters ≠ [] := by
  cases characters with
  | nil => exact List.cons_ne_nil _ _
  | cons character rest =>
      unfold split
      split
      · exact List.cons_ne_nil _ _
      · split <;> exact List.cons_ne_nil _ _

theorem all_isEmpty_split (separates : Char → Bool) (characters : List Char) :
    (split separates characters).all List.isEmpty = characters.all separates := by
  induction characters with
  | nil => rfl
  | cons character rest ih =>
      cases separated : separates character with
      | true => simp [split, separated, ih]
      | false =>
          obtain ⟨piece, pieces, cut⟩ := List.exists_cons_of_ne_nil (split_ne_nil separates rest)
          simp [split, separated, cut]

def Blank (text : String) : Prop := ∀ character ∈ text.toList, isBlank character = true

theorem words_eq_nil_iff (text : String) : words text = [] ↔ Blank text := by
  have pieces := all_isEmpty_split isBlank text.toList
  rw [Bool.eq_iff_iff, List.all_eq_true, List.all_eq_true] at pieces
  simp only [words, List.map_eq_nil_iff, List.filter_eq_nil_iff, Bool.not_eq_true',
    Bool.not_eq_false]
  exact pieces

end Text

namespace Event

def isQuit : Event → Bool
  | .quit => true
  | _ => false

theorem eq_quit_of_isQuit {event : Event} (quits : event.isQuit = true) : event = .quit := by
  cases event with
  | quit => rfl
  | load image => cases quits
  | reset => cases quits
  | pause => cases quits
  | start => cases quits
  | step => cases quits

def spellings : Event → List String
  | .start => ["s", "start"]
  | .pause => ["p", "pause"]
  | .step => ["n", "step"]
  | .reset => ["r", "reset"]
  | .quit => ["q", "quit"]
  | .load _ => []

end Event

namespace Prompt

variable {readFile : ReadFile} {line : String}

inductive Asks (readFile : ReadFile) (line : String) : Event → Prop
  | plain {event : Event} {word : String} {rest : List String}
      (words : Text.words line = word :: rest) (spelled : word ∈ event.spellings) :
      Asks readFile line event
  | load {word path : String} {rest : List String} {image : ByteArray}
      (words : Text.words line = word :: path :: rest) (spelled : word ∈ ["l", "load"])
      (read : readFile path = .ok image) : Asks readFile line (.load image)

inductive Refused (readFile : ReadFile) (line : String) : CommandError → Prop
  | unknown {word : String} {rest : List String} (words : Text.words line = word :: rest)
      (plain : ∀ event : Event, word ∉ event.spellings) (load : word ∉ ["l", "load"]) :
      Refused readFile line (.unknown word)
  | missingPath {word : String} (words : Text.words line = [word])
      (spelled : word ∈ ["l", "load"]) : Refused readFile line .missingPath
  | unreadable {word path : String} {rest : List String} {error : FileError}
      (words : Text.words line = word :: path :: rest) (spelled : word ∈ ["l", "load"])
      (fails : readFile path = .error error) : Refused readFile line (.unreadable path error)

theorem parse_of_blank (blank : Text.Blank line) : parse readFile line = .ok none := by
  rw [← Text.words_eq_nil_iff] at blank
  simp only [parse, blank]

theorem Asks.parse {event : Event} (asks : Asks readFile line event) :
    parse readFile line = .ok (some event) := by
  cases asks with
  | plain words spelled =>
      cases event <;> simp [Event.spellings] at spelled <;>
        rcases spelled with rfl | rfl <;> simp [Prompt.parse, words]
  | load words spelled read =>
      simp at spelled
      rcases spelled with rfl | rfl <;> simp [Prompt.parse, words, read]

theorem Refused.parse {error : CommandError} (refused : Refused readFile line error) :
    parse readFile line = .error error := by
  cases refused with
  | unknown words plain load =>
      have start := plain .start
      have pause := plain .pause
      have step := plain .step
      have reset := plain .reset
      have quit := plain .quit
      simp [Event.spellings] at start pause step reset quit load
      simp [Prompt.parse, words, start, pause, step, reset, quit, load]
  | missingPath words spelled =>
      simp at spelled
      rcases spelled with rfl | rfl <;> simp [Prompt.parse, words]
  | unreadable words spelled fails =>
      simp at spelled
      rcases spelled with rfl | rfl <;> simp [Prompt.parse, words, fails]

theorem asks_or_silent (readFile : ReadFile) (line : String) :
    (∃ event, Asks readFile line event) ∨ Text.Blank line ∨
      ∃ error, Refused readFile line error := by
  cases words : Text.words line with
  | nil => exact .inr (.inl ((Text.words_eq_nil_iff line).mp words))
  | cons word rest =>
      by_cases plain : ∃ event : Event, word ∈ event.spellings
      · obtain ⟨event, spelled⟩ := plain
        exact .inl ⟨event, .plain words spelled⟩
      by_cases load : word ∈ ["l", "load"]
      · cases rest with
        | nil => exact .inr (.inr ⟨_, .missingPath words load⟩)
        | cons path rest =>
            cases contents : readFile path with
            | ok image => exact .inl ⟨_, .load words load contents⟩
            | error error => exact .inr (.inr ⟨_, .unreadable words load contents⟩)
      · exact .inr (.inr ⟨_, .unknown words (not_exists.mp plain) load⟩)

def event? (readFile : ReadFile) (line : String) : Option Event :=
  (parse readFile line).toOption.join

theorem event?_eq_some_iff {event : Event} :
    event? readFile line = some event ↔ Asks readFile line event := by
  constructor
  · intro asked
    rcases asks_or_silent readFile line with ⟨other, asks⟩ | blank | ⟨error, refused⟩
    · rw [event?, asks.parse] at asked
      obtain rfl : other = event := Option.some.inj asked
      exact asks
    · rw [event?, parse_of_blank blank] at asked
      cases asked
    · rw [event?, refused.parse] at asked
      cases asked
  · intro asks
    rw [event?, asks.parse]
    rfl

theorem event?_eq_none_iff :
    event? readFile line = none ↔ Text.Blank line ∨ ∃ error, Refused readFile line error := by
  constructor
  · intro silent
    rcases asks_or_silent readFile line with ⟨event, asks⟩ | rest
    · exact absurd (silent.symm.trans (event?_eq_some_iff.mpr asks)) nofun
    · exact rest
  · rintro (blank | ⟨error, refused⟩)
    · rw [event?, parse_of_blank blank]
      rfl
    · rw [event?, refused.parse]
      rfl

/-! ## The loop -/

theorem forward_of_silent (silent : event? readFile line = none) (rest : List String) :
    (forward readFile (line :: rest)).1 = (forward readFile rest).1 := by
  rcases event?_eq_none_iff.mp silent with blank | ⟨error, refused⟩
  · simp only [forward, parse_of_blank blank]
  · simp only [forward, refused.parse]

theorem forward_of_quit (asks : Asks readFile line .quit) (rest : List String) :
    forward readFile (line :: rest) = ([.quit], []) := by
  simp only [forward, asks.parse]

theorem forward_of_event {event : Event} (asks : Asks readFile line event)
    (goesOn : event.isQuit = false) (rest : List String) :
    (forward readFile (line :: rest)).1 = event :: (forward readFile rest).1 := by
  cases event with
  | quit => cases goesOn
  | load image => simp only [forward, asks.parse]
  | reset => simp only [forward, asks.parse]
  | pause => simp only [forward, asks.parse]
  | start => simp only [forward, asks.parse]
  | step => simp only [forward, asks.parse]

theorem forward_fst (readFile : ReadFile) (lines : List String) :
    (forward readFile lines).1 =
      (lines.filterMap (event? readFile)).takeWhile (fun event => !event.isQuit) ++ [.quit] := by
  induction lines with
  | nil => rfl
  | cons line rest ih =>
      cases asked : event? readFile line with
      | none => rw [forward_of_silent asked, ih, List.filterMap_cons_none asked]
      | some event =>
          have asks := event?_eq_some_iff.mp asked
          rw [List.filterMap_cons_some asked]
          cases quits : event.isQuit with
          | true =>
              obtain rfl := Event.eq_quit_of_isQuit quits
              rw [forward_of_quit asks, List.takeWhile_cons_of_neg (by simp [quits])]
              rfl
          | false =>
              rw [forward_of_event asks quits, ih, List.takeWhile_cons_of_pos (by simp [quits])]
              rfl

theorem forward_append_congr {first second : List String}
    (same : forward readFile first = forward readFile second) (before : List String) :
    forward readFile (before ++ first) = forward readFile (before ++ second) := by
  induction before with
  | nil => exact same
  | cons line rest ih => simp only [List.cons_append, forward, ih]

/-- Exactly the events that the lines ask for are sent, in order, up to the first quit, and without
one a quit follows at the end. So there is one quit, and it is last; a line that asks for nothing
counts for nothing, and what follows a quit has no effect, not even a refusal. -/
theorem forward_untilQuit (readFile : ReadFile) (lines : List String) :
    let sent := (forward readFile lines).1
    (∀ line, (∀ event, event? readFile line = some event ↔ Asks readFile line event) ∧
      (event? readFile line = none ↔
        Text.Blank line ∨ ∃ error, Refused readFile line error)) ∧
    sent = (lines.filterMap (event? readFile)).takeWhile (fun event => !event.isQuit) ++ [.quit] ∧
    sent.countP Event.isQuit = 1 ∧ sent.getLast? = some .quit ∧
    ∀ before line after, lines = before ++ line :: after →
      (event? readFile line = none → sent = (forward readFile (before ++ after)).1) ∧
      (Asks readFile line .quit →
        forward readFile lines = forward readFile (before ++ [line])) := by
  intro sent
  have events : sent = _ := forward_fst readFile lines
  refine ⟨fun line => ⟨fun event => event?_eq_some_iff, event?_eq_none_iff⟩, events, ?_, ?_, ?_⟩
  · have earlier : ((lines.filterMap (event? readFile)).takeWhile
        (fun event => !event.isQuit)).countP Event.isQuit = 0 := by
      rw [List.countP_eq_zero]
      intro event listed
      simpa using List.mem_takeWhile_imp listed
    rw [events, List.countP_append, earlier]
    rfl
  · rw [events, List.getLast?_concat]
  · rintro before line after rfl
    refine ⟨fun silent => ?_, fun quits => ?_⟩
    · rw [events, forward_fst, List.filterMap_append, List.filterMap_append,
        List.filterMap_cons_none silent]
    · apply forward_append_congr
      rw [forward_of_quit quits, forward_of_quit quits]

end Prompt

end Famicom
