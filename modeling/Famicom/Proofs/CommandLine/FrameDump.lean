import Famicom.CommandLine.Program
import Famicom.Proofs.CommandLine.Arguments
import Famicom.Proofs.Console.Jam
import Famicom.Proofs.Session.FrameCount

namespace Famicom

namespace Picture

def headerBytes : List UInt8 :=
  [0x50, 0x35, 0x0a, 0x32, 0x35, 0x36, 0x20, 0x32, 0x34, 0x30, 0x0a, 0x32, 0x35, 0x35, 0x0a]

theorem foldl_push (bytes : List UInt8) (start : ByteArray) :
    (bytes.foldl ByteArray.push start).data.toList = start.data.toList ++ bytes := by
  induction bytes generalizing start with
  | nil => exact (List.append_nil _).symm
  | cons byte rest continues =>
      rw [List.foldl_cons, continues, ByteArray.data_push, Array.toList_push, List.append_assoc]
      rfl

theorem encode_toList (picture : Memory 61440) :
    (encode picture).data.toList = headerBytes ++ picture.toList.map luma := by
  have header : Picture.header.toUTF8.data.toList = headerBytes := by decide +kernel
  rw [encode, foldl_push, header]

end Picture

namespace CommandLine

open Session (EndsAfter frameLimits)

variable {rom out : String} {count : Nat} {directory : Directory} {image : ByteArray}
  (input : List String) (tracing : Bool)

theorem run_of_refused (readable : directory.read rom = .ok image) {error : ImageError}
    (refused : Cartridge.load image = .error error) :
    run (dumpOptions rom out count) directory input tracing =
      { failure := some { message := s!"failed to load {rom}", cause := some error.message }
        directory } := by
  have read : directory.read (dumpOptions rom out count).image = .ok image := readable
  rw [run_eq, read]
  unfold insertImage
  simp only [refused]
  rfl

theorem run_of_loaded (readable : directory.read rom = .ok image) {cartridge : Cartridge}
    (loaded : Cartridge.load image = .ok cartridge) {turn : Turn}
    (delivers : (Session.new cartridge).deliver (frameLimits count) [] (count + 2) = turn) :
    ∃ entries, run (dumpOptions rom out count) directory input tracing =
      .ofOutcome ((((dumpOptions rom out count).host input tracing).close
        (dumpOptions rom out count) turn).run { entries, directory }) := by
  have read : directory.read (dumpOptions rom out count).image = .ok image := readable
  have logged := (Session.new cartridge).loggedDeliver_fst (frameLimits count) [] tracing (count + 2)
  have silent : (dumpOptions rom out count).interactive = false := rfl
  obtain ⟨later, plays⟩ : ∃ later, (dumpOptions rom out count).play input tracing
      (Session.new cartridge) { entries := Image.entries image, directory } =
        (turn, { entries := Image.entries image ++ later, directory }) :=
    ⟨_, Prod.ext (logged.trans delivers) rfl⟩
  refine ⟨Image.entries image ++ later, ?_⟩
  rw [run_eq, read]
  unfold insertImage
  simp only [loaded, silent, Bool.false_eq_true, if_false]
  rw [plays]

theorem sessionFailure?_of_unfaulted {turn : Turn}
    (unfaulted : turn.session.console.bus.faulted = false) : sessionFailure? turn =
      match turn.activity with
      | .ended (some error) => some { message := error.message }
      | _ => none :=
  if_neg (Bool.eq_false_iff.mp unfaulted)

theorem close_of_failure {options : Options} {turn : Turn} {failure : Failure}
    (fails : sessionFailure? turn = some failure) (transcript : Transcript) :
    .ofOutcome (((options.host input tracing).close options turn).run transcript) =
      { transcript with failure := some failure } := by
  unfold Host.close
  rw [fails]
  rfl

theorem dump_of_written {options : Options} {transcript : Transcript} {picture : Memory 61440}
    {after : Directory}
    (written : transcript.directory.write out (Picture.encode picture) = .ok after) :
    ((options.host input tracing).dump (some out) picture).run transcript =
      (none, { transcript with entries := transcript.entries ++ [writtenEntry out]
                               directory := after }) := by
  have stored : transcript.write out (Picture.encode picture) =
      (.ok (), { transcript with directory := after }) := by
    unfold Transcript.write
    rw [written]
  let host := options.host input tracing
  have ran : (host.dump (some out) picture).run transcript =
      (host.afterWrite out (transcript.write out (Picture.encode picture)).1).run
        (transcript.write out (Picture.encode picture)).2 := rfl
  rw [ran, stored]
  rfl

theorem close_of_complete {options : Options} {turn : Turn}
    (complete : sessionFailure? turn = none) (dumps : options.dump = some out)
    (writable : ∀ contents, ∃ after, directory.write out contents = .ok after)
    (entries : List LogEntry) :
    let transcript := Transcript.ofOutcome
      (((options.host input tracing).close options turn).run { entries, directory })
    transcript.failure = none ∧ transcript.exitCode = 0 ∧
      ∃ contents, directory.write out contents = .ok transcript.directory ∧
        contents.data.toList = Picture.headerBytes ++
          turn.session.console.bus.ppu.picture.toList.map Picture.luma := by
  let picture := turn.session.console.bus.ppu.picture
  obtain ⟨after, written⟩ := writable (Picture.encode picture)
  let summarized : Transcript := { entries := entries ++ [turn.session.summaryEntry], directory }
  have closed : ((options.host input tracing).close options turn).run { entries, directory } =
      ((options.host input tracing).dump (some out) picture).run summarized := by
    unfold Host.close
    rw [complete, dumps]
    rfl
  intro transcript
  have same : transcript = .ofOutcome _ :=
    congrArg Transcript.ofOutcome (closed.trans (dump_of_written input tracing written))
  rw [same]
  exact ⟨rfl, rfl, Picture.encode picture, written, Picture.encode_toList picture⟩

/-- A run over a number of frames fails where the image is refused. Otherwise its session ends within
as many turns as frames: with all of them counted, and then the last picture is written, or with the
first step that fails in an earlier frame, and then nothing is. -/
theorem run_dumpOptions (rom out : String) (count : Nat) (directory : Directory)
    (image : ByteArray) (input : List String) (tracing : Bool)
    (readable : directory.read rom = .ok image)
    (writable : ∀ contents, ∃ after, directory.write out contents = .ok after) :
    let transcript := run (dumpOptions rom out count) directory input tracing
    match Cartridge.load image with
    | .error error =>
        transcript.failure =
            some { message := s!"failed to load {rom}", cause := some error.message } ∧
          transcript.exitCode = 1 ∧ transcript.directory = directory
    | .ok cartridge =>
        ∃ steps turn, EndsAfter cartridge count steps turn ∧
          (∀ turns, count ≤ turns →
            (Session.new cartridge).deliver (frameLimits count) [] turns = turn) ∧
          (turn.session.console.bus.faulted = false →
            match turn.activity with
            | .ended (some error) =>
                transcript.failure = some { message := error.message } ∧
                  transcript.exitCode = 1 ∧ transcript.directory = directory
            | _ =>
                transcript.failure = none ∧ transcript.exitCode = 0 ∧
                  ∃ contents, directory.write out contents = .ok transcript.directory ∧
                    contents.data.toList = Picture.headerBytes ++
                      turn.session.console.bus.ppu.picture.toList.map Picture.luma) := by
  intro transcript
  cases loaded : Cartridge.load image with
  | error error =>
      have ran : transcript = _ := run_of_refused input tracing readable loaded
      rw [ran]
      exact ⟨rfl, rfl, rfl⟩
  | ok cartridge =>
      obtain ⟨steps, turn, ends, delivers⟩ := Session.new_endsAfter cartridge count
      refine ⟨steps, turn, ends, delivers, fun unfaulted => ?_⟩
      obtain ⟨entries, ran⟩ := run_of_loaded input tracing readable loaded
        (delivers (count + 2) (Nat.le_add_right count 2))
      have same : transcript = _ := ran
      rw [same]
      have judged := sessionFailure?_of_unfaulted unfaulted
      cases ends with
      | complete running earlier frame =>
          exact close_of_complete input tracing judged rfl writable entries
      | failed running earlier error fails =>
          rw [close_of_failure input tracing judged]
          exact ⟨rfl, rfl, rfl⟩

def jammedBank : List UInt8 := List.replicate 0x4000 0x92

theorem length_jammedBank : jammedBank.length = Image.prgBankSize := List.length_replicate

theorem eq_of_mem_jammedBank {byte : UInt8} (mem : byte ∈ jammedBank) : byte = 0x92 :=
  List.eq_of_mem_replicate mem

attribute [local irreducible] jammedBank

def jammedDirectory : Directory where
  files := [("rom", Image.ofBank jammedBank)]

theorem splitOnAux_of_other (text : String) {place : String.Pos.Raw}
    (more : String.Pos.Raw.atEnd text place = false)
    (other : (String.Pos.Raw.get text place == String.Pos.Raw.get "/" 0) = false) :
    text.splitOnAux "/" 0 place 0 [] =
      text.splitOnAux "/" 0 (String.Pos.Raw.next text (place.unoffsetBy 0)) 0 [] := by
  rw [String.splitOnAux, if_neg (Bool.eq_false_iff.mp more), if_neg (Bool.eq_false_iff.mp other)]

theorem begin_of_known {name : String} (known : name = "rom" ∨ name = "out") :
    Directory.begin name = .ok (.here, [name]) := by
  have names : name.splitOn "/" = [name] := by
    unfold String.splitOn
    rw [if_neg (by decide)]
    rcases known with rfl | rfl
    all_goals
      iterate 3 rw [splitOnAux_of_other _ (by decide +kernel) (by decide +kernel)]
      rw [String.splitOnAux, if_pos (by decide +kernel)]
      decide +kernel
  have here : name.startsWith "/" = false := by
    rcases known with rfl | rfl <;> decide +kernel
  unfold Directory.begin
  rw [names, here]
  rcases known with rfl | rfl <;> rfl

theorem jammedDirectory_read :
    jammedDirectory.read "rom" = .ok (Image.ofBank jammedBank) := by
  unfold Directory.read
  rw [begin_of_known (.inl rfl)]
  rfl

theorem jammedDirectory_write (contents : ByteArray) :
    ∃ after, jammedDirectory.write "out" contents = .ok after := by
  unfold Directory.write
  rw [begin_of_known (.inr rfl)]
  exact ⟨_, rfl⟩

/-- A program of nothing but bytes that lock up runs no step, and no file is written. -/
theorem jammed_dump :
    let options := dumpOptions "rom" "out" 3
    let transcript := run options jammedDirectory [] false
    transcript.failure = some { message := "unknown opcode $92 at $9292" } ∧
      transcript.exitCode = 1 ∧ transcript.directory = jammedDirectory := by
  have ran := run_dumpOptions "rom" "out" 3 jammedDirectory
    (Image.ofBank jammedBank) [] false jammedDirectory_read jammedDirectory_write
  obtain ⟨cartridge, loaded, filled⟩ := Image.load_ofBank length_jammedBank
  have jammed (offset : Nat) : cartridge.prgRom.read offset = 0x92 :=
    eq_of_mem_jammedBank (filled offset)
  have stepped := Console.step_of_jammed jammed (by decide) (by decide)
  rw [loaded] at ran
  obtain ⟨steps, turn, ends, _, outcome⟩ := ran
  have last := ends.of_first (congrArg Prod.fst stepped) (by decide)
  have unfaulted : turn.session.console.bus.faulted = false := by
    rw [last, stepped]
    exact Console.unfaulted_new cartridge
  have failed := outcome unfaulted
  rw [last] at failed
  exact failed

end CommandLine

end Famicom
