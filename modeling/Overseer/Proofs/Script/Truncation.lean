import Overseer.Proofs.Script.Creation
import Overseer.Proofs.Script.Outcomes
import Overseer.Proofs.Script.Writers

/-!
# Output beyond the bound

A reader that has no space for more hangs up.  The text of the stream is then that of the first bytes,
up to the bound, whatever the child had to say beyond it.  But hanging up also reaches the child: one
that has not yet got rid of everything is killed for writing on, and a run that would have been good is
reported as one that failed.

`runProgram_of_writes` says which of the two a run is.  A child that writes no more than the bound ends
with its own code.  A child that writes more than the bound and two pipefuls (the one that was read last
and the one behind it) is always killed.  In between it depends on how fast the child is.

The watch is followed by an account of the child (`Accounts`).  At its core is the flow of bytes: what has
been seen, what is in the pipe and what is still to be written make up all that the child has to say, at
every moment (`Flow`).
-/

namespace Overseer.Script

open Overseer.Capture Overseer.Host Overseer.Os Overseer.Processes Overseer.Text Overseer.Time

/-! ## The account of a child -/

/-- The bytes of a child: what has been seen, what is in the pipe and what is still to be written make
up everything it has to say. -/
structure Flow (bytes : List UInt8) (out : Stream) (capacity : Nat) (seen : List Sight)
    (w : Writer) : Prop where
  whole : brought out seen ++ w.piped ++ w.unwritten = bytes
  quiet : brought out.other seen = []
  fits : w.piped.length ≤ capacity
  /-- at most one pipeful is read beyond the bound, and one more lies behind it -/
  reading : w.attached = true → (brought out seen).length ≤ maxOutputBytes + capacity
  room : (brought out seen).length + w.piped.length ≤ maxOutputBytes + 2 * capacity

/-- What has been seen of a child, and what it is like, account for each other. -/
structure Accounts (bytes : List UInt8) (out : Stream) (capacity : Nat) (seen : List Sight)
    (w : Writer) : Prop extends Flow bytes out capacity seen w where
  atEnd : endSeen out seen = true → brought out seen = bytes
  otherOpen : w.otherOpen = !endSeen out.other seen
  ending : ∀ status, w.ending = some status → status = .code 0 ∧ w.unwritten = [] ∨
    status = .signal brokenPipe ∧ w.attached = false ∧ w.unwritten ≠ []
  told : w.told = true → ∃ status, w.ending = some status ∧ outcome? seen = some (.ok status)
  untold : w.told = false → outcome? seen = none

/-- The reading end of the pipe is closed as soon as nothing more is read. -/
def Attached (out : Stream) (seen : List Sight) (w : Writer) : Prop :=
  streamOver out seen = !w.attached

variable {bytes : List UInt8} {out : Stream} {capacity : Nat} {seen : List Sight} {w w' : Writer}

/-- A sight without bytes leaves the bytes where they are. -/
theorem Flow.silent (flow : Flow bytes out capacity seen w) (sight : Sight)
    (noBytes : ∀ stream, sight.bytesOf stream = []) (piped : w'.piped = w.piped)
    (unwritten : w'.unwritten = w.unwritten) (attached : w'.attached = true → w.attached = true) :
    Flow bytes out capacity (seen ++ [sight]) w' where
  whole := by rw [brought_append_of_silent _ _ _ (noBytes out), piped, unwritten, flow.whole]
  quiet := by rw [brought_append_of_silent _ _ _ (noBytes out.other), flow.quiet]
  fits := piped ▸ flow.fits
  reading open_ := by
    rw [brought_append_of_silent _ _ _ (noBytes out)]
    exact flow.reading (attached open_)
  room := by
    rw [brought_append_of_silent _ _ _ (noBytes out), piped]
    exact flow.room

namespace Accounts

theorem start : Accounts bytes out capacity [] { unwritten := bytes } where
  whole := rfl
  quiet := rfl
  fits := Nat.zero_le _
  reading _ := Nat.zero_le _
  room := Nat.zero_le _
  atEnd := nofun
  otherOpen := rfl
  ending := nofun
  told := nofun
  untold _ := rfl

/-- The account stays true whatever the child does. -/
theorem step (accounts : Accounts bytes out capacity seen w) (step : Writer.Step capacity w w') :
    Accounts bytes out capacity seen w' := by
  have untold (alive : w.ending = none) : w.told = false := by
    cases told : w.told with
    | false => rfl
    | true =>
        obtain ⟨status, ended, -⟩ := accounts.told told
        rw [alive] at ended
        cases ended
  cases step with
  | write alive open_ split fits =>
      have whole := accounts.whole
      have reading := accounts.reading open_
      rw [split] at whole
      exact { accounts with
        whole := by simpa using whole
        fits := by simpa using fits
        room := by
          simp only [List.length_append]
          omega
        ending := fun status ended => by
          rw [alive] at ended
          cases ended }
  | finish alive done =>
      exact { accounts with
        ending := fun status ended => by
          cases ended
          exact Or.inl ⟨rfl, done⟩
        told := fun told => absurd told (by simp [untold alive]) }
  | breakOff alive closed more =>
      exact { accounts with
        ending := fun status ended => by
          cases ended
          exact Or.inr ⟨rfl, closed, more⟩
        told := fun told => absurd told (by simp [untold alive]) }

theorem steps (accounts : Accounts bytes out capacity seen w) (steps : Writer.Steps capacity w w') :
    Accounts bytes out capacity seen w' := by
  induction steps with
  | refl => exact accounts
  | tail _ last ih => exact ih.step last

/-- The account stays true when the reader hangs up. -/
theorem detach (accounts : Accounts bytes out capacity seen w) :
    Accounts bytes out capacity seen { w with attached := false } :=
  { accounts with
    reading := nofun
    ending := fun status ended => (accounts.ending status ended).imp_right fun broken =>
      ⟨broken.1, rfl, broken.2.2⟩ }

/-! ### What a look adds to the account -/

theorem output {chunk : ByteArray} {rest : List UInt8}
    (accounts : Accounts bytes out capacity seen w) (running : streamOver out seen = false)
    (first : w.piped = chunk.data.toList ++ rest) :
    Accounts bytes out capacity (seen ++ [.output out chunk]) { w with piped := rest } := by
  have brings : brought out (seen ++ [.output out chunk]) = brought out seen ++ chunk.data.toList := by
    rw [brought_append_of_not_over out seen _ running]
    simp [Sight.bytesOf]
  obtain ⟨unended, space⟩ := (streamOver_eq_false_iff out seen).mp running
  have whole := accounts.whole
  have fits := accounts.fits
  have room := accounts.room
  rw [first] at whole fits room
  rw [List.length_append] at fits room
  exact { accounts with
    whole := by
      rw [brings]
      simpa using whole
    quiet := by rw [brought_append_of_silent _ _ _ (by simp [Sight.bytesOf]), accounts.quiet]
    fits := by
      show rest.length ≤ capacity
      omega
    reading := fun _ => by
      rw [brings, List.length_append]
      omega
    room := by
      show _ + rest.length ≤ _
      rw [brings, List.length_append]
      omega
    atEnd := by simp [unended, Sight.ends]
    otherOpen := by simp [accounts.otherOpen, Sight.ends]
    told := by simpa [Sight.outcome?] using accounts.told
    untold := by simpa [Sight.outcome?] using accounts.untold }

theorem ended (accounts : Accounts bytes out capacity seen w) (open_ : w.attached = true)
    (empty : w.piped = []) (gone : w.ending ≠ none) :
    Accounts bytes out capacity (seen ++ [.ended out]) { w with attached := false } where
  toFlow := accounts.toFlow.silent (.ended out) (fun _ => rfl) rfl rfl nofun
  atEnd _ := by
    rw [brought_append_of_silent _ _ _ rfl]
    obtain ⟨status, ended⟩ := Option.ne_none_iff_exists'.mp gone
    rcases accounts.ending status ended with ⟨-, done⟩ | ⟨-, closed, -⟩
    · simpa [empty, done] using accounts.whole
    · rw [open_] at closed
      cases closed
  otherOpen := by simp [accounts.otherOpen, Sight.ends]
  ending := accounts.detach.ending
  told := by simpa [Sight.outcome?] using accounts.told
  untold := by simpa [Sight.outcome?] using accounts.untold

theorem otherEnded (accounts : Accounts bytes out capacity seen w) :
    Accounts bytes out capacity (seen ++ [.ended out.other]) { w with otherOpen := false } where
  toFlow := accounts.toFlow.silent (.ended out.other) (fun _ => rfl) rfl rfl id
  atEnd := by
    rw [brought_append_of_silent _ _ _ rfl]
    simpa [Sight.ends] using accounts.atEnd
  otherOpen := by simp [Sight.ends]
  ending := accounts.ending
  told := by simpa [Sight.outcome?] using accounts.told
  untold := by simpa [Sight.outcome?] using accounts.untold

theorem collected {status : ExitStatus} (accounts : Accounts bytes out capacity seen w)
    (ended : w.ending = some status) :
    Accounts bytes out capacity (seen ++ [.collected (.ok status)]) { w with told := true } where
  toFlow := accounts.toFlow.silent (.collected (.ok status)) (fun _ => rfl) rfl rfl id
  atEnd := by
    rw [brought_append_of_silent _ _ _ rfl]
    simpa [Sight.ends] using accounts.atEnd
  otherOpen := by simp [accounts.otherOpen, Sight.ends]
  ending := accounts.ending
  told _ := ⟨status, ended, by simp [Sight.outcome?]⟩
  untold := nofun

end Accounts

/-! ## The watch -/

/-- What is still to be seen of a child: bytes up to the bound, two ends of streams, and its own end. -/
def left (out : Stream) (seen : List Sight) (w : Writer) : Nat :=
  maxOutputBytes - (brought out seen).length + w.attached.toNat + w.otherOpen.toNat + (!w.told).toNat

theorem left_of_steps (steps : Writer.Steps capacity w w') : left out seen w' = left out seen w := by
  obtain ⟨attached, otherOpen, told⟩ := Writer.flags_of_steps steps
  rw [left, left, attached, otherOpen, told]

/-- When nothing is to be seen any more, the run is over. -/
theorem Accounts.concluded_of_not_pending (accounts : Accounts bytes out capacity seen w)
    (attached : Attached out seen w) (nothing : ¬w.Pending) : concluded seen = true := by
  obtain ⟨closed, nothing⟩ := not_or.mp nothing
  obtain ⟨otherClosed, told⟩ := not_or.mp nothing
  obtain ⟨status, -, outcome⟩ := accounts.told (by simpa using told)
  have own : streamOver out seen = true := by simpa [Attached, closed] using attached
  have other : streamOver out.other seen = true := by
    have ended : endSeen out.other seen = true := by simpa [accounts.otherOpen] using otherClosed
    rw [streamOver, ended, Bool.true_or]
  rw [concluded, outcome]
  cases out <;> simp_all [Stream.other]

section

variable {σ : Type} {platform : Platform σ} {child : Pid} {deadline : Nat}
variable {describes : σ → Writer → Prop}

/-- The account has been brought on from what was seen of a child to what is seen now: `after` is the
state of the system now, and less is left to be seen. -/
structure Advance (describes : σ → Writer → Prop) (bytes : List UInt8) (out : Stream) (capacity : Nat)
    (seen seen' : List Sight) (w w' : Writer) (after : σ) : Prop where
  described : describes after w'
  accounts : Accounts bytes out capacity seen' w'
  attached : Attached out seen' w'
  less : left out seen' w' < left out seen w

/-- Bytes that were read leave less space, whether the reader hangs up or not. -/
theorem space_lt_of_output {chunk : ByteArray} (running : streamOver out seen = false)
    (nonempty : chunk.data.toList ≠ []) :
    maxOutputBytes - (brought out (seen ++ [.output out chunk])).length <
      maxOutputBytes - (brought out seen).length := by
  have space := ((streamOver_eq_false_iff out seen).mp running).2
  have more := List.length_pos_iff.mpr nonempty
  rw [brought_append_of_not_over out seen _ running, List.length_append]
  simp only [Sight.bytesOf, if_true]
  omega

/-- The reader takes in some bytes, and hangs up if there is no space for more. -/
theorem advance_output (hosts : Hosts platform child out capacity deadline describes) {after : σ}
    {chunk : ByteArray} {rest : List UInt8} (accounts : Accounts bytes out capacity seen w)
    (attached : Attached out seen w) (open_ : w.attached = true) (nonempty : chunk.data.toList ≠ [])
    (first : w.piped = chunk.data.toList ++ rest) (described : describes after { w with piped := rest }) :
    ∃ w', Advance describes bytes out capacity seen (seen ++ [.output out chunk]) w w'
      (if streamOver out (seen ++ [.output out chunk]) then ((platform.hangUp child out).run after).2
        else after) := by
  have running : streamOver out seen = false := by rw [attached, open_]; rfl
  have next := accounts.output running first
  have progress := space_lt_of_output running nonempty
  cases done : streamOver out (seen ++ [.output out chunk]) with
  | true =>
      obtain ⟨w', further, described⟩ := hosts.hangUp after _ described
      refine ⟨_, described, (next.steps further).detach, done, ?_⟩
      obtain ⟨-, otherOpen, told⟩ := Writer.flags_of_steps further
      simp only [left, otherOpen, told, open_, Bool.toNat_false, Bool.toNat_true]
      omega
  | false =>
      refine ⟨_, described, next, ?_, ?_⟩
      · rw [Attached, done, open_]
        rfl
      · simp only [left]
        omega

theorem advance_ended {after : σ} (accounts : Accounts bytes out capacity seen w)
    (open_ : w.attached = true) (empty : w.piped = []) (gone : w.ending ≠ none)
    (described : describes after { w with attached := false }) :
    Advance describes bytes out capacity seen (seen ++ [.ended out]) w { w with attached := false }
      after where
  described := described
  accounts := accounts.ended open_ empty gone
  attached := by
    rw [Attached, streamOver_append_of_silent _ _ _ rfl]
    simp [Sight.ends]
  less := by
    simp only [left, brought_append_of_silent out seen (.ended out) rfl, open_, Bool.toNat_false,
      Bool.toNat_true]
    omega

theorem advance_otherEnded {after : σ} (accounts : Accounts bytes out capacity seen w)
    (attached : Attached out seen w) (open_ : w.otherOpen = true)
    (described : describes after { w with otherOpen := false }) :
    Advance describes bytes out capacity seen (seen ++ [.ended out.other]) w
      { w with otherOpen := false } after where
  described := described
  accounts := accounts.otherEnded
  attached := by
    rw [Attached, streamOver_append_of_silent _ _ _ rfl, attached]
    simp [Sight.ends]
  less := by
    simp only [left, brought_append_of_silent out seen (.ended out.other) rfl, open_,
      Bool.toNat_false, Bool.toNat_true]
    omega

theorem advance_collected {after : σ} {status : ExitStatus}
    (accounts : Accounts bytes out capacity seen w) (attached : Attached out seen w)
    (ended : w.ending = some status) (untold : w.told = false)
    (described : describes after { w with told := true }) :
    Advance describes bytes out capacity seen (seen ++ [.collected (.ok status)]) w
      { w with told := true } after where
  described := described
  accounts := accounts.collected ended
  attached := by
    rw [Attached, streamOver_append_of_silent _ _ _ rfl, attached]
    simp [Sight.ends]
  less := by
    simp only [left, brought_append_of_silent out seen (.collected (.ok status)) rfl, untold,
      Bool.not_false, Bool.not_true, Bool.toNat_false, Bool.toNat_true]
    omega

/-- **A look at the child brings the account on**, whatever it shows. -/
theorem advance_look (hosts : Hosts platform child out capacity deadline describes) {state : σ}
    (described : describes state w) (accounts : Accounts bytes out capacity seen w)
    (attached : Attached out seen w) (pending : w.Pending) :
    ∃ sight after w', (look platform child deadline seen).run (platform.clock.run state).2 =
        (sight, after) ∧
      Advance describes bytes out capacity seen (seen ++ [sight]) w w' after := by
  obtain ⟨w₁, w₂, steps, shows, described⟩ := hosts.await state w described pending
  unfold look
  rw [run_bind]
  generalize (platform.await child (some deadline)).run (platform.clock.run state).2 = answer
    at shows described ⊢
  obtain ⟨news, after⟩ := answer
  dsimp only at shows described ⊢
  -- What the child did since it was last seen changes neither the account nor what is left to see.
  replace accounts := accounts.steps steps
  replace attached : Attached out seen w₁ := by
    rw [Attached, (Writer.flags_of_steps steps).1]
    exact attached
  have same {sight : Sight} {w' : Writer} {after : σ}
      (advance : Advance describes bytes out capacity seen (seen ++ [sight]) w₁ w' after) :
      Advance describes bytes out capacity seen (seen ++ [sight]) w w' after :=
    { advance with less := left_of_steps steps ▸ advance.less }
  cases shows with
  | @output chunk rest open_ nonempty first =>
      obtain ⟨w', advance⟩ := advance_output hosts accounts attached open_ nonempty first described
      refine ⟨.output out chunk, _, w', ?_, same advance⟩
      dsimp only
      split <;> rfl
  | ended open_ empty gone =>
      exact ⟨_, _, _, rfl, same (advance_ended accounts open_ empty gone described)⟩
  | otherEnded open_ =>
      exact ⟨_, _, _, rfl, same (advance_otherEnded accounts attached open_ described)⟩
  | exited gone untold =>
      obtain ⟨status, ended⟩ := Option.ne_none_iff_exists'.mp gone
      obtain ⟨answer, described⟩ := hosts.collect after _ status described rfl ended
      refine ⟨.collected (.ok status), _, _, ?_,
        same (advance_collected accounts attached ended untold described)⟩
      rw [run_bind, answer]
      rfl

/-- The watch goes on until the run is over. -/
theorem accounts_watchFor (hosts : Hosts platform child out capacity deadline describes) (n : Nat)
    {state : σ} (described : describes state w) (accounts : Accounts bytes out capacity seen w)
    (attached : Attached out seen w) (enough : left out seen w ≤ n) :
    ∃ seen' w' final, (watchFor platform child deadline n seen).run state = (seen', final) ∧
      Accounts bytes out capacity seen' w' ∧ Attached out seen' w' ∧ concluded seen' = true := by
  -- Every look leaves less to be seen, so the looks do not run out before the child is done.
  induction n generalizing seen w state with
  | zero =>
      have nothing : ¬w.Pending := by
        simp only [left, Nat.le_zero, Nat.add_eq_zero_iff, Bool.toNat_eq_zero,
          Bool.not_eq_false'] at enough
        simp [Writer.Pending, enough]
      exact ⟨seen, w, state, rfl, accounts, attached, accounts.concluded_of_not_pending attached nothing⟩
  | succ n ih =>
      unfold watchFor
      by_cases done : concluded seen = true
      · rw [if_pos done]
        exact ⟨seen, w, state, rfl, accounts, attached, done⟩
      · have pending : w.Pending := by
          by_contra nothing
          exact done (accounts.concluded_of_not_pending attached nothing)
        have time : ¬deadline ≤ (platform.clock.run state).1 :=
          Nat.not_le.mpr (hosts.clock state w described pending)
        obtain ⟨sight, after, w', looked, advance⟩ :=
          advance_look hosts described accounts attached pending
        rw [if_neg done, run_bind, if_neg time, run_bind, looked]
        exact ih advance.described advance.accounts advance.attached
          (Nat.le_of_lt_succ (advance.less.trans_le enough))

end

/-! ## The result -/

/-- The exit code that a run reports for a child that ends with code 0 when it has written everything:
its own if it stays within the bound, and that of a killed one if it goes far beyond. -/
structure ReportedCode (bytes : List UInt8) (capacity : Nat) (code : Int) : Prop where
  whole : bytes.length ≤ maxOutputBytes → code = 0
  cut : maxOutputBytes + 2 * capacity < bytes.length → code = -1
  either : code = 0 ∨ code = -1

/-- The text of a stream beyond the bound is that of the bytes up to it. -/
def truncated (bytes : List UInt8) : String := decode ⟨(bytes.take maxOutputBytes).toArray⟩

/-- What is captured of a child that says something on one stream only. -/
def captured (out : Stream) (text : String) (exitCode : Int) : CapturedOutput :=
  match out with
  | .stdout => { stdout := text, stderr := "", exitCode }
  | .stderr => { stdout := "", stderr := text, exitCode }

namespace Accounts

/-- Of a stream that is over, everything up to the bound has been kept. -/
theorem said_eq (accounts : Accounts bytes out capacity seen w) (done : streamOver out seen = true) :
    said out seen = truncated bytes := by
  have first : (brought out seen).take maxOutputBytes = bytes.take maxOutputBytes := by
    rcases Bool.or_eq_true_iff.mp done with ended | full
    · rw [accounts.atEnd ended]
    · rw [← accounts.whole, List.append_assoc,
        List.take_append_of_le_length (of_decide_eq_true full)]
  rw [said, kept, first, truncated]

/-- A run that is over has an exit code as reported. -/
theorem reportedCode (accounts : Accounts bytes out capacity seen w) (attached : Attached out seen w)
    {status : ExitStatus} (ended : w.ending = some status) :
    ReportedCode bytes capacity (exitCodeOf status) := by
  have size := congrArg List.length accounts.whole
  have room := accounts.room
  rw [List.length_append, List.length_append] at size
  rcases accounts.ending status ended with ⟨rfl, done⟩ | ⟨rfl, closed, more⟩
  · rw [done, List.length_nil] at size
    exact ⟨fun _ => rfl, fun far => absurd far (by omega), Or.inl rfl⟩
  · have full : streamOver out seen = true := by rw [attached, closed]; rfl
    have more := List.length_pos_iff.mpr more
    have beyond : maxOutputBytes < bytes.length := by
      rcases Bool.or_eq_true_iff.mp full with atEnd | full
      · have all := congrArg List.length (accounts.atEnd atEnd)
        omega
      · have full := of_decide_eq_true full
        omega
    exact ⟨fun within => absurd within (by omega), fun _ => rfl, Or.inr rfl⟩

end Accounts

/-- What a run that is over gives, by the account of its child. -/
theorem Accounts.verdict_eq (accounts : Accounts bytes out capacity seen w)
    (attached : Attached out seen w) (done : concluded seen = true) (elapsedMs : Nat) :
    ∃ code, ReportedCode bytes capacity code ∧
      verdict seen elapsedMs = .ok (captured out (truncated bytes) code) := by
  have told : w.told = true := by
    by_contra untold
    exact outcome?_ne_none_of_concluded done (accounts.untold (by simpa using untold))
  obtain ⟨status, ended, collected⟩ := accounts.told told
  have text := accounts.said_eq (streamOver_of_concluded done collected out)
  have nothing : said out.other seen = "" := said_eq_empty_iff.mpr accounts.quiet
  refine ⟨exitCodeOf status, accounts.reportedCode attached ended, ?_⟩
  rw [verdict, done, collected]
  cases out <;> simp only [captured, text, Stream.other] at nothing ⊢ <;> rw [nothing]

/-- **A run of a child that writes.**  It gives the text up to the bound, whatever the child has to say,
but reports a failure when the child does not get rid of the rest. -/
theorem runProgram_of_writes {σ : Type} {platform : Platform σ} {program : OsText}
    {arguments : List OsText} {timeout : Duration} {state : σ}
    (writes : WritesInTime platform ⟨program, arguments, true⟩ timeout out bytes capacity state) :
    ∃ code, ReportedCode bytes capacity code ∧
      ((runProgram platform program arguments timeout).run state).1 =
        .ok (captured out (truncated bytes) code) := by
  obtain ⟨start, child, begun, after, describes, starts, described, hosts⟩ := writes
  have enough : left out [] { unwritten := bytes } ≤ collectBound := by
    show maxOutputBytes - 0 + 1 + 1 + 1 ≤ collectBound
    decide
  obtain ⟨seen, w, final, watched, accounts, attached, done⟩ :=
    accounts_watchFor hosts collectBound described Accounts.start rfl enough
  rw [run_runProgram_of_starts starts watched]
  exact accounts.verdict_eq attached done _

/-- The script of a call was written, and its interpreter writes the given bytes to one stream. -/
def ScriptCall.Writes {σ : Type} (call : ScriptCall σ) (out : Stream) (bytes : List UInt8)
    (capacity : Nat) : Prop :=
  call.timeoutSecs ≠ 0 ∧ ∃ script files, call.written = (.ok script, files) ∧
    WritesInTime call.platform (call.launch script) (.ofSecs call.timeoutSecs) out bytes capacity
      (files, call.rest)

/-- **A call whose script writes.**  What is left unwritten makes a good script a failed one. -/
theorem ScriptCall.after_of_writes {σ : Type} {call : ScriptCall σ}
    (writes : call.Writes .stdout bytes capacity) :
    ∃ code, ReportedCode bytes capacity code ∧
      call.after.1 = if code = 0 then .ok (truncated bytes) else .error (.executionFailed (-1) "") := by
  obtain ⟨time, script, files, made, writes⟩ := writes
  obtain ⟨code, reported, result⟩ := runProgram_of_writes writes
  refine ⟨code, reported, ?_⟩
  rw [after_of_written time made, ran, result]
  rcases reported.either with rfl | rfl <;> rfl

/-- **Output beyond the bound is cut, and may cost the child its life.**  The text is always that of the
bytes up to the bound.  As long as a child stays within the bound, its run is reported as it was: with
code 0, and for a script as its text.  A child that goes far beyond the bound is reported as failed. -/
theorem results_of_writes (bytes : List UInt8) (capacity : Nat) :
    (∀ {σ : Type} (platform : Platform σ) (program : OsText) (arguments : List OsText)
      (timeout : Duration) (out : Stream) (state : σ),
      WritesInTime platform ⟨program, arguments, true⟩ timeout out bytes capacity state →
      ∃ code, ReportedCode bytes capacity code ∧
        ((runProgram platform program arguments timeout).run state).1 =
          .ok (captured out (truncated bytes) code)) ∧
      ∀ {σ : Type} (call : ScriptCall σ), call.Writes .stdout bytes capacity →
        ∃ code, ReportedCode bytes capacity code ∧
          call.after.1 =
            if code = 0 then .ok (truncated bytes) else .error (.executionFailed (-1) "") :=
  ⟨fun _ _ _ _ _ _ writes => runProgram_of_writes writes, fun _ writes =>
    ScriptCall.after_of_writes writes⟩

/-- A call whose interpreter writes two letters. -/
def greeting : ScriptCall Writer := .plain (hosting FileTree .stdout 65536) { unwritten := [104, 105] }

theorem writes_greeting : greeting.Writes .stdout [104, 105] 65536 := by
  obtain ⟨script, files, written⟩ := ScriptCall.exists_written_plain greeting.platform greeting.rest
  exact ⟨by decide, script, files, written,
    writesInTime_hosting files _ (by decide) .stdout [104, 105] (by decide)⟩

/-- Two letters are far within the bound: they are the result of a run, and of a call. -/
theorem result_of_greeting :
    ((runProgram (hosting Unit .stderr 65536) (.ofString "greet") [] (.ofSecs 5)).run
        ((), { unwritten := [104, 105] })).1 = .ok (captured .stderr "hi" 0) ∧
      greeting.after.1 = .ok "hi" := by
  have text : truncated [104, 105] = "hi" := by decide
  obtain ⟨ofRun, ofCall⟩ := results_of_writes [104, 105] 65536
  constructor
  · obtain ⟨code, reported, result⟩ := ofRun (hosting Unit .stderr 65536) (.ofString "greet") []
      (.ofSecs 5) .stderr _ (writesInTime_hosting () _ (by decide) .stderr [104, 105] (by decide))
    rw [result, text, reported.whole (by decide)]
  · obtain ⟨code, reported, result⟩ := ofCall greeting writes_greeting
    rw [result, text, if_pos (reported.whole (by decide))]

/-- **A child that writes too much is reported as killed**, though it would have ended with code 0. -/
theorem long_output_fails :
    ∃ (bytes : List UInt8) (platform : Platform (Unit × Writer)) (state : Unit × Writer),
      WritesInTime platform ⟨.ofString "chatter", [], true⟩ (.ofSecs 5) .stdout bytes 65536 state ∧
        ((runProgram platform (.ofString "chatter") [] (.ofSecs 5)).run state).1 ≠
          .ok (captured .stdout (truncated bytes) 0) := by
  have writes : WritesInTime (hosting Unit .stdout 65536) ⟨.ofString "chatter", [], true⟩ (.ofSecs 5)
      .stdout (List.replicate (maxOutputBytes + 2 * 65536 + 1) 121) 65536 ((), { unwritten := _ }) :=
    writesInTime_hosting () _ (by decide) .stdout _ (by decide)
  refine ⟨_, _, _, writes, ?_⟩
  obtain ⟨code, reported, result⟩ := runProgram_of_writes writes
  have killed : code = -1 := by
    refine reported.cut ?_
    rw [List.length_replicate]
    exact Nat.lt_succ_self _
  rw [result, killed]
  intro same
  have codes : (-1 : Int) = 0 := congrArg CapturedOutput.exitCode (Except.ok.inj same)
  exact absurd codes (by decide)

end Overseer.Script
