/-!
# Signals

## Main definitions

* `signalNames` — the signals and their names
* `DefaultAction`, `defaultAction` — what a signal does to a process that has not said otherwise
* `Disposition` — what a process has said
* `signalText` — what a shell says about a process that a signal has ended
-/

namespace Overseer.Host

/-- A signal, by its number. -/
abbrev Signal := Nat

namespace Signal

/-- A request to stop, as from a keyboard. -/
def interrupt : Signal := 2

/-- The signal that no process can resist. -/
def kill : Signal := 9

/-- Writing to a pipe that nobody reads. -/
def pipe : Signal := 13

/-- The usual request to end. -/
def term : Signal := 15

/-- The end of a child. -/
def child : Signal := 17

/-- A stopped process goes on. -/
def cont : Signal := 18

/-- The signal that stops a process without appeal. -/
def stop : Signal := 19

end Signal

/-- The signals that mean nothing by themselves, by their names. -/
def realTimeNames : List (String × Signal) :=
  ("RTMIN", 34) :: (List.range 15).map (fun n => ("RTMIN+" ++ toString (n + 1), 35 + n)) ++
    (List.range 14).map (fun n => ("RTMAX-" ++ toString (14 - n), 50 + n)) ++ [("RTMAX", 64)]

/-- The signals by their names. -/
def signalNames : List (String × Signal) := [
  ("HUP", 1), ("INT", 2), ("QUIT", 3), ("ILL", 4), ("TRAP", 5), ("ABRT", 6), ("BUS", 7), ("FPE", 8),
  ("KILL", 9), ("USR1", 10), ("SEGV", 11), ("USR2", 12), ("PIPE", 13), ("ALRM", 14), ("TERM", 15),
  ("STKFLT", 16), ("CHLD", 17), ("CONT", 18), ("STOP", 19), ("TSTP", 20), ("TTIN", 21),
  ("TTOU", 22),
  ("URG", 23), ("XCPU", 24), ("XFSZ", 25), ("VTALRM", 26), ("PROF", 27), ("WINCH", 28), ("IO", 29),
  ("PWR", 30), ("SYS", 31)] ++ realTimeNames

/-- The number of the last signal. -/
def maxSignal : Nat := 64

/-- The signal of a name, with or without the usual three letters before it. -/
def signalOfName? (name : String) : Option Signal :=
  let upper := String.ofList (name.toList.map Char.toUpper)
  let short := if upper.startsWith "SIG" then String.ofList (upper.toList.drop 3) else upper
  signalNames.lookup short

/-- The name of a signal. -/
def signalName (signal : Signal) : String :=
  ((signalNames.find? (·.2 == signal)).map (·.1)).getD (toString signal)

/-- What a signal does to a process that has not said otherwise. -/
inductive DefaultAction where
  | terminate | ignore | stop | resume
  deriving DecidableEq, Repr

/-- What a signal does to a process that has not said otherwise. -/
def defaultAction (signal : Signal) : DefaultAction :=
  if [17, 23, 28].contains signal then .ignore
  else if signal = Signal.cont then .resume
  else if [19, 20, 21, 22].contains signal then .stop
  else .terminate

/-- What a process has said about a signal. -/
inductive Disposition where
  /-- the usual thing happens -/
  | standard
  /-- nothing happens -/
  | ignored
  /-- the process is told -/
  | caught
  deriving DecidableEq, Repr, Inhabited

/-- What the system calls a process that a signal has ended. -/
def signalText (signal : Signal) : String :=
  (["", "Hangup", "Interrupt", "Quit", "Illegal instruction", "Trace/breakpoint trap", "Aborted",
    "Bus error", "Floating point exception", "Killed", "User defined signal 1",
    "Segmentation fault", "User defined signal 2", "Broken pipe", "Alarm clock", "Terminated",
    "Stack fault", "Child exited", "Continued", "Stopped (signal)", "Stopped",
    "Stopped (tty input)", "Stopped (tty output)", "Urgent I/O condition",
    "CPU time limit exceeded", "File size limit exceeded", "Virtual timer expired",
    "Profiling timer expired", "Window changed", "I/O possible", "Power failure",
    "Bad system call"])[signal]?.getD ("Real-time signal " ++ toString (signal - 34))

/-- How a process of the host ended. -/
inductive Ending where
  /-- with an exit code below 256 -/
  | exited (code : Nat)
  /-- by a signal -/
  | killed (signal : Signal)
  deriving DecidableEq, Repr, Inhabited

end Overseer.Host
