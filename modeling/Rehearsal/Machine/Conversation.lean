import Rehearsal.Machine.Program
import Rehearsal.Runner
import Rehearsal.Shell.Step

/-!
# A conversation on the machine

A session and the processes of a machine go on side by side. Whoever is due first has the next
turn: a process makes a step, the session takes the event that is there for it, or the session's
wait is over. Output is looked at before error output, and both before the input; only if nothing
is there has it been quiet.

The result is the events in order. The session is played without a limit on its echo, so the events
do not depend on the sink.
-/

namespace Rehearsal.Machine

open Shell (Text)

/-! ### The turn of a process -/

/-- The parents of processes that have ended get a signal. -/
def announceEnds (m : Machine) : Machine :=
  let parents := m.processes.filterMap fun p =>
    if p.ended.isSome && !p.announced then some p.parent else none
  if parents.isEmpty then m
  else
    let announce (p : Process) : Process :=
      let p := { p with announced := p.ended.isSome }
      if parents.contains p.id then p.signal m.now Signal.childEnded else p
    { m with processes := m.processes.map announce }

/-- Let everyone who waits look again, if something has changed. -/
def wakeAll (m : Machine) : Machine :=
  if !m.changed then m
  else
    let wake (p : Process) : Process :=
      if p.wakesAt.isNone && p.ended.isNone then { p with wakesAt := some (m.now + wakeDelay) }
      else p
    let m := m.announceEnds
    { m with processes := m.processes.map wake, changed := false }

/-- One step of what a process runs. -/
def Program.step : Program → Act (Program × Turn)
  | .shell i => i.step
  | .tool t => do
    let (t, turn) ← t.step
    return (.tool t, turn)

/-- A process after its turn, which took so many nanoseconds. -/
def Process.after (p : Process) (now cost : Nat) (program : Program) : Turn → Process
  | .goesOn => { p with program, wakesAt := some (now + cost) }
  | .waits => { p with program, wakesAt := none }
  | .sleeps n => { p with program, wakesAt := some (now + n) }
  | .ends status => { p with program, wakesAt := none, ended := some status }

/-- Give a process its turn. -/
def turnOf (m : Machine) (p : Process) : Machine :=
  let others := m.processes.filter (·.id != p.id)
  let ((program, turn), scope) := p.program.step ⟨{ m with processes := others }, p⟩
  let m := scope.machine
  let ended := match turn with
    | .ends _ => true
    | _ => false
  let p := scope.self.after m.now (stepCost m.steps m.moved) program turn
  wakeAll { m with
    processes := p :: m.processes
    changed := m.changed || ended
    moved := 0
    steps := m.steps + 1 }

/-- The process that is due first, and when. -/
def nextDue (m : Machine) : Option (Nat × Process) :=
  m.processes.foldl (fun best p =>
    match if p.stopped.isSome then none else p.wakesAt, best with
    | none, _ => best
    | some t, none => some (t, p)
    | some t, some (u, q) => if t < u || (t = u && p.id < q.id) then some (t, p) else best) none

/-! ### The turn of the session -/

/-- What a stream of the first process has for the session. -/
def takeOutput (m : Machine) (pipe : Nat) : Option (Option Bytes × Machine) :=
  let contents := m.pipe pipe
  if contents.isEmpty then
    if m.isHeldAmong m.processes true pipe then none else some (none, m)
  else
    let (data, rest) := contents.take readSize
    some (some data, { m.setPipe pipe rest with changed := true })

/-- Write to the input of the first process as much as it takes. -/
def offerInput (m : Machine) (chunk : Bytes) : Option (Event × Machine) :=
  if !m.isHeldAmong m.processes false 0 then some (.refused, m)
  else
    let pipe := m.pipe 0
    let room := pipe.room
    if room = 0 || (chunk.length ≤ atomicSize && room < chunk.length) then none
    else
      let portion := chunk.take room
      some (.accepted portion.length, { m.setPipe 0 (pipe.push portion) with changed := true })

/-- The event that is there for a session, if one is. -/
def nextEvent (m : Machine) (s : Session) : Option (Event × Machine) :=
  let output := if s.stdoutOpen then m.takeOutput 1 else none
  let errors := if s.stderrOpen then m.takeOutput 2 else none
  match output with
  | some (some data, m) => some (.output data, m)
  | some (none, m) => some (.outputEnd, m)
  | none =>
    match errors with
    | some (some data, m) => some (.errorOutput data, m)
    | some (none, m) => some (.errorEnd, m)
    | none => if s.cursor.hasPending then s.offerStaged m offerInput else none

/-! ### Both -/

/-- A conversation under way. -/
structure Conversation where
  machine : Machine
  session : Session
  comparator : Comparator
  /-- The events so far, newest first. -/
  events : List Event := []
  /-- When the session looks for an event, if it has a reason to. -/
  looksAt : Option Nat
  /-- When the session's wait is over; `none` if its end would change nothing. -/
  deadline : Option Nat
  /-- Is the session over? -/
  ended : Bool := false

namespace Conversation

/-- The nanoseconds that the session needs for an event. -/
def eventCost : Nat := 2000

/-- Does quiet leave a session as it is? -/
def ignoresQuiet (s : Session) : Bool :=
  s.stdoutOpen && s.stderrOpen &&
    (s.cursor.hasPending || (!s.cursor.diverged && s.cursor.inputClosed))

/-- When the wait of a session is over that begins now. -/
def deadlineOf (s : Session) (now : Nat) (wait : Duration) : Option Nat :=
  if ignoresQuiet s then none else some (now + max wait.nanoseconds eventCost)

/-- The session takes an event. -/
def take (r : Runner) (c : Conversation) (m : Machine) (e : Event) : Conversation :=
  let progress := c.session.step c.comparator e
  let session := progress.session
  let ended := match progress with
    | .running _ => false
    | _ => true
  let closed := m.inputHeld && !session.stdinOpen
  let m := wakeAll { m with inputHeld := session.stdinOpen, changed := m.changed || closed }
  { c with
    machine := m
    session
    events := e :: c.events
    looksAt := some (m.now + eventCost)
    deadline := deadlineOf session m.now r.timing.step
    ended }

/-- The session looks for an event; if its wait is over and there is none, it has been quiet. -/
def look (r : Runner) (c : Conversation) (waitIsOver : Bool) : Conversation :=
  match c.machine.nextEvent c.session with
  | some (e, m) => c.take r m e
  | none => if waitIsOver then c.take r c.machine .quiet else { c with looksAt := none }

/-- A process has its turn; if this leaves an event for the session, the session will look. -/
def letRun (c : Conversation) (p : Process) : Conversation :=
  let m := c.machine.turnOf p
  let looksAt := match c.looksAt with
    | some t => some t
    | none => if (m.nextEvent c.session).isSome then some (m.now + wakeDelay) else none
  { c with machine := m, looksAt }

/-- Set the clock. -/
def setClock (c : Conversation) (now : Nat) : Conversation :=
  { c with machine := { c.machine with now := max now c.machine.now } }

/-- The earlier of two times, of which either may never come. -/
def earlier : Option Nat → Option Nat → Option Nat
  | some a, some b => some (min a b)
  | none, b => b
  | a, none => a

/-- Go on until the session is over, time is up, or nothing will ever happen. -/
def run (r : Runner) : Nat → Conversation → Conversation
  | 0, c => c
  | fuel + 1, c =>
    if c.ended then c
    else
      let due := c.machine.nextDue
      let sessionAt := earlier c.looksAt c.deadline
      match earlier (due.map (·.1)) sessionAt with
      | none => c
      | some next =>
        let isUp : Bool := match r.timeLimit with
          | some limit => limit.nanoseconds < next
          | none => false
        if isUp then c
        else
          let c := c.setClock next
          match due.filter (·.1 = next) with
          | some (_, p) => run r fuel (c.letRun p)
          | none => run r fuel (c.look r (c.deadline.any (· ≤ next)))

/-- How many turns are waited for. -/
def patience : Nat := 50000000

/-- A machine with the three pipes of a session, and the process at their other ends. -/
def start (k : Comparator) (r : Runner) (t : Testcase) (files : FileTree) (cwd : Place)
    (program : Nat → Program) : Conversation :=
  let id := 100
  let machine : Machine := {
    files
    pipes := #[{}, {}, {}]
    handles := #[⟨.pipeEnd false 0, 0, false⟩, ⟨.pipeEnd true 1, 0, false⟩,
      ⟨.pipeEnd true 2, 0, false⟩]
    processes := [{
      id
      parent := 1
      descriptors := [(0, 0), (1, 1), (2, 2)]
      directory := cwd
      program := program id
      wakesAt := some birthDelay }]
    nextProcess := id + 1 }
  { machine
    comparator := k
    session := .start t.input t.expected {}
    looksAt := none
    deadline := some r.timing.warmup.nanoseconds }

end Conversation

end Rehearsal.Machine
