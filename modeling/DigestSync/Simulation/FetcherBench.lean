import DigestSync.Fetch.Fetcher
import DigestSync.Simulation.Agenda
import DigestSync.Simulation.Event
import DigestSync.Simulation.Script

set_option autoImplicit false

/-! # A fetcher under a script

A single fetcher whose requests are answered by a script.  An attempt runs until
it ends, and the clock goes along with it.
-/

namespace DigestSync

/-- A fetcher, its surroundings and what has been seen, the latest first. -/
structure FetcherBench where
  now : Instant
  fetcher : Fetcher
  config : FetchConfig
  locators : LocatorTable
  script : Script
  events : List (Instant × Event)

namespace FetcherBench

/-- The answers of the script that are on their way. -/
abbrev Answers := Agenda (Seq × Option Bytes)

/-- A fetcher before its first attempt. -/
def start (task : FetchTask) (hint : ForwardingHint) (config : FetchConfig)
    (locators : LocatorTable) (rules : List ScriptRule) : FetcherBench :=
  ⟨0, Fetcher.start task hint config.maxRetryPause 0, config, locators, Script.start rules, []⟩

/-- Take note of an event. -/
def note (bench : FetcherBench) (event : Event) : FetcherBench :=
  { bench with events := (bench.now, event) :: bench.events }

/-- Carry out what the fetcher calls for. -/
def perform (bench : FetcherBench) (answers : Answers) :
    FetchAction → FetcherBench × Answers
  | .request seq interest =>
    let ((delay, content), script) := bench.script.respond interest
    ({ bench.note (.asked interest) with script },
      answers.insert (bench.now + delay) (seq, content))
  | .deliver task seq content => (bench.note (.segment task seq content), answers)
  | .finish task => (bench.note (.finish task), answers)

/-- Take over the outcome of a step. -/
def accept (bench : FetcherBench) (answers : Answers) (turn : FetchTurn) :
    FetcherBench × Answers :=
  turn.actions.foldl (fun (bench, answers) action => bench.perform answers action)
    ({ bench with fetcher := turn.fetcher }, answers)

/-- Go on with an attempt after a step until it ends; answers that are then on
their way are lost. -/
def proceed : Nat → FetcherBench → Answers → FetchTurn → Attempt × FetcherBench
  | 0, bench, _, _ => (.failed, bench)
  | fuel + 1, bench, answers, turn =>
    let (bench, answers) := bench.accept answers turn
    match turn.ending with
    | some ending => (ending, bench)
    | none =>
      match answers.first? with
      | none => (.failed, bench)
      | some (due, (seq, content), rest) =>
        let bench := { bench with now := max bench.now due }
        proceed fuel bench rest
          (bench.fetcher.receive bench.config turn.window bench.now seq content)

/-- Run an attempt to its end. -/
def run (bench : FetcherBench) : Attempt × FetcherBench :=
  proceed stepLimit bench .empty (bench.fetcher.begin bench.config)

/-- Back off after a failed attempt, and return the pause. -/
def fail (bench : FetcherBench) : Duration × FetcherBench :=
  let fetcher := bench.fetcher.failAttempt bench.locators.resolve bench.now
  (fetcher.pause.current, { bench with fetcher })

/-- Let time go by. -/
def sleep (bench : FetcherBench) (span : Duration) : FetcherBench :=
  { bench with now := bench.now + span }

/-- Learn the place of a device. -/
def locate (bench : FetcherBench) (device : DeviceId) (place : Name) : FetcherBench :=
  { bench with locators := bench.locators.insert device place }

end FetcherBench

end DigestSync
