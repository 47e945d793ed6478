import DigestSync.Network.Packet
import DigestSync.Snapshot
import Std.Data.TreeMap.Basic

set_option autoImplicit false

/-! # Scripted answers

A script says how a simulated network answers interests.  Of its rules, the first
one that applies to an interest decides; an interest to which none applies is not
answered.  Rules may look at the name, at the number that it ends with, and at
how often this very name has been asked for.
-/

namespace DigestSync

/-- How a rule answers. -/
inductive ScriptedAnswer where
  /-- Not at all. -/
  | silence
  /-- With data of this content. -/
  | content (bytes : Bytes)
  /-- By a failure of the network. -/
  | failure
deriving DecidableEq, Repr, Inhabited

/-- A rule of a script.  A condition that is not given always holds. -/
structure ScriptRule where
  /-- The name begins with this one. -/
  under : Option Name
  /-- The number at the end of the name is this one or a higher one. -/
  lowest : Option Seq
  /-- The number at the end of the name is this one or a lower one. -/
  highest : Option Seq
  /-- The name is asked for this very time, counted from one. -/
  nth : Option Nat
  /-- The name is asked for this time or a later one. -/
  nthFrom : Option Nat
  /-- How long the answer takes. -/
  delay : Duration
  /-- How much longer it takes for every unit of the number at the end of the name,
  of which the last three digits count. -/
  perSeq : Duration
  answer : ScriptedAnswer
deriving Repr, Inhabited

namespace ScriptRule

/-- A condition that is not given, or holds. -/
def holds {α : Type} (condition : Option α) (test : α → Bool) : Bool :=
  match condition with
  | none => true
  | some value => test value

/-- The rule applies to a name that is asked for the given time. -/
def applies (rule : ScriptRule) (name : Name) (time : Nat) : Bool :=
  holds rule.under (·.isPrefixOf name) &&
  holds rule.lowest (fun low => name.lastNumber?.any (low ≤ ·)) &&
  holds rule.highest (fun high => name.lastNumber?.any (· ≤ high)) &&
  holds rule.nth (· == time) &&
  holds rule.nthFrom (· ≤ time)

/-- How long the answer to a name takes. -/
def delayFor (rule : ScriptRule) (name : Name) : Duration :=
  rule.delay + (name.lastNumber?.getD 0).toNat % 1000 * rule.perSeq

/-- When and with what content an interest is answered; an answer that would come
when the interest's time is over does not come. -/
def respond (rule : ScriptRule) (interest : Interest) : Duration × Option Bytes :=
  let delay := rule.delayFor interest.name
  match rule.answer with
  | .silence => (interest.lifetime, none)
  | .content bytes =>
    if delay < interest.lifetime then (delay, some bytes) else (interest.lifetime, none)
  | .failure => (min delay interest.lifetime, none)

end ScriptRule

/-- A script and how often each name has been asked for. -/
structure Script where
  rules : List ScriptRule
  asked : Std.TreeMap Name Nat
deriving Inhabited

namespace Script

/-- The script of some rules before any interest. -/
def start (rules : List ScriptRule) : Script := ⟨rules, ∅⟩

/-- After how long and with what content an interest is answered. -/
def respond (script : Script) (interest : Interest) : (Duration × Option Bytes) × Script :=
  let time := script.asked.getD interest.name 0 + 1
  let answer :=
    match script.rules.find? fun rule => rule.applies interest.name time with
    | none => (interest.lifetime, none)
    | some rule => rule.respond interest
  (answer, { script with asked := script.asked.insert interest.name time })

end Script

end DigestSync
