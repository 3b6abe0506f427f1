import FirmwareBench.Pattern.Basic
import Std.Data.HashSet.Basic
set_option autoImplicit false

/-!
# Matching

A thread is a place in the text together with the groups closed on the way to it. A pattern takes a
list of threads, in falling preference, to the list of threads after it. Two threads at one place
go on alike, so that only the preferred one is kept; this keeps the lists no longer than the text.

The match of a pattern starts at the leftmost place where there is one, and of the matches there it
is the preferred one.

## Main definitions

* `Thread`: a place and the groups closed so far.
* `Pattern.run`: the threads after a pattern, in falling preference.
* `Pattern.search?`: the leftmost preferred match.
-/

namespace FirmwareBench

/-- A place reached on the way through a pattern. -/
structure Thread where
  place : Cursor
  /-- Where the groups that are still open started, innermost first. -/
  opened : List Nat
  /-- Start and end of the groups closed so far, last one first. -/
  closed : List (Nat × Nat × Nat)

namespace Thread

/-- The thread at a place before anything was matched. -/
def at' (place : Cursor) : Thread := ⟨place, [], []⟩

def advance? (t : Thread) (set : CharSet) : Option Thread :=
  (t.place.advance? set).map fun place => { t with place := place }

def openGroup (t : Thread) : Thread := { t with opened := t.place.index :: t.opened }

def closeGroup (index : Nat) (t : Thread) : Thread :=
  match t.opened with
  | [] => t
  | first :: opened => ⟨t.place, opened, (index, first, t.place.index) :: t.closed⟩

/-- Start and end of a group. -/
def span? (t : Thread) (index : Nat) : Option (Nat × Nat) :=
  (t.closed.find? (·.1 == index)).map Prod.snd

/-- The threads with the first one of each place only, where `seen` holds places to leave out. -/
def distinctFrom (seen : Std.HashSet Nat) : List Thread → List Thread
  | [] => []
  | t :: rest =>
    if seen.contains t.place.index then distinctFrom seen rest
    else t :: distinctFrom (seen.insert t.place.index) rest

def distinct : List Thread → List Thread
  | [] => []
  | [t] => [t]
  | threads => distinctFrom ∅ threads

/-- The threads after up to `limit` further characters of a set, most characters first. -/
def runOf (set : CharSet) : Nat → Thread → List Thread
  | 0, t => [t]
  | limit + 1, t =>
    match t.advance? set with
    | none => [t]
    | some next => runOf set limit next ++ [t]

/-- The threads after `low` to `high?` characters of a set. -/
def spanOf (set : CharSet) (low : Nat) (high? : Option Nat) (greedy : Bool) (t : Thread) :
    List Thread :=
  let limit := high?.getD t.place.rest.length
  let longest := runOf set limit t
  let kept := longest.take (longest.length - low)
  if greedy then kept else kept.reverse

end Thread

namespace Pattern

/-- The rounds of a repetition that were entered: rounds left to go, if they are counted, and the
place. -/
abbrev Entered := Std.HashSet (Nat × Nat)

/-- The threads after one or more further rounds from `t`, and the rounds entered so far. A round is
entered once at each place. Where rounds are not counted, a round that matches the empty text is
not followed by another one. The first argument bounds the rounds. -/
def further (body : Thread → List Thread) (counted greedy : Bool) :
    Nat → Thread → Entered → List Thread × Entered
  | 0, _, entered => ([], entered)
  | left + 1, t, entered =>
    (body t).foldl
      (fun (found, entered) next =>
        let key := (if counted then left else 0, next.place.index)
        if entered.contains key then (found, entered)
        else
          let entered := entered.insert key
          if !counted && next.place.index == t.place.index then (found ++ [next], entered)
          else
            let (later, entered) := further body counted greedy left next entered
            (found ++ (if greedy then later ++ [next] else next :: later), entered))
      ([], entered)

/-- The threads after further rounds from each of several threads; with `optional` there may be no
further round at all. -/
def furtherAll (body : Thread → List Thread) (counted greedy optional : Bool)
    (bound : Thread → Nat) (threads : List Thread) : List Thread :=
  let (found, _) := threads.foldl
    (fun (found, entered) t =>
      let (later, entered) := further body counted greedy (bound t) t entered
      let ends := if !optional then later else if greedy then later ++ [t] else t :: later
      (found ++ ends, entered))
    (([], ∅) : List Thread × Entered)
  Thread.distinct found

/-- The threads after exactly `count` rounds. -/
def exactly (body : List Thread → List Thread) : Nat → List Thread → List Thread
  | 0, threads => threads
  | _ + 1, [] => []
  | count + 1, threads => exactly body count (body threads)

def runRounds (body : List Thread → List Thread) (low : Nat) (high? : Option Nat) (greedy : Bool)
    (threads : List Thread) : List Thread :=
  let single := fun t => body [t]
  match high? with
  | some high =>
    furtherAll single true greedy true (fun _ => high - low) (exactly body low threads)
  | none =>
    furtherAll single false greedy (low == 0) (fun t => t.place.rest.length + 1)
      (exactly body (low - 1) threads)

/-- The threads after a pattern, in falling preference. -/
def run : Pattern → List Thread → List Thread
  | empty, threads => threads
  | set s, threads => threads.filterMap (·.advance? s)
  | look l, threads => threads.filter fun t => l.holds t.place
  | group index body, threads =>
    (body.run (threads.map Thread.openGroup)).map (Thread.closeGroup index)
  | seq first second, threads => second.run (first.run threads)
  | alt first second, threads =>
    Thread.distinct (threads.flatMap fun t => first.run [t] ++ second.run [t])
  | rounds low high? greedy (set s), threads =>
    Thread.distinct (threads.flatMap (Thread.spanOf s low high? greedy))
  | rounds low high? greedy body, threads => runRounds body.run low high? greedy threads

/-- The preferred match that starts at a place. -/
def matchAt? (p : Pattern) (place : Cursor) : Option Thread := (p.run [.at' place]).head?

/-- The preferred match that starts at the leftmost place from `index` on. -/
def searchFrom? (p : Pattern) (index : Nat) (before? : Option Char) : List Char → Option Thread
  | [] => p.matchAt? ⟨index, before?, []⟩
  | c :: rest =>
    match p.matchAt? ⟨index, before?, c :: rest⟩ with
    | some t => some t
    | none => searchFrom? p (index + 1) (some c) rest

/-- The leftmost preferred match in a text. -/
def search? (p : Pattern) (text : List Char) : Option Thread := searchFrom? p 0 none text

end Pattern

end FirmwareBench
