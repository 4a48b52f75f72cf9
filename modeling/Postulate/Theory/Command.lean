import Postulate.Theory.Basic

/-!
# Commands

Everything that changes a theory, as data: registrations, work on a single hypothesis, and
evaluations. A run is a list of commands, taken one after the other whether they succeed or not.
-/

namespace Postulate

/-- Something done with a single hypothesis. -/
inductive HypothesisCommand where
  | suppose (builder : Builder)
  | evaluate

/-- Something done with a theory. -/
inductive Command where
  | add (name : Option String)
  | suppose (name : Option String) (builder : Builder)
  /-- Work on the hypothesis at a position, as the one just registered. -/
  | direct (index : Nat) (command : HypothesisCommand)
  /-- Work on the hypothesis with a name. -/
  | named (name : String) (command : HypothesisCommand)
  | evaluate
  | report

/-- What a command that succeeds answers. -/
inductive Reply where
  /-- The position of the new hypothesis. -/
  | registered (index : Nat)
  /-- The hypothesis has got its chain. -/
  | supposed
  | verdict (passed : Bool)
  | report (report : Report)
  /-- There is no such hypothesis. -/
  | absent

/-- Carries out a command on a hypothesis. -/
def Hypothesis.perform (h : Hypothesis) (command : HypothesisCommand) (journal : Journal) :
    Except TheoryError Reply × Hypothesis × Journal :=
  match command with
  | .suppose builder =>
    match h.suppose builder journal with
    | (.ok h, journal) => (.ok .supposed, h, journal)
    | (.error e, journal) => (.error e, h, journal)
  | .evaluate =>
    let (result, h, journal) := h.evaluate journal
    (result.map .verdict, h, journal)

namespace Theory

/-- Carries out a command on the hypothesis at a position. -/
def direct (t : Theory) (index : Nat) (command : HypothesisCommand) (journal : Journal) :
    Except TheoryError Reply × Theory × Journal :=
  match t.hypotheses[index]? with
  | none => (.ok .absent, t, journal)
  | some h =>
    let (result, h, journal) := h.perform command journal
    (result, { t with hypotheses := t.hypotheses.set index h }, journal)

/-- Carries out a command. -/
def perform (t : Theory) (command : Command) (journal : Journal) :
    Except TheoryError Reply × Theory × Journal :=
  match command with
  | .add name =>
    let (result, t) := t.add name
    (result.map .registered, t, journal)
  | .suppose name builder =>
    let (result, t, journal) := t.suppose name builder journal
    (result.map .registered, t, journal)
  | .direct index command => t.direct index command journal
  | .named name command =>
    match t.locate name with
    | none => (.ok .absent, t, journal)
    | some (index, _) => t.direct index command journal
  | .evaluate =>
    let (result, t, journal) := t.evaluate journal
    (result.map .verdict, t, journal)
  | .report =>
    let (result, t, journal) := t.report journal
    (result.map .report, t, journal)

/-- Carries out a list of commands and collects what they answer. -/
def run : List Command → Theory → Journal → List (Except TheoryError Reply) × Theory × Journal
  | [], t, journal => ([], t, journal)
  | command :: commands, t, journal =>
    let (result, t, journal) := t.perform command journal
    let (results, t, journal) := run commands t journal
    (result :: results, t, journal)

end Theory

end Postulate
