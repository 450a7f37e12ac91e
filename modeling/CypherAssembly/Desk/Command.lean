import CypherAssembly.Desk

/-
  Commands to a desk.

  Key definitions include:
    * `Request`
    * `Command`
    * `Desk.ask`
    * `Desk.execute`
    * `Desk.build`
    * `Desk.after`
    * `Desk.run`
    * `Desk.query`
    * `Desk.finalText`

  Key theorems include:
    * `Desk.execute_fst`
    * `Desk.query_eq`
    * `Desk.build_fst`
    * `Desk.run_append`

  A command is addressed to one builder.  It asks the builder
  to add something to its query, or it wants the query.  What
  happens on a desk is a list of commands, carried out one
  after the other, and each of them meets the desk in the
  state that the commands before it left.
-/

------------------------------------------------------------
-- Commands
------------------------------------------------------------

namespace CypherAssembly

/-
  What a builder can be asked for: a clause, which may have
  been refused before it was there, or another builder's
  query inside its own.
-/
inductive Request where
  | add (clause : Except Refusal Clause)
  | embed (inner : String)

/- What somebody at the desk can want of a builder. -/
inductive Command where
  | ask (name : String) (request : Request)
  | execute (name : String)
  | build (name : String)

/- The builder that a command is addressed to. -/
def Command.subject : Command → String
  | ask name _ => name
  | execute name => name
  | build name => name

end CypherAssembly

------------------------------------------------------------
-- Carrying Commands Out
------------------------------------------------------------

namespace CypherAssembly

namespace Desk

/- A desk that nobody has worked at. -/
def fresh : Desk :=
  {}

/- Do what a builder is asked for. -/
def ask
    (d : Desk)
    (name : String) : Request → Desk × Contribution
  | .add (.ok c) => d.add name c
  | .add (.error r) => (d, .refused r)
  | .embed inner => d.embed name inner

/- Finish a query and hand it out with its bundled faults. -/
def execute
    (d : Desk)
    (name : String) : Desk × String × Option Fault :=
  let d := d.finish name
  let b := d.builder name
  (d, b.text, b.fault?)

/- Finish a query and hand it out if there are no faults. -/
def build
    (d : Desk)
    (name : String) : Desk × Except Fault String :=
  match d.execute name with
  | (d, text, none) => (d, .ok text)
  | (d, _, some fault) => (d, .error fault)

/- The desk after a command. -/
def after
    (d : Desk) : Command → Desk
  | .ask name request => (d.ask name request).1
  | .execute name => (d.execute name).1
  | .build name => (d.build name).1

/- The desk after several commands. -/
def run
    (d : Desk)
    (commands : List Command) : Desk :=
  commands.foldl after d

/- What finishing a query hands out, now or later. -/
def query
    (d : Desk)
    (name : String) : String × Option Fault :=
  (d.execute name).2

/- The text that finishing a query hands out. -/
def finalText
    (d : Desk)
    (name : String) : String :=
  (d.query name).1

end Desk

end CypherAssembly

------------------------------------------------------------
-- Laws of Commands
------------------------------------------------------------

namespace CypherAssembly

namespace Desk

/- Executing a query leaves the desk as finishing does. -/
@[simp] theorem execute_fst
    (d : Desk)
    (name : String) :
    (d.execute name).1 = d.finish name := rfl

/- Building a query leaves the desk as finishing does. -/
@[simp] theorem build_fst
    (d : Desk)
    (name : String) :
    (d.build name).1 = d.finish name := by
  rw [← execute_fst]
  unfold build
  split <;> simp_all

/- Whoever wants a query has it finished. -/
@[simp] theorem after_execute
    (d : Desk)
    (name : String) :
    d.after (.execute name) = d.finish name := rfl

/- So does whoever wants it without faults. -/
@[simp] theorem after_build
    (d : Desk)
    (name : String) :
    d.after (.build name) = d.finish name :=
  build_fst d name

/- What is handed out is text and faults of the builder. -/
theorem query_eq
    (d : Desk)
    (name : String) :
    d.query name =
      ((d.builder name).finish.text,
        (d.builder name).fault?) := by
  have hFaults :
      (d.builder name).finish.faults =
        (d.builder name).faults := by
    unfold Builder.finish
    split <;> rfl
  simp [query, execute, builder_finish_self,
    Builder.fault?, hFaults]

/- The text handed out is that of the finished builder. -/
theorem finalText_eq
    (d : Desk)
    (name : String) :
    d.finalText name = (d.builder name).finish.text := by
  rw [finalText, query_eq]

/- A run starts with its first command. -/
theorem run_cons
    (d : Desk)
    (c : Command)
    (rest : List Command) :
    d.run (c :: rest) = (d.after c).run rest := rfl

/- Runs are carried out piece by piece. -/
theorem run_append
    (d : Desk)
    (first second : List Command) :
    d.run (first ++ second) = (d.run first).run second := by
  simp [run]

end Desk

end CypherAssembly
