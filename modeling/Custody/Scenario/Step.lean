import Custody.Scenario.Query

/-!
# Steps of a scenario

A step names an operation of a session and what it is applied to.  Values that
earlier steps produced are known by names, and an item of a value by a name with
an index.
-/

namespace Custody
namespace Scenario

/-- What a step is applied to. -/
inductive Target where
  /-- A named value, or an item of an item of one; indices are read when they are used. -/
  | named (name : Text) (items : List Text)
  /-- Something that is no name. -/
  | unnamed
  deriving DecidableEq, Inhabited

/-- Reads a target: a name, and indices after number signs. -/
def Target.ofDatum : Datum → Target
  | .text written =>
      match written.splitOn '#' with
      | [] => .unnamed
      | name :: items => .named name items
  | _ => .unnamed

/-- An unsaved file for a call: given on the spot, or one that was made before. -/
inductive UnsavedSource where
  /-- A name and contents. -/
  | given (filename contents : Datum)
  /-- One that was made before. -/
  | made (target : Target)
  deriving Inhabited

/-- What a function of the caller does on a call. -/
inductive Reaction where
  /-- It answers. -/
  | answer (value : Datum)
  /-- It fails with some words. -/
  | fail (wording : Text)
  deriving Inhabited

/-- The outcome of a reaction. -/
def Reaction.outcome : Reaction → Except Failure Datum
  | .answer value => .ok value
  | .fail wording => .error (.hook wording)

/-- How the functions of a caller behave in an indexing run. -/
structure HookPlan where
  /-- The answers of the abort query, if there is one. -/
  queries : Option (List Reaction)
  /-- The stations with a hook, each with the number of the call at which it fails. -/
  hooks : List (Library.Station × Datum)
  deriving Inhabited

/-- How a unit is parsed. -/
structure Parsing where
  /-- The arguments, absent for those of the settings. -/
  arguments : Option Datum
  /-- The unsaved files. -/
  unsaved : List UnsavedSource
  /-- The options. -/
  options : Datum
  deriving Inhabited

/-- An operation. -/
inductive Operation where
  /-- Makes an index. -/
  | newIndex (excludeDeclarations displayDiagnostics : Bool)
  /-- Makes an indexing session. -/
  | newAction (index : Option Target)
  /-- Parses a file. -/
  | parseFile (index : Option Target) (filename : Datum) (parsing : Parsing)
  /-- Lets an index parse a file. -/
  | parseWith (index : Target) (filename : Datum) (parsing : Parsing)
  /-- Parses source in memory. -/
  | parseSource (index : Option Target) (source language : Datum) (parsing : Parsing)
  /-- Parses what a compile command compiles. -/
  | parseCommand (index : Option Target) (command : Target) (parsing : Parsing)
  /-- Loads a stored unit. -/
  | loadUnit (index : Option Target) (path : Datum)
  /-- Lets an index load a stored unit. -/
  | loadWith (index : Target) (path : Datum)
  /-- Makes a compile command. -/
  | newCommand (directory filename arguments : Datum)
  /-- Makes an unsaved file. -/
  | newUnsaved (filename contents : Datum)
  /-- Changes the settings. -/
  | configure (settings : Datum)
  /-- Parses a unit again. -/
  | reparse (unit : Target) (unsaved : List UnsavedSource) (options : Option Datum)
  /-- Saves a unit. -/
  | save (unit : Target) (path : Datum) (options : Option Datum)
  /-- Looks up a file of a unit. -/
  | file (unit : Target) (path : Datum)
  /-- Reports on several paths of a value. -/
  | describe (target : Target) (paths : List Path)
  /-- Reports on several paths of every item of a value. -/
  | describeEach (target : Target) (paths : List Path)
  /-- Follows one path. -/
  | follow (target : Target) (path : Path)
  /-- Assigns a part of a value. -/
  | assign (target : Target) (part : Text) (value : Datum)
  /-- Closes a holder. -/
  | close (target : Target)
  /-- Uses a holder for the length of a block, which may fail. -/
  | scoped (target : Target) (fails : Option Text)
  /-- Tells which named holders are closed. -/
  | closed
  /-- Compares two values. -/
  | equal (left right : Target)
  /-- Compares the hashes of two values. -/
  | hashEqual (left right : Target)
  /-- Tells whether two values are one object. -/
  | same (left right : Target)
  /-- Picks items of a sequence. -/
  | pick (target : Target) (choice : Datum)
  /-- The location of a line and column. -/
  | position (unit file : Target) (line column : Datum)
  /-- The location of an offset. -/
  | offset (unit file : Target) (offset : Datum)
  /-- The range between two locations. -/
  | range (start finish : Target)
  /-- The tokens of a unit, of a range of it, or of a cursor. -/
  | tokens (target : Target) (extent : Option Target)
  /-- Formats a diagnostic. -/
  | format (diagnostic : Target) (options : Option Datum)
  /-- Walks over a cursor and what is below it. -/
  | walk (cursor : Target) (paths : List Path)
  /-- Visits what is below a cursor or in a unit. -/
  | visit (target : Target) (script : List Reaction) (otherwise : Reaction) (paths : List Path)
  /-- Visits the inclusions of a unit. -/
  | visitInclusions (unit : Target) (failsAt : Datum)
  /-- Loads stored diagnostics. -/
  | loadDiagnostics (path : Datum)
  /-- Opens a database. -/
  | openDatabase (directory : Datum)
  /-- The commands of a database for a file. -/
  | commandsFor (database : Target) (filename : Datum)
  /-- Lets an indexing session index a unit, or a unit be indexed by a session. -/
  | indexUnit (receiver argument : Target) (plan : HookPlan) (options : Datum)
  /-- Delivers an event after the last indexing run. -/
  | lateEvent (event : Library.Event)
  /-- Asks whether to stop after the last indexing run. -/
  | lateQuery
  deriving Inhabited

/-- A step: an operation, how the library answers, and the name of the result. -/
structure Step where
  /-- The operation. -/
  operation : Operation
  /-- How the library answers. -/
  reply : Library.Reply
  /-- The name of the result. -/
  name : Option Text
  deriving Inhabited

end Scenario
end Custody
