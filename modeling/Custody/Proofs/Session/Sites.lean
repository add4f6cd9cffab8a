import Custody.Proofs.Session.Anchors
import Custody.Proofs.Session.Positions
import Custody.Proofs.Session.Sweep

/-!
# Where locations lie

A location that was read before tells what was recorded for it; another one is read against the
models that the library has at present.  What a location tells stays the same under every
operation that produces no models, whatever else is read meanwhile.
-/

namespace Custody

open Facade Watch

/-- What a location tells: the name of its file, the line, the column and the offset. -/
structure Site where
  /-- The name of the file, absent for the null location. -/
  name : Option String
  /-- The line. -/
  line : Nat
  /-- The column. -/
  column : Nat
  /-- The offset. -/
  offset : Nat
  deriving DecidableEq, Inhabited

/-- What a hash is made of that is taken of a location: the name of the file and the offset. -/
def Site.key (site : Site) : Option String × Nat := (site.name, site.offset)

namespace Library

namespace State

/-- The name of a file as text; it is empty for a file without a name. -/
def nameOf (state : State) (file : FileHandle) : String :=
  (Loan.mk (state.sourceFile file).name true).read

/-- What an expansion tells. -/
def siteOf (state : State) (found : NativeExpansion) : Site :=
  ⟨found.file.map state.nameOf, found.line, found.column, found.offset⟩

/-- What a location tells that is read now. -/
def site (state : State) (location : NativeLocation) : Site := state.siteOf (state.expand location)

variable {before after : State}

theorem nameOf_eq_of_script (script : after.script = before.script) :
    after.nameOf = before.nameOf := by
  funext file
  rw [State.nameOf, State.nameOf, sourceFile_eq_of_script script]

theorem siteOf_eq_of_script (script : after.script = before.script) (found : NativeExpansion) :
    after.siteOf found = before.siteOf found := by
  rw [State.siteOf, State.siteOf, nameOf_eq_of_script script]

theorem SameModels.site (same : before.SameModels after) (plain : before.IsPlain)
    (location : NativeLocation) : after.site location = before.site location := by
  rw [State.site, State.site, same.expand plain, siteOf_eq_of_script same.script]

end State

namespace Call

/-- While the library shows all strings, a string is read as it stands. -/
theorem lend_settle_fst {state : State} (shown : state.reply.hidden = []) (data : Option Bytes) :
    (Id.run (StateT.run (do settle (← lend data)) state)).1 = (Loan.mk data true).read := by
  have readable : (!state.reply.hidden.contains state.lent.length) = true := by
    rw [shown]
    rfl
  have settled : (Id.run (StateT.run (do settle (← lend data)) state)).1 =
      (Loan.mk data (!state.reply.hidden.contains state.lent.length)).read := by
    cases data <;> rfl
  rw [settled, readable]

theorem fileName_fst {state : State} (shown : state.reply.hidden = []) {file : FileHandle}
    (good : state.isGood file.origin = true) :
    (Id.run (StateT.run (do settle (← fileName file)) state)).1 = state.nameOf file := by
  have asked : Id.run (StateT.run (do settle (← fileName file)) state) =
      Id.run (StateT.run (do settle (← lend (state.sourceFile file).name)) state) := by
    unfold fileName
    rw [bind_assoc, (Answers.use good).run_bind, bind_assoc, Answers.get.run_bind]
  rw [asked, lend_settle_fst shown, State.nameOf]

/-- A location of something good is read as the library has it. -/
theorem expand_answers {state : State} {location : NativeLocation}
    (good : ∀ space, location.space = some space → state.isGood space = true) :
    Answers state (expansion location) (state.expand location) := by
  obtain ⟨space, position⟩ := location
  cases space with
  | none => exact .bind (.pure _) (.bind .get (.pure _))
  | some space => exact .useThen (good space rfl) (.bind .get (.pure _))

end Call

end Library

namespace Session

variable {before middle after : Session}

/-- What a location is expanded to: what was recorded, or else what the library finds now. -/
def found (session : Session) (location : Location) : Library.NativeExpansion :=
  match session.expansions.lookup location with
  | some expansion => expansion.native
  | none => session.library.expand location.native

theorem found_of_recorded {session : Session} {location : Location} {expansion : Expansion}
    (recorded : session.expansions.lookup location = some expansion) :
    session.found location = expansion.native := by rw [found, recorded]

theorem found_of_unread {session : Session} {location : Location}
    (unread : session.expansions.lookup location = none) :
    session.found location = session.library.expand location.native := by rw [found, unread]

/-- What a location tells. -/
def site (session : Session) (location : Location) : Site :=
  session.library.siteOf (session.found location)

/-- The models are the same, and whatever was recorded meanwhile is what the library finds. -/
structure Observes (before after : Session) : Prop where
  /-- The models are the same. -/
  models : before.library.SameModels after.library
  /-- What was recorded stays, and what was added is what the library finds. -/
  records : ∃ added, after.expansions = before.expansions ++ added ∧
    (before.library.IsPlain → ∀ entry ∈ added,
      entry.2.native = after.library.expand entry.1.native)

namespace Observes

theorem of_expansions (models : before.library.SameModels after.library)
    (expansions : after.expansions = before.expansions) : Observes before after :=
  ⟨models, [], by rw [expansions, List.append_nil], fun _ _ listed => nomatch listed⟩

protected theorem trans (first : Observes before middle) (rest : Observes middle after) :
    Observes before after where
  models := first.models.trans rest.models
  records := by
    obtain ⟨early, grown, told⟩ := first.records
    obtain ⟨late, grownToo, toldToo⟩ := rest.records
    refine ⟨early ++ late, by rw [grownToo, grown, List.append_assoc],
      fun plain entry listed => ?_⟩
    have plainToo := first.models.plain plain
    rcases List.mem_append.mp listed with listed | listed
    · rw [rest.models.expand plainToo]
      exact told plain entry listed
    · exact toldToo plainToo entry listed

instance : IsPreorder Session Observes where
  refl _ := of_expansions (.refl _) rfl
  trans _ _ _ := .trans

instance : Steady (Watch.of Observes) :=
  of_steady fun models expansions _ => of_expansions models expansions

instance : Recording (Watch.of Observes) where
  records := fun {_ _ expansion} told _ _ => by
    refine ⟨⟨.refl _, [(_, expansion)], rfl, fun _ entry listed => ?_⟩, True.intro⟩
    rw [List.mem_singleton.mp listed]
    exact told

instance : Revising (Watch.of Observes) where
  revises _ := ⟨of_expansions (.refl _) rfl, True.intro⟩

/-- What a location is expanded to stays the same. -/
theorem found (observes : Observes before after) (plain : before.library.IsPlain)
    (location : Location) : after.found location = before.found location := by
  obtain ⟨added, grown, told⟩ := observes.records
  unfold Session.found
  rw [grown, List.lookup_append]
  cases before.expansions.lookup location with
  | some expansion => rfl
  | none =>
      rw [Option.none_or]
      cases recorded : added.lookup location with
      | none => exact observes.models.expand plain _
      | some expansion =>
          obtain ⟨earlier, others, rfl, _⟩ := List.lookup_eq_some_iff.mp recorded
          have listed : (location, expansion) ∈ earlier ++ (location, expansion) :: others :=
            List.mem_append_right _ (List.mem_cons_self)
          exact (told plain _ listed).trans (observes.models.expand plain _)

/-- What was recorded stays. -/
theorem kept (observes : Observes before after) {location : Location} {expansion : Expansion}
    (recorded : before.expansions.lookup location = some expansion) :
    after.expansions.lookup location = some expansion := by
  obtain ⟨added, grown, _⟩ := observes.records
  rw [grown, List.lookup_append, recorded, Option.some_or]

/-- What a location tells stays the same. -/
theorem site (observes : Observes before after) (plain : before.library.IsPlain)
    (location : Location) : after.site location = before.site location := by
  rw [Session.site, Session.site, observes.found plain,
    Library.State.siteOf_eq_of_script observes.models.script]

end Observes

/-- A session that can be relied on: its holdings are valid, what was read belongs to its owner
and was issued, and the library has no models behind indexes and shows all strings. -/
structure IsReliable (session : Session) : Prop where
  /-- The holdings are valid. -/
  valid : session.holdings.Valid
  /-- What was read belongs to its owner. -/
  tidy : session.Tidy
  /-- Only issued locations were read. -/
  issued : session.Issued
  /-- No models stand behind indexes. -/
  plain : session.library.IsPlain
  /-- The library shows all strings. -/
  shown : session.library.reply.hidden = []

/-- A session is followed by another one that can be relied on, has the same holdings, and differs
in nothing that is told of locations. -/
structure Resumes (session later : Session) : Prop where
  /-- The later one can be relied on. -/
  reliable : later.IsReliable
  /-- The holdings are the same. -/
  same : later.holdings = session.holdings
  /-- What is told of locations is the same. -/
  observes : session.Observes later
  /-- No number is given out again. -/
  grown : session.nextSerial ≤ later.nextSerial

namespace Resumes

theorem refl {session : Session} (reliable : session.IsReliable) : session.Resumes session :=
  ⟨reliable, rfl, refl_of Observes session, Nat.le_refl _⟩

theorem trans (first : before.Resumes middle) (rest : middle.Resumes after) :
    before.Resumes after where
  reliable := rest.reliable
  same := rest.same.trans first.same
  observes := first.observes.trans rest.observes
  grown := first.grown.trans rest.grown

theorem made (resumes : before.Resumes after) : after.made = before.made :=
  congrArg Holdings.made resumes.same

theorem isOpen (resumes : before.Resumes after) (number : Nat) :
    after.estate.isOpen number = before.estate.isOpen number :=
  congrArg (fun holdings : Holdings => holdings.estate.isOpen number) resumes.same

end Resumes

end Session

namespace Facade

variable {α β : Type} {session : Session}

/-- An operation tells something, and nothing else comes of it. -/
def Tells (session : Session) (action : Facade α) (answer : α) : Prop :=
  ∃ later, action.outcome session = (.ok answer, later) ∧ session.Resumes later

namespace Tells

theorem pure (reliable : session.IsReliable) (answer : α) :
    Tells session (Pure.pure answer) answer := ⟨session, rfl, .refl reliable⟩

theorem after {action : Facade α} {next : α → Facade β} {middle : α} {later : Session} {answer : β}
    (asked : action.outcome session = (.ok middle, later)) (resumes : session.Resumes later)
    (rest : Tells later (next middle) answer) : Tells session (action >>= next) answer := by
  obtain ⟨last, askedToo, resumesToo⟩ := rest
  exact ⟨last, (outcome_bind_of_ok asked next).trans askedToo, resumes.trans resumesToo⟩

theorem bind {action : Facade α} {next : α → Facade β} {middle : α} {answer : β}
    (first : Tells session action middle)
    (rest : ∀ later, session.Resumes later → Tells later (next middle) answer) :
    Tells session (action >>= next) answer := by
  obtain ⟨later, asked, resumes⟩ := first
  exact after asked resumes (rest later resumes)

/-- An operation that only reads tells what it returns. -/
theorem of_reads {action : Facade α} {answer : α} {fits : α → Prop}
    (reliable : session.IsReliable)
    (reads : Reads session.holdings action fits)
    (numbers : Abides serials session action)
    (observes : Abides (Watch.of Session.Observes) session action)
    (answered : (action.outcome session).1 = .ok answer) : Tells session action answer := by
  obtain ⟨tidy, same, -⟩ := reads session rfl reliable.tidy
  obtain ⟨grown, issued, -⟩ := numbers.ends reliable.issued
  have observed : session.Observes (action.outcome session).2 := observes.leaves
  have reply : (action.outcome session).2.library.reply = session.library.reply :=
    congrArg (fun holdings : Holdings => holdings.books.reply) same
  refine ⟨(action.outcome session).2, Prod.ext answered rfl, ?_, same, observed, grown⟩
  exact ⟨same ▸ reliable.valid, tidy, issued, observed.models.plain reliable.plain,
    reply ▸ reliable.shown⟩

end Tells
end Facade

open Session

/-- A location can be read: its owner is open, it belongs to the owner, and it was issued. -/
structure Location.IsUsable (session : Session) (location : Location) : Prop where
  /-- The owner is open. -/
  opened : session.estate.isOpen location.owner = true
  /-- It belongs to the owner. -/
  anchored : location.Anchored session.made
  /-- It was issued. -/
  issued : location.Issued session.nextSerial

theorem Location.IsUsable.resumes {session later : Session} {location : Location}
    (usable : location.IsUsable session) (resumes : session.Resumes later) :
    location.IsUsable later where
  opened := (resumes.isOpen _).trans usable.opened
  anchored := resumes.made.symm ▸ usable.anchored
  issued := usable.issued.mono resumes.grown

variable {session : Session} (reliable : session.IsReliable)
include reliable

theorem File.name_tells {file : File} (anchored : file.Anchored session.made)
    (opened : session.estate.isOpen file.owner = true) :
    Tells session file.name (session.library.nameOf file.native) := by
  have good : session.library.isGood file.native.origin = true :=
    Session.isGood_of_held reliable.valid (reliable.valid.orderly.held_of_isOpen opened anchored)
  refine .of_reads reliable (name_reads reliable.valid anchored) file.name_abides
    file.name_abides ?_
  rw [name, outcome_bind_of_ok (ensureOpen_outcome_of_open opened)]
  exact congrArg Except.ok (Library.Call.fileName_fst reliable.shown good)

namespace Location

variable {location : Location} (usable : location.IsUsable session)
include usable

/-- A location that can be read is read, and what is found is kept. -/
theorem expansion_kept :
    ∃ expansion later, location.expansion.outcome session = (.ok expansion, later) ∧
      later.expansions.lookup location = some expansion := by
  unfold expansion
  rw [outcome_bind_of_ok (outcome_get session)]
  cases recorded : session.expansions.lookup location with
  | some expansion => exact ⟨expansion, session, rfl, recorded⟩
  | none =>
      have good (space : Handle) (present : location.native.space = some space) :
          session.library.isGood space = true :=
        Session.isGood_of_held reliable.valid
          (reliable.valid.orderly.held_of_isOpen usable.opened (usable.anchored space present))
      dsimp only
      rw [outcome_bind_of_ok (ensureOpen_outcome_of_open usable.opened),
        outcome_bind_of_ok (call_outcome_of_answers (Library.Call.expand_answers good))]
      obtain ⟨file, number, wrapped, -⟩ := wrapFile_outcome
        (session.library.expand location.native).file location.owner session
      rw [outcome_bind_of_ok wrapped]
      refine ⟨_, _, rfl, ?_⟩
      change (session.expansions ++ [(location, _)]).lookup location = some _
      rw [List.lookup_append, recorded, Option.none_or, List.lookup_cons_self]

/-- A location that can be read is expanded to what is known of it, and the file belongs to its
owner. -/
theorem expansion_tells :
    ∃ expansion, Tells session location.expansion expansion ∧
      expansion.native = session.found location ∧
      ∀ file, expansion.file = some file →
        file.Anchored session.made ∧ file.owner = location.owner := by
  obtain ⟨expansion, later, read, kept⟩ := expansion_kept reliable usable
  have tells : Tells session location.expansion expansion :=
    .of_reads reliable (expansion_reads reliable.valid usable.anchored)
      (expansion_abides usable.issued) (expansion_abides True.intro) (congrArg Prod.fst read)
  refine ⟨expansion, tells, ?_, ?_⟩
  all_goals
    obtain ⟨_, readToo, resumes⟩ := tells
    cases read.symm.trans readToo
  · rw [← resumes.observes.found reliable.plain, found_of_recorded kept]
  · intro file present
    obtain ⟨earlier, others, listed, -⟩ := List.lookup_eq_some_iff.mp kept
    have entry : (location, expansion) ∈ later.expansions := by simp [listed]
    obtain ⟨anchored, owned⟩ := resumes.reliable.tidy _ entry file present
    exact ⟨resumes.made ▸ anchored, owned⟩

theorem fileName?_tells : Tells session location.fileName? (session.site location).name := by
  obtain ⟨expansion, read, native, files⟩ := expansion_tells reliable usable
  refine read.bind fun later resumes => ?_
  have named : (session.site location).name = expansion.file.map fun file =>
      session.library.nameOf file.native := by
    rw [Session.site, Library.State.siteOf, ← native, Expansion.native, Option.map_map]
    rfl
  rw [named]
  cases present : expansion.file with
  | none => exact .pure resumes.reliable none
  | some file =>
      obtain ⟨anchored, owned⟩ := files file present
      have opened : later.estate.isOpen file.owner = true := by
        rw [owned, resumes.isOpen, usable.opened]
      rw [Option.map_some, ← Library.State.nameOf_eq_of_script resumes.observes.models.script]
      exact (File.name_tells resumes.reliable (resumes.made.symm ▸ anchored) opened).bind
        fun last further => .pure further.reliable _

theorem key_tells : Tells session location.key (session.site location).key := by
  refine (fileName?_tells reliable usable).bind fun later resumes => ?_
  obtain ⟨expansion, read, native, -⟩ :=
    expansion_tells resumes.reliable (usable.resumes resumes)
  refine read.bind fun last further => ?_
  have offset : expansion.offset = (session.site location).offset := by
    rw [← resumes.observes.site reliable.plain]
    exact congrArg Library.NativeExpansion.offset native
  rw [Site.key, offset]
  exact .pure further.reliable _

end Location

omit reliable in
/-- A location that was not read tells what the library has at present. -/
theorem Session.site_of_unread {location : Location}
    (unread : session.expansions.lookup location = none) :
    session.site location = session.library.site location.native := by
  rw [Session.site, found_of_unread unread, Library.State.site]

/-- After a number was given out, a session is as before. -/
theorem Session.resumes_numbering : session.Resumes session.numbering := by
  refine ⟨⟨reliable.valid, reliable.tidy, fun entry listed => ?_, reliable.plain,
    reliable.shown⟩, rfl,
    .of_expansions (.refl _) rfl, Nat.le_succ _⟩
  exact (reliable.issued entry listed).mono (Nat.le_succ _)

namespace Range

/-- A range can be read: its owner is open, and it belongs to the owner. -/
structure IsUsable (session : Session) (range : Range) : Prop where
  /-- The owner is open. -/
  opened : session.estate.isOpen range.owner = true
  /-- It belongs to the owner. -/
  anchored : range.Anchored session.made

omit reliable in
theorem IsUsable.resumes {later : Session} {range : Range} (usable : range.IsUsable session)
    (resumes : session.Resumes later) : range.IsUsable later where
  opened := (resumes.isOpen _).trans usable.opened
  anchored := resumes.made.symm ▸ usable.anchored

variable {range : Range} (usable : range.IsUsable session)
include usable

/-- The hash of a range is made of what the library has at present, whatever was read before. -/
theorem key_tells :
    Tells session range.key ((session.library.site range.native.start).key,
      (session.library.site range.native.finish).key) := by
  let start : Location := ⟨session.nextSerial, range.owner, range.native.start⟩
  let finish : Location := ⟨session.nextSerial + 1, range.owner, range.native.finish⟩
  have first := Session.resumes_numbering reliable
  have second := Session.resumes_numbering first.reliable
  have made : (range.start).outcome session = (.ok start, session.numbering) := rfl
  have madeToo : (range.finish).outcome session.numbering =
      (.ok finish, session.numbering.numbering) := rfl
  refine .after made first (.after madeToo second ?_)
  have numbered := second.reliable
  have begins : start.IsUsable session.numbering.numbering :=
    ⟨usable.opened, usable.anchored, Nat.lt_succ_of_lt (Nat.lt_succ_self _)⟩
  have ends : finish.IsUsable session.numbering.numbering :=
    ⟨usable.opened, usable.anchored, Nat.lt_succ_self _⟩
  have unread (location : Location) (new : session.nextSerial ≤ location.serial) :
      session.numbering.numbering.site location = session.library.site location.native :=
    Session.site_of_unread (reliable.issued.lookup_eq_none new)
  have keyed := Location.key_tells numbered begins
  rw [unread start (Nat.le_refl _)] at keyed
  refine keyed.bind fun later resumes => ?_
  have keyedToo := Location.key_tells resumes.reliable (ends.resumes resumes)
  rw [resumes.observes.site numbered.plain, unread finish (Nat.le_succ _)] at keyedToo
  exact keyedToo.bind fun last further => .pure further.reliable _

end Range

end Custody
